import DoubleEntry.Number

/-!
Decimals with a 96-bit mantissa and, as a rule, at most 28 digits after the point. Only a number
that is widened with zeros may have more of them, at most twice as many. One value has several
representations, which differ in their trailing zeros; `units` reads the value in multiples of
10⁻⁵⁶, and every comparison goes through it.
-/

namespace DoubleEntry

/-- A sign, a mantissa, and how many of its digits stand after the point. -/
structure Decimal where
  negative : Bool
  mantissa : Nat
  scale : Nat
  mantissa_lt : mantissa < pow2 96
  scale_le : scale ≤ 56
  deriving DecidableEq

namespace Decimal

/-- The decimal with these parts, if the mantissa and the scale are in range. -/
def ofParts? (negative : Bool) (mantissa scale : Nat) : Option Decimal :=
  if h : mantissa < pow2 96 ∧ scale ≤ 56 then some ⟨negative, mantissa, scale, h.1, h.2⟩ else none

/-- Digits after the point that reading and rounding keep at most. -/
def roundingScale : Nat := 28

def zero : Decimal := ⟨false, 0, 0, by decide, by decide⟩

instance : Inhabited Decimal := ⟨zero⟩

/-- A number below 2³² without fraction digits. -/
def ofSmall (n : Nat) (h : n < pow2 32) : Decimal :=
  ⟨false, n, 0, Nat.lt_trans h (by decide), by decide⟩

def isZero (d : Decimal) : Bool := d.mantissa == 0

/-- The mantissa with its sign, written with `scale` digits after the point. Exact for every
`scale` that is not below the decimal's own. -/
def mantissaAt (d : Decimal) (scale : Nat) : Int :=
  let magnitude := d.mantissa * pow10 (scale - d.scale)
  if d.negative then -magnitude else magnitude

/-- The exact value in multiples of 10⁻⁵⁶. -/
def units (d : Decimal) : Int := d.mantissaAt 56

instance : LT Decimal := ⟨fun a b => a.units < b.units⟩

instance : LE Decimal := ⟨fun a b => a.units ≤ b.units⟩

instance (a b : Decimal) : Decidable (a < b) := inferInstanceAs (Decidable (a.units < b.units))

instance (a b : Decimal) : Decidable (a ≤ b) := inferInstanceAs (Decidable (a.units ≤ b.units))

/-- Flips the sign, also that of zero. -/
instance : Neg Decimal := ⟨fun d => { d with negative := !d.negative }⟩

def abs (d : Decimal) : Decimal := { d with negative := false }

/-- Removes trailing zeros of a mantissa while there are digits after the point. -/
def trimZeros : Nat → Nat → Nat × Nat
  | mantissa, 0 => (mantissa, 0)
  | mantissa, scale + 1 =>
      if mantissa % 10 = 0 then trimZeros (mantissa / 10) scale else (mantissa, scale + 1)

/-- The fewest digits after the point that keep the value. -/
def trimmedScale (d : Decimal) : Nat := (trimZeros d.mantissa d.scale).2

/-- Digits after the point that a stored amount keeps. -/
def amountScale : Nat := 8

/-- Digits before the point that a stored amount keeps. -/
def amountIntegerDigits : Nat := 12

/-- The bound that the magnitude of a stored amount stays below. -/
def amountLimit : Decimal := ⟨false, pow10 amountIntegerDigits, 0, by decide, by decide⟩

/-- A stored amount keeps this value exactly. -/
def FitsColumn (d : Decimal) : Prop := d.trimmedScale ≤ amountScale ∧ d.abs < amountLimit

instance (d : Decimal) : Decidable d.FitsColumn := inferInstanceAs (Decidable (_ ∧ _))

theorem units_zero : zero.units = 0 := by decide

theorem units_eq_zero_iff (d : Decimal) : d.units = 0 ↔ d.isZero = true := by
  have h : pow10 (56 - d.scale) ≠ 0 := Nat.ne_of_gt (pow10_pos _)
  have hz : d.mantissa * pow10 (56 - d.scale) = 0 ↔ d.mantissa = 0 := by
    rw [Nat.mul_eq_zero]
    exact or_iff_left h
  cases hn : d.negative <;>
    simp only [units, mantissaAt, isZero, hn, Bool.false_eq_true, if_false, if_true, beq_iff_eq,
      Int.neg_eq_zero, Int.ofNat_eq_zero, hz]

theorem units_neg (d : Decimal) : (-d).units = -d.units := by
  change mantissaAt { d with negative := !d.negative } 56 = -d.mantissaAt 56
  cases hn : d.negative <;> simp [mantissaAt, hn]

theorem units_abs (d : Decimal) : d.abs.units = d.units.natAbs := by
  cases hn : d.negative <;> simp [units, mantissaAt, abs, hn, Int.natAbs_mul]

end Decimal
end DoubleEntry
