import DoubleEntry.Decimal.Basic

/-!
Addition of decimals. The exact sum is taken at the larger scale; only if its mantissa needs more
than 96 bits is it rounded, once, to the largest scale at which it fits. That scale is no larger
than that of roundings, unless both operands fit 96 bits at the larger scale themselves.
-/

namespace DoubleEntry.Decimal

/-- The quotient rounded to the nearest integer, a half to the even one. -/
def roundHalfEven (n d : Nat) : Nat :=
  let quotient := n / d
  let remainder := n % d
  if 2 * remainder < d then quotient
  else if d < 2 * remainder then quotient + 1
  else if quotient % 2 = 0 then quotient
  else quotient + 1

/-- A magnitude given at `scale`, at the largest scale up to `bound` that holds it; none if even its
integer part needs more than 96 bits. -/
def fitted (negative : Bool) (magnitude scale bound : Nat) : Option Decimal :=
  (List.range (min scale bound + 1)).reverse.findSome? fun target =>
    ofParts? negative (roundHalfEven magnitude (pow10 (scale - target))) target

/-- With so many digits after the point the mantissa still has 96 bits. -/
def FitsAt (d : Decimal) (scale : Nat) : Prop := (d.mantissaAt scale).natAbs < pow2 96

instance (d : Decimal) (scale : Nat) : Decidable (d.FitsAt scale) :=
  inferInstanceAs (Decidable (_ < _))

/-- The largest scale that a sum of two numbers at the larger one of their scales may have. -/
def sumScale (a b : Decimal) (scale : Nat) : Nat :=
  if a.FitsAt scale ∧ b.FitsAt scale then scale else roundingScale

/-- The sum, unless it is too large. Adding zero gives the other operand as it stands. -/
def add? (a b : Decimal) : Option Decimal :=
  if a.isZero then some b
  else if b.isZero then some a
  else
    let scale := max a.scale b.scale
    let sum := a.mantissaAt scale + b.mantissaAt scale
    fitted (sum < 0) sum.natAbs scale (sumScale a b scale)

/-- The sum from left to right, unless a partial sum is too large. -/
def sum? (ds : List Decimal) : Option Decimal := ds.foldlM add? zero

theorem roundHalfEven_one (n : Nat) : roundHalfEven n 1 = n := by
  simp [roundHalfEven, Nat.mod_one]

end DoubleEntry.Decimal
