import DoubleEntry.Proofs.Decimal.Exact
import Mathlib.Algebra.Order.Field.Rat
import Mathlib.Tactic.Linarith
import Mathlib.Tactic.NormNum
import Mathlib.Tactic.Positivity

/-!
Decimals as rational numbers. A comparison of decimals is one of their values, and a column of
amounts keeps exactly the values that are multiples of 10⁻⁸ below 10¹² in magnitude.
-/

namespace DoubleEntry

/-- A value that a column of amounts has room for: eight digits after the point, twelve before. -/
def HasRoom (v : ℚ) : Prop := (∃ k : ℤ, v = k / 10 ^ 8) ∧ |v| < 10 ^ 12

namespace Decimal

/-- The number that a decimal stands for. -/
def value (d : Decimal) : ℚ :=
  (if d.negative then -(d.mantissa : ℚ) else d.mantissa) / 10 ^ d.scale

theorem cast_pow10 (n : ℕ) : ((pow10 n : ℕ) : ℚ) = 10 ^ n := by
  change ((10 ^ n : ℕ) : ℚ) = 10 ^ n
  push_cast
  rfl

theorem value_eq_units (d : Decimal) : d.value = d.units / 10 ^ 56 := by
  have widened : (10 : ℚ) ^ 56 = 10 ^ d.scale * 10 ^ (56 - d.scale) := by
    rw [← pow_add, Nat.add_sub_cancel' d.scale_le]
  have magnitude : ((d.mantissa * pow10 (56 - d.scale) : ℕ) : ℚ) =
      d.mantissa * 10 ^ (56 - d.scale) := by
    rw [Nat.cast_mul, cast_pow10]
  have signed : (d.units : ℚ) =
      (if d.negative then -(d.mantissa : ℚ) else d.mantissa) * 10 ^ (56 - d.scale) := by
    simp only [units, mantissaAt]
    split
    · rw [Int.cast_neg, Int.cast_natCast, magnitude, neg_mul]
    · rw [Int.cast_natCast, magnitude]
  rw [value, signed, widened]
  exact (mul_div_mul_right _ _ (pow_ne_zero _ (by norm_num))).symm

theorem le_iff_value {a b : Decimal} : a ≤ b ↔ a.value ≤ b.value := by
  rw [value_eq_units, value_eq_units, div_le_div_iff_of_pos_right (by positivity), Int.cast_le]
  rfl

theorem lt_iff_value {a b : Decimal} : a < b ↔ a.value < b.value := by
  rw [value_eq_units, value_eq_units, div_lt_div_iff_of_pos_right (by positivity), Int.cast_lt]
  rfl

@[simp] theorem value_zero : zero.value = 0 := by
  rw [value_eq_units, units_zero, Int.cast_zero, zero_div]

@[simp] theorem value_whole (n : UInt16) : (whole n).value = n.toNat := by
  simp [value, whole, ofSmall]

theorem value_neg (d : Decimal) : (-d).value = -d.value := by
  rw [value_eq_units, value_eq_units, units_neg, Int.cast_neg, neg_div]

/-- A column of amounts keeps a decimal if and only if it has room for its value. -/
theorem fitsColumn_iff_hasRoom (d : Decimal) : d.FitsColumn ↔ HasRoom d.value := by
  have multiple : pow10 48 ∣ d.units.natAbs ↔ ∃ k : ℤ, d.value = k / 10 ^ 8 := by
    rw [← Int.ofNat_dvd_left]
    refine exists_congr fun k => ?_
    have exact : (d.units : ℚ) = 10 ^ 48 * k ↔ d.value = k / 10 ^ 8 := by
      rw [value_eq_units, div_eq_div_iff (by positivity) (by positivity)]
      constructor <;> intro h <;> linarith
    rw [← exact, ← cast_pow10, ← @Int.cast_inj ℚ, Int.cast_mul, Int.cast_natCast]
  have small : d.units.natAbs < pow10 68 ↔ |d.value| < 10 ^ 12 := by
    rw [value_eq_units, abs_div, abs_of_pos (show (0 : ℚ) < 10 ^ 56 by positivity),
      div_lt_iff₀ (by positivity), ← pow_add, ← cast_pow10, ← Int.cast_abs, ← Nat.cast_natAbs,
      Nat.cast_lt]
  rw [fitsColumn_iff, multiple, small, HasRoom]

end Decimal
end DoubleEntry
