/-!
Powers of two and of ten, and the ranges of integers with 64 bits.
-/

namespace DoubleEntry

/-- Two to the power `k`. -/
def pow2 (k : Nat) : Nat := Nat.pow 2 k

/-- Ten to the power `k`. -/
def pow10 (k : Nat) : Nat := Nat.pow 10 k

theorem pow10_zero : pow10 0 = 1 := rfl

theorem pow10_succ (k : Nat) : pow10 (k + 1) = 10 * pow10 k := Nat.mul_comm _ _

theorem pow10_pos (k : Nat) : 0 < pow10 k := by
  induction k with
  | zero => decide
  | succ k ih => rw [pow10_succ]; omega

/-- The largest 64-bit signed integer, 2⁶³ - 1. -/
def maxInt64 : Int := 9223372036854775807

/-- The range of 64-bit signed integers, from -2⁶³ on. -/
def IsInt64 (n : Int) : Prop := -9223372036854775808 ≤ n ∧ n ≤ maxInt64

instance (n : Int) : Decidable (IsInt64 n) := inferInstanceAs (Decidable (_ ∧ _))

/-- The range of 64-bit unsigned integers, from 0 to 2⁶⁴ - 1. -/
def IsWord64 (n : Int) : Prop := 0 ≤ n ∧ n ≤ 18446744073709551615

instance (n : Int) : Decidable (IsWord64 n) := inferInstanceAs (Decidable (_ ∧ _))

end DoubleEntry
