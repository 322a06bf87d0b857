import DoubleEntry.Number

/-!
Arithmetic that stops where a result leaves its range: 64-bit signed integers, sums and products of
decimals, the room for the text of a decimal, and the length of lists.
-/

namespace DoubleEntry

/-- The operation whose result left its range. -/
inductive Overflow where
  | subtraction
  | multiplication
  | addition
  | decimalSum
  | decimalProduct
  | decimalText
  | capacity
  deriving DecidableEq, Repr

namespace Overflow

def message : Overflow → String
  | subtraction => "attempt to subtract with overflow"
  | multiplication => "attempt to multiply with overflow"
  | addition => "attempt to add with overflow"
  | decimalSum => "Addition overflowed"
  | decimalProduct => "Multiplication overflowed"
  | decimalText => "called `Result::unwrap()` on an `Err` value: CapacityError: " ++
      "insufficient capacity"
  | capacity => "capacity overflow"

/-- The result, if it is a 64-bit signed integer. -/
def checked (o : Overflow) (n : Int) : Except Overflow Int :=
  if IsInt64 n then .ok n else .error o

end Overflow

/-- A computation that may end in an error, or stop because a result left its range. -/
abbrev Checked (ε α : Type) : Type := ExceptT ε (Except Overflow) α

namespace Checked

variable {ε α : Type}

/-- Ends in an error. -/
def fail (e : ε) : Checked ε α := .ok (.error e)

/-- Stops for good. -/
def halt (o : Overflow) : Checked ε α := .error o

end Checked

def checkedSub (a b : Int) : Except Overflow Int := Overflow.subtraction.checked (a - b)

def checkedMul (a b : Int) : Except Overflow Int := Overflow.multiplication.checked (a * b)

end DoubleEntry
