import DoubleEntry.Text.Digits

/-!
Natural numbers up to a bound. A text that is none is told by its first fault from the left.
-/

namespace DoubleEntry.Text

inductive NaturalFault where
  | empty
  | invalidDigit
  | tooLarge
  deriving DecidableEq, Repr

def NaturalFault.message : NaturalFault → String
  | empty => "cannot parse integer from empty string"
  | invalidDigit => "invalid digit found in string"
  | tooLarge => "number too large to fit in target type"

/-- Reads digits behind those that stand for `n`. -/
def readNatural (bound : Nat) : Nat → List Char → Except NaturalFault Nat
  | n, [] => .ok n
  | n, c :: cs =>
      if !isDigit c then .error .invalidDigit
      else if bound < 10 * n + digitValue c then .error .tooLarge
      else readNatural bound (10 * n + digitValue c) cs

/-- A number up to `bound`, perhaps behind a plus. -/
def naturalUpTo (bound : Nat) : List Char → Except NaturalFault Nat
  | [] => .error .empty
  | ['+'] => .error .invalidDigit
  | '+' :: cs => readNatural bound 0 cs
  | cs => readNatural bound 0 cs

end DoubleEntry.Text
