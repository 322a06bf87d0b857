import DoubleEntry.Arithmetic
import DoubleEntry.Decimal.Basic

/-!
Masks for what logs must not show: the middle of a name, and all of an amount but its magnitude.
-/

namespace DoubleEntry.Mask

/-- Keeps `visible` characters at either end. A text that has no middle then is masked as a whole.
-/
def text (visible : Nat) (s : String) : String :=
  let cs := s.toList
  let hidden := cs.length - 2 * visible
  if cs.length ≤ 2 * visible then String.ofList (List.replicate cs.length '*')
  else
    String.ofList (cs.take visible ++ List.replicate hidden '*' ++ cs.drop (cs.length - visible))

/-- Masks a text; the two ends together must be countable in 64 bits. -/
def checkedText (visible : Nat) (s : String) : Except Overflow String :=
  if 2 * visible < pow2 64 then .ok (text visible s) else .error .multiplication

/-- Below a thousand, below a million, or more. -/
def amount (d : Decimal) : String :=
  if Decimal.ofSmall 1000000 (by decide) ≤ d.abs then "***M+"
  else if Decimal.ofSmall 1000 (by decide) ≤ d.abs then "***K+"
  else "***"

end DoubleEntry.Mask
