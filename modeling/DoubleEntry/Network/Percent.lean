import DoubleEntry.Text.Digits
import DoubleEntry.Text.Utf8

/-!
Bytes behind percent signs, as the parts of URLs hold them, and the lists of parameters that forms
send.
-/

namespace DoubleEntry.Percent

open Text

/-- The byte that two hexadecimal digits stand for. -/
def byte? (high low : Char) : Option UInt8 := do
  some (UInt8.ofNat (16 * (← digitIn? 16 high) + (← digitIn? 16 low)))

/-- The bytes of a text. A percent sign without two digits behind it stands for itself. -/
def decode : List Char → List UInt8
  | [] => []
  | '%' :: high :: low :: cs =>
      match byte? high low with
      | some b => b :: decode cs
      | none => utf8Bytes ['%'] ++ decode (high :: low :: cs)
  | c :: cs => utf8Bytes [c] ++ decode cs

/-- A part of a parameter: a plus stands for a blank. -/
def formText (cs : List Char) : String :=
  String.ofList (ofUtf8Replacing (decode (cs.map fun c => if c = '+' then ' ' else c)))

/-- One parameter, with its value behind the first equality sign. -/
def parameter (cs : List Char) : String × String :=
  let name := cs.takeWhile (· != '=')
  (formText name, formText (cs.drop (name.length + 1)))

/-- The parameters between the signs `&`. Empty ones do not count. -/
def parameters (cs : List Char) : List (String × String) :=
  ((cs.splitOn '&').filter fun item => !item.isEmpty).map parameter

end DoubleEntry.Percent
