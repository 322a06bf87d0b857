import DoubleEntry.Text.Digits

/-!
Spans of time in whole milliseconds as text: in seconds from one second on, with the digits after
the point that matter, and in milliseconds below.
-/

namespace DoubleEntry.Duration

open Text

/-- A fraction of three digits without its trailing zeros, the point included. -/
def fractionChars (thousandths : Nat) : List Char :=
  if thousandths = 0 then []
  else if thousandths % 100 = 0 then '.' :: digits (thousandths / 100)
  else if thousandths % 10 = 0 then '.' :: padded 2 (thousandths / 10)
  else '.' :: padded 3 thousandths

def toChars (ms : Nat) : List Char :=
  if ms = 0 then "0ns".toList
  else if ms < 1000 then digits ms ++ ['m', 's']
  else digits (ms / 1000) ++ fractionChars (ms % 1000) ++ ['s']

def toText (ms : Nat) : String := String.ofList (toChars ms)

end DoubleEntry.Duration
