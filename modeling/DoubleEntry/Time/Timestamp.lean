import DoubleEntry.Text.Digits
import DoubleEntry.Time.Calendar

/-!
Instants to the nanosecond, and their text in coordinated universal time. A leap second is the
second before it with a billion nanoseconds or more.
-/

namespace DoubleEntry

/-- Seconds since 1970, and the nanoseconds after them. -/
structure Timestamp where
  seconds : Int
  nanos : Nat
  deriving DecidableEq, Repr, Inhabited

namespace Timestamp

open Text

/-- The instant so many milliseconds after the start of 1970. -/
def ofMillis (ms : Nat) : Timestamp := ⟨ms / 1000, ms % 1000 * 1000000⟩

/-- Four digits; outside of the years 0 to 9999 a sign stands before them. -/
def yearChars (year : Int) : List Char :=
  if 0 ≤ year ∧ year ≤ 9999 then padded 4 year.natAbs
  else (if year < 0 then '-' else '+') :: padded 4 year.natAbs

/-- No fraction, or the first of three, six and nine digits that keeps the value. -/
def fractionChars (nanos : Nat) : List Char :=
  if nanos = 0 then []
  else if nanos % 1000000 = 0 then '.' :: padded 3 (nanos / 1000000)
  else if nanos % 1000 = 0 then '.' :: padded 6 (nanos / 1000)
  else '.' :: padded 9 nanos

def toChars (t : Timestamp) : List Char :=
  let date := Date.ofDays (t.seconds / 86400)
  let second := (t.seconds % 86400).toNat
  yearChars date.year ++ '-' :: padded 2 date.month ++ '-' :: padded 2 date.day ++
    'T' :: padded 2 (second / 3600) ++ ':' :: padded 2 (second / 60 % 60) ++
    ':' :: padded 2 (second % 60 + t.nanos / 1000000000) ++
    fractionChars (t.nanos % 1000000000) ++ ['Z']

def toText (t : Timestamp) : String := String.ofList t.toChars

end Timestamp
end DoubleEntry
