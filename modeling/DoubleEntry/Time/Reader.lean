import DoubleEntry.Number
import DoubleEntry.Text.Blank
import DoubleEntry.Time.Timestamp

/-!
Reading an instant from a date, a time of day and an offset. Beyond the strict form, leading zeros
may be missing, blanks may stand between the parts, and a year may have a sign and more digits.
-/

namespace DoubleEntry.Timestamp.Reader

open Text

/-- Digits, at least one and at most `width` of them, after blanks. -/
def number? (width : Nat) (cs : List Char) : Option (Nat × List Char) :=
  let cs := trimStart cs
  let ds := (cs.takeWhile isDigit).take width
  if ds.isEmpty then none else some (ofDigits ds, cs.drop ds.length)

/-- A year of at most four digits, or of any number of digits behind a sign. -/
def year? (cs : List Char) : Option (Int × List Char) :=
  match trimStart cs with
  | '-' :: cs => signed? (-1) cs
  | '+' :: cs => signed? 1 cs
  | cs => (number? 4 cs).map fun (n, cs) => ((n : Int), cs)
where
  signed? (sign : Int) (cs : List Char) : Option (Int × List Char) :=
    let ds := cs.takeWhile isDigit
    if ds.isEmpty then none else some (sign * ofDigits ds, cs.drop ds.length)

/-- A mark after blanks. -/
def mark? (mark : Char) (cs : List Char) : Option (List Char) :=
  match trimStart cs with
  | c :: cs => if c = mark then some cs else none
  | [] => none

/-- The nanoseconds of a fraction; digits after the ninth are dropped. -/
def nanos? : List Char → Option (Nat × List Char)
  | '.' :: cs =>
      let ds := cs.takeWhile isDigit
      let kept := ds.take 9
      if ds.isEmpty then none
      else some (ofDigits kept * pow10 (9 - kept.length), cs.drop ds.length)
  | cs => some (0, cs)

def twoDigits? : List Char → Option (Nat × List Char)
  | a :: b :: cs =>
      if isDigit a && isDigit b then some (10 * digitValue a + digitValue b, cs) else none
  | _ => none

/-- The seconds of an offset with hours and minutes. -/
def signedOffset? (sign : Int) (cs : List Char) : Option (Int × List Char) := do
  let (hours, cs) ← twoDigits? cs
  let (minutes, cs) ← twoDigits? (cs.dropWhile fun c => c == ':' || isBlank c)
  if minutes < 60 then some (sign * (hours * 3600 + minutes * 60 : Nat), cs) else none

def offset? (cs : List Char) : Option (Int × List Char) :=
  match trimStart cs with
  | 'Z' :: cs | 'z' :: cs => some (0, cs)
  | '+' :: cs => signedOffset? 1 cs
  | '-' :: cs | '\u2212' :: cs => signedOffset? (-1) cs
  | a :: b :: c :: cs =>
      if [a, b, c].map Char.toUpper = ['U', 'T', 'C'] then some (0, cs) else none
  | _ => none

/-- The years that an instant can lie in. -/
def InRange (year : Int) : Prop := -262143 ≤ year ∧ year ≤ 262142

instance (year : Int) : Decidable (InRange year) := inferInstanceAs (Decidable (_ ∧ _))

/-- The instant of a local date and time of day with an offset from universal time. The second 60
is a leap second. -/
def instant? (date : Date) (hour minute second nanos : Nat) (offset : Int) : Option Timestamp := do
  guard (InRange date.year ∧ date.IsValid)
  guard (hour < 24 ∧ minute < 60 ∧ second ≤ 60 ∧ -86400 < offset ∧ offset < 86400)
  let leap := if second = 60 then 1 else 0
  let seconds := date.toDays * 86400 + (hour * 3600 + minute * 60 + (second - leap) : Nat) - offset
  guard (InRange (Date.ofDays (seconds / 86400)).year)
  some ⟨seconds, nanos + leap * 1000000000⟩

def ofChars? (cs : List Char) : Option Timestamp := do
  let (year, cs) ← year? cs
  let (month, cs) ← number? 2 (← mark? '-' cs)
  let (day, cs) ← number? 2 (← mark? '-' cs)
  let cs ← match cs with
    | 'T' :: cs | 't' :: cs | ' ' :: cs => some cs
    | _ => none
  let (hour, cs) ← number? 2 cs
  let (minute, cs) ← number? 2 (← mark? ':' cs)
  let (second, cs) ← number? 2 (← mark? ':' cs)
  let (nanos, cs) ← nanos? cs
  let (offset, cs) ← offset? cs
  guard (trimStart cs).isEmpty
  instant? ⟨year, month, day⟩ hour minute second nanos offset

end DoubleEntry.Timestamp.Reader

namespace DoubleEntry.Timestamp

def ofText? (s : String) : Option Timestamp := Reader.ofChars? s.toList

end DoubleEntry.Timestamp
