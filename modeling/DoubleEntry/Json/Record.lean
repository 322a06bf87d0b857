import DoubleEntry.Decimal.Binary64
import DoubleEntry.Decimal.Text
import DoubleEntry.Json.Basic
import DoubleEntry.Time.Reader

/-!
Records as JSON: objects whose members may come in any order and beside others, or arrays of the
fields in their declared order. A decimal is written as a string and read from a string or a number.
-/

namespace DoubleEntry.Json

/-- The value of the one member with this key. -/
def uniqueMember? (members : List (String × Json)) (key : String) : Option Json :=
  match members.filter (·.1 == key) with
  | [(_, v)] => some v
  | _ => none

/-- The values of a record's fields in their declared order. -/
def fields? (keys : List String) : Json → Option (List Json)
  | .object members => keys.mapM (uniqueMember? members)
  | .array items => if items.length = keys.length then some items else none
  | _ => none

/-- An integer of 64 bits keeps its value. Any other number is read as a double-precision one, and
its shortest digits count. -/
def decimalOfNumeral? (n : Numeral) : Option Decimal :=
  match n.int?.filter fun i => decide (IsInt64 i ∨ IsWord64 i) with
  | some i => Decimal.ofParts? (i < 0) i.natAbs 0
  | none => do
      let (negative, ds) := n.exponent.getD (false, [])
      let exponent : Int := Text.ofDigits ds
      let f ← Binary64.read? n.negative n.whole (n.fraction.getD [])
        (if negative then -exponent else exponent)
      Decimal.ofPlain? (← Binary64.plainChars? f)

def decimal? : Json → Option Decimal
  | .string s => Decimal.ofText? s
  | .number n => decimalOfNumeral? n
  | _ => none

def ofDecimal (d : Decimal) : Json := .string d.toText

def timestamp? : Json → Option Timestamp
  | .string s => Timestamp.ofText? s
  | _ => none

def ofTimestamp (t : Timestamp) : Json := .string t.toText

/-- The name of a case without contents: a string, or an object with that one key and null. -/
def caseName? : Json → Option String
  | .string s => some s
  | .object [(key, .null)] => some key
  | _ => none

end DoubleEntry.Json
