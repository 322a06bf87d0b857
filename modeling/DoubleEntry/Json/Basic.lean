import DoubleEntry.Number
import DoubleEntry.Text.Digits

/-!
JSON values. A number is kept as it is written, because the readers of the library tell `1` from
`1.0`, and an object keeps its members in order, repeated keys included.
-/

namespace DoubleEntry

/-- The parts of a number as it is written. -/
structure Numeral where
  negative : Bool
  whole : List Char
  fraction : Option (List Char) := none
  /-- Whether the exponent is negative, and its digits. -/
  exponent : Option (Bool × List Char) := none
  deriving DecidableEq, Inhabited

inductive Json where
  | null
  | bool (b : Bool)
  | number (n : Numeral)
  | string (s : String)
  | array (items : List Json)
  | object (members : List (String × Json))
  /-- A string with an unpaired surrogate, or an object with such a key. It is well written and
  can be skipped, but it has no text that could be read. -/
  | illFormed
  deriving Inhabited

namespace Numeral

open Text

def ofInt (n : Int) : Numeral := ⟨n < 0, digits n.natAbs, none, none⟩

/-- The value of a numeral with neither fraction nor exponent. A negative zero has none. -/
def int? (n : Numeral) : Option Int :=
  match n.fraction, n.exponent with
  | none, none =>
      let magnitude := ofDigits n.whole
      if n.negative then (if magnitude = 0 then none else some (-(magnitude : Int)))
      else some magnitude
  | _, _ => none

theorem int?_ofInt (n : Int) : (ofInt n).int? = some n := by
  by_cases h : n < 0
  · have hm : n.natAbs ≠ 0 := by omega
    have hv : -(n.natAbs : Int) = n := by omega
    simp only [int?, ofInt, ofDigits_digits, h, decide_true, if_true, hm, if_false, hv]
  · have hv : (n.natAbs : Int) = n := by omega
    simp only [int?, ofInt, ofDigits_digits, h, decide_false, Bool.false_eq_true, if_false, hv]

end Numeral

namespace Json

def ofInt (n : Int) : Json := .number (Numeral.ofInt n)

def ofNat (n : Nat) : Json := ofInt n

def ofOption {α : Type} (f : α → Json) : Option α → Json
  | none => .null
  | some a => f a

/-- The first member with this key. -/
def member? (key : String) : Json → Option Json
  | .object members => (members.find? (·.1 == key)).map (·.2)
  | _ => none

def string? : Json → Option String
  | .string s => some s
  | _ => none

def bool? : Json → Option Bool
  | .bool b => some b
  | _ => none

def array? : Json → Option (List Json)
  | .array items => some items
  | _ => none

def members? : Json → Option (List (String × Json))
  | .object members => some members
  | _ => none

/-- A 64-bit signed integer, written without fraction and exponent. -/
def int64? : Json → Option Int
  | .number n => n.int?.filter (IsInt64 ·)
  | _ => none

/-- A 64-bit unsigned integer, written without fraction and exponent. -/
def word64? : Json → Option Nat
  | .number n => (n.int?.filter (IsWord64 ·)).map Int.toNat
  | _ => none

def isNull : Json → Bool
  | .null => true
  | _ => false

end Json
end DoubleEntry
