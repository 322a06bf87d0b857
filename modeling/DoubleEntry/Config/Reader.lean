import DoubleEntry.Config.Tree
import DoubleEntry.Decimal.Binary64
import DoubleEntry.Error.Config
import DoubleEntry.Network.Address
import DoubleEntry.Sql.Isolation

/-!
Reading configured values. Numbers, booleans and texts stand for one another where that makes
sense, because the variables of an environment are all texts. A section is a table, or a list that
has its fields in order.
-/

namespace DoubleEntry

namespace ConfigNumber

open Text

/-- A number that is written as a 64-bit integer. -/
def integer? (n : Numeral) : Option Int := n.int?.filter (IsInt64 ·)

/-- Every other number is kept in double precision. -/
def float (n : Numeral) : Float :=
  let magnitude := ofDigits ((n.exponent.map (·.2)).getD [])
  let exponent : Int := if (n.exponent.map (·.1)).getD false then -magnitude else magnitude
  (Binary64.read? n.negative n.whole (n.fraction.getD []) exponent).getD 0

/-- A number without an exponent, in the fewest digits. -/
def plainText (f : Float) : String := String.ofList ((Binary64.plainChars? f).getD [])

def text (n : Numeral) : String :=
  match integer? n with
  | some i => integerText i
  | none => plainText (float n)

/-- The nearest natural number with 64 bits, a half away from zero. Below zero it is zero. -/
def roundToWord (f : Float) : Nat :=
  if f < 0 then 0
  else
    match Binary64.parts? f with
    | none => pow2 64 - 1
    | some p =>
        let scale := pow2 (-p.exponent).toNat
        min ((2 * p.mantissa * pow2 p.exponent.toNat + scale) / (2 * scale)) (pow2 64 - 1)

/-- A number in messages always has a point. -/
def floatText (f : Float) : String :=
  let t := plainText f
  if t.toList.contains '.' then t else t ++ ".0"

end ConfigNumber

namespace ConfigTree

open Text

/-- The form of a value that is no number, as the place of a scalar reports it. -/
def scalarForm : Json → ConfigValueForm
  | .bool b => .bool b
  | .number n => .float (ConfigNumber.floatText (ConfigNumber.float n))
  | .string s => .string s
  | .array _ => .sequence
  | .object _ => .table
  | .null | .illFormed => .null

/-- The form of a value that is no section, as the place of a section reports it. -/
def sectionForm : Json → ConfigValueForm
  | .number n =>
      match ConfigNumber.integer? n with
      | some i => .integer i
      | none => scalarForm (.number n)
  | v => scalarForm v

/-- What is found instead of what a path should hold. -/
def mismatch (expected path : String) : ConfigTree → ConfigFailure
  | .value v origin =>
      .invalidType (scalarForm v) expected (some path) (origin.map (·.description))
  | .list _ origin => .invalidType .sequence expected (some path) (origin.map (·.description))
  | .table _ origin => .invalidType .table expected (some path) (origin.map (·.description))

def yesWords : List String := ["true", "on", "yes"]

def noWords : List String := ["false", "off", "no"]

/-- A 64-bit natural number, perhaps behind a plus. -/
def wordText? (s : String) : Option Nat :=
  let ds := match s.toList with
    | '+' :: ds => ds
    | ds => ds
  (natural? ds).filter (· < pow2 64)

/-- A natural number with 64 bits. -/
def readWord (path : String) (tree : ConfigTree) : Except ConfigFailure Nat :=
  match tree with
  | .value (.number n) origin =>
      match ConfigNumber.integer? n with
      | some i =>
          if 0 ≤ i then .ok i.toNat
          else
            .error (.invalidType (.signed64 i) "an unsigned 64 bit or less integer" (some path)
              (origin.map (·.description)))
      | none => .ok (ConfigNumber.roundToWord (ConfigNumber.float n))
  | .value (.bool b) _ => .ok b.toNat
  | .value (.string s) _ =>
      let word := lowercase s
      if yesWords.contains word then .ok 1
      else if noWords.contains word then .ok 0
      else
        match wordText? s with
        | some n => .ok n
        | none => .error (tree.mismatch "an integer" path)
  | _ => .error (tree.mismatch "an integer" path)

/-- A natural number with 32 bits. -/
def readHalfWord (path : String) (tree : ConfigTree) : Except ConfigFailure Nat := do
  let n ← tree.readWord path
  if n < pow2 32 then .ok n
  else .error (.invalidType (.unsigned64 n) "an unsigned 32 bit integer" (some path) none)

def readText (path : String) (tree : ConfigTree) : Except ConfigFailure String :=
  match tree with
  | .value (.string s) _ => .ok s
  | .value (.bool b) _ => .ok (if b then "true" else "false")
  | .value (.number n) _ => .ok (ConfigNumber.text n)
  | _ => .error (tree.mismatch "a string" path)

/-- A null stands for no value. -/
def readOptional {α : Type} (read : String → ConfigTree → Except ConfigFailure α) (path : String)
    (tree : ConfigTree) : Except ConfigFailure (Option α) :=
  match tree with
  | .value .null _ => .ok none
  | _ => (read path tree).map some

def readAddress (path : String) (tree : ConfigTree) : Except ConfigFailure SocketAddress := do
  match SocketAddress.ofText? (← tree.readText path) with
  | some address => .ok address
  | none => .error .invalidAddress

/-- The name of a level, in any case. -/
def namedLevel (name : String) : Except ConfigFailure IsolationLevel :=
  match IsolationLevel.ofName? (lowercase name) with
  | some level => .ok level
  | none => .error (.unknownCase "IsolationLevel" name)

/-- A level by its name, or by the only key of a table. -/
def readIsolation (_path : String) (tree : ConfigTree) : Except ConfigFailure IsolationLevel :=
  match tree with
  | .value (.string s) _ => namedLevel s
  | .table [(key, _)] _ => namedLevel key
  | _ => .error (.notACase "IsolationLevel")

end ConfigTree

/-- A section: what it is called, and its fields by name or by position. -/
structure ConfigSection where
  name : String
  typeName : String
  size : Nat
  contents : ConfigTree ⊕ List ConfigTree

namespace ConfigSection

def ofTree (name typeName : String) (size : Nat) (tree : ConfigTree) :
    Except ConfigFailure ConfigSection :=
  match tree with
  | .table entries origin => .ok ⟨name, typeName, size, .inl (.table entries origin)⟩
  | .list items _ => .ok ⟨name, typeName, size, .inr items⟩
  | .value v _ =>
      .error (.invalidType (ConfigTree.sectionForm v) s!"struct {typeName}" none none)

/-- Reads the field with this position and name, if it is there. -/
def read? {α : Type} (s : ConfigSection) (position : Nat) (field : String)
    (read : String → ConfigTree → Except ConfigFailure α) : Except ConfigFailure (Option α) :=
  match s.contents with
  | .inl table =>
      match table.get? field with
      | some tree => (read s!"{s.name}.{field}" tree).map some
      | none => .ok none
  | .inr items =>
      match items[position]? with
      | some tree => (read s!"{s.name}[{position}]" tree).map some
      | none => .ok none

/-- A list may only leave out fields that have a default. -/
def tooShort (s : ConfigSection) (position : Nat) : ConfigFailure :=
  let noun := if s.size = 1 then "element" else "elements"
  .invalidLength position s!"struct {s.typeName} with {s.size} {noun}"

def required {α : Type} (s : ConfigSection) (position : Nat) (field : String) :
    Option α → Except ConfigFailure α
  | some a => .ok a
  | none =>
      match s.contents with
      | .inl _ => .error (.missingField field)
      | .inr _ => .error (s.tooShort position)

def optional {α : Type} (s : ConfigSection) (position : Nat) :
    Option (Option α) → Except ConfigFailure (Option α)
  | some a => .ok a
  | none =>
      match s.contents with
      | .inl _ => .ok none
      | .inr _ => .error (s.tooShort position)

end ConfigSection
end DoubleEntry
