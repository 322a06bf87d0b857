import DoubleEntry.Text.Quoted

/-!
Why a configuration is refused.
-/

namespace DoubleEntry

/-- A configured value, as an error message describes it. -/
inductive ConfigValueForm where
  | null
  | bool (b : Bool)
  | integer (n : Int)
  | signed64 (n : Int)
  | unsigned64 (n : Int)
  | float (text : String)
  | string (s : String)
  | sequence
  | table
  deriving DecidableEq, Repr

def ConfigValueForm.description : ConfigValueForm → String
  | null => "unit value"
  | bool b => s!"boolean `{b}`"
  | integer n => s!"integer `{n}`"
  | signed64 n => s!"64-bit integer `{n}`"
  | unsigned64 n => s!"64-bit unsigned integer `{n}`"
  | float text => s!"floating point `{text}`"
  | string s => s!"string {Text.quoted s}"
  | sequence => "sequence"
  | table => "map"

inductive ConfigFailure where
  | text (message : String)
  | propertyNotFound (key : String)
  | frozen
  | fileNotFound (name : String)
  | missingField (name : String)
  /-- The path of the key and the place it was read from are left out where they are not known. -/
  | invalidType (found : ConfigValueForm) (expected : String) (path origin : Option String)
  | invalidLength (length : Nat) (expected : String)
  | unknownCase (enumeration name : String)
  | notACase (enumeration : String)
  | invalidAddress
  deriving DecidableEq, Repr

namespace ConfigFailure

def message : ConfigFailure → String
  | text m => m
  | propertyNotFound key => s!"configuration property {Text.quoted key} not found"
  | frozen => "configuration is frozen"
  | fileNotFound name => s!"configuration file \"{name}\" not found"
  | missingField name => s!"missing field `{name}`"
  | invalidType found expected path origin =>
      let atPath := match path with
        | some p => s!" for key `{p}`"
        | none => ""
      let inOrigin := match origin with
        | some o => s!" in {o}"
        | none => ""
      s!"invalid type: {found.description}, expected {expected}{atPath}{inOrigin}"
  | invalidLength length expected => s!"invalid length {length}, expected {expected}"
  | unknownCase enumeration name =>
      s!"enum {enumeration} does not have variant constructor {name}"
  | notACase enumeration =>
      s!"value of enum {enumeration} should be represented by either string or table with " ++
        "exactly one key"
  | invalidAddress => "invalid socket address syntax"

end ConfigFailure
end DoubleEntry
