import DoubleEntry.Json.Basic

/-!
JSON values as text without blanks. Only what the format demands is escaped: quotes, backslashes and
the characters below the blank.
-/

namespace DoubleEntry.Json

open Text

def hexDigit (n : Nat) : Char := if n < 10 then digitChar n else Char.ofNat ('a'.toNat + n - 10)

/-- The escape by number of a character below 2¹⁶. -/
def escapeNumber (c : Char) : List Char :=
  let n := c.toNat
  ['\\', 'u', hexDigit (n / 4096 % 16), hexDigit (n / 256 % 16), hexDigit (n / 16 % 16),
    hexDigit (n % 16)]

/-- What stands for a character between quotes. -/
def escape (c : Char) : List Char :=
  if c = '"' then ['\\', '"']
  else if c = '\\' then ['\\', '\\']
  else if c = '\n' then ['\\', 'n']
  else if c = '\r' then ['\\', 'r']
  else if c = '\t' then ['\\', 't']
  else if c = '\x08' then ['\\', 'b']
  else if c = '\x0c' then ['\\', 'f']
  else if c.toNat < 32 then escapeNumber c
  else [c]

def quoted (s : String) : List Char := '"' :: s.toList.flatMap escape ++ ['"']

def numeralChars (n : Numeral) : List Char :=
  let fraction := match n.fraction with
    | none => []
    | some ds => '.' :: ds
  let exponent := match n.exponent with
    | none => []
    | some (negative, ds) => if negative then 'e' :: '-' :: ds else 'e' :: ds
  (if n.negative then ['-'] else []) ++ n.whole ++ fraction ++ exponent

mutual

def toChars : Json → List Char
  | .null | .illFormed => "null".toList
  | .bool true => "true".toList
  | .bool false => "false".toList
  | .number n => numeralChars n
  | .string s => quoted s
  | .array items => '[' :: itemChars items ++ [']']
  | .object members => '{' :: memberChars members ++ ['}']

def itemChars : List Json → List Char
  | [] => []
  | [v] => v.toChars
  | v :: vs => v.toChars ++ ',' :: itemChars vs

def memberChars : List (String × Json) → List Char
  | [] => []
  | [(k, v)] => quoted k ++ ':' :: v.toChars
  | (k, v) :: ms => quoted k ++ ':' :: v.toChars ++ ',' :: memberChars ms

end

def toText (v : Json) : String := String.ofList v.toChars

end DoubleEntry.Json
