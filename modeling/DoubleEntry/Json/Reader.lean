import DoubleEntry.Json.Basic

/-!
Reading JSON text. The grammar is the strict one: no leading zeros, no control characters in
strings, four kinds of blank. Nesting is bounded by the text alone.
-/

namespace DoubleEntry.Json
namespace Reader

open Text

def isBlank (c : Char) : Bool := c == ' ' || c == '\t' || c == '\n' || c == '\r'

def skipBlanks (cs : List Char) : List Char := cs.dropWhile isBlank

def hexValue? (c : Char) : Option Nat := digitIn? 16 c

/-- One piece of a string: a character, or a 16-bit unit given by number. -/
inductive Piece where
  | char (c : Char)
  | unit (n : Nat)

/-- The piece after a backslash. -/
def escaped? : List Char → Option (Piece × List Char)
  | '"' :: cs => some (.char '"', cs)
  | '\\' :: cs => some (.char '\\', cs)
  | '/' :: cs => some (.char '/', cs)
  | 'b' :: cs => some (.char '\x08', cs)
  | 'f' :: cs => some (.char '\x0c', cs)
  | 'n' :: cs => some (.char '\n', cs)
  | 'r' :: cs => some (.char '\r', cs)
  | 't' :: cs => some (.char '\t', cs)
  | 'u' :: a :: b :: c :: d :: cs => do
      let n := (((← hexValue? a) * 16 + (← hexValue? b)) * 16 + (← hexValue? c)) * 16
      some (.unit (n + (← hexValue? d)), cs)
  | _ => none

/-- The pieces up to the closing quote, and what follows it. -/
def pieces? : Nat → List Char → Option (List Piece × List Char)
  | 0, _ => none
  | _, [] => none
  | fuel + 1, c :: cs =>
      if c = '"' then some ([], cs)
      else if c = '\\' then do
        let (piece, cs) ← escaped? cs
        let (rest, cs) ← pieces? fuel cs
        some (piece :: rest, cs)
      else if c.toNat < 32 then none
      else do
        let (rest, cs) ← pieces? fuel cs
        some (.char c :: rest, cs)

def isHighSurrogate (n : Nat) : Bool := 0xD800 ≤ n && n < 0xDC00

def isLowSurrogate (n : Nat) : Bool := 0xDC00 ≤ n && n < 0xE000

/-- The text that pieces make up, unless a surrogate stands alone. -/
def assemble? : List Piece → Option (List Char)
  | [] => some []
  | .char c :: ps => (assemble? ps).map (c :: ·)
  | .unit n :: ps =>
      if isHighSurrogate n then
        match ps with
        | .unit m :: ps =>
            if isLowSurrogate m then
              (assemble? ps).map (Char.ofNat (0x10000 + (n - 0xD800) * 0x400 + (m - 0xDC00)) :: ·)
            else none
        | _ => none
      else if isLowSurrogate n then none
      else (assemble? ps).map (Char.ofNat n :: ·)

def fraction? : List Char → Option (Option (List Char) × List Char)
  | '.' :: cs =>
      let ds := cs.takeWhile isDigit
      if ds.isEmpty then none else some (some ds, cs.dropWhile isDigit)
  | cs => some (none, cs)

def exponentDigits? (negative : Bool) (cs : List Char) :
    Option (Option (Bool × List Char) × List Char) :=
  let ds := cs.takeWhile isDigit
  if ds.isEmpty then none else some (some (negative, ds), cs.dropWhile isDigit)

def exponent? : List Char → Option (Option (Bool × List Char) × List Char)
  | c :: cs =>
      if c = 'e' || c = 'E' then
        match cs with
        | '-' :: cs => exponentDigits? true cs
        | '+' :: cs => exponentDigits? false cs
        | cs => exponentDigits? false cs
      else some (none, c :: cs)
  | [] => some (none, [])

/-- Integer digits: a zero alone, or digits that do not start with one. -/
def whole? : List Char → Option (List Char × List Char)
  | '0' :: cs => some (['0'], cs)
  | cs =>
      let ds := cs.takeWhile isDigit
      if ds.isEmpty then none else some (ds, cs.dropWhile isDigit)

def numeral? (cs : List Char) : Option (Numeral × List Char) := do
  let (negative, cs) := match cs with
    | '-' :: rest => (true, rest)
    | _ => (false, cs)
  let (whole, cs) ← whole? cs
  let (fraction, cs) ← fraction? cs
  let (exponent, cs) ← exponent? cs
  some (⟨negative, whole, fraction, exponent⟩, cs)

def literal? (word : List Char) (v : Json) (cs : List Char) : Option (Json × List Char) :=
  if word.isPrefixOf cs then some (v, cs.drop word.length) else none

def ofPieces (ps : List Piece) : Json :=
  match assemble? ps with
  | some text => .string (String.ofList text)
  | none => .illFormed

/-- An object of these members; a key without text spoils it. -/
def ofMembers (ms : List (Option String × Json)) : Json :=
  match ms.mapM fun (k, v) => k.map (·, v) with
  | some members => .object members
  | none => .illFormed

mutual

/-- A value, blanks before it allowed, and what follows it. -/
def value? : Nat → List Char → Option (Json × List Char)
  | 0, _ => none
  | fuel + 1, cs =>
      match skipBlanks cs with
      | '"' :: cs => (pieces? fuel cs).map fun (ps, cs) => (ofPieces ps, cs)
      | '[' :: cs =>
          match skipBlanks cs with
          | ']' :: cs => some (.array [], cs)
          | cs => (items? fuel cs).map fun (vs, cs) => (.array vs, cs)
      | '{' :: cs =>
          match skipBlanks cs with
          | '}' :: cs => some (.object [], cs)
          | cs => (members? fuel cs).map fun (ms, cs) => (ofMembers ms, cs)
      | 'n' :: cs => literal? "ull".toList .null cs
      | 't' :: cs => literal? "rue".toList (.bool true) cs
      | 'f' :: cs => literal? "alse".toList (.bool false) cs
      | cs => (numeral? cs).map fun (n, cs) => (.number n, cs)

/-- At least one item, up to the closing bracket. -/
def items? : Nat → List Char → Option (List Json × List Char)
  | 0, _ => none
  | fuel + 1, cs => do
      let (v, cs) ← value? fuel cs
      match skipBlanks cs with
      | ']' :: cs => some ([v], cs)
      | ',' :: cs => do
          let (vs, cs) ← items? fuel cs
          some (v :: vs, cs)
      | _ => none

/-- At least one member, up to the closing brace. -/
def members? : Nat → List Char → Option (List (Option String × Json) × List Char)
  | 0, _ => none
  | fuel + 1, cs =>
      match skipBlanks cs with
      | '"' :: cs => do
          let (ps, cs) ← pieces? fuel cs
          match skipBlanks cs with
          | ':' :: cs => do
              let (v, cs) ← value? fuel cs
              let key := (assemble? ps).map String.ofList
              match skipBlanks cs with
              | '}' :: cs => some ([(key, v)], cs)
              | ',' :: cs => do
                  let (ms, cs) ← members? fuel cs
                  some ((key, v) :: ms, cs)
              | _ => none
          | _ => none
      | _ => none

end

end Reader

/-- One value and nothing but blanks around it. -/
def ofChars? (cs : List Char) : Option Json := do
  let (v, rest) ← Reader.value? (cs.length + 1) cs
  if (Reader.skipBlanks rest).isEmpty then some v else none

def ofText? (s : String) : Option Json := ofChars? s.toList

end DoubleEntry.Json
