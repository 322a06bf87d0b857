import DoubleEntry.Log.Event
import DoubleEntry.Text.Alphanumeric
import DoubleEntry.Text.Blank
import DoubleEntry.Text.Digits

/-!
Directives of a log filter. A directive is a level, or it says what it is for and perhaps a level:
`target[span{field=value}]=level`, of which every part but one may be missing. Without a level it
lets everything through.
-/

namespace DoubleEntry

open Text

/-- What a directive asks of the value of a field. -/
inductive FieldTest where
  | bool (b : Bool)
  | integer (n : Int)
  | pattern (text : String)
  deriving DecidableEq, Repr

/-- A field that has to be there, perhaps with a value. -/
structure FieldMatch where
  name : String
  test : Option FieldTest
  deriving DecidableEq, Repr

structure LogDirective where
  /-- The beginning of the targets that it is for; without it all of them. -/
  target : Option String := none
  /-- The name of the spans that it is for; without it all of them. -/
  span : Option String := none
  fields : List FieldMatch := []
  /-- How detailed a level may be, zero for no level at all. -/
  detail : Nat
  deriving DecidableEq, Repr

namespace FieldTest

/-- A number with an optional sign. -/
def integer? (s : String) : Option Int :=
  match s.toList with
  | '-' :: ds => (natural? ds).map fun n => -(n : Int)
  | '+' :: ds => (natural? ds).map Int.ofNat
  | ds => (natural? ds).map Int.ofNat

/-- Truth values and integers of 64 bits are themselves, all else is a pattern. -/
def ofText (s : String) : FieldTest :=
  if s = "true" then bool true
  else if s = "false" then bool false
  else
    match (integer? s).filter fun n => decide (IsInt64 n ∨ IsWord64 n) with
    | some n => integer n
    | none => pattern s

/-- The patterns that every text matches. -/
def openPatterns : List String := [".*", ".+"]

/-- Whether a value passes. Only texts are compared with patterns, and no text is known in advance
but that it is there. -/
def holds : FieldTest → FieldValue → Bool
  | integer n, .int m => n == m
  | pattern p, .shown _ | pattern p, .quoted _ => openPatterns.contains p
  | _, _ => false

end FieldTest

/-- The name and the value of a field, between which an equals sign stands. -/
def FieldMatch.ofText (s : String) : FieldMatch :=
  match s.splitOn "=" with
  | name :: value :: _ => ⟨name, some (.ofText value)⟩
  | [name] => ⟨name, none⟩
  | [] => ⟨s, none⟩

namespace LogDirective

/-- The most detailed level. -/
def fullDetail : Nat := LogLevel.trace.detail

/-- The detail that a name stands for; the case does not matter. -/
def namedDetail? (name : String) : Option Nat :=
  ["off", "error", "warn", "info", "debug", "trace"].findIdx? (· == String.map Char.toLower name)

/-- A level by its number, perhaps behind a plus, or by its name. -/
def detail? (s : String) : Option Nat :=
  let ds := match s.toList with
    | '+' :: ds => ds
    | ds => ds
  (natural? ds).filter (· ≤ fullDetail) <|> namedDetail? s

/-! Reading goes from character to character and keeps where the part began that it is in. Places
are counted in bytes. -/

inductive Reading where
  | start
  /-- In a level or in a target. -/
  | word (since : Nat)
  | span (since : Nat)
  | field (since : Nat)
  /-- Behind the fields. -/
  | fields
  /-- Behind the bracket that closes the span. -/
  | closed
  | level (since : Nat)
  deriving DecidableEq, Repr

/-- What a text has from the place `first` on. -/
def dropBytes : Nat → List Char → List Char
  | 0, cs => cs
  | _, [] => []
  | first, c :: cs => dropBytes (first - c.utf8Size) cs

/-- What a text has before the place `last`. -/
def takeBytes : Nat → List Char → List Char
  | 0, _ => []
  | _, [] => []
  | last, c :: cs => if c.utf8Size ≤ last then c :: takeBytes (last - c.utf8Size) cs else []

def part (text : List Char) (first last : Nat) : String :=
  String.ofList (dropBytes first (takeBytes last text))

def isWordStart (c : Char) : Bool := isAlphanumeric c || c == '-' || c == ':' || c == '_'

/-- Reads one more character, which stands at `place`. -/
def step (text : List Char) (place : Nat) (c : Char) :
    LogDirective × Reading → Option (LogDirective × Reading)
  | (d, .start) =>
      if c = '[' then some (d, .span (place + 1))
      else if isWordStart c then some (d, .word place)
      else none
  | (d, .word since) =>
      if c = '=' then some ({ d with target := some (part text since place) }, .level (place + 1))
      else if c = '[' then
        some ({ d with target := some (part text since place) }, .span (place + 1))
      else some (d, .word since)
  | (d, .span since) =>
      if c = ']' then some ({ d with span := some (part text since place) }, .closed)
      else if c = '\x7b' then
        let name := part text since place
        some ({ d with span := if name.isEmpty then none else some name }, .field (place + 1))
      else some (d, .span since)
  | (d, .field since) =>
      if c = '\x7d' then
        let field := part text since place
        if field.isEmpty then none
        else some ({ d with fields := d.fields ++ [.ofText field] }, .fields)
      else some (d, .field since)
  | (d, .fields) => if c = ']' then some (d, .closed) else none
  | (d, .closed) => if c = '=' then some (d, .level (place + 1)) else none
  | (d, .level since) => some (d, .level since)

/-- Reads the characters from `place` on. -/
def readFrom (text : List Char) (place : Nat) (state : LogDirective × Reading) :
    List Char → Option (LogDirective × Reading)
  | [] => some state
  | c :: cs => do readFrom text (place + c.utf8Size) (← step text place c state) cs

/-- What has been read, if a directive may end there. A word that is no level is a target. -/
def finished (text : List Char) : LogDirective × Reading → Option LogDirective
  | (d, .word since) =>
      let word := String.ofList (dropBytes since text)
      match detail? word with
      | some detail => some { d with detail := detail }
      | none => some { d with target := some word }
  | (d, .level since) =>
      let word := String.ofList (dropBytes since text)
      if word.isEmpty then some d
      else (detail? word).map fun detail => { d with detail := detail }
  | (d, .closed) => some d
  | _ => none

/-- Reads a directive. Blanks around it are passed over where it is read, and yet count among its
places. -/
def ofText? (s : String) : Option LogDirective :=
  let text := s.toList
  readFrom text 0 ({ detail := fullDetail }, .start) (trim text) >>= finished text

/-! What a directive is for. -/

def fieldNames (d : LogDirective) : List String := d.fields.map (·.name)

/-- It follows what happens in spans. -/
def isDynamic (d : LogDirective) : Bool := d.span.isSome || !d.fields.isEmpty

/-- It looks at each report alone. -/
def isStatic (d : LogDirective) : Bool := d.span.isNone && d.fields.all (·.test.isNone)

def isFor (d : LogDirective) (target : String) : Bool :=
  d.target.all fun t => t.toList.isPrefixOf target.toList

/-- Whether a list of names does not come after another in the order of dictionaries. -/
def notAfter : List String → List String → Bool
  | [], _ => true
  | _ :: _, [] => false
  | a :: as, b :: bs => if a = b then notAfter as bs else a < b

/-- Of two directives for one target, whether the first is at least as specific: it names more of
the target, or else more fields, or else fields that come later in order. -/
def isAsSpecific (a b : LogDirective) : Bool :=
  let size (d : LogDirective) : Nat := d.target.elim 0 (·.utf8ByteSize + 1)
  if size a ≠ size b then size b < size a
  else if a.fields.length ≠ b.fields.length then b.fields.length < a.fields.length
  else notAfter b.fieldNames a.fieldNames

/-- Two directives that are for the same, so that the later one counts. -/
def isSameAs (a b : LogDirective) : Bool :=
  a.target == b.target && a.span == b.span && a.fields == b.fields

end LogDirective
end DoubleEntry
