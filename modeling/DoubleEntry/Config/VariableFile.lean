import DoubleEntry.Text.Alphanumeric
import DoubleEntry.Text.Blank

/-!
Files of variables: a name, an equals sign and a value on each line. A value may be quoted, span
several lines then, and refer to variables that are known already. What the environment has is never
changed, and reading ends at the first line that cannot be read.
-/

namespace DoubleEntry.VariableFile

open Text

abbrev Variables : Type := List (String × String)

/-! Lines. A line goes on while a quote is open, and after a blank at its end. -/

inductive LineState where
  | plain
  | escape
  | single
  | singleEscape
  | double
  | doubleEscape
  | blank
  deriving DecidableEq

/-- What a character outside of quotes begins. -/
def LineState.opened (c : Char) : LineState :=
  if c = '\\' then escape else if c = '"' then double else if c = '\'' then single else plain

/-- The state after a character; none where a comment begins. -/
def LineState.next? : LineState → Char → Option LineState
  | plain, c =>
      if isBlank c && c != '\n' && c != '\r' then some blank else some (opened c)
  | blank, c => if c = '#' then none else some (opened c)
  | escape, _ => some plain
  | double, c => some (if c = '\\' then doubleEscape else if c = '"' then plain else double)
  | doubleEscape, _ => some double
  | single, c => some (if c = '\\' then singleEscape else if c = '\'' then plain else single)
  | singleEscape, _ => some single

/-- What a line has before a comment, or the whole line and the state at its end. -/
inductive LineScan where
  | comment (before : List Char)
  | whole (state : LineState)

def scanLine : LineState → List Char → List Char → LineScan
  | state, _, [] => .whole state
  | state, before, c :: cs =>
      match state.next? c with
      | none => .comment before
      | some state => scanLine state (before ++ [c]) cs

/-- The lines of a text, each with its end. -/
def physicalLines : List Char → List (List Char)
  | [] => []
  | c :: cs =>
      if c = '\n' then [c] :: physicalLines cs
      else
        match physicalLines cs with
        | [] => [[c]]
        | line :: lines => (c :: line) :: lines

def withoutEnd (line : List Char) : List Char :=
  match line.reverse with
  | '\n' :: '\r' :: cs => cs.reverse
  | '\n' :: cs => cs.reverse
  | _ => line

/-- Joins the lines that belong together; none stands for a line that does not end. -/
def logicalLines (begun : List Char) (state : LineState) :
    List (List Char) → List (Option (List Char))
  | [] => if state = .plain then [] else [none]
  | line :: lines =>
      let text := begun ++ line
      if (trimStart text).head? = some '#' then some [] :: logicalLines [] .plain lines
      else
        match scanLine state [] line with
        | .comment before => some (begun ++ before) :: logicalLines [] .plain lines
        | .whole .plain => some (withoutEnd text) :: logicalLines [] .plain lines
        | .whole state => logicalLines text state lines

/-! Values. -/

inductive ValueMode where
  | text
  | escape
  | single
  /-- Inside the name of a variable that is referred to. -/
  | name (chars : List Char)
  | bracedName (chars : List Char)
  /-- Behind the value, where only a comment may stand. -/
  | ended

def lookup (known : Variables) (name : List Char) : List Char :=
  ((known.lookup (String.ofList name)).getD "").toList

def escaped? (c : Char) : Option Char :=
  if c = 'n' then some '\n' else if ['\\', '\'', '"', '$', ' '].contains c then some c else none

/-- Reads a value from a mode on. The flag says whether double quotes are open. -/
def readValue? (known : Variables) (inDouble : Bool) : ValueMode → List Char → Option (List Char)
  | .single, [] | .bracedName _, [] => none
  | .name chars, [] => if inDouble then none else some (lookup known chars)
  | _, [] => if inDouble then none else some []
  | .ended, c :: cs =>
      if c = '#' then (if inDouble then none else some [])
      else if c = ' ' ∨ c = '\t' then readValue? known inDouble .ended cs
      else none
  | .escape, c :: cs => do some ((← escaped? c) :: (← readValue? known inDouble .text cs))
  | .single, c :: cs =>
      if c = '\'' then readValue? known inDouble .text cs
      else do some (c :: (← readValue? known inDouble .single cs))
  | .name chars, c :: cs =>
      if isAlphanumeric c then readValue? known inDouble (.name (chars ++ [c])) cs
      else if c = '{' ∧ chars = [] then readValue? known inDouble (.bracedName []) cs
      else
        let value := lookup known chars
        if c = '$' then do some (value ++ (← readValue? known inDouble (.name []) cs))
        else do some (value ++ c :: (← readValue? known inDouble .text cs))
  | .bracedName chars, c :: cs =>
      if c = '}' then do some (lookup known chars ++ (← readValue? known inDouble .text cs))
      else readValue? known inDouble (.bracedName (chars ++ [c])) cs
  | .text, c :: cs =>
      if c = '$' then readValue? known inDouble (.name []) cs
      else if c = '\\' then readValue? known inDouble .escape cs
      else if c = '"' then readValue? known (!inDouble) .text cs
      else if inDouble then do some (c :: (← readValue? known inDouble .text cs))
      else if c = '\'' then readValue? known inDouble .single cs
      else if c = ' ' ∨ c = '\t' then readValue? known inDouble .ended cs
      else do some (c :: (← readValue? known inDouble .text cs))

/-! Assignments. -/

def isNameStart (c : Char) : Bool := c.isAlpha || c == '_'

def isNameChar (c : Char) : Bool := c.isAlphanum || c == '_' || c == '.'

def readName? (cs : List Char) : Option (List Char × List Char) :=
  if cs.head?.any isNameStart then
    some (cs.takeWhile isNameChar, trimStart (cs.dropWhile isNameChar))
  else none

def readEquals? : List Char → Option (List Char)
  | '=' :: cs => some (trimStart cs)
  | _ => none

/-- The name, perhaps behind the word `export`, and what follows the equals sign. -/
def readTarget? (cs : List Char) : Option (List Char × List Char) := do
  let (name, rest) ← readName? cs
  match readEquals? rest with
  | some value => some (name, value)
  | none =>
      if name = "export".toList then
        let (name, rest) ← readName? rest
        some (name, ← readEquals? rest)
      else none

/-- A line sets a variable, sets none, or cannot be read. -/
def readLine? (known : Variables) (line : List Char) : Option (Option (String × String)) :=
  let cs := trim line
  if cs.isEmpty || cs.head? == some '#' then some none
  else do
    let (name, rest) ← readTarget? cs
    let value ←
      if rest.isEmpty || rest.head? == some '#' then some []
      else readValue? known false .text rest
    some (some (String.ofList name, String.ofList value))

/-- Adds a variable unless there is one with its name. -/
def setNew (known : Variables) (name value : String) : Variables :=
  if known.any (·.1 == name) then known else known ++ [(name, value)]

def loadLines (known : Variables) : List (Option (List Char)) → Variables
  | [] | none :: _ => known
  | some line :: lines =>
      match readLine? known line with
      | none => known
      | some none => loadLines known lines
      | some (some (name, value)) => loadLines (setNew known name value) lines

/-- The environment together with what the file sets. -/
def load (known : Variables) (text : String) : Variables :=
  let cs := match text.toList with
    | '\uFEFF' :: cs => cs
    | cs => cs
  loadLines known (logicalLines [] .plain (physicalLines cs))

end DoubleEntry.VariableFile
