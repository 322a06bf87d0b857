/-!
Characters as bytes in UTF-8, and bytes as characters. Bytes that are no UTF-8 fall into pieces,
each as long as a character could still begin with it. One reading stops at the first such piece;
the other puts the replacement character in its place.
-/

namespace DoubleEntry.Text

def utf8Bytes (cs : List Char) : List UInt8 := cs.flatMap String.utf8EncodeChar

/-- The first bytes of a character: how many they are, the number that they stand for, how many
bytes are missing after them, and the range of the next one. -/
structure Utf8Start where
  length : Nat
  value : Nat
  missing : Nat
  least : Nat := 0x80
  greatest : Nat := 0xBF

namespace Utf8Start

/-- The start that is the first byte of a character of several bytes. The ranges leave out longer
forms of shorter characters, surrogates, and numbers above those of all characters. -/
def ofByte? (b : Nat) : Option Utf8Start :=
  if b < 0xC2 then none
  else if b < 0xE0 then some ⟨1, b - 0xC0, 1, 0x80, 0xBF⟩
  else if b < 0xF0 then
    some ⟨1, b - 0xE0, 2, if b = 0xE0 then 0xA0 else 0x80, if b = 0xED then 0x9F else 0xBF⟩
  else if b < 0xF5 then
    some ⟨1, b - 0xF0, 3, if b = 0xF0 then 0x90 else 0x80, if b = 0xF4 then 0x8F else 0xBF⟩
  else none

def admits (start : Utf8Start) (b : Nat) : Bool := start.least ≤ b && b ≤ start.greatest

/-- The start with one byte more. -/
def followed (start : Utf8Start) (b : Nat) : Utf8Start :=
  { length := start.length + 1, value := 64 * start.value + (b - 0x80),
    missing := start.missing - 1 }

end Utf8Start

inductive Utf8Piece where
  | char (c : Char)
  /-- As many bytes as a character could begin with, and then a byte that does not go on. -/
  | malformed (length : Nat)
  /-- A character that the end cuts off. -/
  | unfinished
  deriving DecidableEq, Repr

/-- The pieces that a byte completes, and the start that is open behind it. -/
abbrev Utf8Step : Type := List Utf8Piece × Option Utf8Start

/-- A byte with no start before it. -/
def utf8First (b : Nat) : Utf8Step :=
  if b < 0x80 then ([.char (Char.ofNat b)], none)
  else
    match Utf8Start.ofByte? b with
    | some start => ([], some start)
    | none => ([.malformed 1], none)

def utf8Next : Option Utf8Start → Nat → Utf8Step
  | none, b => utf8First b
  | some start, b =>
      if start.admits b then
        let longer := start.followed b
        if longer.missing = 0 then ([.char (Char.ofNat longer.value)], none) else ([], some longer)
      else (.malformed start.length :: (utf8First b).1, (utf8First b).2)

def utf8Pieces (start : Option Utf8Start) : List UInt8 → List Utf8Piece
  | [] => if start.isSome then [.unfinished] else []
  | b :: bs => (utf8Next start b.toNat).1 ++ utf8Pieces (utf8Next start b.toNat).2 bs

inductive Utf8Fault where
  | malformed (length index : Nat)
  | unfinished (index : Nat)
  deriving DecidableEq, Repr

def Utf8Fault.message : Utf8Fault → String
  | malformed length index => s!"invalid utf-8 sequence of {length} bytes from index {index}"
  | unfinished index => s!"incomplete utf-8 byte sequence from index {index}"

/-- The characters of the pieces, the first of which starts at a byte. -/
def utf8Chars (index : Nat) : List Utf8Piece → Except Utf8Fault (List Char)
  | [] => .ok []
  | .char c :: pieces => (c :: ·) <$> utf8Chars (index + c.utf8Size) pieces
  | .malformed length :: _ => .error (.malformed length index)
  | .unfinished :: _ => .error (.unfinished index)

/-- The text that the bytes stand for, if they stand for one. -/
def ofUtf8 (bs : List UInt8) : Except Utf8Fault (List Char) := utf8Chars 0 (utf8Pieces none bs)

def replacementChar : Char := '\uFFFD'

def Utf8Piece.replaced : Utf8Piece → Char
  | char c => c
  | _ => replacementChar

/-- The text with replacements for what is no UTF-8. -/
def ofUtf8Replacing (bs : List UInt8) : List Char := (utf8Pieces none bs).map Utf8Piece.replaced

end DoubleEntry.Text
