import DoubleEntry.Decimal.Basic
import DoubleEntry.Text.Digits

/-!
Decimals as text. The plain form is a sign, digits with at most one point among them, and
underscores after the first digit. Fraction digits beyond what the mantissa holds are rounded away.
The exponent form is a plain form with a power of ten behind it. Writing shows every digit of the
scale.
-/

namespace DoubleEntry.Decimal

open DoubleEntry.Text

/-- The characters before and after the point of a plain form, underscores still in place. -/
structure PlainForm where
  negative : Bool
  whole : List Char
  fraction : List Char

/-- What may follow the first digit on either side of the point. -/
def isDigitOrGap (c : Char) : Bool := isDigit c || c == '_'

def splitSign : List Char → Bool × List Char
  | '-' :: cs => (true, cs)
  | '+' :: cs => (false, cs)
  | cs => (false, cs)

/-- Splits at the point; the first character that is not the point must be a digit. -/
def plainForm? (cs : List Char) : Option PlainForm :=
  let (negative, body) := splitSign cs
  let whole := body.takeWhile (· != '.')
  let fraction := (body.dropWhile (· != '.')).drop 1
  let first := (whole ++ fraction).head?
  if first.any isDigit && (whole ++ fraction).all isDigitOrGap then
    some ⟨negative, whole, fraction⟩
  else none

/-- Takes one more digit up if `up`. A mantissa that overflows thereby loses its last digit. -/
def roundedUp (negative up : Bool) (mantissa scale : Nat) : Option Decimal :=
  let mantissa := if up then mantissa + 1 else mantissa
  if mantissa < pow2 96 then ofParts? negative mantissa scale
  else if scale = 0 then none
  else ofParts? negative ((mantissa + 4) / 10) (scale - 1)

/-- Whether the first digit that does not fit rounds up. A gap counts as zero. -/
def roundsUp (c : Char) : Bool := isDigit c && 5 ≤ digitValue c

/-- Takes fraction digits while the mantissa and the scale hold them, then rounds. -/
def takeFraction (negative : Bool) (mantissa scale : Nat) : List Char → Option Decimal
  | [] => ofParts? negative mantissa scale
  | c :: cs =>
      if scale = roundingScale then roundedUp negative (roundsUp c) mantissa scale
      else if c = '_' then takeFraction negative mantissa scale cs
      else if 10 * mantissa + digitValue c < pow2 96 then
        takeFraction negative (10 * mantissa + digitValue c) (scale + 1) cs
      else roundedUp negative (roundsUp c) mantissa scale

/-- A zero that is read has no sign. -/
def unsignedZero (d : Decimal) : Decimal := if d.isZero then d.abs else d

def ofPlainForm? (p : PlainForm) : Option Decimal :=
  let whole := ofDigits (p.whole.filter isDigit)
  if whole < pow2 96 then
    (takeFraction p.negative whole 0 p.fraction).map unsignedZero
  else none

def ofPlain? (cs : List Char) : Option Decimal := plainForm? cs >>= ofPlainForm?

def isExponentMark (c : Char) : Bool := c == 'e' || c == 'E'

/-- Rounds a half away from zero to a scale no larger than the decimal's own. What becomes zero
keeps its sign. -/
def roundedTo (d : Decimal) (scale : Nat) : Option Decimal :=
  let unit := pow10 (d.scale - scale)
  ofParts? d.negative ((2 * d.mantissa + unit) / (2 * unit)) scale

/-- An unsigned exponent of at most 28; a plus sign may stand before it. -/
def exponent? (cs : List Char) : Option Nat :=
  let cs := match cs with
    | '+' :: rest => rest
    | _ => cs
  (natural? cs).filter (· ≤ roundingScale)

/-- The decimal times ten to the power `-exponent`. Digits beyond the largest scale are rounded. -/
def scaledDown (d : Decimal) (exponent : Nat) : Option Decimal := do
  let d ←
    if d.scale + exponent ≤ roundingScale then some d else d.roundedTo (roundingScale - exponent)
  ofParts? d.negative d.mantissa (d.scale + exponent)

/-- The decimal times ten to the power `exponent`, without fraction digits if the point moves
beyond the last digit. -/
def scaledUp (d : Decimal) (exponent : Nat) : Option Decimal :=
  if exponent ≤ d.scale then ofParts? d.negative d.mantissa (d.scale - exponent)
  else ofParts? d.negative (d.mantissa * pow10 (exponent - d.scale)) 0

def ofExponentForm? (cs : List Char) : Option Decimal :=
  let base := cs.takeWhile (!isExponentMark ·)
  match cs.dropWhile (!isExponentMark ·) with
  | [] => none
  | _ :: '-' :: exponent => do (← ofPlain? base).scaledDown (← exponent? exponent)
  | _ :: exponent => do (← ofPlain? base).scaledUp (← exponent? exponent)

def ofChars? (cs : List Char) : Option Decimal := ofPlain? cs <|> ofExponentForm? cs

/-- Reads a plain form or an exponent form. -/
def ofText? (s : String) : Option Decimal := ofChars? s.toList

/-- The sign, at least one digit before the point, and exactly `scale` digits after it. -/
def toChars (d : Decimal) : List Char :=
  let ds := padded (d.scale + 1) d.mantissa
  let whole := ds.take (ds.length - d.scale)
  let fraction := ds.drop (ds.length - d.scale)
  (if d.negative then ['-'] else []) ++ whole ++ (if fraction.isEmpty then [] else '.' :: fraction)

def toText (d : Decimal) : String := String.ofList d.toChars

/-- A text has room for the digits of this number: for no more than thirty after the point. -/
def HasText (d : Decimal) : Prop := d.scale ≤ 30

instance (d : Decimal) : Decidable d.HasText := inferInstanceAs (Decidable (_ ≤ _))

instance : ToString Decimal := ⟨toText⟩

end DoubleEntry.Decimal
