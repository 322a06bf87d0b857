import DoubleEntry.Arithmetic
import DoubleEntry.Decimal.Sum
import DoubleEntry.Decimal.Text
import DoubleEntry.Error.Database

/-!
Amounts as a database writes them. A number travels as a sequence of digits to the base ten
thousand and the count of decimal digits after the point. Reading adds the digits up from the left
and then widens the sum to that count as far as the mantissa allows; a zero has no digits, so that
its scale is lost.
-/

namespace DoubleEntry.Sql

open Text

/-- A decimal as a parameter. -/
def numericText (d : Decimal) : String := if d.isZero then "0" else d.toText

/-- Groups of four digits. The length is a multiple of four. -/
def digitGroups : List Char → List Nat
  | a :: b :: c :: d :: cs => ofDigits [a, b, c, d] :: digitGroups cs
  | _ => []

/-- How many zeros fill a run of digits up to whole groups. -/
def groupPadding (cs : List Char) : List Char := List.replicate ((4 - cs.length % 4) % 4) '0'

/-- The places on either side of the point that a power of ten thousand can have. -/
def farthestPlace : Nat := 7

/-- A digit to the base ten thousand at its place. -/
def placeValue (group : Nat) (place : Int) : Checked DecodeFault Decimal :=
  if farthestPlace < place.natAbs then .fail .tooManyDigits
  else
    let value :=
      if 0 ≤ place then Decimal.ofParts? false (group * pow10 (4 * place.toNat)) 0
      else Decimal.ofParts? false group (4 * place.natAbs)
    value.elim (.halt .decimalProduct) pure

/-- The digits to the base ten thousand that are not zero, each with its place. -/
def placedGroups (whole fraction : List Char) : List (Nat × Int) :=
  let left := digitGroups (groupPadding whole ++ whole)
  let right := digitGroups (fraction ++ groupPadding fraction)
  let placed := (left ++ right).mapIdx fun i group => (group, (left.length : Int) - 1 - (i : Int))
  placed.filter (·.1 ≠ 0)

def sumGroups (groups : List (Nat × Int)) : Checked DecodeFault Decimal :=
  groups.foldlM
    (fun sum (group, place) => do
      (sum.add? (← placeValue group place)).elim (.fail .tooManyDigits) pure)
    Decimal.zero

/-- The value with so many zeros more behind the point, or with as many as fit the mantissa. -/
def widened (d : Decimal) : Nat → Decimal
  | 0 => d
  | more + 1 =>
      match Decimal.ofParts? d.negative (d.mantissa * 10) (d.scale + 1) with
      | some wider => widened wider more
      | none => d

/-- The value with `scale` digits after the point, or with as many as fit. A half is rounded up. -/
def rescaled (d : Decimal) (scale : Nat) : Decimal :=
  if d.scale ≤ scale then widened d (scale - d.scale)
  else
    let unit := pow10 (d.scale - scale)
    (Decimal.ofParts? d.negative ((2 * d.mantissa + unit) / (2 * unit)) scale).getD d

def ofUnsigned (negative : Bool) (cs : List Char) : Checked DecodeFault Decimal := do
  let whole := cs.takeWhile (· != '.')
  let fraction := (cs.dropWhile (· != '.')).drop 1
  if cs.isEmpty || !(whole ++ fraction).all isDigit then throw .notANumber
  let sum ← sumGroups (placedGroups whole fraction)
  if sum.isZero then pure Decimal.zero
  else pure (rescaled { sum with negative := negative } fraction.length)

/-- Reads an amount. -/
def ofNumericText (s : String) : Checked DecodeFault Decimal :=
  match s.toList with
  | '-' :: cs => ofUnsigned true cs
  | cs => ofUnsigned false cs

end DoubleEntry.Sql
