import DoubleEntry.Number
import DoubleEntry.Text.Digits

/-!
Double-precision numbers: their shortest decimal digits, and the value of a numeral read quickly.
The shortest digits are found by exact arithmetic on the interval of reals that round to the number.
The quick reading keeps the digits that fit 64 bits and then rounds once per scaling step, so it may
miss the nearest number.
-/

namespace DoubleEntry.Binary64

open Text

/-- A positive number as `mantissa * 2 ^ exponent`. -/
structure Parts where
  mantissa : Nat
  exponent : Int

/-- The parts of a number's magnitude; none for infinities and what is no number. -/
def parts? (f : Float) : Option Parts :=
  let bits := f.toBits.toNat % pow2 63
  let biased : Nat := bits / pow2 52
  let fraction := bits % pow2 52
  if biased = 2047 then none
  else if biased = 0 then some ⟨fraction, -1074⟩
  else some ⟨pow2 52 + fraction, (biased : Int) - 1075⟩

/-- Scaled by a quarter of the distance to the next number: the number and the ends of the interval
that rounds to it. -/
structure Interval where
  low : Nat
  middle : Nat
  high : Nat
  /-- Whether the ends belong to the interval. -/
  closed : Bool

def Parts.interval (p : Parts) : Interval :=
  let narrow := p.mantissa = pow2 52 ∧ -1074 < p.exponent
  { low := 4 * p.mantissa - (if narrow then 1 else 2)
    middle := 4 * p.mantissa
    high := 4 * p.mantissa + 2
    closed := p.mantissa % 2 = 0 }

/-- The nearest multiple of `10 ^ place` that rounds to the number, as a count of that power. Of two
that are equally near it is the larger one. -/
def nearestOnGrid? (p : Parts) (place : Int) : Option Nat :=
  let interval := p.interval
  let quarter := p.exponent - 2
  let left := pow2 quarter.toNat * pow10 (-place).toNat
  let right := pow2 (-quarter).toNat * pow10 place.toNat
  let below := interval.middle * left / right
  let holds (count : Nat) : Bool :=
    let point := count * right
    if interval.closed then interval.low * left ≤ point && point ≤ interval.high * left
    else interval.low * left < point && point < interval.high * left
  let gap (count : Nat) : Nat := ((count * right : Int) - interval.middle * left).natAbs
  if holds below && (!holds (below + 1) || gap below < gap (below + 1)) then some below
  else if holds (below + 1) then some (below + 1)
  else none

/-- The fewest digits that round to the number, and the power of ten of the last one. -/
def shortest? (p : Parts) : Option (Nat × Int) :=
  (List.range 640).findSome? fun (i : Nat) =>
    let place := 310 - (i : Int)
    match nearestOnGrid? p place with
    | some (count + 1) => some (count + 1, place)
    | _ => none

/-- The shortest digits written without an exponent. -/
def plainChars? (f : Float) : Option (List Char) := do
  let p ← parts? f
  let sign := if f.toBits.toNat ≥ pow2 63 then ['-'] else []
  if p.mantissa = 0 then some (sign ++ ['0'])
  else
    let (count, place) ← shortest? p
    if 0 ≤ place then some (sign ++ digits count ++ List.replicate place.toNat '0')
    else
      let ds := padded (place.natAbs + 1) count
      let whole := ds.length - place.natAbs
      some (sign ++ ds.take whole ++ '.' :: ds.drop whole)

/-- Digits read into 64 bits as far as they fit, and how many are left. -/
def accumulate (significand : Nat) : List Char → Nat × Nat
  | [] => (significand, 0)
  | c :: cs =>
      if 10 * significand + digitValue c < pow2 64 then
        accumulate (10 * significand + digitValue c) cs
      else (significand, cs.length + 1)

def powerOfTen (k : Nat) : Float := Float.ofScientific 1 false k

/-- The significand times a power of ten, or none if the result is too large. Beyond the largest
power the number is scaled in steps. -/
def scaled? : Nat → Float → Int → Option Float
  | 0, _, _ => none
  | fuel + 1, f, exponent =>
      if exponent.natAbs ≤ 308 then
        if 0 ≤ exponent then
          let f := f * powerOfTen exponent.toNat
          if f.isInf then none else some f
        else some (f / powerOfTen exponent.natAbs)
      else if f == 0 then some f
      else if 0 ≤ exponent then none
      else scaled? fuel (f / powerOfTen 308) (exponent + 308)

/-- The number that quick reading finds for a numeral with these parts, or none if it is too
large. The exponent is given with its sign. -/
def read? (negative : Bool) (whole fraction : List Char) (exponent : Int) : Option Float := do
  let (significand, dropped) := accumulate 0 whole
  let (significand, left) := accumulate significand fraction
  let shift : Int := (dropped : Int) - (fraction.length - left : Nat)
  let f ←
    if pow2 31 ≤ exponent.natAbs then (if significand = 0 ∨ exponent < 0 then some 0 else none)
    else scaled? 8 (UInt64.ofNat significand).toFloat (shift + exponent)
  some (if negative then -f else f)

end DoubleEntry.Binary64
