import DoubleEntry.Number
import DoubleEntry.Text.Digits

/-!
Socket addresses: an address of version 4 or 6, and a port. The text of an address is unique,
although some addresses can be written in several ways: of version 6, the longest run of zero groups
is left out.
-/

namespace DoubleEntry

open Text

inductive SocketAddress where
  /-- Four numbers below 256. -/
  | version4 (octets : List Nat) (port : Nat)
  /-- Eight numbers below 65536, and the number of a network zone, zero for none. -/
  | version6 (groups : List Nat) (zone port : Nat)
  deriving DecidableEq, Repr

namespace SocketAddress

/-- Reads from the front of a text and leaves the rest. -/
abbrev Reading (α : Type) := List Char → Option (α × List Char)

/-- A number below `bound` with at most `width` digits, if there is such a limit. -/
def readNumber (radix bound : Nat) (width : Option Nat) : Reading Nat := fun cs =>
  let ds := (cs.takeWhile fun c => (digitIn? radix c).isSome).filterMap (digitIn? radix)
  let value := ds.foldl (fun n d => radix * n + d) 0
  if ds.isEmpty || bound ≤ value || width.any (· < ds.length) then none
  else some (value, cs.drop ds.length)

def readChar (c : Char) : Reading Unit
  | [] => none
  | d :: cs => if d = c then some ((), cs) else none

/-- A number below 256 without a leading zero. -/
def readOctet : Reading Nat := fun cs => do
  let (value, rest) ← readNumber 10 256 (some 3) cs
  if cs.head? = some '0' ∧ rest.length + 1 < cs.length then none else some (value, rest)

def readVersion4 : Reading (List Nat) := fun cs => do
  let (a, cs) ← readOctet cs
  let (_, cs) ← readChar '.' cs
  let (b, cs) ← readOctet cs
  let (_, cs) ← readChar '.' cs
  let (c, cs) ← readOctet cs
  let (_, cs) ← readChar '.' cs
  let (d, cs) ← readOctet cs
  some ([a, b, c, d], cs)

/-- Groups of version 6 as far as they go. The last two may be written as an address of
version 4, and the flag says whether they are. -/
structure Groups where
  groups : List Nat
  embedded : Bool
  rest : List Char

/-- Reads at most `room` further groups. -/
def readGroups : Nat → List Nat → List Char → Groups
  | 0, read, cs => ⟨read, false, cs⟩
  | room + 1, read, cs =>
      let next := if read.isEmpty then some ((), cs) else readChar ':' cs
      let embedded := if room = 0 then none else next.bind fun (_, cs) => readVersion4 cs
      match embedded with
      | some (octets, rest) =>
          match octets with
          | [a, b, c, d] => ⟨read ++ [256 * a + b, 256 * c + d], true, rest⟩
          | _ => ⟨read, false, cs⟩
      | none =>
          match next.bind fun (_, cs) => readNumber 16 (pow2 16) (some 4) cs with
          | some (group, rest) => readGroups room (read ++ [group]) rest
          | none => ⟨read, false, cs⟩

/-- Eight groups, or fewer around a double colon that stands for at least one zero group. -/
def readVersion6 : Reading (List Nat) := fun cs => do
  let head := readGroups 8 [] cs
  if head.groups.length = 8 then some (head.groups, head.rest)
  else if head.embedded then none
  else
    let (_, cs) ← readChar ':' head.rest
    let (_, cs) ← readChar ':' cs
    let tail := readGroups (7 - head.groups.length) [] cs
    let gap := 8 - head.groups.length - tail.groups.length
    some (head.groups ++ List.replicate gap 0 ++ tail.groups, tail.rest)

/-- Whether a text is an address without a port. -/
def isHostAddress (cs : List Char) : Bool :=
  (readVersion4 cs).any (·.2.isEmpty) || (readVersion6 cs).any (·.2.isEmpty)

def readPort : Reading Nat := fun cs => do
  let (_, cs) ← readChar ':' cs
  readNumber 10 (pow2 16) none cs

def readZone : Reading Nat := fun cs => do
  let (_, cs) ← readChar '%' cs
  readNumber 10 (pow2 32) none cs

def readAddress4 : Reading SocketAddress := fun cs => do
  let (octets, cs) ← readVersion4 cs
  let (port, cs) ← readPort cs
  some (version4 octets port, cs)

def readAddress6 : Reading SocketAddress := fun cs => do
  let (_, cs) ← readChar '[' cs
  let (groups, cs) ← readVersion6 cs
  let (zone, cs) := (readZone cs).getD (0, cs)
  let (_, cs) ← readChar ']' cs
  let (port, cs) ← readPort cs
  some (version6 groups zone port, cs)

def ofText? (s : String) : Option SocketAddress :=
  match (readAddress4 s.toList).or (readAddress6 s.toList) with
  | some (address, []) => some address
  | _ => none

def version4Text (octets : List Nat) : String :=
  ".".intercalate (octets.map fun o => String.ofList (digits o))

def groupsText (groups : List Nat) : String :=
  ":".intercalate (groups.map fun g => String.ofList (Nat.toDigits 16 g))

/-- The first of the longest runs of zeros: where it starts and how long it is. -/
def longestZeroRun (groups : List Nat) : Nat × Nat :=
  (List.range groups.length).foldl
    (fun best start =>
      let length := ((groups.drop start).takeWhile (· == 0)).length
      if best.2 < length then (start, length) else best)
    (0, 0)

def version6Text (groups : List Nat) : String :=
  match groups with
  | [0, 0, 0, 0, 0, 0xffff, high, low] =>
      "::ffff:" ++ version4Text [high / 256, high % 256, low / 256, low % 256]
  | _ =>
      let (start, length) := longestZeroRun groups
      if length ≤ 1 then groupsText groups
      else groupsText (groups.take start) ++ "::" ++ groupsText (groups.drop (start + length))

def toText : SocketAddress → String
  | version4 octets port => s!"{version4Text octets}:{port}"
  | version6 groups zone port =>
      let zoneText := if zone = 0 then "" else s!"%{zone}"
      s!"[{version6Text groups}{zoneText}]:{port}"

end SocketAddress
end DoubleEntry
