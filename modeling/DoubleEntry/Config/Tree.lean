import DoubleEntry.Arithmetic
import DoubleEntry.Config.Path
import DoubleEntry.Json.Basic
import DoubleEntry.Text.Lowercase

/-!
Configured values as a tree of tables and lists. A value is put at the end of a path: a table is
then joined with what lies there key by key, and anything else replaces it, also a null. Keys of
tables do not distinguish case. What stands in the way of a path gives way to a table or a list.
-/

namespace DoubleEntry

/-- Where a configured value was read. -/
inductive ConfigOrigin where
  | defaultFile
  | localFile
  | environment
  deriving DecidableEq, Repr

/-- The name of a file is that of its only format here, JSON. -/
def ConfigOrigin.description : ConfigOrigin → String
  | defaultFile => "config/default.json"
  | localFile => "config/local.json"
  | environment => "the environment"

/-- A value is no list and no table. What was made on the way has no origin. -/
inductive ConfigTree where
  | value (v : Json) (origin : Option ConfigOrigin)
  | list (items : List ConfigTree) (origin : Option ConfigOrigin)
  | table (entries : List (String × ConfigTree)) (origin : Option ConfigOrigin)
  deriving Inhabited

namespace ConfigTree

def empty : ConfigTree := .table [] none

/-- What lies at a position that nothing was put at. -/
def unset : ConfigTree := .value .null none

/-- The entries of a table; anything else has none. -/
def entries : ConfigTree → List (String × ConfigTree)
  | .table entries _ => entries
  | _ => []

/-- The items of a list; anything else has none. -/
def items : ConfigTree → List ConfigTree
  | .list items _ => items
  | _ => []

def get? (tree : ConfigTree) (key : String) : Option ConfigTree :=
  (tree.entries.find? (·.1 == key)).map (·.2)

/-- Replaces the entry with this key, or adds it at the end. -/
def setEntry (key : String) (child : ConfigTree) :
    List (String × ConfigTree) → List (String × ConfigTree)
  | [] => [(key, child)]
  | e :: rest => if e.1 == key then (key, child) :: rest else e :: setEntry key child rest

/-- Puts a child under a key. What is no table gives way to one. -/
def set (tree : ConfigTree) (key : String) (child : ConfigTree) : ConfigTree :=
  match tree with
  | .table entries origin => .table (setEntry key child entries) origin
  | _ => .table [(key, child)] none

/-- Puts a child at a position of a list, which grows as far as it takes. What is no list gives way
to one. -/
def setItem (tree : ConfigTree) (position : Nat) (child : ConfigTree) : ConfigTree :=
  let grown (items : List ConfigTree) :=
    (items ++ List.replicate (position + 1 - items.length) unset).set position child
  match tree with
  | .list items origin => .list (grown items) origin
  | _ => .list (grown []) none

/-- So many items and no more has a list. -/
def longestList : Int := 96076792050570581

/-- The place of a position in a list of some length. -/
def placeOf (position : Int) (length : Nat) : Except Overflow Nat :=
  if position < 0 then
    if position.natAbs ≤ length then .ok (length - position.natAbs) else .error .subtraction
  else if position < longestList then .ok position.toNat
  else .error .capacity

mutual

/-- What is configured once `above` is laid over `below`. -/
def overlay (below : ConfigTree) : ConfigTree → ConfigTree
  | .value v origin => .value v origin
  | .list items origin => .list items origin
  | .table entries _ => overlayEntries below entries

/-- Lays the entries of a table over `below`, one after the other. A table without entries leaves
what is there. -/
def overlayEntries (below : ConfigTree) : List (String × ConfigTree) → ConfigTree
  | [] => below
  | (name, above) :: rest =>
      let key := Text.lowercase name
      overlayEntries (below.set key (overlay ((below.get? key).getD empty) above)) rest

end

/-- Puts a tree at the end of a path: over what a key has there, in place of what a position has. -/
def place (above : ConfigTree) : ConfigPath → ConfigTree → Except Overflow ConfigTree
  | [], _ => .ok above
  | [.key name], tree =>
      let key := Text.lowercase name
      .ok (tree.set key (overlay ((tree.get? key).getD empty) above))
  | .key name :: rest, tree => do
      let key := Text.lowercase name
      return tree.set key (← place above rest ((tree.get? key).getD unset))
  | .index position :: rest, tree => do
      let i ← placeOf position tree.items.length
      return tree.setItem i (← place above rest (tree.items[i]?.getD unset))

mutual

/-- A document as a tree. Of two members with one key the last counts. -/
def ofJson (origin : ConfigOrigin) : Json → ConfigTree
  | .object members => .table (ofMembers origin [] members) (some origin)
  | .array items => .list (ofItems origin items) (some origin)
  | v => .value v (some origin)

/-- The members of an object behind the entries `before`. -/
def ofMembers (origin : ConfigOrigin) (before : List (String × ConfigTree)) :
    List (String × Json) → List (String × ConfigTree)
  | [] => before
  | (key, v) :: rest => ofMembers origin (setEntry key (ofJson origin v) before) rest

def ofItems (origin : ConfigOrigin) : List Json → List ConfigTree
  | [] => []
  | v :: rest => ofJson origin v :: ofItems origin rest

end

end ConfigTree
end DoubleEntry
