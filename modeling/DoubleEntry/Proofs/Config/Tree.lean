import DoubleEntry.Config.Tree
import Mathlib.Tactic.Common

/-!
Looking up what was put into a configuration. What is put at a path changes only what lies under the
first name of the path, and there it depends only on what lay there before. A table reaches the
entries with its keys, whatever their case, and leaves the others. Only a position can make it fail.
-/

namespace DoubleEntry

section Results

variable {α β γ δ ε : Type}

end Results

namespace ConfigTree

open Text

variable {above below tree : ConfigTree} {key : String} {path : ConfigPath} {o : Overflow}

def IsTable (tree : ConfigTree) : Prop := ∃ entries origin, tree = .table entries origin

instance (tree : ConfigTree) : Decidable tree.IsTable :=
  match tree with
  | .table entries origin => .isTrue ⟨entries, origin, rfl⟩
  | .value _ _ | .list _ _ => .isFalse nofun

/-- The values that entries have under a key, whatever the case of theirs. -/
def underKey (key : String) (entries : List (String × ConfigTree)) : List ConfigTree :=
  (entries.filter fun e => lowercase e.1 == key).map (·.2)

/-- A table without the entries under a key, whatever the case of theirs. -/
def without (key : String) : ConfigTree → ConfigTree
  | .table entries origin => .table (entries.filter fun e => lowercase e.1 != key) origin
  | tree => tree

/-- What values that are laid over one another come to. -/
def joined (found : Option ConfigTree) (values : List ConfigTree) : Option ConfigTree :=
  values.foldl (fun found above => some (overlay (found.getD empty) above)) found

/-- What a key puts under the first name of its path, given what lies there. -/
def placed (above : ConfigTree) (rest : ConfigPath) (found : Option ConfigTree) :
    Except Overflow ConfigTree :=
  match rest with
  | [] => .ok (overlay (found.getD empty) above)
  | rest => place above rest (found.getD unset)

/-- A position that no list need have a place for. -/
def Oversteps (position : Int) : Prop := position < 0 ∨ longestList ≤ position

end ConfigTree
end DoubleEntry
