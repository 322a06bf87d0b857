import DoubleEntry.Config.Layer
import DoubleEntry.Proofs.Config.Setting

/-!
What the keys of a layer put at a setting. A key names a setting by its path, or through a table for
its section. A layer that keeps to the shape of the settings changes a setting only by what it puts
there, and replaces what lay there before; whatever else it does depends only on what lies beside
the setting.
-/

namespace DoubleEntry

open Text ConfigTree

/-- A step whose name is in lower case. -/
def ConfigStep.lowered : ConfigStep → ConfigStep
  | .key name => .key (lowercase name)
  | .index position => .index position

variable {x : Setting} {key : ConfigPath × ConfigTree} {layer : ConfigLayer}
  {tree other merged : ConfigTree} {o : Overflow}

namespace Setting

/-- The names that lead to a setting. -/
def names (x : Setting) : List String := [x.table, x.field]

/-- What a key puts at a setting, in any case: what it holds itself, if it is the path of the
setting, or what the table for the section holds in the setting's field. -/
def puts (x : Setting) (key : ConfigPath × ConfigTree) : List ConfigTree :=
  match key.1.map ConfigStep.lowered with
  | [.key name] => if name = x.table then underKey x.field key.2.entries else []
  | [.key name, .key field] => if name = x.table ∧ field = x.field then [key.2] else []
  | _ => []

/-- The key without what it puts at a setting. If nothing else is left of it, it goes as well. -/
def strip (x : Setting) (key : ConfigPath × ConfigTree) : Option (ConfigPath × ConfigTree) :=
  match key.1.map ConfigStep.lowered with
  | [.key name] =>
      if name = x.table then
        if (key.2.without x.field).entries.isEmpty then none
        else some (key.1, key.2.without x.field)
      else some key
  | [.key name, .key field] => if name = x.table ∧ field = x.field then none else some key
  | _ => some key

/-- How a key that keeps to the shape of a setting stands to it: it is for something else, or holds
a table for the section, or it is for another field of the section, or for the setting. -/
inductive Reach (x : Setting) : ConfigPath × ConfigTree → Prop where
  | elsewhere {name : String} (apart : lowercase name ≠ x.table) (rest : ConfigPath)
      (above : ConfigTree) : Reach x (.key name :: rest, above)
  | whole {name : String} (same : lowercase name = x.table) (entries : List (String × ConfigTree))
      (origin : Option ConfigOrigin) : Reach x ([.key name], .table entries origin)
  | sibling {name field : String} (same : lowercase name = x.table)
      (apart : lowercase field ≠ x.field) (rest : ConfigPath) (above : ConfigTree) :
      Reach x (.key name :: .key field :: rest, above)
  | own {name field : String} (same : lowercase name = x.table)
      (field_eq : lowercase field = x.field) (above : ConfigTree) :
      Reach x ([.key name, .key field], above)

/-- What lies beside a setting: under other names, and in the other fields of its section. -/
def beside (x : Setting) (tree : ConfigTree) :
    (String → Option ConfigTree) × (String → Option ConfigTree) :=
  (fun name => if name = x.table then none else tree.get? name,
    fun field => if field = x.field then none else (tree.get? x.table).bind (·.get? field))

end Setting

namespace ConfigLayer

/-- What the keys of a layer put at a setting. -/
def puts (layer : ConfigLayer) (x : Setting) : List ConfigTree := layer.flatMap x.puts

/-- What a layer has at a setting. -/
def value? (layer : ConfigLayer) (x : Setting) : Option ConfigTree := (layer.puts x).head?

/-- The layer without what it has at a setting. -/
def without (layer : ConfigLayer) (x : Setting) : ConfigLayer := layer.filterMap x.strip

/-- Some key of the layer has a position that a list need not have. -/
def Oversteps (layer : ConfigLayer) : Prop :=
  ∃ key ∈ layer, ∃ position, ConfigStep.index position ∈ key.1 ∧ ConfigTree.Oversteps position

end ConfigLayer
end DoubleEntry
