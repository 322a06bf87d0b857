import DoubleEntry.Config.Tree
import DoubleEntry.Error.Config

/-!
The layers of a configuration: the default file, which has to be there, the local file, and the
variables of the environment, each over the one before. The keys of a file are paths, and so is the
name of a variable behind `APP__` with each double underscore read as a point.

A file is a JSON object. The layers start from its members, so what other formats say is outside of
them: a `config/default.toml`, which is how the defaults are shipped, has to be given as
`config/default.json`.
-/

namespace DoubleEntry

/-- What a program finds where it is started. -/
structure ConfigSources where
  defaultFile : Option (List (String × Json))
  localFile : Option (List (String × Json))
  environment : List (String × String)

/-- What is put where, one after the other. -/
abbrev ConfigLayer : Type := List (ConfigPath × ConfigTree)

namespace ConfigLayer

def ofFile (origin : ConfigOrigin) (members : List (String × Json)) : ConfigLayer :=
  (ConfigTree.ofMembers origin [] members).map fun (key, tree) => (ConfigPath.ofKey key, tree)

/-- Each double underscore as a point. -/
def pointed : List Char → List Char
  | '_' :: '_' :: cs => '.' :: pointed cs
  | c :: cs => c :: pointed cs
  | [] => []

def variableMark : List Char := "app__".toList

/-- The key that a variable sets, if it is meant for the configuration. -/
def variableKey? (name : String) : Option String :=
  let cs := (Text.lowercase name).toList
  if variableMark.isPrefixOf cs then some (String.ofList (pointed (cs.drop variableMark.length)))
  else none

def ofEnvironment (environment : List (String × String)) : ConfigLayer :=
  environment.filterMap fun (name, v) =>
    (variableKey? name).map fun key =>
      (ConfigPath.ofKey key, .value (.string v) (some .environment))

/-- Puts everything in a layer where it belongs. -/
def laidOver (layer : ConfigLayer) (tree : ConfigTree) : Except Overflow ConfigTree :=
  layer.foldlM (fun tree (path, above) => above.place path tree) tree

end ConfigLayer

namespace ConfigSources

def layers (defaults : List (String × Json)) (sources : ConfigSources) : List ConfigLayer :=
  [ConfigLayer.ofFile .defaultFile defaults,
    ConfigLayer.ofFile .localFile (sources.localFile.getD []),
    ConfigLayer.ofEnvironment sources.environment]

/-- All layers in one tree. -/
def tree (sources : ConfigSources) : Checked ConfigFailure ConfigTree :=
  match sources.defaultFile with
  | none => .fail (.fileNotFound "config/default")
  | some defaults =>
      ExceptT.lift ((sources.layers defaults).foldlM (fun tree layer => layer.laidOver tree)
        ConfigTree.empty)

end ConfigSources
end DoubleEntry
