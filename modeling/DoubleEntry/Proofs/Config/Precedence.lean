import DoubleEntry.Proofs.Config.Layer
import DoubleEntry.Proofs.Config.Path

/-!
Which layer a setting is read from. It is the environment if that has a variable for the setting,
else the local file if that has a key for it, a null included, else the default file; and if none of
them has it, then the setting has its default or is missed. What a lower layer has at a setting that
a higher one has as well makes no difference to the outcome, and a layer leaves alone what it does
not name.
-/

namespace DoubleEntry

open Text ConfigTree

namespace Setting

end Setting

namespace ConfigSources

variable {sources others : ConfigSources} {tree : ConfigTree} {x : Setting}

def defaultLayer (sources : ConfigSources) : ConfigLayer :=
  .ofFile .defaultFile (sources.defaultFile.getD [])

def localLayer (sources : ConfigSources) : ConfigLayer :=
  .ofFile .localFile (sources.localFile.getD [])

def environmentLayer (sources : ConfigSources) : ConfigLayer :=
  .ofEnvironment sources.environment

/-- What is configured for a setting: what the environment has, else what the local file has, else
what the default file has. -/
def value? (sources : ConfigSources) (x : Setting) : Option ConfigTree :=
  (sources.environmentLayer.value? x).or
    ((sources.localLayer.value? x).or (sources.defaultLayer.value? x))

/-- Some key has a position that a list need not have. -/
def Oversteps (sources : ConfigSources) : Prop :=
  sources.defaultLayer.Oversteps ∨ sources.localLayer.Oversteps ∨ sources.environmentLayer.Oversteps

/-- What comes of reading the settings: each is read from what is configured for it, unless a
position in some key ends the program. -/
def Reads (sources : ConfigSources) : Except Overflow (Except ConfigFailure Settings) → Prop
  | .error _ => sources.Oversteps
  | .ok outcome => Settles sources.value? outcome

section Deployed

variable {poolSize : Json}

end Deployed

end ConfigSources
end DoubleEntry
