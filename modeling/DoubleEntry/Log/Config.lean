import DoubleEntry.Text.Lowercase

/-!
How logs are written: their level or filter, their layout, and what each line shows.
-/

namespace DoubleEntry

inductive LogFormat where
  | pretty
  | json
  | compact
  deriving DecidableEq, Repr

namespace LogFormat

def name : LogFormat → String
  | pretty => "Pretty"
  | json => "Json"
  | compact => "Compact"

/-- The case does not matter, and every other name means the pretty format. -/
def ofName (name : String) : LogFormat :=
  let name := Text.lowercase name
  if name = "json" then json else if name = "compact" then compact else pretty

end LogFormat

structure LogConfig where
  level : String
  format : LogFormat
  includeTarget : Bool := true
  includeFile : Bool := false
  includeLine : Bool := false
  deriving DecidableEq, Repr

namespace LogConfig

def default : LogConfig := { level := "info", format := .pretty }

def ofNames (level format : String) : LogConfig :=
  { level := level, format := LogFormat.ofName format }

end LogConfig
end DoubleEntry
