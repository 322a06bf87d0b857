import DoubleEntry.Config.Settings
import DoubleEntry.Proofs.Config.Tree

/-!
The settings one by one. Each stands in a field of a section and is read in its own way; most of
them have a value even if nothing is found there. Reading a tree reads each setting from what is
found at its place, and looks at nothing else: it succeeds if all of them can be read, and fails as
one of them does, or because a section is missing that has a setting without a default.
-/

namespace DoubleEntry

inductive Setting where
  | url
  | poolSize
  | acquireTimeout
  | isolation
  | lockTimeout
  | logLevel
  | logFormat
  | transferTimeout
  | exporterAddress
  deriving DecidableEq

namespace Setting

/-- The section that a setting belongs to. -/
def table : Setting → String
  | url | poolSize | acquireTimeout | isolation | lockTimeout => "database"
  | logLevel | logFormat => "application"
  | transferTimeout => "transfer"
  | exporterAddress => "metrics"

def field : Setting → String
  | url => "url"
  | poolSize => "pool_size"
  | acquireTimeout => "acquire_timeout_secs"
  | isolation => "isolation_level"
  | lockTimeout => "lock_timeout_ms"
  | logLevel => "log_level"
  | logFormat => "log_format"
  | transferTimeout => "timeout_ms"
  | exporterAddress => "exporter_addr"

def Value : Setting → Type
  | url | logLevel | logFormat => String
  | poolSize | acquireTimeout => Nat
  | isolation => IsolationLevel
  | lockTimeout | transferTimeout => Option Nat
  | exporterAddress => Option SocketAddress

/-- What messages call a setting. -/
def label (x : Setting) : String := s!"{x.table}.{x.field}"

/-- How a setting is read from what is found. -/
def read : (x : Setting) → ConfigTree → Except ConfigFailure x.Value
  | url => ConfigTree.readText url.label
  | poolSize => ConfigTree.readHalfWord poolSize.label
  | acquireTimeout => ConfigTree.readWord acquireTimeout.label
  | isolation => ConfigTree.readIsolation isolation.label
  | lockTimeout => ConfigTree.readOptional ConfigTree.readWord lockTimeout.label
  | logLevel => ConfigTree.readText logLevel.label
  | logFormat => ConfigTree.readText logFormat.label
  | transferTimeout => ConfigTree.readOptional ConfigTree.readWord transferTimeout.label
  | exporterAddress => ConfigTree.readOptional ConfigTree.readAddress exporterAddress.label

/-- What a setting is where nothing is found. Three settings have to be there. -/
def default? : (x : Setting) → Option x.Value
  | url | poolSize | logLevel => none
  | acquireTimeout => some (5 : Nat)
  | isolation => some IsolationLevel.default
  | logFormat => some "pretty"
  | lockTimeout | transferTimeout => some (none : Option Nat)
  | exporterAddress => some (none : Option SocketAddress)

/-- What a setting comes to, given what is found. -/
def settle (x : Setting) (found : Option ConfigTree) : Except ConfigFailure x.Value :=
  match found with
  | some tree => x.read tree
  | none =>
      match x.default? with
      | some v => .ok v
      | none => .error (.missingField x.field)

end Setting

/-- The value of a setting. -/
def Settings.value (s : Settings) : (x : Setting) → x.Value
  | .url => s.database.url
  | .poolSize => s.database.poolSize
  | .acquireTimeout => s.database.acquireTimeoutSeconds
  | .isolation => s.database.isolation
  | .lockTimeout => s.database.lockTimeout
  | .logLevel => s.application.logLevel
  | .logFormat => s.application.logFormat
  | .transferTimeout => s.transfer.timeout
  | .exporterAddress => s.metrics.exporterAddress

/-- Why settings cannot be read: one of them cannot, or nothing is found for any setting of a
section to which one without a default belongs. -/
def Setting.Fails (found : Setting → Option ConfigTree) (e : ConfigFailure) : Prop :=
  ∃ x : Setting, x.settle (found x) = .error e ∨
    x.default? = none ∧ (∀ y : Setting, y.table = x.table → found y = none) ∧
      e = .missingField x.table

/-- A reading succeeds in one way, or it fails in another. -/
def Gives {α : Type} (bad : ConfigFailure → Prop) (good : α → Prop) :
    Except ConfigFailure α → Prop
  | .ok a => good a
  | .error e => bad e

/-- Every setting is read from what is found for it, or else one of them is why there are none. -/
def Settles (found : Setting → Option ConfigTree) (outcome : Except ConfigFailure Settings) :
    Prop :=
  Gives (Setting.Fails found) (fun s => ∀ x : Setting, x.settle (found x) = .ok (s.value x)) outcome

variable {α β : Type} {bad : ConfigFailure → Prop} {P : α → Prop} {Q : β → Prop}
  {found : Setting → Option ConfigTree} {tree part : ConfigTree} {x : Setting}

namespace Setting

/-- A section whose fields hold what is found for its settings. -/
def Holds (found : Setting → Option ConfigTree) (name : String) (part : ConfigTree) : Prop :=
  part.IsTable ∧ ∀ x : Setting, x.table = name → found x = part.get? x.field

end Setting

open Setting

end DoubleEntry
