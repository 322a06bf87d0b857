import DoubleEntry.Config.Layer
import DoubleEntry.Config.Reader
import DoubleEntry.Log.Config

/-!
The settings of the program. A section first reads all the fields that are there, then misses those
that are not, each in its order.
-/

namespace DoubleEntry

structure DatabaseSettings where
  url : String
  poolSize : Nat
  acquireTimeoutSeconds : Nat
  isolation : IsolationLevel
  /-- How long to wait for a row, in milliseconds. -/
  lockTimeout : Option Nat

structure ApplicationSettings where
  logLevel : String
  logFormat : String

structure TransferSettings where
  /-- In milliseconds. -/
  timeout : Option Nat := none

structure MetricsSettings where
  exporterAddress : Option SocketAddress := none

structure Settings where
  database : DatabaseSettings
  application : ApplicationSettings
  transfer : TransferSettings
  metrics : MetricsSettings

def ApplicationSettings.logConfig (a : ApplicationSettings) : LogConfig :=
  LogConfig.ofNames a.logLevel a.logFormat

open ConfigTree

def DatabaseSettings.ofTree (tree : ConfigTree) : Except ConfigFailure DatabaseSettings := do
  let s ← ConfigSection.ofTree "database" "DatabaseSettings" 5 tree
  let url ← s.read? 0 "url" readText
  let poolSize ← s.read? 1 "pool_size" readHalfWord
  let acquireTimeout ← s.read? 2 "acquire_timeout_secs" readWord
  let isolation ← s.read? 3 "isolation_level" readIsolation
  let lockTimeout ← s.read? 4 "lock_timeout_ms" (readOptional readWord)
  let url ← s.required 0 "url" url
  let poolSize ← s.required 1 "pool_size" poolSize
  let lockTimeout ← s.optional 4 lockTimeout
  return ⟨url, poolSize, acquireTimeout.getD 5, isolation.getD .default, lockTimeout⟩

def ApplicationSettings.ofTree (tree : ConfigTree) : Except ConfigFailure ApplicationSettings := do
  let s ← ConfigSection.ofTree "application" "ApplicationSettings" 2 tree
  let logLevel ← s.read? 0 "log_level" readText
  let logFormat ← s.read? 1 "log_format" readText
  let logLevel ← s.required 0 "log_level" logLevel
  return ⟨logLevel, logFormat.getD "pretty"⟩

def TransferSettings.ofTree (tree : ConfigTree) : Except ConfigFailure TransferSettings := do
  let s ← ConfigSection.ofTree "transfer" "TransferSettings" 1 tree
  let timeout ← s.read? 0 "timeout_ms" (readOptional readWord)
  return ⟨← s.optional 0 timeout⟩

def MetricsSettings.ofTree (tree : ConfigTree) : Except ConfigFailure MetricsSettings := do
  let s ← ConfigSection.ofTree "metrics" "MetricsSettings" 1 tree
  let address ← s.read? 0 "exporter_addr" (readOptional readAddress)
  return ⟨← s.optional 0 address⟩

namespace Settings

/-- Reads a section if it is there. -/
def readSection? {α : Type} (tree : ConfigTree) (name : String)
    (read : ConfigTree → Except ConfigFailure α) : Except ConfigFailure (Option α) :=
  match tree.get? name with
  | none => .ok none
  | some s => (read s).map some

def required {α : Type} (name : String) : Option α → Except ConfigFailure α
  | some a => .ok a
  | none => .error (.missingField name)

def ofTree (tree : ConfigTree) : Except ConfigFailure Settings := do
  let database ← readSection? tree "database" DatabaseSettings.ofTree
  let application ← readSection? tree "application" ApplicationSettings.ofTree
  let transfer ← readSection? tree "transfer" TransferSettings.ofTree
  let metrics ← readSection? tree "metrics" MetricsSettings.ofTree
  let database ← required "database" database
  let application ← required "application" application
  return ⟨database, application, transfer.getD {}, metrics.getD {}⟩

def ofSources (sources : ConfigSources) : Checked ConfigFailure Settings := do
  let tree ← sources.tree
  ExceptT.mk (.ok (ofTree tree))

end Settings
end DoubleEntry
