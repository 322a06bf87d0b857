import DoubleEntry.Config.Settings
import DoubleEntry.Config.VariableFile
import DoubleEntry.Log.Filter
import DoubleEntry.Sql.Endpoint
import DoubleEntry.Sql.Migration
import DoubleEntry.Sql.Store

/-!
The start of the program: it reads its settings, starts its log, connects to the database, brings it
to the schema, and asks it whether it answers. Whatever fails ends the start.
-/

namespace DoubleEntry

open Sql

inductive StartupFailure where
  | config (failure : ConfigFailure)
  | connection (failure : DatabaseFailure)
  | ledger (e : LedgerError)
  deriving DecidableEq

/-- A failure before the ledger works is told as it is. -/
def StartupFailure.message : StartupFailure → String
  | config failure => failure.message
  | connection failure => failure.message
  | ledger e => e.message

namespace Startup

/-- Codes of a server that refuses connections for the moment. -/
def busyCodes : List String := ["53300", "57P03"]

/-- Whether connecting is worth another attempt. -/
def isTemporary (failure : DatabaseFailure) : Bool := failure.code?.any busyCodes.contains

/-- What reaching for an endpoint gives. -/
abbrev Reach : Type := Endpoint → Except DatabaseFailure Unit

/-- Opens the first connection of the pool. A pool without connections or without time waits in
vain, and so does one whose server stays busy. -/
def connect (db : DatabaseSettings) (fallback : Endpoint) (reach : Reach) : Connecting Unit := do
  let endpoint ← Endpoint.ofUrl fallback db.url
  if db.poolSize = 0 ∨ db.acquireTimeoutSeconds = 0 then throw .poolTimedOut
  match (do endpoint.checkPath; reach endpoint) with
  | .ok () => pure ()
  | .error failure => throw (if isTemporary failure then .poolTimedOut else failure)

/-- A program that may end in a failure of the start. -/
abbrev Starting : Type → Type := ExceptT StartupFailure (Program Database)

def announce (e : Event) : Starting Unit := ExceptT.lift (Program.report e)

/-- What happens once the settings are read, against a database with this record of migrations. -/
def program (s : Settings) (fallback : Endpoint) (reach : Reach)
    (applied : List AppliedMigration) : Starting Unit := do
  announce (.loggingStarted s.application.logLevel)
  announce .configurationLoaded
  ExceptT.adapt .connection (connect s.database fallback reach)
  announce .databaseConnected
  announce .applyingSchema
  ExceptT.adapt .ledger (migrate applied)
  ExceptT.adapt .ledger checkHealth
  announce .databaseHealthy
  announce (.engineReady s.database.isolation.sql)

/-- What the program is started with: its two files, its environment, and a file of variables. -/
structure Surroundings where
  defaultFile : Option (List (String × Json))
  localFile : Option (List (String × Json))
  environment : List (String × String)
  variableFile : Option String

namespace Surroundings

/-- The environment together with the file of variables. -/
def knownVariables (s : Surroundings) : List (String × String) :=
  match s.variableFile with
  | none => s.environment
  | some text => VariableFile.load s.environment text

def settings (s : Surroundings) : Checked ConfigFailure Settings :=
  Settings.ofSources ⟨s.defaultFile, s.localFile, s.knownVariables⟩

/-- The endpoint for all that the URL of the database leaves open. -/
def endpoint (s : Surroundings) : Endpoint := Endpoint.standard s.knownVariables

/-- The variable that holds a filter for the log. -/
def filterVariable : String := "RUST_LOG"

def logFilter (s : Surroundings) (config : LogConfig) : LogFilter :=
  LogFilter.chosen config.level (s.knownVariables.lookup filterVariable)

end Surroundings
end Startup
end DoubleEntry
