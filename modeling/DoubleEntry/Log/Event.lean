import DoubleEntry.Error.Basic

/-!
What the ledger reports while it works: events with a level, a target that names the reporting part,
a message and fields. Owners and amounts enter an event only behind a mask.
-/

namespace DoubleEntry

inductive LogLevel where
  | error
  | warn
  | info
  | debug
  | trace
  deriving DecidableEq, Repr

namespace LogLevel

def name : LogLevel → String
  | error => "ERROR"
  | warn => "WARN"
  | info => "INFO"
  | debug => "DEBUG"
  | trace => "TRACE"

/-- More detailed levels have larger numbers. -/
def detail : LogLevel → Nat
  | error => 1
  | warn => 2
  | info => 3
  | debug => 4
  | trace => 5

end LogLevel

/-- The value of a field. Only quoted values stand between quotes in text. -/
inductive FieldValue where
  | int (n : Int)
  | shown (s : String)
  | quoted (s : String)
  deriving DecidableEq, Repr

inductive Event where
  | accountOpened (id : Int) (maskedOwner currency : String)
  | accountDeleted (id : Int)
  | balanceUpdated (id : Int) (balance : Decimal)
  | unitCommitted
  | commitFailed (error : LedgerError)
  | unitRolledBack (error : LedgerError)
  | rollbackFailed (error undo : LedgerError)
  | hookFailed (error : String)
  | transferCommitted (id : Int) (maskedAmount currency : String)
  | transferFailed (error : LedgerError)
  | transferRejected (error : LedgerError)
  | contentionClassified (code : String)
  | conflictClassified (code : String)
  | loggingStarted (level : String)
  | configurationLoaded
  | parameterIgnored (key value : String)
  | databaseConnected
  | applyingSchema
  | databaseHealthy
  | engineReady (isolation : String)
  deriving DecidableEq

namespace Event

def level : Event → LogLevel
  | rollbackFailed _ _ => .error
  | commitFailed _ | unitRolledBack _ | hookFailed _ | transferFailed _ | parameterIgnored .. =>
      .warn
  | balanceUpdated _ _ | unitCommitted | transferRejected _ | contentionClassified _
  | conflictClassified _ => .debug
  | _ => .info

def target : Event → String
  | accountOpened .. | accountDeleted _ => "bank_ledger::services::account_service"
  | balanceUpdated .. => "bank_ledger::services::balance_service"
  | unitCommitted | commitFailed _ | unitRolledBack _ | rollbackFailed .. | hookFailed _ =>
      "bank_ledger::services::unit_of_work"
  | transferCommitted .. | transferFailed _ => "bank_ledger::services::transfer_engine"
  | transferRejected _ => "bank_ledger::services::transfer_service"
  | contentionClassified _ | conflictClassified _ => "bank_ledger::error"
  | loggingStarted _ => "bank_ledger::observability::logging"
  | parameterIgnored .. => "sqlx_postgres::options::parse"
  | configurationLoaded | databaseConnected | applyingSchema | databaseHealthy | engineReady _ =>
      "bank_ledger"

/-- The target by which a filter knows the event. The program itself belongs to no part that a
filter can name. -/
def filterTarget : Event → String
  | configurationLoaded | databaseConnected | applyingSchema | databaseHealthy | engineReady _ => ""
  | e => e.target

def message : Event → String
  | accountOpened .. => "account opened"
  | accountDeleted _ => "account deleted"
  | balanceUpdated .. => "balance updated"
  | unitCommitted => "unit of work committed"
  | commitFailed _ => "commit failed"
  | unitRolledBack _ => "unit of work rolled back"
  | rollbackFailed .. => "rollback failed"
  | hookFailed _ => "post-commit hook failed"
  | transferCommitted .. => "transfer committed"
  | transferFailed _ => "transfer failed"
  | transferRejected _ => "transfer rejected before execution"
  | contentionClassified _ => "classified store error as serialization failure"
  | conflictClassified _ => "classified store error as conflict"
  | loggingStarted level => s!"Logging initialized with level: {level}"
  | configurationLoaded => "Configuration loaded"
  | parameterIgnored .. => "ignoring unrecognized connect parameter"
  | databaseConnected => "Database connection established"
  | applyingSchema => "Applying ledger schema..."
  | databaseHealthy => "Database health check passed"
  | engineReady _ => "Transfer engine ready"

def fields : Event → List (String × FieldValue)
  | accountOpened id maskedOwner currency =>
      [("account_id", .int id), ("owner", .shown maskedOwner), ("currency", .shown currency)]
  | accountDeleted id => [("account_id", .int id)]
  | balanceUpdated id balance => [("account_id", .int id), ("balance", .shown balance.toText)]
  | commitFailed e | transferRejected e => [("error", .shown e.message)]
  | unitRolledBack e | transferFailed e =>
      [("error", .shown e.message), ("reason", .quoted e.reason)]
  | rollbackFailed e undo => [("error", .shown e.message), ("rollback_error", .shown undo.message)]
  | hookFailed e => [("error", .shown e)]
  | transferCommitted id maskedAmount currency =>
      [("transaction_id", .int id), ("amount", .shown maskedAmount), ("currency", .shown currency)]
  | contentionClassified code => [("sqlstate", .shown s!"Some({Text.quoted code})")]
  | conflictClassified code => [("sqlstate", .quoted code)]
  | parameterIgnored key value => [("key", .shown key), ("value", .shown value)]
  | engineReady isolation => [("isolation_level", .quoted isolation)]
  | unitCommitted | loggingStarted _ | configurationLoaded | databaseConnected | applyingSchema
  | databaseHealthy => []

/-- The names of the fields; the message is one of them. -/
def fieldNames (e : Event) : List String := "message" :: e.fields.map (·.1)

/-- What is reported when a failure of the database is sorted by its code. -/
def ofClassification? (failure : DatabaseFailure) : Option Event :=
  match LedgerError.ofDatabase failure, failure.code? with
  | .serialization _, some code => some (.contentionClassified code)
  | .conflict _, some code => some (.conflictClassified code)
  | _, _ => none

end Event

/-- The stretch of one transfer: its two accounts. -/
structure Span where
  fromId : Int
  toId : Int
  deriving DecidableEq, Repr

namespace Span

def name : String := "transfer"

def target : String := "bank_ledger::services::transfer_engine"

/-- The fields of a span whose transfer is known under a reference. -/
def fields (s : Span) (reference : String) : List (String × FieldValue) :=
  [("transfer_ref", .shown reference), ("from", .int s.fromId), ("to", .int s.toId)]

def fieldNames : List String := ["transfer_ref", "from", "to"]

end Span
end DoubleEntry
