import DoubleEntry.Error.Cause
import DoubleEntry.Error.Config

/-!
The errors of the ledger: their text, the class that a caller picks an answer by, and the short
reason that logs and counters carry.
-/

namespace DoubleEntry

inductive LedgerError where
  | validation (cause : Rejection)
  | notFound (cause : Missing)
  | conflict (cause : Conflict)
  | serialization (cause : Contention)
  | database (failure : DatabaseFailure)
  | store (cause : StoreFault)
  /-- Undoing the work after the error `source` failed too. -/
  | rollback (source undo : LedgerError)
  | cancelled (cause : Cancellation)
  | config (failure : ConfigFailure)
  | migration (failure : MigrationFailure)
  | internal (cause : InternalFault)
  deriving DecidableEq

inductive ErrorClass where
  /-- The request is malformed or unacceptable. -/
  | invalid
  | notFound
  /-- The same request may succeed later. -/
  | transient
  | internal
  deriving DecidableEq, Repr

namespace LedgerError

def message : LedgerError → String
  | validation cause => "Validation error: " ++ cause.message
  | notFound cause => "Not found: " ++ cause.message
  | conflict cause => "Conflict: " ++ cause.message
  | serialization cause => "Serialization failure: " ++ cause.message
  | database failure => "Database error: " ++ failure.message
  | store cause => "Store error: " ++ cause.message
  | rollback source undo => source.message ++ "; rollback failed: " ++ undo.message
  | cancelled cause => "Cancelled: " ++ cause.message
  | config failure => "Configuration error: " ++ failure.message
  | migration failure => "Migration error: " ++ failure.message
  | internal cause => "Internal error: " ++ cause.message

def errorClass : LedgerError → ErrorClass
  | validation _ => .invalid
  | notFound _ => .notFound
  | conflict _ | serialization _ | cancelled _ => .transient
  | database _ | store _ | rollback _ _ | config _ | migration _ | internal _ => .internal

def isTransient (e : LedgerError) : Bool := e.errorClass == .transient

/-- A short label for counters and logs. -/
def reason : LedgerError → String
  | validation _ => "validation"
  | notFound _ => "not_found"
  | conflict _ => "conflict"
  | serialization _ => "serialization"
  | database _ => "database"
  | store _ => "store"
  | rollback _ _ => "rollback"
  | cancelled _ => "cancelled"
  | config _ => "config"
  | migration _ => "migration"
  | internal _ => "internal"

/-- The text of the error that this one wraps. -/
def sourceMessage? : LedgerError → Option String
  | database failure => some failure.message
  | rollback source _ => some source.message
  | config failure => some failure.message
  | migration failure => some failure.message
  | internal cause => some cause.message
  | _ => none

/-- Codes of a transaction that the database aborted in favour of another. -/
def contentionCodes : List String := ["40001", "40P01", "55P03"]

/-- Codes of a value that does not fit its column. -/
def unfitValueCodes : List String := ["22001", "22003"]

/-- The first two characters of the codes of broken constraints. -/
def constraintClass : List Char := ['2', '3']

def isConflictCode (code : String) : Bool :=
  constraintClass.isPrefixOf code.toList || unfitValueCodes.contains code

/-- Sorts a failure of the database by its code. -/
def ofDatabase (failure : DatabaseFailure) : LedgerError :=
  match failure with
  | .rowNotFound => .notFound .row
  | failure =>
      match failure.code? with
      | none => .database failure
      | some code =>
          if contentionCodes.contains code then .serialization (.database failure)
          else if isConflictCode code then .conflict (.database failure)
          else .database failure

end LedgerError

end DoubleEntry
