import DoubleEntry.Sql.Connection

/-!
The schema and its version. A database keeps a record of the migrations that were applied to it;
there is one migration, and it is applied unless the record has it. A record that does not agree
with it is refused.
-/

namespace DoubleEntry.Sql

/-- A migration that a database has on record. -/
structure AppliedMigration where
  version : Int
  /-- It was begun and did not get to its end. -/
  unfinished : Bool
  /-- What was applied is not what the version stands for. -/
  changed : Bool
  deriving DecidableEq, Repr

/-- The version of the only migration. -/
def schemaVersion : Int := 20240101000000

/-- What is wrong with a record, if anything is. -/
def recordFault? (applied : List AppliedMigration) : Option MigrationFailure :=
  match applied.find? (·.unfinished), applied.find? (·.version ≠ schemaVersion) with
  | some m, _ => some (.unfinished m.version)
  | none, some m => some (.missing m.version)
  | none, none =>
      if applied.getLast?.any (·.changed) then some (.changed schemaVersion) else none

/-- Creates the tables in a transaction of their own. -/
def createTables : Program Database (Except DatabaseFailure Answer) := do
  match ← send .begin with
  | .error failure => pure (.error failure)
  | .ok _ =>
      match ← send .schema with
      | .error failure => pure (.error failure)
      | .ok _ => send .commit

/-- Brings a database with this record to the schema. -/
def migrate (applied : List AppliedMigration) : Program Database (Except LedgerError Unit) :=
  match recordFault? applied with
  | some fault => pure (.error (.migration fault))
  | none =>
      if applied.isEmpty then do
        match ← rollBackAfter (← createTables) with
        | .ok _ => pure (.ok ())
        | .error failure => pure (.error (.migration (.execution failure)))
      else pure (.ok ())

end DoubleEntry.Sql
