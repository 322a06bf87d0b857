import DoubleEntry.Program
import DoubleEntry.Sql.Row
import DoubleEntry.Sql.Statement

/-!
Talking to a database: a statement is sent and answered with rows, a count of affected rows, or a
failure. A failure is sorted by its code and becomes an error of the ledger.
-/

namespace DoubleEntry.Sql

/-- What a statement that went well gives. -/
structure Answer where
  rows : List Row := []
  affected : Nat := 0
  deriving DecidableEq, Repr

/-- A database, by the statements that it is sent. -/
@[reducible] def Database : Interface := ⟨Statement, fun _ => Except DatabaseFailure Answer⟩

def send (s : Statement) : Program Database (Except DatabaseFailure Answer) :=
  Program.request (I := Database) s

/-- Turns a failure into an error. -/
def fail {α : Type} (failure : DatabaseFailure) : Program Database (Except LedgerError α) := do
  Program.reportAny (Event.ofClassification? failure)
  pure (.error (LedgerError.ofDatabase failure))

/-- Makes the result of what the database answered. Reading it may stop the program. -/
def settle {α : Type} (read : Answer → Checked DatabaseFailure α)
    (answer : Except DatabaseFailure Answer) : Program Database (Except LedgerError α) :=
  match (ExceptT.mk (.ok answer) >>= read : Checked DatabaseFailure α) with
  | .ok (.ok a) => pure (.ok a)
  | .ok (.error failure) => fail failure
  | .error o => .halt o

/-- Sends a statement and reads the answer. -/
def fetch {α : Type} (s : Statement) (read : Answer → Checked DatabaseFailure α) :
    Program Database (Except LedgerError α) := do settle read (← send s)

namespace Answer

/-- The first row, which has to be there. -/
def one {α : Type} (read : Row → Checked DatabaseFailure α) (a : Answer) :
    Checked DatabaseFailure α :=
  match a.rows with
  | [] => throw .rowNotFound
  | row :: _ => read row

/-- The first row, if there is one. -/
def first? {α : Type} (read : Row → Checked DatabaseFailure α) (a : Answer) :
    Checked DatabaseFailure (Option α) :=
  match a.rows with
  | [] => pure none
  | row :: _ => some <$> read row

def all {α : Type} (read : Row → Checked DatabaseFailure α) (a : Answer) :
    Checked DatabaseFailure (List α) :=
  a.rows.mapM read

def anyAffected (a : Answer) : Checked DatabaseFailure Bool := pure (0 < a.affected)

def nothing (_ : Answer) : Checked DatabaseFailure Unit := pure ()

end Answer

/-- Undoes what is open if the statement before failed. -/
def rollBackAfter (answer : Except DatabaseFailure Answer) :
    Program Database (Except DatabaseFailure Answer) :=
  match answer with
  | .ok a => pure (.ok a)
  | .error failure => do
      let _ ← send .rollback
      pure (.error failure)

end DoubleEntry.Sql
