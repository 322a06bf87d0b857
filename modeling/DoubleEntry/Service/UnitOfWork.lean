import DoubleEntry.Store.Request

/-!
Units of work. A body runs inside one session of a store and takes effect as a whole or not at all:
an error that it ends in, an expired deadline and a cancellation each roll the session back. What
happens after the commit cannot undo it.
-/

namespace DoubleEntry

/-- How long a body may run, in milliseconds, and whether the log around it shows events of level
debug, which are put into words only then. -/
structure UnitOfWork where
  timeout : Option Nat
  verbose : Bool := false
  deriving DecidableEq, Repr

/-- What is done with a committed value. A failure is reported and changes nothing. -/
abbrev CommitHook (α : Type) : Type := α → Program (Timed LedgerStore) (Except String Unit)

namespace UnitOfWork

open Program

variable {α : Type}

def unbounded : UnitOfWork := { timeout := none }

/-- The error of a body that was stopped. -/
def stopped (u : UnitOfWork) : Stop → LedgerError
  | .cancelled => .cancelled .requested
  | .deadline => .cancelled (.deadline (u.timeout.getD 0))

/-- Runs a body inside a window. -/
def bounded (u : UnitOfWork) (cancelAt : Option Nat)
    (body : Program (Paced LedgerStore) (Except LedgerError α)) :
    Program (Timed LedgerStore) (Except LedgerError α) := do
  match ← request (I := Timed LedgerStore) (.openWindow cancelAt u.timeout) with
  | .error stop => pure (.error (u.stopped stop))
  | .ok window =>
      match ← body.within window with
      | .error stop => pure (.error (u.stopped stop))
      | .ok outcome => pure outcome

/-- Commits what a body has done. -/
def commit (s : SessionId) (value : α) : Program (Timed LedgerStore) (Except LedgerError α) := do
  match ← callFree (I := LedgerStore) (.perform s .commit) with
  | .ok () =>
      report .unitCommitted
      pure (.ok value)
  | .error e =>
      report (.commitFailed e)
      count (.rollback e.reason)
      pure (.error e)

/-- Undoes what a body has done, because of an error. -/
def abort (s : SessionId) (e : LedgerError) : Program (Timed LedgerStore) LedgerError := do
  count (.rollback e.reason)
  match ← callFree (I := LedgerStore) (.perform s .rollback) with
  | .ok () =>
      report (.unitRolledBack e)
      pure e
  | .error undo =>
      report (.rollbackFailed e undo)
      pure (.rollback e undo)

/-- Commits or undoes a body, as its outcome demands, and ends the session. -/
def conclude (s : SessionId) (outcome : Except LedgerError α) :
    Program (Timed LedgerStore) (Except LedgerError α) := do
  let result ← match outcome with
    | .ok value => commit s value
    | .error e => do pure (.error (← abort s e))
  callFree (I := LedgerStore) (.abandon s)
  pure result

/-- Runs a body in a session of its own. -/
def execute (u : UnitOfWork) (cancelAt : Option Nat)
    (body : SessionId → Program (Paced LedgerStore) (Except LedgerError α)) :
    Program (Timed LedgerStore) (Except LedgerError α) := do
  match ← callFree (I := LedgerStore) .begin with
  | .error e => pure (.error e)
  | .ok s => conclude s (← u.bounded cancelAt (body s))

end UnitOfWork

/-- Runs a hook on a committed value. -/
def CommitHook.run {α : Type} (hook : CommitHook α) (value : α) :
    Program (Timed LedgerStore) Unit := do
  match ← hook value with
  | .ok () => pure ()
  | .error text =>
      Program.report (.hookFailed text)
      Program.count .hookFailure

/-- Runs a hook on the value of a program that committed one. -/
def CommitHook.after {α : Type} (hook : CommitHook α)
    (work : Program (Timed LedgerStore) (Except LedgerError α)) :
    Program (Timed LedgerStore) (Except LedgerError α) := do
  match ← work with
  | .error e => pure (.error e)
  | .ok value =>
      hook.run value
      pure (.ok value)

end DoubleEntry
