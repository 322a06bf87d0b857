import DoubleEntry.Proofs.Client.Contract
import DoubleEntry.Proofs.Sql.Dialogue

/-!
What a unit of work says to a database, whatever its body. It opens a transaction, and says nothing
more if that is refused; then it says what its body says, and commits or rolls back as the outcome
of the body demands.
-/

namespace DoubleEntry

open Sql Simulation

namespace UnitOfWork

open Program ScriptedState

/-- The one session of a store is open. -/
def opened (o : Options) (script : Script) : ScriptedState :=
  { options := o, sessions := { live := [0], next := 1 }, script := script }

/-- The one session of a store is over. -/
def closed (o : Options) (script : Script) : ScriptedState :=
  { options := o, sessions := { live := [], next := 1 }, script := script }

variable {α : Type} {o : Options} {script : Script} {e : LedgerError}

theorem run_begin (o : Options) (script : Script) :
    (callFree (I := LedgerStore) .begin).run alone { options := o, script := script } =
      match converse (opening o) script with
      | (.ok (.ok ()), script') => (.finished (.ok 0), opened o script')
      | (.ok (.error e), script') =>
          (.finished (.error e), { options := o, script := (script'.reply .rollback).2 })
      | (.error x, script') => (.halted x, { options := o, script := script' }) := by
  have served : spoken (serve o .begin {}) script =
      match converse (opening o) script with
      | (.ok (.ok ()), script') => (.ok (.ok 0, Sessions.start {}), script')
      | (.ok (.error e), script') => (.ok (.error e, {}), (script'.reply .rollback).2)
      | (.error x, script') => (.error x, script') := by
    refine (spoken_bind_eq _ _ _).trans ?_
    rw [spoken_openTransaction]
    rcases converse (opening o) script with ⟨x | e | _, script'⟩ <;> rfl
  refine (run_called _ _).trans ?_
  rw [served]
  rcases converse (opening o) script with ⟨x | e | _, script'⟩ <;> rfl

/-- The statement that ends the session of a body. -/
def closing : Except LedgerError α → Statement
  | .ok _ => .commit
  | .error _ => .rollback

/-- What it comes to if that statement fails. -/
def spoilt : Except LedgerError α → DatabaseFailure → LedgerError
  | .ok _, failure => .ofDatabase failure
  | .error e, failure => .rollback e (.ofDatabase failure)

theorem run_commit {result : Except LedgerError Unit} {script' : Script}
    (h : spoken (closeTransaction .commit) script = (.ok result, script')) :
    (callFree (I := LedgerStore) (.perform 0 .commit)).run alone (opened o script) =
      (.finished result, closed o script') := by
  have served : spoken (serve o (.perform 0 .commit) (opened o script).sessions) script =
      (.ok (result, (closed o script').sessions), script') := spoken_bind h
  exact run_of_served served

theorem run_rollback {result : Except LedgerError Unit} {script' : Script}
    (h : spoken (closeTransaction .rollback) script = (.ok result, script')) :
    (callFree (I := LedgerStore) (.perform 0 .rollback)).run alone (opened o script) =
      (.finished result, closed o script') := by
  have served : spoken (serve o (.perform 0 .rollback) (opened o script).sessions) script =
      (.ok (result, (closed o script').sessions), script') := spoken_bind h
  exact run_of_served served

theorem run_settle (outcome : Except LedgerError α) (o : Options) (script : Script) :
    (settle 0 outcome).run alone (opened o script) =
      match (script.reply (closing outcome)).1 with
      | .ok _ => (.finished outcome, closed o (script.reply (closing outcome)).2)
      | .error failure => (.finished (.error (spoilt outcome failure)),
          closed o ((script.reply (closing outcome)).2.reply .rollback).2) := by
  cases outcome with
  | ok value =>
      simp only [closing]
      cases replied : (script.reply .commit).1 with
      | ok a => exact run_bind (run_commit (spoken_closeTransaction replied))
      | error failure =>
          exact run_bind (run_commit (spoken_closeTransaction_of_error replied))
  | error e =>
      simp only [closing]
      cases replied : (script.reply .rollback).1 with
      | ok a =>
          exact run_bind (run_bind (run_rollback (spoken_closeTransaction replied)))
      | error failure =>
          exact run_bind (run_bind (run_rollback (spoken_closeTransaction_of_error replied)))

theorem run_conclude (outcome : Except LedgerError α) (o : Options) (script : Script) :
    (conclude 0 outcome).run alone (opened o script) =
      match (script.reply (closing outcome)).1 with
      | .ok _ => (.finished outcome, closed o (script.reply (closing outcome)).2)
      | .error failure => (.finished (.error (spoilt outcome failure)),
          closed o ((script.reply (closing outcome)).2.reply .rollback).2) := by
  rw [conclude_eq, run_bind_eq, run_settle]
  cases (script.reply (closing outcome)).1 <;> rfl

theorem execute_unopened (u : UnitOfWork)
    {body : SessionId → Program (Paced LedgerStore) (Except LedgerError α)}
    {script₀ script₁ : Script}
    (fails : converse (opening o) script₀ = (.fail e, script₁)) :
    (u.execute none body).run alone { options := o, script := script₀ } =
      (.finished (.error e), { options := o, script := (script₁.reply .rollback).2 }) := by
  have begun := run_begin o script₀
  rw [fails] at begun
  exact run_bind begun

theorem conclude_finished (outcome : Except LedgerError α) (o : Options) (script : Script) :
    ∃ result script', (conclude 0 outcome).run alone (opened o script) =
      (.finished result, closed o script') := by
  rw [run_conclude]
  cases (script.reply (closing outcome)).1 with
  | ok a => exact ⟨_, _, rfl⟩
  | error failure => exact ⟨_, _, rfl⟩

/-- A body in a window that never ends. -/
theorem run_bounded (u : UnitOfWork) {p : Action (Paced LedgerStore) α} {xs : List Exchange}
    (holds : Holds 0 p xs) (o : Options) (script : Script) :
    ∃ progress, (u.bounded none p.toProgram).run alone (opened o script) =
        (progress, opened o (converse xs script).2) ∧
      Agrees progress (converse xs script).1 := by
  obtain ⟨progress, ran, agrees⟩ := holds (opened o script) rfl
  let w : Window := ⟨0, none, u.timeout⟩
  have opens : (request (I := Timed LedgerStore) (.openWindow none u.timeout)).run alone
      (opened o script) = (.finished (.ok w), opened o script) := rfl
  have window : (p.toProgram.within w).run alone (opened o script) =
      (progress.inside w, opened o (converse xs script).2) := by
    rw [ScriptedState.run_within, ran]
    rfl
  change Agrees progress (converse xs script).1 at agrees
  generalize (converse xs script).1 = verdict at agrees
  cases agrees with
  | good value => exact ⟨_, (run_bind opens).trans (run_bind window), .good value⟩
  | failed e => exact ⟨_, (run_bind opens).trans (run_bind window), .failed e⟩
  | halted x => exact ⟨_, (run_bind opens).trans (run_bind_halted window), .halted x⟩

/-- A unit of work whose transaction has been opened. -/
theorem execute_opened (u : UnitOfWork) {body : SessionId → Action (Paced LedgerStore) α}
    {xs : List Exchange} {script script' : Script} {verdict : Checked LedgerError Unit}
    (holds : Holds 0 (body 0) xs)
    (opens : (converse (opening o) script).1 = pure ())
    (met : converse (opening o ++ xs) script = (verdict, script')) :
    ∃ progress, (u.execute none body).run alone { options := o, script := script } =
        (match progress with
          | .finished outcome => (conclude 0 outcome).run alone (opened o script')
          | progress => (progress, opened o script')) ∧
      Agrees progress verdict := by
  obtain ⟨script₁, first⟩ : ∃ script₁,
      converse (opening o) script = (pure (), script₁) := ⟨_, Prod.ext opens rfl⟩
  rw [converse_append_of_good first] at met
  obtain ⟨progress, ran, agrees⟩ := run_bounded u holds o script₁
  rw [met] at ran agrees
  have begun := run_begin o script
  rw [first] at begun
  refine ⟨progress, (run_bind begun).trans ?_, agrees⟩
  cases agrees with
  | good value => exact run_bind ran
  | failed e => exact run_bind ran
  | halted x => exact run_bind_halted ran

end UnitOfWork
end DoubleEntry
