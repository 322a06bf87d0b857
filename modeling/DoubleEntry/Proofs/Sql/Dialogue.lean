import DoubleEntry.Proofs.Client.Alone
import DoubleEntry.Proofs.Client.Host
import DoubleEntry.Simulation.Database

/-!
What a client and a database say to each other. A client that has the database to itself sends one
statement after another, and needs something of the reply to each: that it is no failure, or a row
that it can read. The first reply that does not give this ends the dialogue.
-/

namespace DoubleEntry.Sql

open Simulation

/-- What a reply is read as. -/
def reading {α : Type} (read : Answer → Checked DatabaseFailure α) :
    ScriptedReply → Checked LedgerError α
  | .ok a => (read a).adapt .ofDatabase
  | .error failure => .fail (.ofDatabase failure)

/-- A statement, and what is made of the reply to it. The reply is good, it comes to an error, or it
cannot be read without stopping the program. -/
structure Exchange where
  statement : Statement
  verdict : ScriptedReply → Checked LedgerError Unit

namespace Exchange

/-- Every answer is good. -/
def plain (s : Statement) : Exchange := ⟨s, reading Answer.nothing⟩

/-- A good answer has a row that can be read. -/
def row {α : Type} (s : Statement) (read : Row → Checked DatabaseFailure α) : Exchange :=
  ⟨s, fun reply => reading (Answer.one read) reply >>= fun _ => pure ()⟩

/-- A good answer has the row of an account. Where the log shows every event, a balance with too
many digits to be written is no better than one that cannot be read. -/
def balance (verbose : Bool) (accountId : Int) (delta : Decimal) : Exchange :=
  ⟨.addBalance accountId delta, fun reply =>
    reading (Answer.first? Row.account) reply >>= fun
      | none => .fail (.notFound (.account accountId))
      | some account =>
          if account.balance.IsLoggable verbose then pure () else .halt .decimalText⟩

end Exchange

/-- How a transaction is opened. The levels and the timeout are those of the options. -/
def opening (o : Options) : List Exchange :=
  .plain .begin ::
    (if o.isolation = .readCommitted then [] else [.plain (.setIsolation o.isolation)]) ++
    match o.lockTimeout with
    | none => []
    | some ms => [.plain (.setLockTimeout ms)]

theorem opening_eq (o : Options) : opening o = o.opening.map .plain := by
  rw [opening, Options.opening]
  cases o.lockTimeout <;> split <;> rfl

/-- Sends statements until a reply is not good, and gives what is wrong with it. -/
def converse : List Exchange → Script → Checked LedgerError Unit × Script
  | [], script => (pure (), script)
  | x :: rest, script =>
      match x.verdict (script.reply x.statement).1 with
      | .ok (.ok ()) => converse rest (script.reply x.statement).2
      | verdict => (verdict, (script.reply x.statement).2)

section Converse

variable {xs ys : List Exchange} {x : Exchange} {script script' : Script}
  {verdict : Checked LedgerError Unit}

theorem converse_cons_of_good (good : x.verdict (script.reply x.statement).1 = pure ()) :
    converse (x :: xs) script = converse xs (script.reply x.statement).2 := by
  rw [converse, good]
  rfl

theorem converse_cons_of_bad (bad : x.verdict (script.reply x.statement).1 ≠ pure ()) :
    converse (x :: xs) script =
      (x.verdict (script.reply x.statement).1, (script.reply x.statement).2) := by
  rw [converse]
  split
  · rename_i good
    exact absurd good bad
  · rfl

theorem converse_singleton (x : Exchange) (script : Script) :
    converse [x] script =
      (x.verdict (script.reply x.statement).1, (script.reply x.statement).2) := by
  by_cases good : x.verdict (script.reply x.statement).1 = pure ()
  · rw [converse_cons_of_good good, good, converse]
  · exact converse_cons_of_bad good

theorem converse_append_of_good (good : converse xs script = (pure (), script')) :
    converse (xs ++ ys) script = converse ys script' := by
  induction xs generalizing script with
  | nil =>
      cases good
      rfl
  | cons x xs ih =>
      by_cases first : x.verdict (script.reply x.statement).1 = pure ()
      · rw [converse_cons_of_good first] at good
        rw [List.cons_append, converse_cons_of_good first, ih good]
      · rw [converse_cons_of_bad first] at good
        exact absurd (congrArg Prod.fst good) first

theorem converse_append_of_bad (ended : converse xs script = (verdict, script'))
    (bad : verdict ≠ pure ()) : converse (xs ++ ys) script = (verdict, script') := by
  induction xs generalizing script with
  | nil =>
      cases ended
      exact absurd rfl bad
  | cons x xs ih =>
      by_cases first : x.verdict (script.reply x.statement).1 = pure ()
      · rw [converse_cons_of_good first] at ended
        rw [List.cons_append, converse_cons_of_good first, ih ended]
      · rw [converse_cons_of_bad first] at ended
        rw [List.cons_append, converse_cons_of_bad first, ended]

end Converse

/-- The reply to the statement at a position. What the script does not answer succeeds. -/
def replyAt (replies : List ScriptedReply) (i : Nat) : ScriptedReply := replies[i]?.getD (.ok {})

/-- What is made of the reply to the statement at a position. -/
def verdictAt? (xs : List Exchange) (replies : List ScriptedReply) (i : Nat) :
    Option (Checked LedgerError Unit) := xs[i]?.map (·.verdict (replyAt replies i))

/-- Every statement has a good reply. -/
def AllGood (xs : List Exchange) (replies : List ScriptedReply) : Prop :=
  ∀ i < xs.length, verdictAt? xs replies i = some (pure ())

/-- The first reply that is not good is the one to the statement at a position. -/
structure CutOff (xs : List Exchange) (replies : List ScriptedReply) (k : Nat)
    (verdict : Checked LedgerError Unit) : Prop where
  there : verdictAt? xs replies k = some verdict
  bad : verdict ≠ pure ()
  before : ∀ i < k, verdictAt? xs replies i = some (pure ())

section Positions

variable {xs ys : List Exchange} {x : Exchange} {replies : List ScriptedReply}
  {k : Nat} {verdict : Checked LedgerError Unit}

theorem replyAt_succ (replies : List ScriptedReply) (i : Nat) :
    replyAt replies (i + 1) = replyAt replies.tail i := by
  cases replies <;> simp [replyAt]

theorem verdictAt?_succ (x : Exchange) (xs : List Exchange) (replies : List ScriptedReply)
    (i : Nat) : verdictAt? (x :: xs) replies (i + 1) = verdictAt? xs replies.tail i := by
  simp [verdictAt?, replyAt_succ]

theorem reply_fst (replies : List ScriptedReply) (sent : List Statement) (s : Statement) :
    (Script.reply s ⟨replies, sent⟩).1 = replyAt replies 0 := by
  cases replies <;> rfl

theorem reply_drop (s : Statement) (replies : List ScriptedReply) (n : Nat)
    (sent : List Statement) :
    Script.reply s ⟨replies.drop n, sent⟩ =
      (replyAt replies n, ⟨replies.drop (n + 1), s :: sent⟩) := by
  simp [Script.reply, replyAt]

theorem verdictAt?_append {i : Nat} (inside : i < xs.length) :
    verdictAt? (xs ++ ys) replies i = verdictAt? xs replies i := by
  rw [verdictAt?, verdictAt?, List.getElem?_append_left inside]

theorem AllGood.of_append (h : AllGood (xs ++ ys) replies) : AllGood xs replies := by
  intro i inside
  rw [← @verdictAt?_append xs ys replies i inside]
  exact h i (List.length_append ▸ Nat.lt_add_right _ inside)

theorem CutOff.allGood_of_le (h : CutOff (xs ++ ys) replies k verdict) (after : xs.length ≤ k) :
    AllGood xs replies := by
  intro i inside
  rw [← @verdictAt?_append xs ys replies i inside]
  exact h.before i (inside.trans_le after)

theorem CutOff.of_lt (h : CutOff (xs ++ ys) replies k verdict) (within_ : k < xs.length) :
    CutOff xs replies k verdict where
  there := (verdictAt?_append within_).symm.trans h.there
  bad := h.bad
  before i before := (verdictAt?_append (before.trans within_)).symm.trans (h.before i before)

theorem CutOff.lt_length (h : CutOff xs replies k verdict) : k < xs.length := by
  obtain ⟨_, found, _⟩ := Option.map_eq_some_iff.mp h.there
  exact (List.getElem?_eq_some_iff.mp found).1

theorem CutOff.not_allGood (h : CutOff xs replies k verdict) : ¬ AllGood xs replies :=
  fun all => h.bad (Option.some.inj (h.there.symm.trans (all k h.lt_length)))

theorem allGood_cons :
    AllGood (x :: xs) replies ↔
      x.verdict (replyAt replies 0) = pure () ∧ AllGood xs replies.tail := by
  constructor
  · intro all
    refine ⟨Option.some.inj (all 0 (Nat.zero_lt_succ _)), fun i inside => ?_⟩
    exact (verdictAt?_succ x xs replies i).symm.trans (all (i + 1) (Nat.succ_lt_succ inside))
  · rintro ⟨first, rest⟩ i inside
    cases i with
    | zero => exact congrArg some first
    | succ i =>
        exact (verdictAt?_succ x xs replies i).trans (rest i (Nat.lt_of_succ_lt_succ inside))

theorem cutOff_cons_zero :
    CutOff (x :: xs) replies 0 verdict ↔
      x.verdict (replyAt replies 0) = verdict ∧ verdict ≠ pure () :=
  ⟨fun h => ⟨Option.some.inj h.there, h.bad⟩, fun ⟨same, bad⟩ =>
    ⟨congrArg some same, bad, fun _ no => absurd no (Nat.not_lt_zero _)⟩⟩

theorem cutOff_cons_succ :
    CutOff (x :: xs) replies (k + 1) verdict ↔
      x.verdict (replyAt replies 0) = pure () ∧ CutOff xs replies.tail k verdict := by
  constructor
  · intro h
    refine ⟨Option.some.inj (h.before 0 (Nat.zero_lt_succ _)),
      (verdictAt?_succ x xs replies k).symm.trans h.there, h.bad, fun i before => ?_⟩
    exact (verdictAt?_succ x xs replies i).symm.trans (h.before _ (Nat.succ_lt_succ before))
  · rintro ⟨first, h⟩
    refine ⟨(verdictAt?_succ x xs replies k).trans h.there, h.bad, fun i before => ?_⟩
    cases i with
    | zero => exact congrArg some first
    | succ i =>
        exact (verdictAt?_succ x xs replies i).trans (h.before i (Nat.lt_of_succ_lt_succ before))

theorem allGood_or_cutOff (xs : List Exchange) (replies : List ScriptedReply) :
    AllGood xs replies ∨ ∃ k verdict, CutOff xs replies k verdict := by
  induction xs generalizing replies with
  | nil => exact .inl fun _ no => absurd no (Nat.not_lt_zero _)
  | cons x xs ih =>
      by_cases first : x.verdict (replyAt replies 0) = pure ()
      · rcases ih replies.tail with all | ⟨k, verdict, h⟩
        · exact .inl (allGood_cons.mpr ⟨first, all⟩)
        · exact .inr ⟨k + 1, verdict, cutOff_cons_succ.mpr ⟨first, h⟩⟩
      · exact .inr ⟨0, _, cutOff_cons_zero.mpr ⟨rfl, first⟩⟩

/-- If all is well, every statement is sent, and has used up one reply. -/
theorem converse_allGood (h : AllGood xs replies) (sent : List Statement) :
    converse xs ⟨replies, sent⟩ =
      (pure (), ⟨replies.drop xs.length, (xs.map (·.statement)).reverse ++ sent⟩) := by
  induction xs generalizing replies sent with
  | nil => rfl
  | cons x xs ih =>
      obtain ⟨first, rest⟩ := allGood_cons.mp h
      rw [← reply_fst replies sent x.statement] at first
      rw [converse_cons_of_good first]
      refine (ih rest _).trans ?_
      simp

/-- Nothing is sent after the first statement with a bad reply. -/
theorem converse_cutOff (h : CutOff xs replies k verdict) (sent : List Statement) :
    converse xs ⟨replies, sent⟩ = (verdict,
      ⟨replies.drop (k + 1), ((xs.map (·.statement)).take (k + 1)).reverse ++ sent⟩) := by
  induction xs generalizing replies sent k with
  | nil => exact absurd h.lt_length (Nat.not_lt_zero k)
  | cons x xs ih =>
      cases k with
      | zero =>
          obtain ⟨same, bad⟩ := cutOff_cons_zero.mp h
          rw [← reply_fst replies sent x.statement] at same
          rw [converse_cons_of_bad (same ▸ bad), same]
          simp [Script.reply]
      | succ k =>
          obtain ⟨first, rest⟩ := cutOff_cons_succ.mp h
          rw [← reply_fst replies sent x.statement] at first
          rw [converse_cons_of_good first]
          refine (ih rest _).trans ?_
          simp

end Positions

/-- How a program comes out against a script, and what is left of the script. -/
def spoken {α : Type} (p : Program Database α) (script : Script) : Except Overflow α × Script :=
  ((script.run p).1, (script.run p).2.2)

section Spoken

variable {α β : Type} {p : Program Database β} {f : β → Program Database α} {b : β} {o : Overflow}
  {script script' : Script}

theorem spoken_bind_eq (p : Program Database β) (f : β → Program Database α) (script : Script) :
    spoken (p.bind f) script =
      match spoken p script with
      | (.ok b, script') => spoken (f b) script'
      | (.error o, script') => (.error o, script') := by
  induction p generalizing script with
  | done b => rfl
  | halt o => rfl
  | note n next ih => exact ih script
  | ask s next ih => exact ih _ _

theorem spoken_bind (h : spoken p script = (.ok b, script')) :
    spoken (p.bind f) script = spoken (f b) script' := by
  rw [spoken_bind_eq, h]

theorem spoken_fail (failure : DatabaseFailure) (script : Script) :
    spoken (fail (α := α) failure) script = (.ok (.error (.ofDatabase failure)), script) := by
  rw [fail]
  cases Event.ofClassification? failure <;> rfl

theorem spoken_settle (read : Answer → Checked DatabaseFailure α) (reply : ScriptedReply)
    (script : Script) : spoken (settle read reply) script = (reading read reply, script) := by
  cases reply with
  | error failure => exact spoken_fail failure script
  | ok a =>
      have made : (ExceptT.mk (.ok (.ok a)) >>= read : Checked DatabaseFailure α) = read a := rfl
      simp only [settle, reading, made]
      rcases read a with o | failure | value
      · rfl
      · exact spoken_fail failure script
      · rfl

theorem spoken_fetch (s : Statement) (read : Answer → Checked DatabaseFailure α)
    (script : Script) :
    spoken (fetch s read) script = (reading read (script.reply s).1, (script.reply s).2) :=
  spoken_settle read _ _

theorem verdict_plain_of_ok {s : Statement} {reply : ScriptedReply} {a : Answer}
    (h : reply = .ok a) : (Exchange.plain s).verdict reply = pure () := by
  rw [h]
  rfl

theorem verdict_plain_of_error {s : Statement} {reply : ScriptedReply} {failure : DatabaseFailure}
    (h : reply = .error failure) :
    (Exchange.plain s).verdict reply = .fail (.ofDatabase failure) := by
  rw [h]
  rfl

theorem spoken_sendAll (ss : List Statement) (script : Script) :
    ∃ answer, spoken (sendAll ss) script = (.ok answer, (converse (ss.map .plain) script).2) ∧
      reading Answer.nothing answer = (converse (ss.map .plain) script).1 := by
  induction ss generalizing script with
  | nil => exact ⟨_, rfl, rfl⟩
  | cons s ss ih =>
      have sends : spoken (sendAll (s :: ss)) script = spoken (match (script.reply s).1 with
          | .ok _ => sendAll ss
          | .error failure => pure (.error failure)) (script.reply s).2 := rfl
      rw [List.map_cons, sends]
      cases replied : (script.reply s).1 with
      | error failure =>
          have bad := verdict_plain_of_error (s := s) replied
          have ends : converse (.plain s :: ss.map .plain) script =
              (.fail (.ofDatabase failure), (script.reply s).2) :=
            (converse_cons_of_bad fun good => by cases bad.symm.trans good).trans
              (congrArg (·, _) bad)
          rw [ends]
          exact ⟨_, rfl, rfl⟩
      | ok a =>
          have good := verdict_plain_of_ok (s := s) replied
          have goesOn : converse (.plain s :: ss.map .plain) script =
              converse (ss.map .plain) (script.reply s).2 := converse_cons_of_good good
          rw [goesOn]
          exact ih _

/-- A transaction that is not opened is rolled back. -/
theorem spoken_openTransaction (o : Options) (script : Script) :
    spoken (openTransaction o) script =
      match converse (opening o) script with
      | (.ok (.error e), script') => (.ok (.error e), (script'.reply .rollback).2)
      | verdict => verdict := by
  obtain ⟨answer, sent, same⟩ := spoken_sendAll o.opening script
  rw [← opening_eq] at sent same
  refine (spoken_bind sent).trans ?_
  rw [← Prod.eta (converse (opening o) script), ← same]
  cases answer with
  | ok a => rfl
  | error failure => exact spoken_fail failure _

theorem spoken_closeTransaction {s : Statement} {script : Script} {a : Answer}
    (h : (script.reply s).1 = .ok a) :
    spoken (closeTransaction s) script = (.ok (.ok ()), (script.reply s).2) := by
  have sends : spoken (closeTransaction s) script =
      spoken ((rollBackAfter (script.reply s).1).bind (settle Answer.nothing))
        (script.reply s).2 := rfl
  rw [sends, h]
  rfl

/-- A transaction that is not ended by the statement that should end it is rolled back. -/
theorem spoken_closeTransaction_of_error {s : Statement} {script : Script}
    {failure : DatabaseFailure} (h : (script.reply s).1 = .error failure) :
    spoken (closeTransaction s) script =
      (.ok (.error (.ofDatabase failure)), ((script.reply s).2.reply .rollback).2) := by
  have sends : spoken (closeTransaction s) script =
      spoken ((rollBackAfter (script.reply s).1).bind (settle Answer.nothing))
        (script.reply s).2 := rfl
  rw [sends, h]
  exact spoken_fail failure _

end Spoken

end DoubleEntry.Sql

namespace DoubleEntry.Simulation.ScriptedState

open Sql

/-- Answers the one client of a database, which never has to wait. -/
def paced : Server (Paced LedgerStore) ScriptedState where
  note _ st := st
  serve
    | .call r, st =>
        match st.submit r with
        | (.ok (.answered reply), _, st) => (.answer reply, st)
        | (.ok (.waiting ticket), _, _) => ticket.elim
        | (.error o, _, st) => (.halt o, st)
    | .pause _, st => (.answer (), st)

/-- The same with windows, none of which ever ends. -/
def alone : Server (Timed LedgerStore) ScriptedState where
  note _ st := st
  serve
    | .now, st => (.answer 0, st)
    | .openWindow cancelAt timeout, st => (.answer (.ok ⟨0, cancelAt, timeout⟩), st)
    | .free r, st => paced.serve r st
    | .within _ r, st =>
        let (answer, st) := paced.serve r st
        (answer.map .ok, st)

/-- Gives up the sessions that are still open, as a program does that has stopped. -/
def leave (st : ScriptedState) : ScriptedState :=
  st.sessions.live.foldl (fun st s => (st.submit (.abandon s)).2.2) st

/-- What becomes of a program with a fresh store, and all that the database is sent, in order. -/
def dialogue {α : Type} (o : Options) (replies : List ScriptedReply)
    (p : Program (Timed LedgerStore) α) : Progress (Timed LedgerStore) α × List Statement :=
  let (progress, st) := p.run alone { options := o, script := { replies := replies } }
  (progress, st.leave.script.sent.reverse)

variable {α β : Type} {st : ScriptedState} {s : SessionId}

theorem serve_call (r : StoreRequest) (st : ScriptedState) :
    paced.serve (.call r) st =
      match spoken (Sql.serve st.options r st.sessions) st.script with
      | (.ok (reply, sessions), script) =>
          (.answer reply, { st with sessions := sessions, script := script })
      | (.error o, script) => (.halt o, { st with script := script }) := by
  simp only [paced, submit, spoken]
  rcases st.script.run (Sql.serve st.options r st.sessions) with ⟨_ | _, _, _⟩ <;> rfl

theorem run_within (p : Program (Paced LedgerStore) α) (w : Window) (st : ScriptedState) :
    (p.within w).run alone st = ((p.run paced st).1.inside w, (p.run paced st).2) := by
  induction p generalizing st with
  | done a => rfl
  | halt o => rfl
  | note n next ih => exact ih st
  | ask q next ih =>
      simp only [Program.within, Program.run]
      cases served : paced.serve q st with
      | mk response st' =>
          have same : alone.serve (.within w q) st = (response.map .ok, st') := by
            simp only [alone, served]
          rw [same]
          cases response with
          | answer reply => exact ih reply st'
          | wait => rfl
          | halt o => rfl

theorem run_called (r : StoreRequest) (st : ScriptedState) :
    (Program.callFree (I := LedgerStore) r).run alone st =
      match spoken (Sql.serve st.options r st.sessions) st.script with
      | (.ok (reply, sessions), script) =>
          (.finished reply, { st with sessions := sessions, script := script })
      | (.error o, script) => (.halted o, { st with script := script }) := by
  have shape : Program.callFree (I := LedgerStore) r =
      .ask (I := Timed LedgerStore) (.free (.call r)) .done := rfl
  have served : alone.serve (.free (.call r)) st = paced.serve (.call r) st := rfl
  rw [shape, Program.run, served, serve_call]
  rcases spoken (Sql.serve st.options r st.sessions) st.script with ⟨_ | _, _⟩ <;> rfl

theorem run_of_served {r : StoreRequest} {reply : r.Reply} {sessions : Sessions} {script : Script}
    (h : spoken (Sql.serve st.options r st.sessions) st.script =
      (.ok (reply, sessions), script)) :
    (Program.callFree (I := LedgerStore) r).run alone st =
      (.finished reply, { st with sessions := sessions, script := script }) := by
  rw [run_called, h]

end DoubleEntry.Simulation.ScriptedState

namespace DoubleEntry.Sql

open Simulation

/-- A program comes out as the reply to a statement demands. -/
inductive Agrees {I : Interface} {α : Type} :
    Progress I (Except LedgerError α) → Checked LedgerError Unit → Prop
  | good (value : α) : Agrees (.finished (.ok value)) (.ok (.ok ()))
  | failed (e : LedgerError) : Agrees (.finished (.error e)) (.ok (.error e))
  | halted (o : Overflow) : Agrees (.halted o) (.error o)

/-- In an open session, a program sends these statements, until a reply is not good. -/
def Holds {α : Type} (s : SessionId) (p : Action (Paced LedgerStore) α) (xs : List Exchange) :
    Prop :=
  ∀ st : ScriptedState, st.sessions.live.contains s = true →
    ∃ progress, p.toProgram.run ScriptedState.paced st =
        (progress, { st with script := (converse xs st.script).2 }) ∧
      Agrees progress (converse xs st.script).1

section Holds

variable {α β : Type} {s : SessionId} {p : Action (Paced LedgerStore) β}
  {f : β → Action (Paced LedgerStore) α} {xs ys : List Exchange} {op : SessionRequest}

theorem holds_pure (a : α) : Holds s (pure a) [] := fun _ _ => ⟨_, rfl, .good a⟩

theorem holds_bind (first : Holds s p xs) (rest : ∀ b, Holds s (f b) ys) :
    Holds s (p >>= f) (xs ++ ys) := by
  intro st live
  obtain ⟨progress, ran, agrees⟩ := first st live
  cases met : converse xs st.script with
  | mk verdict script =>
      rw [met] at ran agrees
      cases agrees with
      | good b =>
          obtain ⟨last, ran', agrees'⟩ := rest b { st with script := script } live
          rw [converse_append_of_good met]
          exact ⟨last, (Program.run_bind ran).trans ran', agrees'⟩
      | failed e =>
          rw [converse_append_of_bad met fun no => by cases no]
          exact ⟨_, Program.run_bind ran, .failed e⟩
      | halted o =>
          rw [converse_append_of_bad met fun no => by cases no]
          exact ⟨_, Program.run_bind_halted ran, .halted o⟩

/-- A request that takes one statement, and leaves its session open. -/
theorem run_ask_of_fetch {statement : Statement} {read : Answer → Checked DatabaseFailure op.Reply}
    (performs : performOpen op = fetch statement read) (stays : ∀ ss : Sessions, ss.after s op = ss)
    {st : ScriptedState} (live : st.sessions.live.contains s = true) :
    (op.ask s).toProgram.run ScriptedState.paced st =
      (match reading read (st.script.reply statement).1 with
        | .ok result => .finished result
        | .error o => .halted o,
      { st with script := (st.script.reply statement).2 }) := by
  have served : spoken (serve st.options (.perform s op) st.sessions) st.script =
      (match reading read (st.script.reply statement).1 with
        | .ok result => .ok (result, st.sessions)
        | .error o => .error o,
      (st.script.reply statement).2) := by
    simp only [serve, live, if_true, performs, stays]
    refine (spoken_bind_eq _ _ _).trans ?_
    rw [spoken_fetch]
    rcases reading read (st.script.reply statement).1 with o | result <;> rfl
  have shape : (op.ask s).toProgram =
      .ask (I := Paced LedgerStore) (.call (.perform s op)) .done := rfl
  rw [shape, Program.run, ScriptedState.serve_call, served]
  rcases reading read (st.script.reply statement).1 with o | result <;> rfl

/-- A request whose reply is the one row of the answer. -/
theorem holds_row {statement : Statement} {read : Row → Checked DatabaseFailure op.Reply}
    (performs : performOpen op = fetch statement (Answer.one read))
    (stays : ∀ ss : Sessions, ss.after s op = ss) :
    Holds s (op.ask s) [.row statement read] := by
  intro st live
  rw [run_ask_of_fetch performs stays live, converse_singleton]
  refine ⟨_, rfl, ?_⟩
  simp only [Exchange.row]
  rcases reading (Answer.one read) (st.script.reply statement).1 with o | e | value
  · exact .halted o
  · exact .failed e
  · exact .good value

/-- A balance is reported if the log can take it. -/
theorem run_reported (verbose : Bool) (accountId : Int) (account : Account) (st : ScriptedState) :
    ∃ progress, (do
        ExceptT.lift (Balance.reportBalance verbose accountId account.balance)
        pure account : Action (Paced LedgerStore) Account).toProgram.run ScriptedState.paced st =
          (progress, st) ∧
      Agrees progress
        (if account.balance.IsLoggable verbose then pure () else .halt .decimalText) := by
  rw [Balance.reportBalance]
  by_cases loggable : account.balance.IsLoggable verbose
  · rw [if_pos loggable, if_pos loggable]
    exact ⟨_, rfl, .good account⟩
  · rw [if_neg loggable, if_neg loggable]
    exact ⟨_, rfl, .halted .decimalText⟩

theorem holds_applyDelta (verbose : Bool) (s : SessionId) (accountId : Int) (delta : Decimal) :
    Holds s (Balance.applyDelta verbose s accountId delta)
      [.balance verbose accountId delta] := by
  intro st live
  have performs : performOpen (.addBalance accountId delta) =
      fetch (.addBalance accountId delta) (Answer.first? Row.account) := rfl
  have ran := run_ask_of_fetch performs (fun _ => rfl) live
  rw [converse_singleton]
  simp only [Exchange.balance, Balance.applyDelta]
  cases taken : reading (Answer.first? Row.account)
      (st.script.reply (.addBalance accountId delta)).1 with
  | error o =>
      rw [taken] at ran
      exact ⟨_, Program.run_bind_halted ran, .halted o⟩
  | ok result =>
      rw [taken] at ran
      rcases result with e | _ | account
      · exact ⟨_, Program.run_bind ran, .failed e⟩
      · exact ⟨_, Program.run_bind ran, .failed _⟩
      · obtain ⟨progress, reported, agrees⟩ := run_reported verbose accountId account
          { st with script := (st.script.reply (.addBalance accountId delta)).2 }
        exact ⟨progress, (Program.run_bind ran).trans reported, agrees⟩

end Holds

end DoubleEntry.Sql
