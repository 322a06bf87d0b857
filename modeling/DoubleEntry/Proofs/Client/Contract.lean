import DoubleEntry.Proofs.Client.Host

/-!
What a unit of work promises over any store, for any body, deadline and cancellation. It begins one
session, and ends it by a commit if the body came to a value in time, and else by a rollback. It
never does both, and it loses no error: what the body or the commit ended in is given as it is, and
together with the error of the rollback if that failed as well. A hook has no say in any of this.
-/

namespace DoubleEntry

/-- A request that settles a session. -/
def Mark.isEnding : Mark → Bool
  | .asked (.perform _ .commit) => true
  | .asked (.perform _ .rollback) => true
  | _ => false

/-- A run came to its end with a result. Since an earlier stage of the visit it has made some marks,
and nothing was counted but one rollback for the reason of an error, if there is one. -/
structure Ends {σ α : Type} (run : Progress (Timed LedgerStore) α × Visit σ) (since : Visit σ)
    (result : α) (cause : Option LedgerError) (marks : List Mark) : Prop where
  finished : run.1 = .finished result
  log : run.2.log = since.log ++ marks
  counters : ∀ m, run.2.counters.get m =
    since.counters.get m + if cause.map (fun e => .rollback e.reason) = some m then 1 else 0

namespace Program

variable {σ α : Type} {h : Host σ} {v v₁ : Visit σ} {r : StoreRequest}

theorem run_callFree {reply : r.Reply} (called : h.call v r = some (reply, v₁)) :
    (callFree (I := LedgerStore) r).run h.server v = (.finished reply, v₁) := by
  simp only [callFree, request, run, Host.server, Host.paced, Host.start, called]

theorem run_callFree_stuck (called : h.call v r = none)
    (f : r.Reply → Program (Timed LedgerStore) α) :
    ((callFree (I := LedgerStore) r).bind f).run h.server v =
      (.blocked (.free (.call r)) fun reply => (done reply).bind f, v.send (.call r)) := by
  simp only [callFree, request, bind, run, Host.server, Host.paced, Host.start, called]

end Program

namespace UnitOfWork

open Program

variable {σ α : Type}

/-- The window of a body that begins at an instant. -/
def window (u : UnitOfWork) (cancelAt : Option Nat) (instant : Nat) : Window :=
  ⟨0, cancelAt, u.timeout.map (instant + ·)⟩

/-- How a session is settled. -/
def ending : Except LedgerError α → SessionRequest
  | .ok _ => .commit
  | .error _ => .rollback

/-- How a unit goes on once its body came out with an outcome. -/
structure Closes (h : Host σ) (s : SessionId) (v : Visit σ) (outcome : Except LedgerError α)
    (run : Progress (Timed LedgerStore) (Except LedgerError α) × Visit σ) : Prop where
  committed : ∀ value, outcome = .ok value →
    h.reply? v (.perform s .commit) = some (.ok ()) →
    Ends run v (.ok value) none
      [.asked (.perform s .commit), .told (.event .unitCommitted), .asked (.abandon s)]
  uncommitted : ∀ value e, outcome = .ok value →
    h.reply? v (.perform s .commit) = some (.error e) →
    Ends run v (.error e) (some e)
      [.asked (.perform s .commit), .told (.event (.commitFailed e)),
        .told (.counted (.rollback e.reason)), .asked (.abandon s)]
  undone : ∀ e, outcome = .error e →
    h.reply? v (.perform s .rollback) = some (.ok ()) →
    Ends run v (.error e) (some e)
      [.told (.counted (.rollback e.reason)), .asked (.perform s .rollback),
        .told (.event (.unitRolledBack e)), .asked (.abandon s)]
  /-- Both errors are kept. -/
  spoilt : ∀ e undo, outcome = .error e →
    h.reply? v (.perform s .rollback) = some (.error undo) →
    Ends run v (.error (.rollback e undo)) (some e)
      [.told (.counted (.rollback e.reason)), .asked (.perform s .rollback),
        .told (.event (.rollbackFailed e undo)), .asked (.abandon s)]
  unanswered : h.reply? v (.perform s (ending outcome)) = none →
    ∃ next, run.1 = .blocked (.free (.call (.perform s (ending outcome)))) next
  /-- One request settles the session, and it is made once. -/
  once : ∃ marks, run.2.log = v.log ++ marks ∧
    marks.filter Mark.isEnding = [.asked (.perform s (ending outcome))]

/-- What is done in a session that a body has left, before the session is given up. -/
def settle (s : SessionId) :
    Except LedgerError α → Program (Timed LedgerStore) (Except LedgerError α)
  | .ok value => commit s value
  | .error e => (abort s e).bind fun e => done (.error e)

theorem conclude_eq (s : SessionId) (outcome : Except LedgerError α) :
    conclude s outcome = (settle s outcome).bind fun result =>
      (callFree (I := LedgerStore) (.abandon s)).bind fun _ => done result := by
  cases outcome with
  | ok value => rfl
  | error e => exact (bind_assoc _ _ _).symm

section Conclude

variable {h : Host σ} {v v₁ : Visit σ} {s : SessionId} {value : α} {e undo : LedgerError}

theorem conclude_ends {outcome result : Except LedgerError α} {cause : Option LedgerError}
    {marks : List Mark} (ran : (settle s outcome).run h.server v = (.finished result, v₁))
    (log : v₁.log ++ [.asked (.abandon s)] = v.log ++ marks)
    (counters : ∀ m, v₁.counters.get m =
      v.counters.get m + if cause.map (fun e => .rollback e.reason) = some m then 1 else 0) :
    Ends ((conclude s outcome).run h.server v) v result cause marks := by
  obtain ⟨v₂, called⟩ := h.call_abandon v₁ s
  obtain ⟨_, log₂, counters₂⟩ := Host.call_extends called
  rw [conclude_eq, run_bind ran, run_bind (run_callFree called)]
  refine ⟨rfl, ?_, fun m => ?_⟩
  · simp only [run, log₂, log]
  · simp only [run, counters₂, counters]

theorem conclude_committed (replied : h.reply? v (.perform s .commit) = some (.ok ())) :
    Ends ((conclude s (.ok value)).run h.server v) v (.ok value) none
      [.asked (.perform s .commit), .told (.event .unitCommitted), .asked (.abandon s)] := by
  obtain ⟨v₁, called⟩ := Host.reply?_eq_some.mp replied
  obtain ⟨_, log, counters⟩ := Host.call_extends called
  have settled : (settle s (.ok value)).run h.server v =
      (.finished (.ok value), v₁.tell (.event .unitCommitted)) := run_bind (run_callFree called)
  exact conclude_ends settled (by simp [log]) (by simp [counters])

theorem conclude_uncommitted (replied : h.reply? v (.perform s .commit) = some (.error e)) :
    Ends ((conclude s (.ok value)).run h.server v) v (.error e) (some e)
      [.asked (.perform s .commit), .told (.event (.commitFailed e)),
        .told (.counted (.rollback e.reason)), .asked (.abandon s)] := by
  obtain ⟨v₁, called⟩ := Host.reply?_eq_some.mp replied
  obtain ⟨_, log, counters⟩ := Host.call_extends called
  have settled : (settle s (.ok value)).run h.server v = (.finished (.error e),
      (v₁.tell (.event (.commitFailed e))).tell (.counted (.rollback e.reason))) :=
    run_bind (run_callFree called)
  exact conclude_ends settled (by simp [log])
    (by simp [counters, Counters.get_record, eq_comm])

theorem conclude_undone (replied : h.reply? v (.perform s .rollback) = some (.ok ())) :
    Ends ((conclude (α := α) s (.error e)).run h.server v) v (.error e) (some e)
      [.told (.counted (.rollback e.reason)), .asked (.perform s .rollback),
        .told (.event (.unitRolledBack e)), .asked (.abandon s)] := by
  rw [← Host.reply?_tell (.counted (.rollback e.reason))] at replied
  obtain ⟨v₁, called⟩ := Host.reply?_eq_some.mp replied
  obtain ⟨_, log, counters⟩ := Host.call_extends called
  have settled : (settle (α := α) s (.error e)).run h.server v =
      (.finished (.error e), v₁.tell (.event (.unitRolledBack e))) :=
    run_bind (run_bind (run_callFree called))
  exact conclude_ends settled (by simp [log])
    (by simp [counters, Counters.get_record, eq_comm])

theorem conclude_spoilt (replied : h.reply? v (.perform s .rollback) = some (.error undo)) :
    Ends ((conclude (α := α) s (.error e)).run h.server v) v (.error (.rollback e undo)) (some e)
      [.told (.counted (.rollback e.reason)), .asked (.perform s .rollback),
        .told (.event (.rollbackFailed e undo)), .asked (.abandon s)] := by
  rw [← Host.reply?_tell (.counted (.rollback e.reason))] at replied
  obtain ⟨v₁, called⟩ := Host.reply?_eq_some.mp replied
  obtain ⟨_, log, counters⟩ := Host.call_extends called
  have settled : (settle (α := α) s (.error e)).run h.server v =
      (.finished (.error (.rollback e undo)), v₁.tell (.event (.rollbackFailed e undo))) :=
    run_bind (run_bind (run_callFree called))
  exact conclude_ends settled (by simp [log])
    (by simp [counters, Counters.get_record, eq_comm])

theorem settle_unanswered {outcome : Except LedgerError α}
    (silent : h.reply? v (.perform s (ending outcome)) = none) :
    ∃ next v₁, (settle s outcome).run h.server v =
        (.blocked (.free (.call (.perform s (ending outcome)))) next, v₁) ∧
      ∃ marks, v₁.log = v.log ++ marks ∧
        marks.filter Mark.isEnding = [.asked (.perform s (ending outcome))] := by
  cases outcome with
  | ok value =>
      have called := Option.map_eq_none_iff.mp silent
      exact ⟨_, _, run_callFree_stuck called _, [.asked (.perform s .commit)], rfl, rfl⟩
  | error e =>
      rw [← Host.reply?_tell (.counted (.rollback e.reason))] at silent
      have called := Option.map_eq_none_iff.mp silent
      refine ⟨_, _, (congrArg (run h.server · _) (Program.bind_assoc _ _ _)).trans
        (run_callFree_stuck called _),
        [.told (.counted (.rollback e.reason)), .asked (.perform s .rollback)], ?_, rfl⟩
      simp [Visit.send, ending]

theorem conclude_unanswered {outcome : Except LedgerError α}
    (silent : h.reply? v (.perform s (ending outcome)) = none) :
    ∃ next v₁, (conclude s outcome).run h.server v =
        (.blocked (.free (.call (.perform s (ending outcome)))) next, v₁) ∧
      ∃ marks, v₁.log = v.log ++ marks ∧
        marks.filter Mark.isEnding = [.asked (.perform s (ending outcome))] := by
  obtain ⟨next, v₁, ran, seen⟩ := settle_unanswered silent
  rw [conclude_eq, run_bind_eq, ran]
  exact ⟨_, v₁, rfl, seen⟩

end Conclude

theorem closes_conclude (h : Host σ) (s : SessionId) (v : Visit σ)
    (outcome : Except LedgerError α) :
    Closes h s v outcome ((conclude s outcome).run h.server v) where
  committed := by
    rintro value rfl replied
    exact conclude_committed replied
  uncommitted := by
    rintro value e rfl replied
    exact conclude_uncommitted replied
  undone := by
    rintro e rfl replied
    exact conclude_undone replied
  spoilt := by
    rintro e undo rfl replied
    exact conclude_spoilt replied
  unanswered silent := by
    obtain ⟨next, v₁, ran, _⟩ := conclude_unanswered silent
    exact ⟨next, congrArg Prod.fst ran⟩
  once := by
    cases replied : h.reply? v (.perform s (ending outcome)) with
    | none =>
        obtain ⟨next, v₁, ran, seen⟩ := conclude_unanswered replied
        exact ran ▸ seen
    | some reply =>
        cases outcome with
        | ok value =>
            cases reply with
            | ok _ => exact ⟨_, (conclude_committed replied).log, rfl⟩
            | error e => exact ⟨_, (conclude_uncommitted replied).log, rfl⟩
        | error e =>
            cases reply with
            | ok _ => exact ⟨_, (conclude_undone replied).log, rfl⟩
            | error undo => exact ⟨_, (conclude_spoilt replied).log, rfl⟩

/-- Only a commit makes a unit succeed, and it succeeds with the value of its body. -/
theorem Closes.succeeds {h : Host σ} {s : SessionId} {v : Visit σ} {outcome : Except LedgerError α}
    {run : Progress (Timed LedgerStore) (Except LedgerError α) × Visit σ}
    (closes : Closes h s v outcome run) {value : α} :
    run.1 = .finished (.ok value) ↔
      outcome = .ok value ∧ h.reply? v (.perform s .commit) = some (.ok ()) := by
  constructor
  · intro finished
    cases replied : h.reply? v (.perform s (ending outcome)) with
    | none =>
        obtain ⟨next, blocked⟩ := closes.unanswered replied
        cases finished.symm.trans blocked
    | some reply =>
        cases outcome with
        | ok a =>
            cases reply with
            | ok _ =>
                cases finished.symm.trans (closes.committed a rfl replied).finished
                exact ⟨rfl, replied⟩
            | error e =>
                cases finished.symm.trans (closes.uncommitted a e rfl replied).finished
        | error e =>
            cases reply with
            | ok _ => cases finished.symm.trans (closes.undone e rfl replied).finished
            | error undo => cases finished.symm.trans (closes.spoilt e undo rfl replied).finished
  · rintro ⟨came, replied⟩
    exact (closes.committed value came replied).finished

section Bounded

variable {h : Host σ} {u : UnitOfWork} {cancelAt : Option Nat} {v v' : Visit σ}
  {p : Program (Paced LedgerStore) (Except LedgerError α)}
  {progress : Progress (Paced LedgerStore) (Except LedgerError α)}

/-- What a body has come to that was run in a window. -/
def outcomeOf (u : UnitOfWork) : Except Stop (Except LedgerError α) → Except LedgerError α
  | .ok outcome => outcome
  | .error stop => .error (u.stopped stop)

theorem run_bounded_opened (opened : (u.window cancelAt v.clock).Allows v.instant) :
    (u.bounded cancelAt p).run h.server v =
      ((p.within (u.window cancelAt v.clock)).bind fun x =>
        done (u.outcomeOf x)).run h.server v := by
  have still : cancelAt.any (· ≤ v.clock) = false := by
    cases cancelAt with
    | none => rfl
    | some c => exact decide_eq_false (WithTop.coe_lt_coe.mp (opened.uncancelled c rfl)).not_ge
  have opens : (request (I := Timed LedgerStore) (.openWindow cancelAt u.timeout)).run h.server v =
      (.finished (.ok (u.window cancelAt v.clock)), v) := by
    simp only [request, run, Host.server, still, window]
    rfl
  refine (run_bind opens).trans (congrArg (run h.server · v) (congrArg (Program.bind _) ?_))
  funext x
  cases x <;> rfl

theorem run_bounded_cancelled {c : Nat} (signal : cancelAt = some c) (due : c ≤ v.clock) :
    (u.bounded cancelAt p).run h.server v =
      (.finished (.error (u.stopped .cancelled)), v) := by
  have opens : (request (I := Timed LedgerStore) (.openWindow cancelAt u.timeout)).run h.server v =
      (.finished (.error .cancelled), v) := by
    simp only [request, run, Host.server, signal, Option.any_some, decide_eq_true due]
    rfl
  exact run_bind opens

theorem run_bounded_of_allows (ran : p.run h.paced v = (progress, v'))
    (allows : (u.window cancelAt v.clock).Allows (progress.lasts v')) :
    (u.bounded cancelAt p).run h.server v =
      match progress.inside (u.window cancelAt v.clock) with
      | .finished x => (.finished (u.outcomeOf x), v')
      | .halted o => (.halted o, v')
      | .blocked r next => (.blocked r fun reply => (next reply).bind fun x =>
          done (u.outcomeOf x), v') := by
  have early := clock_le_lasts ran
  rw [run_bounded_opened (allows.mono early), run_bind_eq, run_within_of_allows ran allows]
  cases progress <;> rfl

/-- A body that lasts too long comes to the error of what stops it. -/
theorem run_bounded_of_stops (ran : p.run h.paced v = (progress, v')) {stop : Stop} {instant : Nat}
    (stops : (u.window cancelAt v.clock).Stops (progress.lasts v') stop instant) :
    ∃ left, (u.bounded cancelAt p).run h.server v =
        (.finished (.error (u.stopped stop)), left) ∧
      left.clock = max v.clock instant ∧ left.Extends v ∧ left.log <+: v'.log := by
  rcases (u.window cancelAt v.clock).allows_or_stops v.instant with opened | ⟨_, _, first⟩
  · obtain ⟨left, run_, clock, extends_, before⟩ := run_within_of_stops ran opened stops
    refine ⟨left, ?_, ?_, extends_, before⟩
    · rw [run_bounded_opened opened, run_bind run_]
      rfl
    · rw [clock, Nat.max_eq_right (clock ▸ extends_.clock)]
  · cases first.eq_of_le stops (clock_le_lasts ran)
    -- Only a cancellation can come before the body has begun.
    cases first with
    | cancelled signal due _ =>
        have due := WithTop.coe_le_coe.mp due
        exact ⟨v, run_bounded_cancelled signal due, (Nat.max_eq_left due).symm, .refl v,
          (run_extends ran).log⟩
    | deadline limit expired _ =>
        obtain ⟨ms, _, same⟩ := Option.map_eq_some_iff.mp limit
        have expired := WithTop.coe_lt_coe.mp expired
        omega

end Bounded

section Execute

variable {h : Host σ} {u : UnitOfWork} {cancelAt : Option Nat} {v v₁ v₂ : Visit σ} {s : SessionId}
  {body : SessionId → Program (Paced LedgerStore) (Except LedgerError α)}

theorem run_execute_begun (begun : h.call v .begin = some (.ok s, v₁)) :
    (u.execute cancelAt body).run h.server v =
      ((u.bounded cancelAt (body s)).bind (conclude s)).run h.server v₁ :=
  run_bind (run_callFree begun)

theorem execute_unbegun (called : h.call v .begin = none) :
    ∃ next, (u.execute cancelAt body).run h.server v =
      (.blocked (.free (.call .begin)) next, v.send (.call .begin)) :=
  ⟨_, run_callFree_stuck called _⟩

theorem execute_refused {e : LedgerError} (replied : h.reply? v .begin = some (.error e)) :
    Ends ((u.execute cancelAt body).run h.server v) v (.error e) none [.asked .begin] := by
  obtain ⟨v₁, called⟩ := Host.reply?_eq_some.mp replied
  obtain ⟨_, log, counters⟩ := Host.call_extends called
  have ran : (u.execute cancelAt body).run h.server v = (.finished (.error e), v₁) :=
    run_bind (run_callFree called)
  rw [ran]
  exact ⟨rfl, log, fun m => by simp [counters]⟩

theorem execute_resolved {outcome : Except LedgerError α}
    (begun : h.call v .begin = some (.ok s, v₁))
    (ran : (body s).run h.paced v₁ = (.finished outcome, v₂))
    (allows : (u.window cancelAt v₁.clock).Allows v₂.instant) :
    Closes h s v₂ outcome ((u.execute cancelAt body).run h.server v) := by
  have came : (u.bounded cancelAt (body s)).run h.server v₁ = (.finished outcome, v₂) :=
    run_bounded_of_allows ran allows
  rw [run_execute_begun begun, run_bind came]
  exact closes_conclude h s v₂ outcome

theorem execute_stopped {progress : Progress (Paced LedgerStore) (Except LedgerError α)}
    {stop : Stop} {instant : Nat} (begun : h.call v .begin = some (.ok s, v₁))
    (ran : (body s).run h.paced v₁ = (progress, v₂))
    (stops : (u.window cancelAt v₁.clock).Stops (progress.lasts v₂) stop instant) :
    ∃ left : Visit σ, left.clock = max v₁.clock instant ∧ left.Extends v₁ ∧
      left.log <+: v₂.log ∧
      Closes h s left (.error (u.stopped stop)) ((u.execute cancelAt body).run h.server v) := by
  obtain ⟨left, came, clock, extends_, before⟩ := run_bounded_of_stops ran stops
  rw [run_execute_begun begun, run_bind came]
  exact ⟨left, clock, extends_, before, closes_conclude h s left _⟩

theorem execute_halted {o : Overflow} (begun : h.call v .begin = some (.ok s, v₁))
    (ran : (body s).run h.paced v₁ = (.halted o, v₂))
    (allows : (u.window cancelAt v₁.clock).Allows v₂.instant) :
    (u.execute cancelAt body).run h.server v = (.halted o, v₂) := by
  rw [run_execute_begun begun, run_bind_eq, run_bounded_of_allows ran allows]
  rfl

theorem execute_unended {r : PacedRequest LedgerStore}
    {next : r.Reply → Program (Paced LedgerStore) (Except LedgerError α)}
    (begun : h.call v .begin = some (.ok s, v₁))
    (ran : (body s).run h.paced v₁ = (.blocked r next, v₂))
    (allows : (u.window cancelAt v₁.clock).Allows ⊤) :
    ∃ next', (u.execute cancelAt body).run h.server v =
      (.blocked (.within (u.window cancelAt v₁.clock) r) next', v₂) := by
  rw [run_execute_begun begun, run_bind_eq, run_bounded_of_allows ran allows]
  exact ⟨_, rfl⟩

/-- A unit that succeeds has begun a session, and its body came to a value in time. -/
theorem begun_of_succeeds {value : α}
    (finished : ((u.execute cancelAt body).run h.server v).1 = .finished (.ok value)) :
    ∃ s v₁ v₂, h.call v .begin = some (.ok s, v₁) ∧
      (body s).run h.paced v₁ = (.finished (.ok value), v₂) ∧
      (u.window cancelAt v₁.clock).Allows v₂.instant ∧
      h.reply? v₂ (.perform s .commit) = some (.ok ()) := by
  cases called : h.call v .begin with
  | none =>
      obtain ⟨next, blocked⟩ := execute_unbegun called
      cases finished.symm.trans (congrArg Prod.fst blocked)
  | some x =>
      obtain ⟨reply, v₁⟩ := x
      cases reply with
      | error e =>
          have replied := Host.reply?_eq_some.mpr ⟨v₁, called⟩
          cases finished.symm.trans (execute_refused replied).finished
      | ok s =>
          cases ran : (body s).run h.paced v₁ with
          | mk progress v₂ =>
              rcases (u.window cancelAt v₁.clock).allows_or_stops (progress.lasts v₂)
                with allows | ⟨stop, instant, stops⟩
              · cases progress with
                | finished outcome =>
                    obtain ⟨rfl, replied⟩ :=
                      (execute_resolved called ran allows).succeeds.mp finished
                    exact ⟨s, v₁, v₂, rfl, ran, allows, replied⟩
                | halted o =>
                    have halted := execute_halted called ran allows
                    cases finished.symm.trans (congrArg Prod.fst halted)
                | blocked r next =>
                    obtain ⟨_, blocked⟩ := execute_unended called ran allows
                    cases finished.symm.trans (congrArg Prod.fst blocked)
              · obtain ⟨left, _, _, _, closes⟩ := execute_stopped called ran stops
                cases (closes.succeeds.mp finished).1

end Execute

end UnitOfWork

namespace CommitHook

open Program

variable {σ α : Type}

/-- A hook runs once on what was committed, and on nothing else, and it changes no result. -/
structure Obeys (hook : CommitHook α) (h : Host σ)
    (work : Program (Timed LedgerStore) (Except LedgerError α)) (v : Visit σ) : Prop where
  skipped : ∀ e v₁, work.run h.server v = (.finished (.error e), v₁) →
    (hook.after work).run h.server v = (.finished (.error e), v₁)
  done : ∀ value v₁ v₂, work.run h.server v = (.finished (.ok value), v₁) →
    (hook value).run h.server v₁ = (.finished (.ok ()), v₂) →
    (hook.after work).run h.server v = (.finished (.ok value), v₂)
  failed : ∀ value v₁ text v₂, work.run h.server v = (.finished (.ok value), v₁) →
    (hook value).run h.server v₁ = (.finished (.error text), v₂) →
    (hook.after work).run h.server v = (.finished (.ok value),
      (v₂.tell (.event (.hookFailed text))).tell (.counted .hookFailure))
  unchanged : ∀ result v₂, (hook.after work).run h.server v = (.finished result, v₂) →
    ∃ v₁, work.run h.server v = (.finished result, v₁)

theorem obeys (hook : CommitHook α) (h : Host σ)
    (work : Program (Timed LedgerStore) (Except LedgerError α)) (v : Visit σ) :
    hook.Obeys h work v where
  skipped e v₁ ran := run_bind ran
  done value v₁ v₂ ran hooked := by
    have hooked : (hook.run value).run h.server v₁ = (.finished (), v₂) := run_bind hooked
    exact (run_bind ran).trans (run_bind hooked)
  failed value v₁ text v₂ ran hooked := by
    have hooked : (hook.run value).run h.server v₁ = (.finished (),
        (v₂.tell (.event (.hookFailed text))).tell (.counted .hookFailure)) := run_bind hooked
    exact (run_bind ran).trans (run_bind hooked)
  unchanged result v₂ ran := by
    obtain ⟨r, v₁, worked, rest⟩ := run_bind_finished ran
    cases r with
    | error e =>
        cases rest
        exact ⟨_, worked⟩
    | ok value =>
        obtain ⟨_, _, _, rest⟩ := run_bind_finished rest
        cases rest
        exact ⟨v₁, worked⟩

end CommitHook

namespace UnitOfWork

open Program

variable {σ α : Type}

/-- What is promised of a unit of work that runs over a store. The times are those that its body
takes when it runs in no window. -/
structure Contract (h : Host σ) (u : UnitOfWork) (cancelAt : Option Nat)
    (body : SessionId → Program (Paced LedgerStore) (Except LedgerError α)) (v : Visit σ) :
    Prop where
  /-- No body runs without a session. -/
  refused : ∀ e, h.reply? v .begin = some (.error e) →
    Ends ((u.execute cancelAt body).run h.server v) v (.error e) none [.asked .begin]
  unbegun : h.call v .begin = none →
    ∃ next, (u.execute cancelAt body).run h.server v =
      (.blocked (.free (.call .begin)) next, v.send (.call .begin))
  begun : ∀ s v₁, h.call v .begin = some (.ok s, v₁) →
    v₁.log = v.log ++ [.asked .begin] ∧ v₁.counters = v.counters
  /-- A body that comes to an end before it is cancelled, and by its deadline, has its way. -/
  resolved : ∀ s v₁ outcome v₂, h.call v .begin = some (.ok s, v₁) →
    (body s).run h.paced v₁ = (.finished outcome, v₂) →
    (u.window cancelAt v₁.clock).Allows v₂.instant →
    v₂.Extends v₁ ∧ Closes h s v₂ outcome ((u.execute cancelAt body).run h.server v)
  /-- All other bodies are left on the way. -/
  stopped : ∀ s v₁ progress alone stop instant, h.call v .begin = some (.ok s, v₁) →
    (body s).run h.paced v₁ = (progress, alone) →
    (u.window cancelAt v₁.clock).Stops (progress.lasts alone) stop instant →
    ∃ v₂, v₂.clock = max v₁.clock instant ∧ v₂.Extends v₁ ∧ v₂.log <+: alone.log ∧
      Closes h s v₂ (.error (u.stopped stop)) ((u.execute cancelAt body).run h.server v)
  halted : ∀ s v₁ o v₂, h.call v .begin = some (.ok s, v₁) →
    (body s).run h.paced v₁ = (.halted o, v₂) →
    (u.window cancelAt v₁.clock).Allows v₂.instant →
    (u.execute cancelAt body).run h.server v = (.halted o, v₂)
  unended : ∀ s v₁ r next v₂, h.call v .begin = some (.ok s, v₁) →
    (body s).run h.paced v₁ = (.blocked r next, v₂) →
    (u.window cancelAt v₁.clock).Allows ⊤ →
    ∃ next', (u.execute cancelAt body).run h.server v =
      (.blocked (.within (u.window cancelAt v₁.clock) r) next', v₂)
  /-- Success means that the commit of the body's value succeeded. -/
  succeeds : ∀ value, ((u.execute cancelAt body).run h.server v).1 = .finished (.ok value) ↔
    ∃ s v₁ v₂, h.call v .begin = some (.ok s, v₁) ∧
      (body s).run h.paced v₁ = (.finished (.ok value), v₂) ∧
      (u.window cancelAt v₁.clock).Allows v₂.instant ∧
      h.reply? v₂ (.perform s .commit) = some (.ok ())
  /-- The work is the unit itself, or whatever the unit is a part of. -/
  hooked : ∀ (hook : CommitHook α) (work : Program (Timed LedgerStore) (Except LedgerError α)),
    hook.Obeys h work v

theorem contract_kept (h : Host σ) (u : UnitOfWork) (cancelAt : Option Nat)
    (body : SessionId → Program (Paced LedgerStore) (Except LedgerError α)) (v : Visit σ) :
    Contract h u cancelAt body v where
  refused _ := execute_refused
  unbegun := execute_unbegun
  begun _ _ called := (Host.call_extends called).2
  resolved _ _ _ _ begun ran allows := ⟨run_extends ran, execute_resolved begun ran allows⟩
  stopped _ _ _ _ _ _ := execute_stopped
  halted _ _ _ _ := execute_halted
  unended _ _ _ _ _ := execute_unended
  succeeds value := by
    constructor
    · exact begun_of_succeeds
    · rintro ⟨s, v₁, v₂, begun, ran, allows, replied⟩
      exact (execute_resolved begun ran allows).succeeds.mpr ⟨rfl, replied⟩
  hooked hook work := hook.obeys h work v

end UnitOfWork
end DoubleEntry
