import DoubleEntry.Proofs.Store.Desk
import DoubleEntry.Service.UnitOfWork

/-!
A client whose requests nobody hinders. Others may have sessions, but the locks that the client
needs are free, so that everything it asks for is answered at once. Nothing stops it: a unit of work
comes to its end, and what its body has staged is committed, or undone if the body fails.
-/

namespace DoubleEntry

namespace MemoryStore

/-- Answers the one client of a store. -/
def paced (now : Timestamp) : Server (Paced LedgerStore) MemoryStore where
  note _ st := st
  serve
    | .call r, st =>
        match st.submit now r with
        | (.answered reply, st) => (.answer reply, st)
        | (.waiting _, st) => (.wait, st)
    | .pause _, st => (.answer (), st)

/-- The same with a clock that stands still, so that a window that was opened stays open. -/
def alone (now : Timestamp) : Server (Timed LedgerStore) MemoryStore where
  note _ st := st
  serve
    | .now, st => (.answer 0, st)
    | .openWindow cancelAt timeout, st =>
        if cancelAt = some 0 then (.answer (.error .cancelled), st)
        else (.answer (.ok ⟨0, cancelAt, timeout⟩), st)
    | .free r, st => (paced now).serve r st
    | .within _ r, st =>
        let (answer, st) := (paced now).serve r st
        (answer.map .ok, st)

/-- Runs programs one after another, each of them alone. -/
def serially {α : Type} (now : Timestamp) : List (Program (Timed LedgerStore) α) → MemoryStore →
    List (Progress (Timed LedgerStore) α) × MemoryStore
  | [], st => ([], st)
  | p :: ps, st =>
      let (progress, st) := p.run (alone now) st
      let (rest, st) := serially now ps st
      (progress :: rest, st)

end MemoryStore

namespace Program

variable {I : Interface} {σ α β : Type} {server : Server I σ} {now : Timestamp}

/-- A program gets as far as its first part, and goes on if that comes to its end. -/
theorem run_bind_eq (p : Program I β) (f : β → Program I α) (st : σ) :
    (p.bind f).run server st =
      match p.run server st with
      | (.finished b, st') => (f b).run server st'
      | (.halted o, st') => (.halted o, st')
      | (.blocked q next, st') => (.blocked q fun reply => (next reply).bind f, st') := by
  induction p generalizing st with
  | done b => rfl
  | halt o => rfl
  | note n next ih => exact ih _
  | ask q next ih =>
      simp only [bind, run]
      cases served : server.serve q st with
      | mk response st' =>
          cases response with
          | answer reply => exact ih reply st'
          | wait => rfl
          | halt o => rfl

theorem run_bind {p : Program I β} {f : β → Program I α} {b : β} {st st' : σ}
    (h : p.run server st = (.finished b, st')) :
    (p.bind f).run server st = (f b).run server st' := by
  rw [run_bind_eq, h]

theorem run_bind_halted {p : Program I β} {f : β → Program I α} {o : Overflow} {st st' : σ}
    (h : p.run server st = (.halted o, st')) :
    (p.bind f).run server st = (.halted o, st') := by
  rw [run_bind_eq, h]

/-- A program that has come to its end has come to the end of its first part before. -/
theorem run_bind_finished {p : Program I β} {f : β → Program I α} {a : α} {st st'' : σ}
    (h : (p.bind f).run server st = (.finished a, st'')) :
    ∃ b st', p.run server st = (.finished b, st') ∧
      (f b).run server st' = (.finished a, st'') := by
  rw [run_bind_eq] at h
  cases ran : p.run server st with
  | mk progress st' =>
      rw [ran] at h
      cases progress with
      | finished b => exact ⟨b, st', rfl, h⟩
      | halted o => cases h
      | blocked q next => cases h

/-- A window that stays open makes no difference. -/
theorem run_within {p : Program (Paced LedgerStore) α} {a : α} {st st' : MemoryStore}
    (h : p.run (MemoryStore.paced now) st = (.finished a, st')) (w : Window) :
    (p.within w).run (MemoryStore.alone now) st = (.finished (.ok a), st') := by
  induction p generalizing st with
  | done a' =>
      cases h
      rfl
  | halt o => cases h
  | note n next ih => exact ih h
  | ask q next ih =>
      simp only [within, run] at h ⊢
      cases served : (MemoryStore.paced now).serve q st with
      | mk response next_ =>
          have same : (MemoryStore.alone now).serve (.within w q) st =
              (response.map .ok, next_) := by simp only [MemoryStore.alone, served]
          rw [served] at h
          rw [same]
          cases response with
          | answer reply => exact ih reply h
          | wait => cases h
          | halt o => cases h

/-- An action goes on where its first part has given a value. -/
theorem run_action {a : Action I β} {f : β → Action I α} {b : β} {st st' : σ}
    (h : a.toProgram.run server st = (.finished (.ok b), st')) :
    (a >>= f).toProgram.run server st = (f b).toProgram.run server st' :=
  run_bind h

/-- An action that comes to an error goes no further. -/
theorem run_action_error {a : Action I β} {f : β → Action I α} {e : LedgerError} {st st' : σ}
    (h : a.toProgram.run server st = (.finished (.error e), st')) :
    (a >>= f).toProgram.run server st = (.finished (.error e), st') :=
  run_bind h

/-- A request that is answered at once. -/
theorem run_ask {op : SessionRequest} {s : SessionId} {reply : Except LedgerError op.Reply}
    {st st' : MemoryStore}
    (h : st.submit now (.perform s op) = (.answered reply, st')) :
    (op.ask s).toProgram.run (MemoryStore.paced now) st = (.finished reply, st') := by
  have shape : (op.ask s).toProgram =
      ask (I := Paced LedgerStore) (.call (.perform s op)) done := rfl
  simp only [shape, run, MemoryStore.paced, h]

theorem run_free {r : StoreRequest} {reply : r.Reply} {st st' : MemoryStore}
    (h : st.submit now r = (.answered reply, st')) :
    (callFree (I := LedgerStore) r).run (MemoryStore.alone now) st = (.finished reply, st') := by
  have shape : callFree (I := LedgerStore) r =
      ask (I := Timed LedgerStore) (.free (.call r)) done := rfl
  simp only [shape, run, MemoryStore.alone, MemoryStore.paced, h]

end Program

namespace MemoryStore

/-- Nobody uses the store. -/
structure Idle (st : MemoryStore) : Prop where
  orderly : st.Orderly [] []
  sessions : st.sessions = []

/-- A client has got so far in a session, while others have sessions of their own, or wait. -/
structure InSession (st : MemoryStore) (s : SessionId) (x : Session)
    (others : List (SessionId × Session)) (waits : List (Int × Nat)) : Prop where
  orderly : st.Orderly [] waits
  session : st.session? s = some x
  others : st.others s = others

variable {st st' : MemoryStore} {s : SessionId} {x y : Session} {now : Timestamp} {a : Int}
variable {others : List (SessionId × Session)} {waits : List (Int × Nat)}

/-- A store with committed rows and nothing else. -/
theorem idle_tables (t : Tables) : Idle { tables := t } where
  orderly := orderly_tables orderly_empty t
  sessions := rfl

theorem isFree_of_idle (h : st.Idle) (a : Int) : st.locks.IsFree a := by
  intro k hk _
  have kept := mem_guards_of_ticket h.orderly hk
  rw [guards, h.sessions] at kept
  cases kept

theorem submit_of_unlocked {r : StoreRequest} (h : st.wantedRow? r = none) :
    st.submit now r = (.answered (st.answer now r).1, (st.answer now r).2) := by
  simp only [submit, h]

theorem others_setSession (st : MemoryStore) (s : SessionId) (y : Session) :
    (st.setSession s y).others s = st.others s := by
  simp only [MemoryStore.others, setSession]
  induction st.sessions with
  | nil => rfl
  | cons p ps ih =>
      by_cases same : p.1 = s
      · simpa [same] using ih
      · simpa [same] using ih

theorem openSession?_of_inSession (h : st.InSession s x others waits) (still : x.finished = false) :
    st.openSession? s = some x :=
  openSession?_eq_some.mpr ⟨h.session, still⟩

/-- The client goes on in its session, whatever becomes of the locks and the tables. -/
theorem inSession_setSession (h : st.InSession s x others waits) (order : st'.Orderly [] waits)
    (sessions : st'.sessions = (st.setSession s y).sessions) :
    st'.InSession s y others waits where
  orderly := order
  session := by
    rw [session?, sessions]
    refine (session?_setSession st s s y).trans ?_
    rw [if_pos rfl, h.session]
    rfl
  others := by
    rw [MemoryStore.others, sessions]
    exact (others_setSession st s y).trans h.others

theorem inSession_begin (h : st.Orderly [] waits) (now : Timestamp) :
    st.submit now .begin = (.answered (.ok st.nextSession), st.begin.2) ∧
      st.begin.2.InSession st.nextSession {} st.sessions waits := by
  have new : ∀ p ∈ st.sessions, p.1 ≠ st.nextSession := fun p hp => Nat.ne_of_lt (h.fresh p hp)
  refine ⟨rfl, orderly_begin h, ?_, ?_⟩
  · have mem : (st.nextSession, {}) ∈ st.begin.2.sessions :=
      List.mem_append_right _ (List.mem_singleton_self _)
    exact session?_of_mem (orderly_begin h).distinct mem
  · have kept : st.sessions.filter (·.1 != st.nextSession) = st.sessions :=
      List.filter_eq_self.mpr fun p hp => bne_iff_ne.mpr (new p hp)
    simp [MemoryStore.others, begin, kept]

theorem inSession_insertTransaction (h : st.InSession s x others waits)
    (still : x.finished = false) {new : NewTransaction} {row : Transaction} {tables : Tables}
    (drawn : st.tables.drawTransaction now new = .ok (row, tables)) :
    ∃ st', st.submit now (.perform s (.insertTransaction new)) = (.answered (.ok row), st') ∧
      st'.InSession s { x with transactions := x.transactions ++ [row] } others waits ∧
      st'.tables = tables ∧ st'.locks = st.locks := by
  have orderly := orderly_insertTransaction h.orderly h.session still now new
  rw [insertTransaction, drawn] at orderly
  refine ⟨_, ?_, inSession_setSession h orderly rfl, rfl, rfl⟩
  rw [submit_of_unlocked rfl]
  simp only [answer, perform, openSession?_of_inSession h still, insertTransaction, drawn]

theorem inSession_insertEntry (h : st.InSession s x others waits) (still : x.finished = false)
    {amount : Decimal} {row : Entry} {tables : Tables}
    (drawn : st.tables.drawEntry now a amount = .ok (row, tables)) :
    ∃ st', st.submit now (.perform s (.insertEntry a amount)) = (.answered (.ok row), st') ∧
      st'.InSession s { x with entries := x.entries ++ [row] } others waits ∧
      st'.tables = tables ∧ st'.locks = st.locks := by
  have orderly := orderly_insertEntry h.orderly h.session still now a amount
  rw [insertEntry, drawn] at orderly
  refine ⟨_, ?_, inSession_setSession h orderly rfl, rfl, rfl⟩
  rw [submit_of_unlocked rfl]
  simp only [answer, perform, openSession?_of_inSession h still, insertEntry, drawn]

/-- A session has no lock that nobody owns. -/
theorem holds_of_isFree (h : st.InSession s x others waits) (free : st.locks.IsFree a) :
    x.holds a = false := by
  refine Bool.eq_false_iff.mpr fun holds => ?_
  obtain ⟨g, hg, same⟩ := List.any_eq_true.mp holds
  have guarded := (guards_perm h.orderly.distinct h.session).mem_iff.mpr
    (List.mem_append_left _ hg)
  obtain ⟨k, hk, holding, key⟩ := LockTable.mem_held.mp (h.orderly.held.mem_iff.mpr guarded)
  have owns := free k hk ((congrArg Prod.fst key).trans (eq_of_beq same))
  rw [holding] at owns
  cases owns

/-- The first change of a balance locks its row, and no other, and goes on from there. -/
theorem inSession_lock (h : st.InSession s x others waits) (still : x.finished = false)
    (free : st.locks.IsFree a) (now : Timestamp) (delta : Decimal) :
    ∃ (st₁ : MemoryStore) (n : Nat),
      let guarded : Session := { x with guards := x.guards ++ [(a, n)] }
      st.submit now (.perform s (.addBalance a delta)) =
        (.answered (st₁.addBalance s guarded a delta).1, (st₁.addBalance s guarded a delta).2) ∧
      st₁.InSession s guarded others waits ∧ st₁.tables = st.tables ∧
      ∀ b, a ≠ b → st.locks.IsFree b → st₁.locks.IsFree b := by
  have open_ := openSession?_of_inSession h still
  have wanted : st.wantedRow? (.perform s (.addBalance a delta)) = some a := by
    simp [wantedRow?, open_, holds_of_isFree h free]
  have holding := LockTable.holding_of_isFree h.orderly.sound free
  let n := st.locks.nextTicket
  let locked : MemoryStore := { st with locks := (st.locks.request a).2 }
  have granted : locked.Orderly [(a, n)] waits := by
    cases orderly_request h.orderly a with
    | inl granted => exact granted.2
    | inr waiting =>
        rw [holding] at waiting
        cases waiting.1
  have there : locked.session? s = some x := h.session
  have guarding : locked.addGuard s a n =
      locked.setSession s { x with guards := x.guards ++ [(a, n)] } := by
    simp only [addGuard, there]
  have opened : (locked.addGuard s a n).openSession? s =
      some { x with guards := x.guards ++ [(a, n)] } := openSession?_addGuard open_
  refine ⟨locked.addGuard s a n, n, ?_, ?_, ?_, fun b apart free => ?_⟩
  · have number : (st.locks.request a).1 = n := rfl
    simp only [submit, wanted, number]
    rw [if_pos holding]
    change (Submission.answered ((locked.addGuard s a n).perform now s (.addBalance a delta)).1,
      ((locked.addGuard s a n).perform now s (.addBalance a delta)).2) = _
    simp only [perform, opened]
  · exact inSession_setSession h (orderly_addGuard granted there still) (by rw [guarding]; rfl)
  · rw [guarding]
    rfl
  · rw [guarding]
    exact LockTable.isFree_request h.orderly.sound free apart

theorem inSession_addBalance (h : st.InSession s x others waits) (still : x.finished = false)
    (free : st.locks.IsFree a) (now : Timestamp) {c row : Account} {delta : Decimal}
    (found : st.current? x a = some c) (made : changed c delta = .ok row) :
    ∃ st' n, st.submit now (.perform s (.addBalance a delta)) = (.answered (.ok (some row)), st') ∧
      st'.InSession s { x with
        guards := x.guards ++ [(a, n)], accounts := Table.insert row x.accounts } others waits ∧
      st'.tables = st.tables ∧ ∀ b, a ≠ b → st.locks.IsFree b → st'.locks.IsFree b := by
  obtain ⟨st₁, n, answered, there, tables, others_⟩ := inSession_lock h still free now delta
  have holds : ({ x with guards := x.guards ++ [(a, n)] } : Session).holds a = true := by
    simp [Session.holds]
  have orderly := orderly_addBalance there.orderly there.session still holds delta
  have same : st₁.current? { x with guards := x.guards ++ [(a, n)] } a = some c := by
    simp only [current?, tables] at found ⊢
    exact found
  have added : st₁.addBalance s { x with guards := x.guards ++ [(a, n)] } a delta =
      (.ok (some row), st₁.setSession s { x with
        guards := x.guards ++ [(a, n)], accounts := Table.insert row x.accounts }) := by
    simp only [addBalance, same, made]
  rw [added] at answered orderly
  exact ⟨_, n, answered, inSession_setSession there orderly rfl, tables, others_⟩

/-- A change that is refused leaves the row locked. -/
theorem inSession_addBalance_refused (h : st.InSession s x others waits)
    (still : x.finished = false) (free : st.locks.IsFree a) (now : Timestamp) {c : Account}
    {delta : Decimal} {e : Conflict} (found : st.current? x a = some c)
    (refused : changed c delta = .error e) :
    ∃ st' n, st.submit now (.perform s (.addBalance a delta)) =
        (.answered (.error (.conflict e)), st') ∧
      st'.InSession s { x with guards := x.guards ++ [(a, n)] } others waits ∧
      st'.tables = st.tables := by
  obtain ⟨st₁, n, answered, there, tables, _⟩ := inSession_lock h still free now delta
  have same : st₁.current? { x with guards := x.guards ++ [(a, n)] } a = some c := by
    simp only [current?, tables] at found ⊢
    exact found
  have kept : st₁.addBalance s { x with guards := x.guards ++ [(a, n)] } a delta =
      (.error (.conflict e), st₁) := by
    simp only [addBalance, same, refused]
  rw [kept] at answered
  exact ⟨st₁, n, answered, there, tables⟩

/-- A commit publishes what is staged, and the session is empty then. -/
theorem inSession_commit (h : st.InSession s x others waits) (still : x.finished = false)
    (now : Timestamp) (checked : checkStaged st.tables x = .ok ()) :
    ∃ st', st.submit now (.perform s .commit) = (.answered (.ok ()), st') ∧
      st'.InSession s { finished := true } others waits ∧
      st'.tables = published st.tables x := by
  have orderly := orderly_commit h.orderly h.session
  rw [commit, checked] at orderly
  refine ⟨_, ?_, inSession_setSession h orderly rfl, rfl⟩
  rw [submit_of_unlocked rfl]
  simp only [answer, perform, openSession?_of_inSession h still, commit, checked]

theorem inSession_rollback (h : st.InSession s x others waits) (still : x.finished = false)
    (now : Timestamp) :
    ∃ st', st.submit now (.perform s .rollback) = (.answered (.ok ()), st') ∧
      st'.InSession s { finished := true } others waits ∧ st'.tables = st.tables := by
  refine ⟨_, ?_, inSession_setSession h (orderly_finish h.orderly h.session) rfl, rfl⟩
  rw [submit_of_unlocked rfl]
  simp only [answer, perform, openSession?_of_inSession h still]

/-- Only the other sessions are left. -/
theorem inSession_abandon (h : st.InSession s x others waits) (now : Timestamp) :
    st.submit now (.abandon s) = (.answered (), st.abandon s) ∧
      (st.abandon s).Orderly [] waits ∧ (st.abandon s).sessions = others ∧
      (st.abandon s).tables = st.tables := by
  refine ⟨rfl, orderly_abandon h.orderly s, ?_, ?_⟩
  · simp only [abandon, h.session]
    exact (others_setSession st s { finished := true }).trans h.others
  · simp only [abandon, h.session]
    rfl

end MemoryStore

namespace UnitOfWork

open Program MemoryStore

variable {α : Type} {st st' : MemoryStore} {x : Session} {now : Timestamp}
variable {others : List (SessionId × Session)} {waits : List (Int × Nat)}
variable {body : SessionId → Program (Paced LedgerStore) (Except LedgerError α)}

/-- A body that comes to its end is concluded, as no window stops it. -/
theorem run_execute_eq (u : UnitOfWork) {cancelAt : Option Nat} (open_ : cancelAt ≠ some 0)
    {outcome : Except LedgerError α}
    (ran : (body st.nextSession).run (paced now) st.begin.2 = (.finished outcome, st')) :
    (u.execute cancelAt body).run (alone now) st =
      (conclude st.nextSession outcome).run (alone now) st' := by
  have opened : (request (I := Timed LedgerStore) (.openWindow cancelAt u.timeout)).run
      (alone now) st.begin.2 = (.finished (.ok ⟨0, cancelAt, u.timeout⟩), st.begin.2) := by
    simp only [request, run, alone, if_neg open_]
  have bounded : (u.bounded cancelAt (body st.nextSession)).run (alone now) st.begin.2 =
      (.finished outcome, st') :=
    (run_bind opened).trans (run_bind (run_within ran ⟨0, cancelAt, u.timeout⟩))
  have begun : st.submit now .begin = (.answered (.ok st.nextSession), st.begin.2) := rfl
  exact (run_bind (run_free begun)).trans (run_bind bounded)

/-- What a body has staged is committed, if all its references hold. -/
theorem run_execute (u : UnitOfWork) {cancelAt : Option Nat} (open_ : cancelAt ≠ some 0)
    {value : α}
    (ran : (body st.nextSession).run (paced now) st.begin.2 = (.finished (.ok value), st'))
    (there : st'.InSession st.nextSession x others waits) (still : x.finished = false)
    (checked : checkStaged st'.tables x = .ok ()) :
    ∃ st'', (u.execute cancelAt body).run (alone now) st = (.finished (.ok value), st'') ∧
      st''.Orderly [] waits ∧ st''.sessions = others ∧
      st''.tables = published st'.tables x := by
  obtain ⟨done_, committed, closed, tables⟩ := inSession_commit there still now checked
  obtain ⟨ended, orderly, sessions, same⟩ := inSession_abandon closed now
  refine ⟨_, ?_, orderly, sessions, same.trans tables⟩
  have first : (commit st.nextSession value).run (alone now) st' =
      (.finished (.ok value), done_) := run_bind (run_free committed)
  exact (run_execute_eq u open_ ran).trans ((run_bind first).trans (run_bind (run_free ended)))

/-- A body that comes to an error is undone. -/
theorem run_execute_error (u : UnitOfWork) {cancelAt : Option Nat} (open_ : cancelAt ≠ some 0)
    {e : LedgerError}
    (ran : (body st.nextSession).run (paced now) st.begin.2 = (.finished (.error e), st'))
    (there : st'.InSession st.nextSession x others waits) (still : x.finished = false) :
    ∃ st'', (u.execute cancelAt body).run (alone now) st = (.finished (.error e), st'') ∧
      st''.Orderly [] waits ∧ st''.sessions = others ∧ st''.tables = st'.tables := by
  obtain ⟨done_, undone, closed, tables⟩ := inSession_rollback there still now
  obtain ⟨ended, orderly, sessions, same⟩ := inSession_abandon closed now
  refine ⟨_, ?_, orderly, sessions, same.trans tables⟩
  have first : (abort st.nextSession e).run (alone now) st' = (.finished e, done_) :=
    run_bind (run_free undone)
  have error : (pure (.error e) : Program (Timed LedgerStore) (Except LedgerError α)).run
      (alone now) done_ = (.finished (.error e), done_) := rfl
  exact (run_execute_eq u open_ ran).trans
    ((run_bind first).trans ((run_bind error).trans (run_bind (run_free ended))))

end UnitOfWork
end DoubleEntry
