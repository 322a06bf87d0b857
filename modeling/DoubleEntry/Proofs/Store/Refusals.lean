import DoubleEntry.Proofs.Client.Coherence
import DoubleEntry.Proofs.Store.Guards

/-!
Requests of a session that fail. Whatever the reason, nothing that was committed or staged is
touched, no id is drawn, and the session stays open or finished as it was; only the lock of a row
may be kept whose balance could not be changed. Answers do not depend on locks once a request has
those that it needs, so that all later requests have the same effect as if the one that failed had
not been made.
-/

namespace DoubleEntry

namespace MemoryStore

variable {st st' : MemoryStore} {s : SessionId} {x : Session}

/-- The store without its locks: the tables, and all that sessions have staged. -/
def unlocked (st : MemoryStore) : MemoryStore :=
  { st with locks := {}, sessions := st.sessions.map fun p => (p.1, p.2.draft) }

/-- Answers requests one after another, as if each had the lock that it needs. -/
def answers (st : MemoryStore) :
    List (Timestamp × StoreRequest) → List (Σ r : StoreRequest, r.Reply) × MemoryStore
  | [] => ([], st)
  | (now, r) :: rest =>
      let (reply, st) := st.answer now r
      let (replies, st) := st.answers rest
      (⟨r, reply⟩ :: replies, st)

@[simp] theorem tables_unlocked (st : MemoryStore) : st.unlocked.tables = st.tables := rfl

@[simp] theorem unlocked_locks (st : MemoryStore) (locks : LockTable) :
    { st with locks := locks }.unlocked = st.unlocked := rfl

@[simp] theorem unlocked_unlocked (st : MemoryStore) : st.unlocked.unlocked = st.unlocked := by
  simp only [unlocked, List.map_map]
  rfl

theorem unlocked_tables (st : MemoryStore) (tables : Tables) :
    { st with tables := tables }.unlocked = { st.unlocked with tables := tables }.unlocked := by
  simp only [unlocked, List.map_map]
  rfl

theorem session?_unlocked (st : MemoryStore) (s : SessionId) :
    st.unlocked.session? s = (st.session? s).map Session.draft := by
  simp only [session?, unlocked]
  induction st.sessions with
  | nil => rfl
  | cons p rest ih =>
      rw [List.map_cons, List.lookup_cons, List.lookup_cons, ih]
      cases s == p.1 <;> rfl

theorem openSession?_unlocked (st : MemoryStore) (s : SessionId) :
    st.unlocked.openSession? s = (st.openSession? s).map Session.draft := by
  simp only [openSession?, session?_unlocked]
  cases st.session? s with
  | none => rfl
  | some x => cases still : x.finished <;> simp [Session.draft, still, Option.filter]

theorem unlocked_setSession (st : MemoryStore) (s : SessionId) (x : Session) :
    (st.setSession s x).unlocked = st.unlocked.setSession s x.draft := by
  simp only [unlocked, setSession, List.map_map]
  congr 1
  refine List.map_congr_left fun p _ => ?_
  simp only [Function.comp]
  split <;> rfl

theorem unlocked_finish (st : MemoryStore) (s : SessionId) (x : Session) :
    (st.finish s x).unlocked = (st.unlocked.finish s x.draft).unlocked := by
  simp only [finish, unlocked_locks, unlocked_setSession, unlocked_unlocked]

theorem unlocked_abandon (st : MemoryStore) (s : SessionId) :
    (st.abandon s).unlocked = (st.unlocked.abandon s).unlocked := by
  have forgets (st : MemoryStore) :
      { st with sessions := st.sessions.filter (·.1 != s) }.unlocked =
        { st.unlocked with sessions := st.unlocked.sessions.filter (·.1 != s) } := by
    simp only [unlocked, List.filter_map]
    rfl
  simp only [abandon, session?_unlocked]
  cases st.session? s with
  | none => exact (unlocked_unlocked st).symm
  | some x =>
      dsimp only [Option.map_some]
      rw [forgets, forgets, unlocked_finish]

/-- The answer to a request does not depend on locks, and leaves the same but for locks. -/
structure AnswersAlike {ρ : Type} (a a' : ρ × MemoryStore) : Prop where
  reply : a.1 = a'.1
  unlocked : a.2.unlocked = a'.2.unlocked

theorem perform_unlocked (st : MemoryStore) (now : Timestamp) (s : SessionId)
    (op : SessionRequest) :
    AnswersAlike (st.perform now s op) (st.unlocked.perform now s op) := by
  simp only [perform, openSession?_unlocked]
  cases st.openSession? s with
  | none => exact ⟨rfl, (unlocked_unlocked st).symm⟩
  | some x =>
      have set (y : Session) (tables : Tables) :
          { st.setSession s y with tables := tables }.unlocked =
            { st.unlocked.setSession s y.draft with tables := tables }.unlocked := by
        rw [unlocked_tables, unlocked_setSession]
      cases op <;> simp only [Option.map_some]
      case insertTransaction new =>
        simp only [insertTransaction, tables_unlocked]
        cases st.tables.drawTransaction now new with
        | error c => exact ⟨rfl, (unlocked_unlocked st).symm⟩
        | ok drawn => exact ⟨rfl, set _ drawn.2⟩
      case insertEntry a amount =>
        simp only [insertEntry, tables_unlocked]
        cases st.tables.drawEntry now a amount with
        | error c => exact ⟨rfl, (unlocked_unlocked st).symm⟩
        | ok drawn => exact ⟨rfl, set _ drawn.2⟩
      case addBalance a delta =>
        have same : st.unlocked.current? x.draft a = st.current? x a := rfl
        simp only [addBalance, same]
        cases st.current? x a with
        | none => exact ⟨rfl, set _ st.tables⟩
        | some account =>
            dsimp only
            cases changed account delta with
            | error c => exact ⟨rfl, (unlocked_unlocked st).symm⟩
            | ok row => exact ⟨rfl, set _ st.tables⟩
      case commit =>
        have same : checkStaged st.unlocked.tables x.draft = checkStaged st.tables x := rfl
        simp only [commit, same]
        cases checkStaged st.tables x with
        | error c => exact ⟨rfl, (unlocked_unlocked st).symm⟩
        | ok _ =>
            exact ⟨rfl, unlocked_finish { st with tables := published st.tables x } s x⟩
      case rollback => exact ⟨rfl, unlocked_finish st s x⟩

theorem answer_unlocked (st : MemoryStore) (now : Timestamp) (r : StoreRequest) :
    AnswersAlike (st.answer now r) (st.unlocked.answer now r) := by
  cases r with
  | begin =>
      refine ⟨rfl, ?_⟩
      simp only [answer, begin, unlocked, List.map_append, List.map_map]
      rfl
  | perform s op => exact perform_unlocked st now s op
  | abandon s => exact ⟨rfl, unlocked_abandon st s⟩
  | query q =>
      have twice := (unlocked_unlocked st).symm
      cases q
      case createAccount new =>
        simp only [answer, query, tables_unlocked]
        cases st.tables.createAccount now new with
        | error c => exact ⟨rfl, twice⟩
        | ok made => exact ⟨rfl, unlocked_tables st made.2⟩
      case deleteAccount a =>
        simp only [answer, query, tables_unlocked]
        cases st.tables.deleteAccount a with
        | error c => exact ⟨rfl, twice⟩
        | ok made => exact ⟨rfl, unlocked_tables st made.2⟩
      all_goals exact ⟨rfl, twice⟩

/-- Stores that are the same but for their locks give the same answers from there on. -/
theorem answers_alike (h : st.unlocked = st'.unlocked) (rs : List (Timestamp × StoreRequest)) :
    AnswersAlike (st.answers rs) (st'.answers rs) := by
  induction rs generalizing st st' with
  | nil => exact ⟨rfl, h⟩
  | cons p rest ih =>
      have first := answer_unlocked st p.1 p.2
      have second := answer_unlocked st' p.1 p.2
      rw [h] at first
      have later := ih (first.unlocked.trans second.unlocked.symm)
      refine ⟨?_, later.unlocked⟩
      simp only [answers, first.reply.trans second.reply.symm, later.reply]

theorem unlocked_addGuard (st : MemoryStore) (distinct : (st.sessions.map (·.1)).Nodup)
    (s : SessionId) (a : Int) (n : Nat) : (st.addGuard s a n).unlocked = st.unlocked := by
  simp only [addGuard]
  cases hs : st.session? s with
  | none => rfl
  | some x =>
      simp only [unlocked, setSession, List.map_map]
      congr 1
      refine List.map_congr_left fun p hp => ?_
      by_cases mine : p.1 = s
      · have same : p.2 = x := Option.some.inj <|
          (session?_of_mem distinct (s := p.1) hp).symm.trans (mine ▸ hs)
        simp only [Function.comp, if_pos mine, same, Session.draft]
      · simp only [Function.comp, if_neg mine]

/-- What is left by a request in session `s` that fails. Only a conflict over a balance may have
locked something: the row of that account, if it was not locked before. -/
structure Unmoved (s : SessionId) (op : SessionRequest) (e : LedgerError) (st st' : MemoryStore) :
    Prop where
  tables : st'.tables = st.tables
  others : ∀ t, t ≠ s → st'.session? t = st.session? t
  session : st'.session? s = st.session? s ∨
    ∃ x a delta c ticket, op = .addBalance a delta ∧ e = .conflict c ∧
      st.tables.hasAccount a = true ∧ st.session? s = some x ∧
      st'.session? s = some { x with guards := x.guards ++ [(a, ticket)] }
  whole : (∀ a delta, op ≠ .addBalance a delta) → st' = st
  onward : ∀ rs, AnswersAlike (st.answers rs) (st'.answers rs)

section Unmoved

variable {op : SessionRequest} {e : LedgerError}

theorem unmoved_self (s : SessionId) (op : SessionRequest) (e : LedgerError) (st : MemoryStore) :
    Unmoved s op e st st where
  tables := rfl
  others _ _ := rfl
  session := .inl rfl
  whole _ := rfl
  onward := answers_alike rfl

/-- Only the lock table has changed. -/
theorem unmoved_locks (s : SessionId) (a : Int) (delta : Decimal) (e : LedgerError)
    (st : MemoryStore) (locks : LockTable) :
    Unmoved s (.addBalance a delta) e st { st with locks := locks } where
  tables := rfl
  others _ _ := rfl
  session := .inl rfl
  whole no := absurd rfl (no a delta)
  onward := answers_alike rfl

/-- A request that is refused where it has its lock leaves the store as it is. -/
theorem perform_refused {now : Timestamp} (h : (st.perform now s op).1 = .error e) :
    (st.perform now s op).2 = st := by
  simp only [perform] at h ⊢
  cases hx : st.openSession? s with
  | none => rfl
  | some x =>
      rw [hx] at h
      cases op <;> dsimp only at h ⊢
      case insertTransaction new =>
        simp only [insertTransaction] at h ⊢
        cases drawn : st.tables.drawTransaction now new with
        | ok row =>
            rw [drawn] at h
            cases h
        | error c => rfl
      case insertEntry a amount =>
        simp only [insertEntry] at h ⊢
        cases drawn : st.tables.drawEntry now a amount with
        | ok row =>
            rw [drawn] at h
            cases h
        | error c => rfl
      case addBalance a delta =>
        simp only [addBalance] at h ⊢
        cases found : st.current? x a with
        | none =>
            rw [found] at h
            cases h
        | some account =>
            rw [found] at h
            dsimp only at h ⊢
            cases made : changed account delta with
            | ok row =>
                rw [made] at h
                cases h
            | error c => rfl
      case commit =>
        simp only [commit] at h ⊢
        cases checked : checkStaged st.tables x with
        | ok _ =>
            rw [checked] at h
            cases h
        | error c => rfl
      case rollback => cases h

/-- A balance is refused for a conflict, and of an account that is there. -/
theorem addBalance_refused {now : Timestamp} {a : Int} {delta : Decimal}
    (hx : st.openSession? s = some x) (h : (st.perform now s (.addBalance a delta)).1 = .error e) :
    (∃ c, e = .conflict c) ∧ ∃ account, st.current? x a = some account := by
  simp only [perform, hx, addBalance] at h
  cases found : st.current? x a with
  | none =>
      rw [found] at h
      cases h
  | some account =>
      rw [found] at h
      dsimp only at h
      cases made : changed account delta with
      | ok row =>
          rw [made] at h
          cases h
      | error c =>
          rw [made] at h
          cases h
          exact ⟨⟨c, rfl⟩, account, rfl⟩

theorem unmoved_answer {now : Timestamp} (h : (st.answer now (.perform s op)).1 = .error e) :
    Unmoved s op e st (st.answer now (.perform s op)).2 := by
  have same : (st.answer now (.perform s op)).2 = st := perform_refused h
  rw [same]
  exact unmoved_self s op e st

/-- A balance is refused that its session had to lock a row for. -/
theorem unmoved_answerLocked {now : Timestamp} {a : Int} {n : Nat} {locks : LockTable}
    (distinct : (st.sessions.map (·.1)).Nodup) (sound : st.books.Sound)
    (row : (StoreRequest.perform s op).row? = some a) (hx : st.openSession? s = some x)
    (h : (answerLocked now (.perform s op) a n { st with locks := locks }).1 = .error e) :
    Unmoved s op e st (answerLocked now (.perform s op) a n { st with locks := locks }).2 := by
  cases op with
  | addBalance b delta =>
      cases row
      have hs := (openSession?_eq_some.mp hx).1
      have asked : ((addGuard s a n { st with locks := locks }).perform now s
          (.addBalance a delta)).1 = .error e := h
      have same : (answerLocked now (.perform s (.addBalance a delta)) a n
          { st with locks := locks }).2 = addGuard s a n { st with locks := locks } :=
        perform_refused asked
      have guarded : addGuard s a n { st with locks := locks } =
          { st.setSession s { x with guards := x.guards ++ [(a, n)] } with locks := locks } := by
        have there : ({ st with locks := locks } : MemoryStore).session? s = some x := hs
        rw [addGuard, there]
        rfl
      have opened : (addGuard s a n { st with locks := locks }).openSession? s =
          some { x with guards := x.guards ++ [(a, n)] } := openSession?_addGuard hx
      obtain ⟨⟨c, conflict⟩, account, found⟩ := addBalance_refused opened asked
      rw [same]
      refine ⟨?_, fun t other => ?_, .inr ⟨x, a, delta, c, n, rfl, conflict, ?_, hs, ?_⟩,
        fun no => absurd rfl (no a delta), answers_alike ?_⟩
      · rw [guarded]
        rfl
      · rw [guarded]
        exact (session?_setSession st s t _).trans (if_neg other)
      · rw [guarded] at found
        exact hasAccount_of_current? sound hx found
      · exact (openSession?_eq_some.mp opened).1
      · exact (unlocked_addGuard { st with locks := locks } distinct s a n).symm
  | _ => cases row

end Unmoved

theorem session?_submit (hs : st.session? s = some x) (now : Timestamp) {r : StoreRequest}
    (other : r.session? ≠ some s) : (st.submit now r).2.session? s = some x := by
  simp only [submit]
  split
  · exact session?_answer hs now other
  · rename_i a _
    split
    · have there : ({ st with locks := (st.locks.request a).2 } : MemoryStore).session? s =
          some x := hs
      exact session?_answerLocked there now other a _
    · exact hs

end MemoryStore

namespace Desk

open MemoryStore

variable {d d' : Desk} {s : SessionId} {op : SessionRequest} {e : LedgerError}

theorem sound_books (h : d.Orderly) : d.store.books.Sound := h.books ▸ Books.sound_replay h.lawful

theorem unmoved_submit? (h : d.Orderly) {now : Timestamp}
    (hr : d.submit? now (.perform s op) = some (.answered (.error e), d')) :
    Unmoved s op e d.store d'.store := by
  simp only [submit?] at hr
  split at hr
  · cases hr
  · simp only [MemoryStore.submit] at hr
    cases wanted : d.store.wantedRow? (.perform s op) with
    | none =>
        simp only [wanted] at hr
        obtain ⟨answered, rfl⟩ := Prod.mk.inj (Option.some.inj hr)
        exact unmoved_answer (Submission.answered.inj answered)
    | some a =>
        obtain ⟨row, still⟩ := wantedRow?_eq_some wanted
        obtain ⟨x, hx⟩ := still s rfl
        have number : (d.store.locks.request a).1 = d.store.locks.nextTicket := rfl
        cases orderly_request h.store a with
        | inl holding =>
            simp only [wanted, number, holding.1, if_true] at hr
            obtain ⟨answered, rfl⟩ := Prod.mk.inj (Option.some.inj hr)
            exact unmoved_answerLocked h.store.distinct (sound_books h) row hx
              (Submission.answered.inj answered)
        | inr waiting =>
            simp only [wanted, number, waiting.1] at hr
            cases hr

theorem unmoved_resume? (h : d.Orderly) {now : Timestamp} {ticket : Nat}
    (hr : d.resume? now (.perform s op) ticket = some (.error e, d')) :
    Unmoved s op e d.store d'.store := by
  simp only [resume?] at hr
  split at hr
  · rename_i ready
    obtain ⟨a, row⟩ := h.rows _ ready.1
    obtain ⟨x, hx⟩ := h.still _ ready.1 s rfl
    have account := awaitedRow_eq (orderly_waiting h ready.1)
    simp only [row, Option.getD_some] at account
    obtain ⟨answered, rfl⟩ := Prod.mk.inj (Option.some.inj hr)
    simp only [MemoryStore.resume, account] at answered ⊢
    exact unmoved_answerLocked h.store.distinct (sound_books h) row hx answered
  · cases hr

theorem unmoved_expire? (h : d.Orderly) {ticket : Nat}
    (hr : d.expire? (.perform s op) ticket = some (.error e, d')) :
    Unmoved s op e d.store d'.store := by
  simp only [expire?] at hr
  split at hr
  · rename_i late
    obtain ⟨a, row⟩ := h.rows _ late.1
    obtain ⟨_, rfl⟩ := Prod.mk.inj (Option.some.inj hr)
    cases op with
    | addBalance b delta => exact unmoved_locks s b delta e d.store _
    | _ => cases row
  · cases hr

end Desk

namespace LockTable

variable {t : LockTable} {n : Nat}

/-- Tickets are numbered upwards. -/
theorem nextTicket_request (t : LockTable) (a : Int) :
    (t.request a).2.nextTicket = t.nextTicket + 1 := by
  have attached : (t.attach a).nextTicket = t.nextTicket + 1 := by
    simp only [attach]
    split <;> rfl
  simp only [request, acquire]
  split <;> exact attached

theorem nextTicket_discard (t : LockTable) (n : Nat) : (t.discard n).nextTicket = t.nextTicket := by
  simp only [discard]
  split <;> rfl

theorem nextTicket_prune (t : LockTable) (a : Int) : (t.prune a).nextTicket = t.nextTicket := by
  simp only [prune]
  split
  · split <;> rfl
  · rfl

end LockTable

namespace Desk

open MemoryStore

variable {d d' : Desk} {s : SessionId} {x : Session} {p : Pending}

theorem kept_numbered (n : Nat) : Kept fun st => n < st.locks.nextTicket :=
  kept_locks (Q := fun t => n < t.nextTicket)
    (fun h a => by rw [LockTable.nextTicket_request]; exact Nat.lt_succ_of_lt h)
    (fun h _ _ => h) (fun h m => (LockTable.nextTicket_discard _ m).symm ▸ h)
    (fun h a => (LockTable.nextTicket_prune _ a).symm ▸ h)

/-- A request that has to wait changes nothing but the locks. -/
theorem waits_submit? {now : Timestamp} {r : StoreRequest} {ticket : Nat}
    (hr : d.submit? now r = some (.waiting ticket, d')) :
    ∃ a, ticket = d.store.locks.nextTicket ∧
      d'.store = { d.store with locks := (d.store.locks.request a).2 } := by
  simp only [submit?, MemoryStore.submit] at hr
  split at hr
  · cases hr
  · cases wanted : d.store.wantedRow? r with
    | none =>
        simp only [wanted] at hr
        cases hr
    | some a =>
        simp only [wanted] at hr
        split at hr <;> rename_i at_
        · cases hr
        · split at at_
          · cases at_
          · cases at_
            cases hr
            exact ⟨a, rfl, rfl⟩

theorem store_submit? {now : Timestamp} {r : StoreRequest} {result : Submission Nat r.Reply × Desk}
    (hr : d.submit? now r = some result) : result.2.store = (d.store.submit now r).2 := by
  simp only [submit?] at hr
  split at hr
  · cases hr
  · split at hr
    · rename_i answered
      cases hr
      rw [answered]
      rfl
    · rename_i waits
      cases hr
      rw [waits]

theorem mem_of_resume? {now : Timestamp} {r : StoreRequest} {ticket : Nat}
    {result : r.Reply × Desk} (hr : d.resume? now r ticket = some result) :
    ⟨ticket, r⟩ ∈ d.waiting := by
  simp only [resume?] at hr
  split at hr
  · rename_i ready
    exact ready.1
  · cases hr

theorem mem_of_expire? {r : StoreRequest} {ticket : Nat} {result : r.Reply × Desk}
    (hr : d.expire? r ticket = some result) : ⟨ticket, r⟩ ∈ d.waiting := by
  simp only [expire?] at hr
  split at hr
  · rename_i late
    exact late.1
  · cases hr

/-- A request of the session of one that waits is not taken in. -/
theorem apart_of_submit? (hp : p ∈ d.waiting) (mine : p.request.session? = some s)
    {now : Timestamp} {r : StoreRequest} {result : Submission Nat r.Reply × Desk}
    (hr : d.submit? now r = some result) : r.session? ≠ some s := by
  intro same
  have busy : d.isBusy r = true := List.any_eq_true.mpr ⟨p, hp, by simp [mine, same]⟩
  simp [submit?, busy] at hr

/-- A move of others leaves a session as it is that waits before and after it. -/
theorem session?_step (h : d.Orderly) (hp : p ∈ d.waiting) (mine : p.request.session? = some s)
    (m : Move) (still : p ∈ (d.step m).waiting) :
    (d.step m).store.session? s = d.store.session? s := by
  obtain ⟨x, hx⟩ := h.still p hp s mine
  have hs := (openSession?_eq_some.mp hx).1
  rw [hs]
  cases m with
  | submit now r =>
      simp only [step] at still ⊢
      cases hr : d.submit? now r with
      | none => exact hs
      | some result =>
          have kept := session?_submit hs now (apart_of_submit? hp mine hr)
          rw [← store_submit? hr] at kept
          exact kept
  | resume now n =>
      simp only [step] at still ⊢
      cases found : d.waiting.find? (·.ticket == n) with
      | none => exact hs
      | some q =>
          simp only [found] at still ⊢
          cases hr : d.resume? now q.request n with
          | none => exact hs
          | some result =>
              rw [hr] at still
              have number : q.ticket = n := by simpa using List.find?_some found
              have rest : p ∈ (d.dismiss q.ticket).waiting := by
                rw [number]
                exact Eq.mp (congrArg (p ∈ ·) (answered_resume? hr).2) still
              have apart := apart_of_dismiss h (List.mem_of_find?_eq_some found) p rest s mine
              simp only [resume?] at hr
              split at hr
              · cases hr
                have there : ({ d.store with locks := d.store.locks.claim n } :
                    MemoryStore).session? s = some x := hs
                exact session?_answerLocked there now apart _ n
              · cases hr
  | expire n =>
      simp only [step]
      split
      · cases hr : d.expire? _ n with
        | none => exact hs
        | some result =>
            simp only [expire?] at hr
            split at hr
            · cases hr
              exact hs
            · cases hr
      · exact hs
  | desert n =>
      simp only [step, desert]
      split <;> exact hs

/-- Requests that have not lined up yet get later tickets. -/
theorem not_mem_waiting_step (old : p.ticket < d.store.locks.nextTicket) (absent : p ∉ d.waiting)
    (m : Move) : p ∉ (d.step m).waiting := by
  intro there
  cases m with
  | submit now r =>
      simp only [step] at there
      cases hr : d.submit? now r with
      | none =>
          rw [hr] at there
          exact absent there
      | some result =>
          rw [hr] at there
          change p ∈ result.2.waiting at there
          obtain ⟨submission, d'⟩ := result
          cases submission with
          | answered reply => exact absent ((answered_submit? hr).2 ▸ there)
          | waiting ticket =>
              rw [(waiting_submit? hr).2] at there
              obtain ⟨_, fresh, _⟩ := waits_submit? hr
              cases List.mem_append.mp there with
              | inl before => exact absent before
              | inr new =>
                  rw [List.mem_singleton.mp new, fresh] at old
                  exact Nat.lt_irrefl _ old
  | resume now n =>
      simp only [step] at there
      split at there
      · rename_i q _
        cases hr : d.resume? now q.request n with
        | none =>
            rw [hr] at there
            exact absent there
        | some result =>
            rw [hr] at there
            exact absent (List.mem_of_mem_filter ((answered_resume? hr).2 ▸ there))
      · exact absent there
  | expire n =>
      simp only [step] at there
      split at there
      · rename_i q _
        cases hr : d.expire? q.request n with
        | none =>
            rw [hr] at there
            exact absent there
        | some result =>
            rw [hr] at there
            exact absent (List.mem_of_mem_filter ((answered_expire? hr).2 ▸ there))
      · exact absent there
  | desert n => exact absent (mem_desert there).1

theorem not_mem_waiting_foldl (old : p.ticket < d.store.locks.nextTicket) (absent : p ∉ d.waiting)
    (moves : List Move) : p ∉ (moves.foldl step d).waiting := by
  induction moves generalizing d with
  | nil => exact absent
  | cons m moves ih =>
      exact ih ((kept_numbered p.ticket).step old m) (not_mem_waiting_step old absent m)

/-- A session stays as it is for as long as it has a request waiting. -/
theorem session?_foldl (h : d.Orderly) (old : p.ticket < d.store.locks.nextTicket)
    (hp : p ∈ d.waiting) (mine : p.request.session? = some s) {moves : List Move}
    (still : p ∈ (moves.foldl step d).waiting) :
    (moves.foldl step d).store.session? s = d.store.session? s := by
  induction moves generalizing d with
  | nil => rfl
  | cons m moves ih =>
      have older := (kept_numbered p.ticket).step old m
      have there : p ∈ (d.step m).waiting :=
        Classical.byContradiction fun gone => not_mem_waiting_foldl older gone moves still
      exact (ih (orderly_step h m) older there still).trans (session?_step h hp mine m there)

/-- What requests of sessions leave that fail, be it at once or after a wait. -/
structure Unshaken (d : Desk) : Prop where
  atOnce : ∀ now s op e d',
    d.submit? now (.perform s op) = some (.answered (.error e), d') →
    Unmoved s op e d.store d'.store
  /-- To line up for a lock changes nothing but the locks. -/
  linedUp : ∀ now s op ticket d', d.submit? now (.perform s op) = some (.waiting ticket, d') →
    d'.store.tables = d.store.tables ∧ d'.store.sessions = d.store.sessions
  /-- Others may go on in the meantime, but not the session that waits. -/
  waited : ∀ now s op ticket d', d.submit? now (.perform s op) = some (.waiting ticket, d') →
    ∀ (moves : List Move) (e : LedgerError) (d'' : Desk),
      (∃ later, (moves.foldl step d').resume? later (.perform s op) ticket =
          some (.error e, d'')) ∨
        (moves.foldl step d').expire? (.perform s op) ticket = some (.error e, d'') →
      (moves.foldl step d').store.session? s = d.store.session? s ∧
        Unmoved s op e (moves.foldl step d').store d''.store

theorem unshaken_of_orderly (h : d.Orderly) : d.Unshaken where
  atOnce _ _ _ _ _ hr := unmoved_submit? h hr
  linedUp _ _ _ _ _ hr := by
    obtain ⟨_, _, same⟩ := waits_submit? hr
    rw [same]
    exact ⟨rfl, rfl⟩
  waited now s op ticket d' hr moves e d'' answered := by
    obtain ⟨a, number, same⟩ := waits_submit? hr
    have order := orderly_submit? h hr
    have old : ticket < d'.store.locks.nextTicket := by
      rw [same, number]
      exact Nat.lt_of_lt_of_eq (Nat.lt_succ_self _) (LockTable.nextTicket_request _ a).symm
    have there : ⟨ticket, .perform s op⟩ ∈ d'.waiting := by
      rw [(waiting_submit? hr).2]
      exact List.mem_append_right _ (List.mem_singleton_self _)
    have first : d'.store.session? s = d.store.session? s := by
      rw [same]
      rfl
    have kept (still : ⟨ticket, .perform s op⟩ ∈ (moves.foldl step d').waiting) :=
      (session?_foldl order old there rfl still).trans first
    have later := orderly_foldl order moves
    cases answered with
    | inl resumed =>
        obtain ⟨_, resumed⟩ := resumed
        exact ⟨kept (mem_of_resume? resumed), unmoved_resume? later resumed⟩
    | inr expired => exact ⟨kept (mem_of_expire? expired), unmoved_expire? later expired⟩

/-- A request of a session that fails, for whatever reason, has changed nothing. -/
theorem failure_changes_nothing (moves : List Move) : (run moves).Unshaken :=
  unshaken_of_orderly (orderly_run moves)

/-- An account, and a session that has not locked it. -/
def oneAccount : List Move :=
  let now := Timestamp.ofMillis 0
  [.submit now (.query (.createAccount ⟨"ada", "USD", .whole 100⟩)), .submit now .begin]

/-- A withdrawal that is refused keeps the row locked, and nothing else. -/
theorem failure_changes_nothing_overdrawn : ∃ e d',
    (run oneAccount).submit? (.ofMillis 0) (.perform 0 (.addBalance 1 (-.whole 101))) =
      some (.answered (.error e), d') ∧
    (d'.store.session? 0).map (·.guards) = some [(1, 0)] ∧
    Unmoved 0 (.addBalance 1 (-.whole 101)) e (run oneAccount).store d'.store := by
  have refused : (run oneAccount).submit? (.ofMillis 0)
      (.perform 0 (.addBalance 1 (-.whole 101))) =
        some (.answered (.error (.conflict (.negativeBalance 1 (-.whole 1)))), _) := rfl
  exact ⟨_, _, refused, rfl, (failure_changes_nothing oneAccount).atOnce _ _ _ _ _ refused⟩

end Desk

end DoubleEntry
