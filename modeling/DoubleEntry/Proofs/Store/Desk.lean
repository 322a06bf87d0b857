import DoubleEntry.Proofs.Store.Deeds

/-!
A store in use by any number of clients at once. Each of them submits requests, and goes on, gives
up or is gone where a request has to wait; the moves are the critical sections of the store, in any
order. A session is used by one client at a time, so that it has one request waiting at most.
-/

namespace DoubleEntry

/-- A request that waits with a ticket. -/
structure Pending where
  ticket : Nat
  request : StoreRequest
  deriving DecidableEq

/-- The row that is waited for, with the ticket. -/
def Pending.key (p : Pending) : Int × Nat := (p.request.row?.getD 0, p.ticket)

structure Desk where
  store : MemoryStore := {}
  waiting : List Pending := []
  /-- Everything that was done, the oldest deed first. -/
  deeds : List Deed := []

inductive Move where
  | submit (now : Timestamp) (r : StoreRequest)
  /-- A request that waits has been granted its lock, and is answered. -/
  | resume (now : Timestamp) (ticket : Nat)
  /-- A request has waited too long, and is refused. -/
  | expire (ticket : Nat)
  /-- The client that waits with the ticket gives up or is gone. -/
  | desert (ticket : Nat)

namespace Desk

def record (d : Desk) (r : StoreRequest) (reply : r.Reply) (store : MemoryStore) : Desk :=
  { d with store := store, deeds := d.deeds ++ (Deed.of? r reply).toList }

/-- A request of the same session is waiting. -/
def isBusy (d : Desk) (r : StoreRequest) : Bool :=
  d.waiting.any fun p => r.session?.isSome && p.request.session? == r.session?

def submit? (d : Desk) (now : Timestamp) (r : StoreRequest) :
    Option (Submission Nat r.Reply × Desk) :=
  if d.isBusy r then none
  else
    match d.store.submit now r with
    | (.answered reply, store) => some (.answered reply, d.record r reply store)
    | (.waiting ticket, store) =>
        some (.waiting ticket,
          { d with store := store, waiting := d.waiting ++ [⟨ticket, r⟩] })

/-- The desk without a request that waited. -/
def dismiss (d : Desk) (ticket : Nat) : Desk :=
  { d with waiting := d.waiting.filter (·.ticket != ticket) }

def resume? (d : Desk) (now : Timestamp) (r : StoreRequest) (ticket : Nat) :
    Option (r.Reply × Desk) :=
  if ⟨ticket, r⟩ ∈ d.waiting ∧ d.store.isGranted ticket = true then
    let answer := d.store.resume now r ticket
    some (answer.1, (d.record r answer.1 answer.2).dismiss ticket)
  else none

def expire? (d : Desk) (r : StoreRequest) (ticket : Nat) : Option (r.Reply × Desk) :=
  if ⟨ticket, r⟩ ∈ d.waiting ∧ d.store.isGranted ticket = false then
    let answer := d.store.expire r ticket
    some (answer.1, (d.record r answer.1 answer.2).dismiss ticket)
  else none

def desert (d : Desk) (ticket : Nat) : Desk :=
  if d.waiting.any (·.ticket == ticket) then
    { d.dismiss ticket with store := d.store.desert ticket }
  else d

/-- A move. One that cannot be made changes nothing. -/
def step (d : Desk) : Move → Desk
  | .submit now r => ((d.submit? now r).map (·.2)).getD d
  | .resume now ticket =>
      match d.waiting.find? (·.ticket == ticket) with
      | some p => ((d.resume? now p.request ticket).map (·.2)).getD d
      | none => d
  | .expire ticket =>
      match d.waiting.find? (·.ticket == ticket) with
      | some p => ((d.expire? p.request ticket).map (·.2)).getD d
      | none => d
  | .desert ticket => d.desert ticket

def run (moves : List Move) : Desk := moves.foldl step {}

theorem run_concat (moves : List Move) (m : Move) : run (moves ++ [m]) = (run moves).step m :=
  List.foldl_concat step {} m moves

/-- What every move keeps. -/
structure Orderly (d : Desk) : Prop where
  store : d.store.Orderly [] (d.waiting.map Pending.key)
  rows : ∀ p ∈ d.waiting, ∃ a, p.request.row? = some a
  still : ∀ p ∈ d.waiting, ∀ s, p.request.session? = some s →
    ∃ x, d.store.openSession? s = some x
  alone : d.waiting.Pairwise fun p q => ∀ s, p.request.session? = some s →
    q.request.session? ≠ some s
  lawful : Books.Lawful d.deeds
  books : d.store.books = Books.replay d.deeds

theorem orderly_empty : Orderly {} where
  store := MemoryStore.orderly_empty
  rows _ h := by cases h
  still _ h := by cases h
  alone := List.Pairwise.nil
  lawful := Books.Lawful.nil
  books := rfl

end Desk

namespace MemoryStore

variable {st : MemoryStore} {loose waits : List (Int × Nat)}

/-- A request that has to lock a row names it, and its session is open. -/
theorem wantedRow?_eq_some {r : StoreRequest} {a : Int} (h : st.wantedRow? r = some a) :
    r.row? = some a ∧ ∀ s, r.session? = some s → ∃ x, st.openSession? s = some x := by
  simp only [wantedRow?] at h
  split at h
  · rename_i s b delta
    split at h
    · rename_i x hx
      split at h
      · cases h
      · cases h
        refine ⟨rfl, fun t ht => ?_⟩
        cases ht
        exact ⟨x, hx⟩
    · cases h
  · cases h
    exact ⟨rfl, fun t ht => by cases ht⟩
  · cases h

theorem session?_answerLocked {t : SessionId} {x : Session} (hx : st.session? t = some x)
    (now : Timestamp) {r : StoreRequest} (other : r.session? ≠ some t) (a : Int) (n : Nat) :
    (st.answerLocked now r a n).2.session? t = some x := by
  cases r with
  | perform s op =>
      refine session?_answer ?_ now other
      have ne : t ≠ s := fun same => other (by rw [same]; rfl)
      simp only [addGuard]
      split
      · rw [session?_setSession, if_neg ne]
        exact hx
      · exact hx
  | begin => exact session?_answer hx now other
  | abandon s => exact session?_answer hx now other
  | query q => exact session?_answer hx now other

/-- A request takes a ticket: it holds the lock, or waits. -/
theorem orderly_request (h : st.Orderly loose waits) (a : Int) :
    ((st.locks.request a).2.standing? st.locks.nextTicket = some .holding ∧
      Orderly { st with locks := (st.locks.request a).2 } ((a, st.locks.nextTicket) :: loose)
        waits) ∨
    ((st.locks.request a).2.standing? st.locks.nextTicket = some .waiting ∧
      Orderly { st with locks := (st.locks.request a).2 } loose
        (waits ++ [(a, st.locks.nextTicket)])) := by
  have sound := LockTable.sound_request h.sound a
  rcases LockTable.request_cases h.sound a with ⟨standing, held, awaited⟩ |
    ⟨standing, held, awaited, _⟩
  · refine .inl ⟨standing, sound, ?_, awaited ▸ h.awaited, h.distinct, h.fresh, h.tidy⟩
    change (st.locks.request a).2.held.Perm _
    rw [held]
    exact List.perm_append_comm.trans (h.held.cons _)
  · refine .inr ⟨standing, sound, held ▸ h.held, ?_, h.distinct, h.fresh, h.tidy⟩
    change (st.locks.request a).2.awaited.Perm _
    rw [awaited]
    exact h.awaited.append_right _

/-- A ticket that was granted its lock becomes loose. -/
theorem orderly_claim {a : Int} {n : Nat} (h : st.Orderly loose ((a, n) :: waits))
    (granted : st.isGranted n = true) :
    Orderly { st with locks := st.locks.claim n } ((a, n) :: loose) waits := by
  obtain ⟨sound, held, awaited⟩ := LockTable.claim_awaited h.sound h.awaited
    (by simpa [isGranted] using granted)
  exact ⟨sound, held.trans (h.held.cons _), awaited, h.distinct, h.fresh, h.tidy⟩

theorem orderly_desert {a : Int} {n : Nat} (h : st.Orderly loose ((a, n) :: waits)) :
    (st.desert n).Orderly loose waits := by
  obtain ⟨held, awaited⟩ := LockTable.discard_awaited h.sound h.awaited
  refine ⟨LockTable.sound_discard h.sound n, ?_, awaited, h.distinct, h.fresh, h.tidy⟩
  exact held ▸ h.held

theorem orderly_expire {a : Int} {n : Nat} (h : st.Orderly loose ((a, n) :: waits))
    (r : StoreRequest) : (st.expire r n).2.Orderly loose waits := by
  have given := orderly_desert h
  simp only [expire]
  refine ⟨LockTable.sound_prune given.sound _, ?_, ?_, h.distinct, h.fresh, h.tidy⟩
  · simp only [LockTable.release, LockTable.held, LockTable.tickets_prune]
    exact given.held
  · simp only [LockTable.release, LockTable.awaited, LockTable.tickets_prune]
    exact given.awaited

theorem awaitedRow_eq {a : Int} {n : Nat} (h : st.Orderly loose ((a, n) :: waits)) :
    st.awaitedRow n = a := by
  obtain ⟨k, mem, _, same⟩ :=
    LockTable.mem_awaited.mp (h.awaited.mem_iff.mpr List.mem_cons_self)
  have number : k.number = n := congrArg Prod.snd same
  have account : k.account = a := congrArg Prod.fst same
  subst number
  rw [awaitedRow, LockTable.ticket?_of_mem h.sound mem]
  exact account

end MemoryStore

namespace Desk

open MemoryStore

variable {d : Desk}

/-- A request is answered while others, which are not of its session, go on waiting. -/
theorem orderly_record (h : d.Orderly) {r : StoreRequest} {reply : r.Reply} {store : MemoryStore}
    {waiting : List Pending} (sub : waiting.Sublist d.waiting)
    (order : store.Orderly [] (waiting.map Pending.key))
    (turns : d.store.books.Turns (Deed.of? r reply) store.books)
    (kept : ∀ t x, r.session? ≠ some t → d.store.session? t = some x →
      store.session? t = some x)
    (apart : ∀ p ∈ waiting, ∀ s, p.request.session? = some s → r.session? ≠ some s) :
    Orderly { d.record r reply store with waiting := waiting } where
  store := order
  rows p hp := h.rows p (sub.subset hp)
  still p hp s hs := by
    obtain ⟨x, hx⟩ := h.still p (sub.subset hp) s hs
    have ⟨there, open_⟩ := openSession?_eq_some.mp hx
    exact ⟨x, openSession?_eq_some.mpr ⟨kept s x (apart p hp s hs) there, open_⟩⟩
  alone := h.alone.sublist sub
  lawful := (Books.lawful_turn h.lawful (h.books ▸ turns)).1
  books := (Books.lawful_turn h.lawful (h.books ▸ turns)).2

theorem apart_of_not_isBusy {r : StoreRequest} (h : d.isBusy r = false) :
    ∀ p ∈ d.waiting, ∀ s, p.request.session? = some s → r.session? ≠ some s := by
  intro p hp s hs same
  have idle := List.any_eq_false.mp h p hp
  simp [hs, same] at idle

theorem orderly_submit? (h : d.Orderly) {now : Timestamp} {r : StoreRequest}
    {result : Submission Nat r.Reply × Desk} (hr : d.submit? now r = some result) :
    result.2.Orderly := by
  simp only [submit?] at hr
  split at hr
  · cases hr
  · rename_i idle
    have apart := apart_of_not_isBusy (by simpa using idle)
    simp only [MemoryStore.submit] at hr
    cases wanted : d.store.wantedRow? r with
    | none =>
        simp only [wanted] at hr
        cases hr
        have guarded := guarded_of_wantedRow? wanted
        refine orderly_record h (List.Sublist.refl _) (orderly_answer h.store now r guarded) ?_
          (fun t x other hx => session?_answer hx now other) apart
        refine books_answer h.store now r guarded fun a same => ?_
        subst same
        cases wanted
    | some a =>
        simp only [wanted] at hr
        obtain ⟨row, still⟩ := wantedRow?_eq_some wanted
        rcases orderly_request h.store a with ⟨standing, order⟩ | ⟨standing, order⟩
        · have number : (d.store.locks.request a).1 = d.store.locks.nextTicket := rfl
          simp only [number, standing, if_true] at hr
          cases hr
          exact orderly_record h (List.Sublist.refl _) (orderly_answerLocked order now row still)
            (books_answerLocked order now row still)
            (fun t x other hx => by
              have there : ({ d.store with locks := (d.store.locks.request a).2 } :
                  MemoryStore).session? t = some x := hx
              exact session?_answerLocked there now other a _) apart
        · have number : (d.store.locks.request a).1 = d.store.locks.nextTicket := rfl
          simp only [number, standing] at hr
          cases hr
          refine ⟨?_, ?_, ?_, ?_, h.lawful, h.books⟩
          · rw [List.map_append, List.map_cons, List.map_nil, Pending.key, row]
            exact order
          · intro p hp
            rcases List.mem_append.mp hp with old | new
            · exact h.rows p old
            · rw [List.mem_singleton.mp new]
              exact ⟨a, row⟩
          · intro p hp s hs
            rcases List.mem_append.mp hp with old | new
            · exact h.still p old s hs
            · rw [List.mem_singleton.mp new] at hs
              exact still s hs
          · refine List.pairwise_append.mpr ⟨h.alone, List.pairwise_singleton _ _, ?_⟩
            intro p hp q hq s hs
            rw [List.mem_singleton.mp hq]
            exact apart p hp s hs

theorem tickets_nodup (h : d.Orderly) : (d.waiting.map (·.ticket)).Nodup := by
  have numbers := (h.store.awaited.map (·.2)).nodup_iff.mp
    (LockTable.awaited_numbers_nodup h.store.sound)
  rwa [List.map_map] at numbers

/-- The waiting requests, one of them set apart. -/
theorem orderly_waiting (h : d.Orderly) {p : Pending} (hp : p ∈ d.waiting) :
    d.store.Orderly [] (p.key :: (d.dismiss p.ticket).waiting.map Pending.key) := by
  have split := (perm_cons_filter_ne (fun p : Pending => p.ticket) (tickets_nodup h) hp).map
    Pending.key
  exact ⟨h.store.sound, h.store.held, h.store.awaited.trans split, h.store.distinct,
    h.store.fresh, h.store.tidy⟩

/-- Requests that go on waiting are of other sessions. -/
theorem apart_of_dismiss (h : d.Orderly) {p : Pending} (hp : p ∈ d.waiting) :
    ∀ q ∈ (d.dismiss p.ticket).waiting, ∀ s, q.request.session? = some s →
      p.request.session? ≠ some s := by
  have split := perm_cons_filter_ne (fun p : Pending => p.ticket) (tickets_nodup h) hp
  have alone := (List.Perm.pairwise_iff
    (fun apart s hs hs' => apart s hs' hs) split).mp h.alone
  intro q hq s hs same
  exact (List.pairwise_cons.mp alone).1 q hq s same hs

theorem orderly_resume? (h : d.Orderly) {now : Timestamp} {r : StoreRequest} {ticket : Nat}
    {result : r.Reply × Desk} (hr : d.resume? now r ticket = some result) :
    result.2.Orderly := by
  simp only [resume?] at hr
  split at hr
  · rename_i ready
    cases hr
    have order := orderly_waiting h ready.1
    obtain ⟨a, row⟩ := h.rows _ ready.1
    have still := h.still _ ready.1
    have account := awaitedRow_eq order
    simp only [Pending.key, row, Option.getD_some] at account order
    have claimed := orderly_claim order ready.2
    have answer : d.store.resume now r ticket =
        answerLocked now r a ticket { d.store with locks := d.store.locks.claim ticket } := by
      rw [← account]
      rfl
    rw [answer]
    refine orderly_record h List.filter_sublist ?_ ?_ ?_ (apart_of_dismiss h ready.1)
    · exact orderly_answerLocked claimed now row still
    · exact books_answerLocked claimed now row still
    · intro t x other hx
      have there : ({ d.store with locks := d.store.locks.claim ticket } :
          MemoryStore).session? t = some x := hx
      exact session?_answerLocked there now other _ _
  · cases hr

/-- A refusal does nothing. -/
theorem of?_refusal {r : StoreRequest} {a : Int} (row : r.row? = some a) (e : LedgerError) :
    Deed.of? r (r.refusal e) = none := by
  cases r with
  | begin => cases row
  | abandon s => cases row
  | perform s op => cases op <;> rfl
  | query q => cases q <;> rfl

theorem orderly_expire? (h : d.Orderly) {r : StoreRequest} {ticket : Nat}
    {result : r.Reply × Desk} (hr : d.expire? r ticket = some result) : result.2.Orderly := by
  simp only [expire?] at hr
  split at hr
  · rename_i late
    cases hr
    have order := orderly_waiting h late.1
    obtain ⟨a, row⟩ := h.rows _ late.1
    refine orderly_record h List.filter_sublist (MemoryStore.orderly_expire order r) ?_
      (fun t x _ hx => hx) (apart_of_dismiss h late.1)
    have nothing : Deed.of? r (d.store.expire r ticket).1 = none := of?_refusal row _
    rw [nothing]
    rfl
  · cases hr

theorem orderly_desert (h : d.Orderly) (ticket : Nat) : (d.desert ticket).Orderly := by
  simp only [desert]
  split
  · rename_i there
    obtain ⟨p, hp, same⟩ := List.any_eq_true.mp there
    cases eq_of_beq same
    have sub : (d.dismiss p.ticket).waiting.Sublist d.waiting := List.filter_sublist
    exact ⟨MemoryStore.orderly_desert (orderly_waiting h hp), fun q hq => h.rows q (sub.subset hq),
      fun q hq => h.still q (sub.subset hq), h.alone.sublist sub, h.lawful, h.books⟩
  · exact h

theorem orderly_getD {α : Type} (h : d.Orderly) {result : Option (α × Desk)}
    (hr : ∀ r, result = some r → r.2.Orderly) : ((result.map (·.2)).getD d).Orderly := by
  cases result with
  | none => exact h
  | some r => exact hr r rfl

theorem orderly_step (h : d.Orderly) (move : Move) : (d.step move).Orderly := by
  cases move with
  | submit now r => exact orderly_getD h fun _ hr => orderly_submit? h hr
  | resume now ticket =>
      simp only [step]
      split
      · exact orderly_getD h fun _ hr => orderly_resume? h hr
      · exact h
  | expire ticket =>
      simp only [step]
      split
      · exact orderly_getD h fun _ hr => orderly_expire? h hr
      · exact h
  | desert ticket => exact orderly_desert h ticket

theorem orderly_foldl (h : d.Orderly) (moves : List Move) : (moves.foldl step d).Orderly := by
  induction moves generalizing d with
  | nil => exact h
  | cons move moves ih => exact ih (orderly_step h move)

/-- A store in use is always in order. -/
theorem orderly_run (moves : List Move) : (run moves).Orderly :=
  orderly_foldl orderly_empty moves

theorem tables_eq (h : d.Orderly) : d.store.tables = (Books.replay d.deeds).tables :=
  congrArg Books.tables h.books

end Desk

/-- If the move asks for something, it is of this kind. -/
def Move.Asks (Q : StoreRequest → Prop) : Move → Prop
  | submit _ r => Q r
  | _ => True

namespace Desk

variable {d : Desk} {Q : StoreRequest → Prop} {now : Timestamp} {r : StoreRequest} {ticket : Nat}

/-- Only requests of a kind were made: of such a kind are those that wait, and those that some store
has answered with a deed that was done. -/
structure Asked (Q : StoreRequest → Prop) (d : Desk) : Prop where
  waiting : ∀ p ∈ d.waiting, Q p.request
  deeds : ∀ e ∈ d.deeds, ∃ r now st, Q r ∧ Deed.of? r (MemoryStore.answer now r st).1 = some e

theorem asked_record (h : d.Asked Q) (asked : Q r) {reply : r.Reply}
    (answered : ∀ e, Deed.of? r reply = some e →
      ∃ now st, Deed.of? r (MemoryStore.answer now r st).1 = some e) (store : MemoryStore) :
    (d.record r reply store).Asked Q where
  waiting := h.waiting
  deeds e he := by
    cases List.mem_append.mp he with
    | inl old => exact h.deeds e old
    | inr new =>
        obtain ⟨now, st, done_⟩ := answered e (Option.mem_toList.mp new)
        exact ⟨r, now, st, asked, done_⟩

/-- The lock makes no difference to the reply but for what the session has locked. -/
theorem exists_answer_of_answerLocked (st : MemoryStore) (now : Timestamp) (r : StoreRequest)
    (a : Int) (n : Nat) :
    ∃ st' : MemoryStore, (st.answerLocked now r a n).1 = (st'.answer now r).1 := by
  cases r with
  | perform s op => exact ⟨st.addGuard s a n, rfl⟩
  | begin => exact ⟨st, rfl⟩
  | abandon s => exact ⟨st, rfl⟩
  | query q => exact ⟨st, rfl⟩

/-- Only the end of a session is done although it is refused. -/
theorem exists_answer_of_refusal {e : LedgerError} {done_ : Deed}
    (h : Deed.of? r (r.refusal e) = some done_) :
    ∃ now st, Deed.of? r (MemoryStore.answer now r st).1 = some done_ := by
  cases r with
  | abandon s => exact ⟨default, default, h⟩
  | begin => cases h
  | perform s op => cases op <;> cases h
  | query q => cases q <;> cases h

theorem asked_dismiss (h : d.Asked Q) (ticket : Nat) : (d.dismiss ticket).Asked Q where
  waiting p hp := h.waiting p (List.mem_filter.mp hp).1
  deeds := h.deeds

theorem asked_submit? (h : d.Asked Q) (asked : Q r) {result : Submission Nat r.Reply × Desk}
    (hr : d.submit? now r = some result) : result.2.Asked Q := by
  simp only [submit?, MemoryStore.submit] at hr
  split at hr
  · cases hr
  · cases wanted : d.store.wantedRow? r with
    | none =>
        simp only [wanted] at hr
        cases hr
        exact asked_record h asked (fun e done_ => ⟨now, d.store, done_⟩) _
    | some a =>
        simp only [wanted] at hr
        split at hr
        · rename_i answered
          split at answered
          · cases answered
            cases hr
            obtain ⟨st, same⟩ := exists_answer_of_answerLocked _ now r a _
            exact asked_record h asked (fun e done_ => ⟨now, st, same ▸ done_⟩) _
          · cases answered
        · cases hr
          refine ⟨fun p hp => ?_, h.deeds⟩
          cases List.mem_append.mp hp with
          | inl old => exact h.waiting p old
          | inr new =>
              cases List.mem_singleton.mp new
              exact asked

theorem asked_resume? (h : d.Asked Q) {result : r.Reply × Desk}
    (hr : d.resume? now r ticket = some result) : result.2.Asked Q := by
  simp only [resume?] at hr
  split at hr
  · rename_i ready
    cases hr
    obtain ⟨st, same⟩ := exists_answer_of_answerLocked
      { d.store with locks := d.store.locks.claim ticket } now r (d.store.awaitedRow ticket) ticket
    exact asked_dismiss (asked_record h (h.waiting _ ready.1)
      (fun e done_ => ⟨now, st, same ▸ done_⟩) _) ticket
  · cases hr

theorem asked_expire? (h : d.Asked Q) {result : r.Reply × Desk}
    (hr : d.expire? r ticket = some result) : result.2.Asked Q := by
  simp only [expire?] at hr
  split at hr
  · rename_i late
    cases hr
    exact asked_dismiss (asked_record h (h.waiting _ late.1)
      (fun _ done_ => exists_answer_of_refusal done_) _) ticket
  · cases hr

theorem asked_step (h : d.Asked Q) {move : Move} (asks : move.Asks Q) : (d.step move).Asked Q := by
  have getD : ∀ {α : Type} {result : Option (α × Desk)},
      (∀ r, result = some r → r.2.Asked Q) → ((result.map (·.2)).getD d).Asked Q := by
    intro α result hr
    cases result with
    | none => exact h
    | some r => exact hr r rfl
  cases move with
  | submit now r => exact getD fun _ hr => asked_submit? h asks hr
  | resume now ticket =>
      simp only [step]
      split
      · exact getD fun _ hr => asked_resume? h hr
      · exact h
  | expire ticket =>
      simp only [step]
      split
      · exact getD fun _ hr => asked_expire? h hr
      · exact h
  | desert ticket =>
      simp only [step, desert]
      split
      · have fewer := asked_dismiss h ticket
        exact ⟨fewer.waiting, fewer.deeds⟩
      · exact h

theorem asked_run {moves : List Move} (asks : ∀ m ∈ moves, m.Asks Q) : (run moves).Asked Q :=
  List.foldlRecOn moves _ (motive := Asked Q)
    ⟨fun _ h => (by cases h), fun _ h => (by cases h)⟩
    fun _ h m hm => asked_step h (asks m hm)

end Desk
end DoubleEntry
