import DoubleEntry.Proofs.Store.Locks
import DoubleEntry.Proofs.Store.Table

/-!
Sessions and the locks that they keep. The tickets that hold a lock are those that the sessions have
as guards, and apart from them only the ticket of a query while it is answered. With that, no row is
guarded twice, and every row that a session has staged is one that it guards.
-/

namespace DoubleEntry

namespace LockTable

theorem held_numbers_nodup {t : LockTable} (h : t.Sound) : (t.held.map (·.2)).Nodup := by
  have all := numbers_nodup h
  rw [List.map_append] at all
  exact all.of_append_left

theorem awaited_numbers_nodup {t : LockTable} (h : t.Sound) : (t.awaited.map (·.2)).Nodup := by
  have all := numbers_nodup h
  rw [List.map_append] at all
  exact all.of_append_right

theorem number_ne_of_held_of_awaited {t : LockTable} (h : t.Sound) {p q : Int × Nat}
    (hp : p ∈ t.held) (hq : q ∈ t.awaited) : q.2 ≠ p.2 := by
  have all := numbers_nodup h
  rw [List.map_append] at all
  intro same
  refine (List.nodup_append.mp all).2.2 p.2 (List.mem_map_of_mem hp) q.2
    (List.mem_map_of_mem hq) same.symm

theorem release_held {t : LockTable} (h : t.Sound) {a : Int} {n : Nat} {rest : List (Int × Nat)}
    (held : t.held.Perm ((a, n) :: rest)) :
    (t.release a n).Sound ∧ (t.release a n).held.Perm rest ∧
      (t.release a n).awaited = t.awaited := by
  refine ⟨sound_release h a n, ?_, ?_⟩
  · rw [held_release]
    exact perm_filter_ne_of_perm_cons (·.2) (held_numbers_nodup h) held
  · rw [awaited_release]
    refine List.filter_eq_self.mpr fun q hq => bne_iff_ne.mpr ?_
    exact number_ne_of_held_of_awaited h (held.mem_iff.mpr List.mem_cons_self) hq

theorem discard_awaited {t : LockTable} (h : t.Sound) {a : Int} {n : Nat}
    {rest : List (Int × Nat)} (awaited : t.awaited.Perm ((a, n) :: rest)) :
    (t.discard n).held = t.held ∧ (t.discard n).awaited.Perm rest := by
  refine ⟨?_, ?_⟩
  · rw [held_discard]
    refine List.filter_eq_self.mpr fun p hp => bne_iff_ne.mpr ?_
    exact (number_ne_of_held_of_awaited h hp (awaited.mem_iff.mpr List.mem_cons_self)).symm
  · rw [awaited_discard]
    exact perm_filter_ne_of_perm_cons (·.2) (awaited_numbers_nodup h) awaited

theorem claim_awaited {t : LockTable} (h : t.Sound) {a : Int} {n : Nat} {rest : List (Int × Nat)}
    (awaited : t.awaited.Perm ((a, n) :: rest)) (granted : t.standing? n = some .granted) :
    (t.claim n).Sound ∧ (t.claim n).held.Perm ((a, n) :: t.held) ∧
      (t.claim n).awaited.Perm rest := by
  obtain ⟨k, mem, notHolding, same⟩ := mem_awaited.mp (awaited.mem_iff.mpr List.mem_cons_self)
  have number : k.number = n := congrArg Prod.snd same
  subst number
  have standing : k.standing = .granted := by
    rw [standing?_of_mem h mem] at granted
    exact Option.some.inj granted
  have ⟨held, waits⟩ := claim_perm h mem notHolding
  rw [same] at held waits
  refine ⟨sound_claim h mem (by rw [standing]; rfl), held, ?_⟩
  exact (List.perm_cons _).mp (waits.symm.trans awaited)

end LockTable

namespace MemoryStore

theorem releaseAll_held {t : LockTable} (h : t.Sound) {gs rest : List (Int × Nat)}
    (held : t.held.Perm (gs ++ rest)) :
    (releaseAll gs t).Sound ∧ (releaseAll gs t).held.Perm rest ∧
      (releaseAll gs t).awaited = t.awaited := by
  induction gs generalizing t with
  | nil => exact ⟨h, held, rfl⟩
  | cons g gs ih =>
      obtain ⟨sound, others, waits⟩ := LockTable.release_held h held
      obtain ⟨soundAll, heldAll, waitsAll⟩ := ih sound others
      exact ⟨soundAll, heldAll, waitsAll.trans waits⟩

end MemoryStore

/-- A session has staged only accounts whose rows it guards, and has nothing once it is finished. -/
structure Session.Tidy (s : Session) : Prop where
  guarded : ∀ a ∈ s.accounts, s.holds a.id = true
  cleared : s.finished = true → s = { finished := true }

theorem Session.tidy_empty : Session.Tidy {} where
  guarded _ h := by cases h
  cleared h := by cases h

theorem Session.tidy_finished : Session.Tidy { finished := true } where
  guarded _ h := by cases h
  cleared _ := rfl

namespace MemoryStore

/-- The tickets that the sessions keep. -/
def guards (st : MemoryStore) : List (Int × Nat) := st.sessions.flatMap (·.2.guards)

def others (st : MemoryStore) (s : SessionId) : List (SessionId × Session) :=
  st.sessions.filter (·.1 != s)

/-- Order among sessions and locks, while some loose tickets hold a lock for no session, and some
are still waited with. -/
structure Orderly (st : MemoryStore) (loose waits : List (Int × Nat)) : Prop where
  sound : st.locks.Sound
  held : st.locks.held.Perm (loose ++ st.guards)
  awaited : st.locks.awaited.Perm waits
  distinct : (st.sessions.map (·.1)).Nodup
  fresh : ∀ p ∈ st.sessions, p.1 < st.nextSession
  tidy : ∀ p ∈ st.sessions, p.2.Tidy

theorem orderly_empty : Orderly {} [] [] where
  sound := LockTable.sound_empty
  held := List.Perm.refl _
  awaited := List.Perm.refl _
  distinct := List.nodup_nil
  fresh _ h := by cases h
  tidy _ h := by cases h

variable {st : MemoryStore} {loose waits : List (Int × Nat)} {s : SessionId} {x y : Session}

theorem mem_of_session? (h : st.session? s = some x) : (s, x) ∈ st.sessions := by
  obtain ⟨before, after, split, _⟩ := List.lookup_eq_some_iff.mp h
  rw [split]
  exact List.mem_append_right before List.mem_cons_self

theorem session?_of_mem (distinct : (st.sessions.map (·.1)).Nodup) (h : (s, x) ∈ st.sessions) :
    st.session? s = some x :=
  lookup_of_mem distinct h

theorem sessions_perm (distinct : (st.sessions.map (·.1)).Nodup) (hs : st.session? s = some x) :
    st.sessions.Perm ((s, x) :: st.others s) :=
  perm_cons_filter_ne (fun p : SessionId × Session => p.1) distinct (mem_of_session? hs)

theorem setSession_perm (distinct : (st.sessions.map (·.1)).Nodup) (hs : st.session? s = some x)
    (y : Session) : (st.setSession s y).sessions.Perm ((s, y) :: st.others s) := by
  have changed := (sessions_perm distinct hs).map
    fun p : SessionId × Session => if p.1 = s then (p.1, y) else (p.1, p.2)
  rw [List.map_cons, if_pos rfl] at changed
  have rest : (st.others s).map (fun p => if p.1 = s then (p.1, y) else (p.1, p.2)) =
      (st.others s).map id := by
    refine List.map_congr_left fun p hp => if_neg ?_
    simpa using (List.mem_filter.mp hp).2
  rw [rest, List.map_id] at changed
  exact changed

theorem map_fst_setSession (st : MemoryStore) (s : SessionId) (y : Session) :
    (st.setSession s y).sessions.map (·.1) = st.sessions.map (·.1) := by
  simp only [setSession]
  rw [List.map_map]
  refine List.map_congr_left fun p _ => ?_
  by_cases h : p.1 = s <;> simp [h]

theorem session?_setSession (st : MemoryStore) (s t : SessionId) (y : Session) :
    (st.setSession s y).session? t =
      if t = s then (st.session? t).map fun _ => y else st.session? t := by
  simp only [setSession, session?]
  induction st.sessions with
  | nil => simp
  | cons p xs ih =>
      rw [List.map_cons, List.lookup_cons, List.lookup_cons, ih]
      by_cases hp : p.1 = s
      · rw [if_pos hp]
        by_cases ht : t = p.1
        · have mine : t = s := ht.trans hp
          rw [beq_iff_eq.mpr ht, if_pos mine, if_pos mine]
          rfl
        · rw [beq_false_of_ne ht]
      · rw [if_neg hp]
        by_cases ht : t = p.1
        · have other : t ≠ s := fun same => hp (ht.symm.trans same)
          rw [beq_iff_eq.mpr ht, if_neg other, if_neg other]
        · rw [beq_false_of_ne ht]

theorem mem_setSession {p : SessionId × Session} (h : p ∈ (st.setSession s y).sessions) :
    p = (s, y) ∨ p ∈ st.sessions := by
  obtain ⟨q, hq, rfl⟩ := List.mem_map.mp h
  by_cases same : q.1 = s
  · simp [same]
  · simp only [if_neg same]
    exact .inr hq

theorem guards_perm (distinct : (st.sessions.map (·.1)).Nodup) (hs : st.session? s = some x) :
    st.guards.Perm (x.guards ++ (st.others s).flatMap (·.2.guards)) :=
  (sessions_perm distinct hs).flatMap_right fun p : SessionId × Session => p.2.guards

/-- With nobody waiting, every ticket is one that a session keeps. -/
theorem mem_guards_of_ticket (h : st.Orderly [] []) {l : Ticket} (hl : l ∈ st.locks.tickets) :
    (l.account, l.number) ∈ st.guards := by
  have all := LockTable.held_append_awaited.mem_iff.mpr (List.mem_map_of_mem hl)
  cases List.mem_append.mp all with
  | inl holding => exact h.held.mem_iff.mp holding
  | inr waiting => cases h.awaited.mem_iff.mp waiting

/-- One session is replaced, and the locks are changed to match it. -/
theorem orderly_setSession (h : st.Orderly loose waits) (hs : st.session? s = some x)
    (tidy : y.Tidy) {locks : LockTable} {loose' waits' : List (Int × Nat)} (sound : locks.Sound)
    (held : locks.held.Perm (loose' ++ (y.guards ++ (st.others s).flatMap (·.2.guards))))
    (awaited : locks.awaited.Perm waits') :
    Orderly { st.setSession s y with locks := locks } loose' waits' where
  sound := sound
  held := by
    have now := (setSession_perm h.distinct hs y).flatMap_right
      fun p : SessionId × Session => p.2.guards
    exact held.trans (now.symm.append_left loose')
  awaited := awaited
  distinct := by
    have same := map_fst_setSession st s y
    exact same ▸ h.distinct
  fresh p hp := by
    rcases mem_setSession hp with rfl | old
    · exact h.fresh (s, x) (mem_of_session? hs)
    · exact h.fresh p old
  tidy p hp := by
    rcases mem_setSession hp with rfl | old
    · exact tidy
    · exact h.tidy p old

theorem orderly_tables (h : st.Orderly loose waits) (tables : Tables) :
    Orderly { st with tables := tables } loose waits :=
  ⟨h.sound, h.held, h.awaited, h.distinct, h.fresh, h.tidy⟩

/-- A session goes on with the guards that it has. -/
theorem orderly_keepGuards (h : st.Orderly loose waits) (hs : st.session? s = some x)
    (tidy : y.Tidy) (same : y.guards = x.guards) : (st.setSession s y).Orderly loose waits := by
  refine orderly_setSession h hs tidy h.sound ?_ h.awaited
  rw [same]
  exact h.held.trans ((guards_perm h.distinct hs).append_left loose)

theorem orderly_finish (h : st.Orderly loose waits) (hs : st.session? s = some x) :
    (st.finish s x).Orderly loose waits := by
  have held : st.locks.held.Perm (x.guards ++ (loose ++ (st.others s).flatMap (·.2.guards))) := by
    refine (h.held.trans ((guards_perm h.distinct hs).append_left loose)).trans ?_
    rw [← List.append_assoc, ← List.append_assoc]
    exact List.perm_append_comm.append_right _
  obtain ⟨sound, rest, waits⟩ := releaseAll_held h.sound held
  refine orderly_setSession h hs Session.tidy_finished sound rest ?_
  rw [waits]
  exact h.awaited

theorem orderly_begin (h : st.Orderly loose waits) : st.begin.2.Orderly loose waits where
  sound := h.sound
  held := by
    have same : st.begin.2.guards = st.guards := by simp [guards, begin]
    rw [same]
    exact h.held
  awaited := h.awaited
  distinct := by
    simp only [begin, List.map_append, List.map_cons, List.map_nil]
    refine List.nodup_append.mpr ⟨h.distinct, List.nodup_singleton _, ?_⟩
    intro n hn m hm
    obtain ⟨p, hp, rfl⟩ := List.mem_map.mp hn
    rw [List.mem_singleton.mp hm]
    exact Nat.ne_of_lt (h.fresh p hp)
  fresh p hp := by
    simp only [begin, List.mem_append, List.mem_singleton] at hp ⊢
    rcases hp with old | rfl
    · exact Nat.lt_succ_of_lt (h.fresh p old)
    · exact Nat.lt_succ_self _
  tidy p hp := by
    simp only [begin, List.mem_append, List.mem_singleton] at hp
    rcases hp with old | rfl
    · exact h.tidy p old
    · exact Session.tidy_empty

theorem orderly_forget (h : st.Orderly loose waits) (hs : st.session? s = some x)
    (empty : x.guards = []) :
    Orderly { st with sessions := st.sessions.filter (·.1 != s) } loose waits where
  sound := h.sound
  held := by
    have split := guards_perm h.distinct hs
    rw [empty, List.nil_append] at split
    exact h.held.trans (split.append_left loose)
  awaited := h.awaited
  distinct := h.distinct.sublist (List.filter_sublist.map _)
  fresh p hp := h.fresh p (List.mem_filter.mp hp).1
  tidy p hp := h.tidy p (List.mem_filter.mp hp).1

theorem orderly_abandon (h : st.Orderly loose waits) (s : SessionId) :
    (st.abandon s).Orderly loose waits := by
  simp only [abandon]
  cases hs : st.session? s with
  | none => exact h
  | some x =>
      have gone : (st.finish s x).session? s = some { finished := true } := by
        have found := session?_setSession st s s { finished := true }
        rw [if_pos rfl, hs] at found
        exact found
      exact orderly_forget (orderly_finish h hs) gone rfl

theorem openSession?_eq_some :
    st.openSession? s = some x ↔ st.session? s = some x ∧ x.finished = false := by
  simp [openSession?]

/-- A session that is still open goes on with other records, or with more of its accounts. -/
theorem tidy_of_open (guarded : ∀ a ∈ y.accounts, y.holds a.id = true)
    (still : y.finished = false) : y.Tidy where
  guarded := guarded
  cleared h := absurd (still.symm.trans h) Bool.false_ne_true

theorem orderly_insertTransaction (h : st.Orderly loose waits) (hs : st.session? s = some x)
    (still : x.finished = false) (now : Timestamp) (new : NewTransaction) :
    (st.insertTransaction now s x new).2.Orderly loose waits := by
  have tidy := h.tidy _ (mem_of_session? hs)
  simp only [insertTransaction]
  split
  · rename_i row tables _
    have kept : Session.Tidy { x with transactions := x.transactions ++ [row] } :=
      tidy_of_open tidy.guarded still
    exact orderly_tables (orderly_keepGuards h hs kept rfl) tables
  · exact h

theorem orderly_insertEntry (h : st.Orderly loose waits) (hs : st.session? s = some x)
    (still : x.finished = false) (now : Timestamp) (a : Int) (amount : Decimal) :
    (st.insertEntry now s x a amount).2.Orderly loose waits := by
  have tidy := h.tidy _ (mem_of_session? hs)
  simp only [insertEntry]
  split
  · rename_i row tables _
    have kept : Session.Tidy { x with entries := x.entries ++ [row] } :=
      tidy_of_open tidy.guarded still
    exact orderly_tables (orderly_keepGuards h hs kept rfl) tables
  · exact h

theorem changed_eq_ok {account after : Account} {delta : Decimal}
    (h : changed account delta = .ok after) :
    ∃ balance, account.balance.add? delta = some balance ∧ balance.FitsColumn ∧
      Decimal.zero ≤ balance ∧ after = { account with balance := balance } := by
  simp only [changed] at h
  split at h
  · cases h
  · rename_i balance sum
    simp only [checkColumn] at h
    split at h
    · rename_i fits
      by_cases negative : balance < Decimal.zero
      · rw [if_pos negative] at h
        cases h
      · rw [if_neg negative] at h
        cases h
        exact ⟨balance, sum, fits, Int.not_lt.mp negative, rfl⟩
    · cases h

theorem id_of_changed {account after : Account} {delta : Decimal}
    (h : changed account delta = .ok after) : after.id = account.id := by
  obtain ⟨balance, _, _, _, rfl⟩ := changed_eq_ok h
  rfl

theorem current?_eq_some {a : Int} {account : Account} :
    st.current? x a = some account ↔ Table.find? a x.accounts = some account ∨
      Table.find? a x.accounts = none ∧ Table.find? a st.tables.accounts = some account := by
  simp only [current?]
  cases Table.find? a x.accounts <;> simp

theorem current?_eq_none {a : Int} :
    st.current? x a = none ↔
      Table.find? a x.accounts = none ∧ Table.find? a st.tables.accounts = none := by
  simp only [current?]
  cases Table.find? a x.accounts <;> simp

theorem id_of_current? {a : Int} {account : Account} (h : st.current? x a = some account) :
    account.id = a := by
  rcases current?_eq_some.mp h with staged | ⟨_, committed⟩
  · exact Table.id_of_find? staged
  · exact Table.id_of_find? committed

theorem orderly_addBalance (h : st.Orderly loose waits) (hs : st.session? s = some x)
    (still : x.finished = false) {a : Int} (guarded : x.holds a = true) (delta : Decimal) :
    (st.addBalance s x a delta).2.Orderly loose waits := by
  have tidy := h.tidy _ (mem_of_session? hs)
  simp only [addBalance]
  split
  · rename_i missing
    have split : x.guards.Perm (x.guards.filter (·.1 == a) ++ x.guards.filter (·.1 != a)) :=
      (List.filter_append_perm _ _).symm
    have held : st.locks.held.Perm (x.guards.filter (·.1 == a) ++
        (loose ++ (x.guards.filter (·.1 != a) ++ (st.others s).flatMap (·.2.guards)))) := by
      refine (h.held.trans ((guards_perm h.distinct hs).append_left loose)).trans ?_
      refine ((split.append_right _).append_left loose).trans ?_
      rw [List.append_assoc]
      exact List.perm_append_comm_assoc loose _ _
    obtain ⟨sound, rest, waits⟩ := releaseAll_held h.sound held
    -- The row that is missing is not among the staged ones, so all of these stay guarded.
    have kept : Session.Tidy { x with guards := x.guards.filter (·.1 != a) } := by
      refine tidy_of_open ?_ still
      intro b hb
      have other : b.id ≠ a :=
        Table.find?_eq_none_iff.mp (current?_eq_none.mp missing).1 b hb
      obtain ⟨g, hg, same⟩ := List.any_eq_true.mp (tidy.guarded b hb)
      refine List.any_eq_true.mpr ⟨g, List.mem_filter.mpr ⟨hg, ?_⟩, same⟩
      rw [eq_of_beq same]
      exact bne_iff_ne.mpr other
    exact orderly_setSession h hs kept sound rest (waits ▸ h.awaited)
  · rename_i account found
    split
    · rename_i after ok
      have grown : Session.Tidy { x with accounts := Table.insert after x.accounts } := by
        refine tidy_of_open ?_ still
        intro b hb
        rcases Table.mem_insert hb with rfl | old
        · have same : b.id = a := (id_of_changed ok).trans (id_of_current? found)
          rw [same]
          exact guarded
        · exact tidy.guarded b old
      exact orderly_keepGuards h hs grown rfl
    · exact h

theorem orderly_commit (h : st.Orderly loose waits) (hs : st.session? s = some x) :
    (st.commit s x).2.Orderly loose waits := by
  simp only [commit]
  split
  · exact orderly_finish (orderly_tables h _) hs
  · exact h

/-- A session performs a request; to change a balance it must guard the row. -/
theorem orderly_perform (h : st.Orderly loose waits) (now : Timestamp) (op : SessionRequest)
    (guarded : ∀ x a delta, st.openSession? s = some x → op = .addBalance a delta →
      x.holds a = true) : (st.perform now s op).2.Orderly loose waits := by
  simp only [perform]
  cases hx : st.openSession? s with
  | none => exact h
  | some x =>
      have ⟨hs, still⟩ := openSession?_eq_some.mp hx
      cases op with
      | insertTransaction new => exact orderly_insertTransaction h hs still now new
      | insertEntry a amount => exact orderly_insertEntry h hs still now a amount
      | addBalance a delta => exact orderly_addBalance h hs still (guarded x a delta hx rfl) delta
      | commit => exact orderly_commit h hs
      | rollback => exact orderly_finish h hs

theorem orderly_query (h : st.Orderly loose waits) (now : Timestamp) (q : Query) :
    (st.query now q).2.Orderly loose waits := by
  simp only [query]
  cases q <;> dsimp only
  case createAccount new =>
    split
    · exact orderly_tables h _
    · exact h
  case deleteAccount a =>
    split
    · exact orderly_tables h _
    · exact h
  all_goals exact h

end MemoryStore

/-- The session that a request is made in. -/
def StoreRequest.session? : StoreRequest → Option SessionId
  | perform s _ => some s
  | abandon s => some s
  | begin => none
  | query _ => none

/-- The account whose row a request locks, unless its session has done so before. -/
def StoreRequest.row? : StoreRequest → Option Int
  | perform _ (.addBalance a _) => some a
  | query (.deleteAccount a) => some a
  | _ => none

namespace MemoryStore

variable {st : MemoryStore} {loose waits : List (Int × Nat)} {s : SessionId} {x : Session}

theorem orderly_answer (h : st.Orderly loose waits) (now : Timestamp) (r : StoreRequest)
    (guarded : ∀ s x a delta, st.openSession? s = some x → r = .perform s (.addBalance a delta) →
      x.holds a = true) : (st.answer now r).2.Orderly loose waits := by
  cases r with
  | begin => exact orderly_begin h
  | perform s op =>
      refine orderly_perform h now op fun x a delta hx same => ?_
      exact guarded s x a delta hx (by rw [same])
  | abandon s => exact orderly_abandon h s
  | query q => exact orderly_query h now q

/-- A request that wants no row has its session guard the row it changes. -/
theorem guarded_of_wantedRow? {r : StoreRequest} (h : st.wantedRow? r = none) (s : SessionId)
    (x : Session) (a : Int) (delta : Decimal) (hx : st.openSession? s = some x)
    (hr : r = .perform s (.addBalance a delta)) : x.holds a = true := by
  subst hr
  simp only [wantedRow?, hx] at h
  split at h
  · assumption
  · cases h

theorem orderly_addGuard {a : Int} {n : Nat} (h : st.Orderly ((a, n) :: loose) waits)
    (hs : st.session? s = some x) (still : x.finished = false) :
    (st.addGuard s a n).Orderly loose waits := by
  have tidy := h.tidy _ (mem_of_session? hs)
  have guarding : Session.Tidy { x with guards := x.guards ++ [(a, n)] } := by
    refine tidy_of_open ?_ still
    intro b hb
    obtain ⟨g, hg, same⟩ := List.any_eq_true.mp (tidy.guarded b hb)
    exact List.any_eq_true.mpr ⟨g, List.mem_append_left _ hg, same⟩
  simp only [addGuard]
  rw [hs]
  refine orderly_setSession h hs guarding h.sound ?_ h.awaited
  have split := h.held.trans ((guards_perm h.distinct hs).append_left ((a, n) :: loose))
  refine split.trans ?_
  rw [List.append_assoc, List.singleton_append, ← List.append_assoc, ← List.append_assoc,
    List.cons_append]
  exact List.perm_middle.symm

theorem openSession?_addGuard {a : Int} {n : Nat} (hx : st.openSession? s = some x) :
    (st.addGuard s a n).openSession? s =
      some { x with guards := x.guards ++ [(a, n)] } := by
  have ⟨hs, still⟩ := openSession?_eq_some.mp hx
  refine openSession?_eq_some.mpr ⟨?_, still⟩
  rw [addGuard, hs]
  have found := session?_setSession st s s { x with guards := x.guards ++ [(a, n)] }
  rw [if_pos rfl, hs] at found
  exact found

/-- Answering a request with a loose ticket uses that ticket up. -/
theorem orderly_answerLocked {a : Int} {n : Nat} (h : st.Orderly [(a, n)] waits)
    (now : Timestamp) {r : StoreRequest} (row : r.row? = some a)
    (still : ∀ s, r.session? = some s → ∃ x, st.openSession? s = some x) :
    (st.answerLocked now r a n).2.Orderly [] waits := by
  cases r with
  | begin => cases row
  | abandon s => cases row
  | perform s op =>
      obtain ⟨x, hx⟩ := still s rfl
      have ⟨hs, notFinished⟩ := openSession?_eq_some.mp hx
      refine orderly_perform (orderly_addGuard h hs notFinished) now op ?_
      intro y b delta hy same
      rw [openSession?_addGuard hx] at hy
      cases hy
      subst same
      cases row
      exact List.any_eq_true.mpr ⟨(a, n), List.mem_append_right _ (List.mem_singleton_self _),
        beq_self_eq_true a⟩
  | query q =>
      have after := orderly_query h now q
      obtain ⟨sound, rest, waits⟩ := LockTable.release_held after.sound after.held
      exact ⟨sound, rest, waits ▸ after.awaited, after.distinct, after.fresh, after.tidy⟩

/-- A request leaves the sessions alone that it is not made in. -/
theorem session?_answer {t : SessionId} (hx : st.session? t = some x) (now : Timestamp)
    {r : StoreRequest} (other : r.session? ≠ some t) : (st.answer now r).2.session? t = some x := by
  have set : ∀ (st' : MemoryStore) s y, t ≠ s → st'.session? t = some x →
      (st'.setSession s y).session? t = some x := by
    intro st' s y ne h
    rw [session?_setSession, if_neg ne, h]
  cases r with
  | begin =>
      simp only [answer, begin, session?, List.lookup_append] at hx ⊢
      rw [hx]
      rfl
  | abandon s =>
      have ne : t ≠ s := fun same => other (by rw [same]; rfl)
      simp only [answer, abandon]
      split
      · refine (lookup_filter_ne s t _).trans ?_
        rw [if_neg ne]
        exact set st s _ ne hx
      · exact hx
  | perform s op =>
      have ne : t ≠ s := fun same => other (by rw [same]; rfl)
      simp only [answer, perform]
      split
      · exact hx
      · cases op <;> dsimp only
        case insertTransaction new =>
          simp only [insertTransaction]
          split
          · exact set st s _ ne hx
          · exact hx
        case insertEntry a amount =>
          simp only [insertEntry]
          split
          · exact set st s _ ne hx
          · exact hx
        case addBalance a delta =>
          simp only [addBalance]
          split
          · exact set st s _ ne hx
          · split
            · exact set st s _ ne hx
            · exact hx
        case commit =>
          simp only [commit]
          split
          · exact set _ s _ ne hx
          · exact hx
        case rollback => exact set st s _ ne hx
  | query q =>
      simp only [answer, query]
      cases q <;> dsimp only
      case createAccount new => split <;> exact hx
      case deleteAccount a => split <;> exact hx
      all_goals exact hx

end MemoryStore
end DoubleEntry
