import DoubleEntry.Proofs.Store.Records
import DoubleEntry.Proofs.Store.Kept

/-!
The guards of each session. An answer adds none; a session that ends loses all of them, and one that
finds no account on a row loses the guard of that row. So a row that is guarded has its account: to
delete it, its lock would have to be free.
-/

namespace DoubleEntry

namespace MemoryStore

variable {st : MemoryStore} {loose waits : List (Int × Nat)} {s t : SessionId} {x y : Session}

/-- The rows that a session has locked, with their tickets. -/
def guardsOf (st : MemoryStore) (s : SessionId) : List (Int × Nat) :=
  (st.session? s).elim [] (·.guards)

theorem guardsOf_of_session? (hs : st.session? s = some x) : st.guardsOf s = x.guards := by
  rw [guardsOf, hs]
  rfl

theorem guardsOf_setSession (hs : st.session? s = some x) (y : Session) (t : SessionId) :
    (st.setSession s y).guardsOf t = if t = s then y.guards else st.guardsOf t := by
  rw [guardsOf, session?_setSession]
  split
  · rename_i same
    rw [same, hs]
    rfl
  · rfl

theorem guardsOf_setSession_subset (hs : st.session? s = some x) (sub : y.guards ⊆ x.guards)
    (t : SessionId) : (st.setSession s y).guardsOf t ⊆ st.guardsOf t := by
  rw [guardsOf_setSession hs]
  split
  · rename_i same
    rw [same, guardsOf_of_session? hs]
    exact sub
  · exact List.Subset.refl _

theorem guardsOf_finish (hs : st.session? s = some x) (t : SessionId) :
    (st.finish s x).guardsOf t = if t = s then [] else st.guardsOf t :=
  guardsOf_setSession hs { finished := true } t

theorem guardsOf_abandon (st : MemoryStore) (s t : SessionId) :
    (st.abandon s).guardsOf t = if t = s then [] else st.guardsOf t := by
  simp only [abandon]
  cases hs : st.session? s with
  | none =>
      dsimp only
      split
      · rename_i same
        rw [same, guardsOf, hs]
        rfl
      · rfl
  | some x =>
      have kept : ((st.finish s x).sessions.filter (·.1 != s)).lookup t =
          if t = s then none else (st.finish s x).session? t := lookup_filter_ne s t _
      have finished := guardsOf_finish hs t
      simp only [guardsOf, session?] at kept finished ⊢
      rw [kept]
      split
      · rfl
      · rename_i other
        exact finished.trans (if_neg other)

theorem guardsOf_begin (st : MemoryStore) (t : SessionId) :
    st.begin.2.guardsOf t = st.guardsOf t := by
  simp only [guardsOf, begin, session?, List.lookup_append, List.lookup_cons, List.lookup_nil]
  cases st.sessions.lookup t with
  | some x => rfl
  | none => cases t == st.nextSession <;> rfl

theorem guardsOf_addGuard (hs : st.session? s = some x) (a : Int) (n : Nat) (t : SessionId) :
    (st.addGuard s a n).guardsOf t =
      if t = s then x.guards ++ [(a, n)] else st.guardsOf t := by
  rw [addGuard, hs]
  exact guardsOf_setSession hs _ t

/-- No answer adds a guard. -/
theorem guardsOf_answer_subset (st : MemoryStore) (now : Timestamp) (r : StoreRequest)
    (t : SessionId) : (st.answer now r).2.guardsOf t ⊆ st.guardsOf t := by
  cases r with
  | begin =>
      change st.begin.2.guardsOf t ⊆ st.guardsOf t
      rw [guardsOf_begin]
      exact List.Subset.refl _
  | abandon s =>
      change (st.abandon s).guardsOf t ⊆ st.guardsOf t
      rw [guardsOf_abandon]
      split
      · exact List.nil_subset _
      · exact List.Subset.refl _
  | perform s op =>
      simp only [answer, perform]
      split
      · exact List.Subset.refl _
      · rename_i x hx
        have hs := (openSession?_eq_some.mp hx).1
        have kept : ∀ y : Session, y.guards ⊆ x.guards →
            (st.setSession s y).guardsOf t ⊆ st.guardsOf t :=
          fun y sub => guardsOf_setSession_subset hs sub t
        cases op <;> dsimp only
        case insertTransaction new =>
          simp only [insertTransaction]
          split
          · exact kept _ (List.Subset.refl _)
          · exact List.Subset.refl _
        case insertEntry a amount =>
          simp only [insertEntry]
          split
          · exact kept _ (List.Subset.refl _)
          · exact List.Subset.refl _
        case addBalance a delta =>
          simp only [addBalance]
          split
          · exact kept _ (List.filter_subset_self x.guards)
          · split
            · exact kept _ (List.Subset.refl _)
            · exact List.Subset.refl _
        case commit =>
          simp only [commit]
          split
          · exact kept _ (List.nil_subset _)
          · exact List.Subset.refl _
        case rollback => exact kept _ (List.nil_subset _)
  | query q =>
      simp only [answer, query]
      cases q <;> dsimp only
      case createAccount new => split <;> exact List.Subset.refl _
      case deleteAccount a => split <;> exact List.Subset.refl _
      all_goals exact List.Subset.refl _

theorem mem_guards (distinct : (st.sessions.map (·.1)).Nodup) {g : Int × Nat} :
    g ∈ st.guards ↔ ∃ s, g ∈ st.guardsOf s := by
  constructor
  · intro h
    obtain ⟨p, hp, hg⟩ := List.mem_flatMap.mp h
    exact ⟨p.1, by rwa [guardsOf_of_session? (session?_of_mem distinct hp)]⟩
  · rintro ⟨s, hg⟩
    simp only [guardsOf] at hg
    cases hs : st.session? s with
    | none =>
        rw [hs] at hg
        cases hg
    | some x =>
        rw [hs] at hg
        exact List.mem_flatMap.mpr ⟨(s, x), mem_of_session? hs, hg⟩

/-- Every guarded row has its account. -/
def Known (st : MemoryStore) : Prop :=
  ∀ s, ∀ g ∈ st.guardsOf s, st.tables.hasAccount g.1 = true

/-- The same, but perhaps for one row of one session. -/
def KnownBut (st : MemoryStore) (s : SessionId) (a : Int) : Prop :=
  ∀ t, ∀ g ∈ st.guardsOf t, t = s ∧ g.1 = a ∨ st.tables.hasAccount g.1 = true

theorem known_empty : Known {} := fun _ _ h => by cases h

theorem hasAccount_turns {b b' : Books} {d : Option Deed} (sound : b.Sound) (turns : b.Turns d b')
    {a : Int} (there : b.tables.hasAccount a = true) (kept : d ≠ some (.deleted a)) :
    b'.tables.hasAccount a = true := by
  cases d with
  | none =>
      cases turns
      exact there
  | some d =>
      obtain ⟨allowed, rfl⟩ := turns
      exact Books.hasAccount_after sound allowed there fun same => kept (congrArg some same)

theorem deletes_of? {r : StoreRequest} {reply : r.Reply} {a : Int}
    (h : Deed.of? r reply = some (.deleted a)) : r = .query (.deleteAccount a) := by
  unfold Deed.of? at h
  split at h <;> cases h
  rfl

/-- An account that is deleted is one whose row no session has locked. -/
theorem known_answer (h : st.Orderly loose waits) (sound : st.books.Sound) (known : st.Known)
    (now : Timestamp) (r : StoreRequest)
    (guarded : ∀ s x a delta, st.openSession? s = some x → r = .perform s (.addBalance a delta) →
      x.holds a = true)
    (locked : ∀ a, r = .query (.deleteAccount a) → ∃ n, (a, n) ∈ loose) :
    (st.answer now r).2.Known := by
  intro s g hg
  have before := guardsOf_answer_subset st now r s hg
  refine hasAccount_turns sound (books_answer h now r guarded locked) (known s g before) ?_
  intro deleted
  -- The deletion holds the lock of the row with a loose ticket, so that no session guards it.
  obtain ⟨n, hn⟩ := locked g.1 (deletes_of? deleted)
  obtain ⟨p, hp, there⟩ := List.mem_flatMap.mp ((mem_guards h.distinct).mpr ⟨s, before⟩)
  have free := List.any_eq_false.mp (not_holds_of_loose h hn hp) g there
  exact free (beq_self_eq_true g.1)

theorem hasAccount_of_current? (sound : st.books.Sound) (hx : st.openSession? s = some x) {a : Int}
    {account : Account} (found : st.current? x a = some account) :
    st.tables.hasAccount a = true := by
  rcases current?_eq_some.mp found with staged | ⟨_, committed⟩
  · obtain ⟨_, c, hc, _⟩ := sound.drafted s _ (drafts_of_open hx) account
      (Table.mem_of_find? staged)
    have id : account.id = a := Table.id_of_find? staged
    exact Table.contains_iff_find?.mpr ⟨c, id ▸ hc⟩
  · exact Table.contains_iff_find?.mpr ⟨account, committed⟩

/-- A row that turns out to have no account does not stay guarded. -/
theorem known_addBalance (sound : st.books.Sound) (hx : st.openSession? s = some x) {a : Int}
    (known : st.KnownBut s a) (delta : Decimal) : (st.addBalance s x a delta).2.Known := by
  have hs := (openSession?_eq_some.mp hx).1
  simp only [addBalance]
  split
  · intro t g hg
    change g ∈ (st.setSession s { x with guards := x.guards.filter (·.1 != a) }).guardsOf t at hg
    rw [guardsOf_setSession hs] at hg
    split at hg
    · rename_i same
      obtain ⟨old, other⟩ := List.mem_filter.mp hg
      rw [← guardsOf_of_session? hs] at old
      exact (known s g old).resolve_left fun mine => bne_iff_ne.mp other mine.2
    · rename_i ne
      exact (known t g hg).resolve_left fun mine => ne mine.1
  · rename_i account found
    have there := hasAccount_of_current? sound hx found
    have all : st.Known := fun t g hg => (known t g hg).elim (fun mine => mine.2 ▸ there) id
    split
    · rename_i after _
      have kept := guardsOf_setSession_subset hs
        (y := { x with accounts := Table.insert after x.accounts }) (List.Subset.refl _)
      exact fun t g hg => all t g (kept t hg)
    · exact all

theorem known_answerLocked {a : Int} {n : Nat} (h : st.Orderly [(a, n)] waits)
    (sound : st.books.Sound) (known : st.Known) (now : Timestamp) {r : StoreRequest}
    (row : r.row? = some a)
    (still : ∀ s, r.session? = some s → ∃ x, st.openSession? s = some x) :
    (st.answerLocked now r a n).2.Known := by
  cases r with
  | begin => cases row
  | abandon s => cases row
  | perform s op =>
      obtain ⟨x, hx⟩ := still s rfl
      cases op with
      | addBalance b delta =>
          cases row
          have guarding := openSession?_addGuard (a := a) (n := n) hx
          have books : (st.addGuard s a n).books = st.books := books_addGuard hx a n
          have tables : (st.addGuard s a n).tables = st.tables := congrArg Books.tables books
          simp only [answerLocked, answer, perform, guarding]
          refine known_addBalance (books ▸ sound) guarding (fun t g hg => ?_) delta
          rw [guardsOf_addGuard (openSession?_eq_some.mp hx).1] at hg
          rw [tables]
          split at hg
          · rename_i same
            rcases List.mem_append.mp hg with old | new
            · rw [← guardsOf_of_session? (openSession?_eq_some.mp hx).1] at old
              exact .inr (known s g old)
            · rw [List.mem_singleton.mp new]
              exact .inl ⟨same, rfl⟩
          · exact .inr (known t g hg)
      | _ => cases row
  | query q =>
      refine known_answer h sound known now (.query q) (fun _ _ _ _ _ eq => by cases eq) ?_
      intro b eq
      cases eq
      cases row
      exact ⟨n, List.mem_singleton_self _⟩

end MemoryStore
end DoubleEntry
