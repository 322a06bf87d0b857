import DoubleEntry.Proofs.Decimal.Exact
import DoubleEntry.Proofs.Store.Deeds

/-!
What every allowed deed keeps of the books. An account that a session has drafted is a committed one
with another balance, and no other session has drafted it. A session that is over stays so.
-/

namespace DoubleEntry

namespace Table

variable {α : Type} [HasId α]

theorem find?_erase (a b : Int) (rows : List α) :
    find? b (erase a rows) = if b = a then none else find? b rows := by
  induction rows with
  | nil => simp [erase, find?]
  | cons r rows ih =>
      simp only [erase] at ih ⊢
      by_cases hr : HasId.id r = a
      · rw [List.filter_cons_of_neg (by simpa using hr), ih, find?_cons]
        by_cases hb : b = a
        · rw [if_pos hb, if_pos hb]
        · rw [if_neg hb, if_neg hb, if_neg (fun same => hb (same.symm.trans hr))]
      · rw [List.filter_cons_of_pos (by simpa using hr), find?_cons, ih, find?_cons]
        by_cases hb : HasId.id r = b
        · have other : b ≠ a := fun same => hr (hb.trans same)
          rw [if_pos hb, if_neg other, if_pos hb]
        · rw [if_neg hb, if_neg hb]

end Table

/-- What a deed does to the draft of its session while that goes on. -/
def Deed.drafting : Deed → Session → Session
  | drewTransaction _ t, x => { x with transactions := x.transactions ++ [t] }
  | drewEntry _ e, x => { x with entries := x.entries ++ [e] }
  | changedBalance _ _ row, x => { x with accounts := Table.insert row x.accounts }
  | _, x => x

namespace Books

variable {b : Books} {d : Deed} {s t : SessionId} {x y : Session}

@[simp] theorem drafts_setDraft (b : Books) (s t : SessionId) (o : Option Session) :
    (b.setDraft s o).drafts t = if t = s then o else b.drafts t := rfl

/-- Every draft after a deed was there before, or is the empty one of a new session. -/
theorem drafts_after (allowed : b.Allows d) (hy : (b.after d).drafts t = some y) :
    (∃ x, b.drafts t = some x ∧ y = if d.session? = some t then d.drafting x else x) ∨
      y = {} ∧ t = b.nextSession ∧ d = .began t := by
  have mapped : ∀ s, d.session? = some s → (b.mapDraft s d.drafting).drafts t = some y →
      ∃ x, b.drafts t = some x ∧ y = if d.session? = some t then d.drafting x else x := by
    intro s mine hy
    rw [mapDraft, drafts_setDraft] at hy
    split at hy
    · rename_i same
      obtain ⟨x, hx, new⟩ := Option.map_eq_some_iff.mp hy
      exact ⟨x, same ▸ hx, by rw [if_pos (same ▸ mine), new]⟩
    · rename_i other
      refine ⟨y, hy, (if_neg fun same => other ?_).symm⟩
      exact (Option.some.inj (mine.symm.trans same)).symm
  have cleared : ∀ s, d.session? = some s → (b.setDraft s none).drafts t = some y →
      ∃ x, b.drafts t = some x ∧ y = if d.session? = some t then d.drafting x else x := by
    intro s mine hy
    rw [drafts_setDraft] at hy
    split at hy
    · cases hy
    · rename_i other
      refine ⟨y, hy, (if_neg fun same => other ?_).symm⟩
      exact (Option.some.inj (mine.symm.trans same)).symm
  cases d with
  | began s =>
      cases allowed
      change (if t = b.nextSession then some {} else b.drafts t) = some y at hy
      split at hy
      · rename_i same
        cases hy
        exact .inr ⟨rfl, same, by rw [same]⟩
      · exact .inl ⟨y, hy, (ite_self y).symm⟩
  | drewTransaction s row => exact .inl (mapped s rfl hy)
  | drewEntry s row => exact .inl (mapped s rfl hy)
  | changedBalance s delta row => exact .inl (mapped s rfl hy)
  | committed s =>
      obtain ⟨x, hx, _⟩ := allowed
      simp only [after, hx] at hy
      exact .inl (cleared s rfl hy)
  | rolledBack s => exact .inl (cleared s rfl hy)
  | abandoned s => exact .inl (cleared s rfl hy)
  | opened account => exact .inl ⟨y, hy, rfl⟩
  | deleted a => exact .inl ⟨y, hy, rfl⟩

theorem drafts_after_of_none (allowed : b.Allows d) (begun : s < b.nextSession)
    (gone : b.drafts s = none) : (b.after d).drafts s = none := by
  cases hy : (b.after d).drafts s with
  | none => rfl
  | some y =>
      cases drafts_after allowed hy with
      | inl old =>
          obtain ⟨x, hx, _⟩ := old
          rw [gone] at hx
          cases hx
      | inr new => exact absurd begun (Nat.not_lt.mpr (Nat.le_of_eq new.2.1.symm))

theorem accountSeq_le_after (allowed : b.Allows d) :
    b.tables.accountSeq ≤ (b.after d).tables.accountSeq := by
  cases d with
  | opened account =>
      have new := allowed.1
      change b.tables.accountSeq ≤ account.id
      omega
  | committed s =>
      obtain ⟨x, hx, _⟩ := allowed
      simp only [after, hx]
      exact Int.le_refl _
  | _ => exact Int.le_refl _

/-- A drafted account is a committed one but for its balance. -/
def DraftOf (row : Account) (accounts : List Account) : Prop :=
  ∃ c, Table.find? row.id accounts = some c ∧ row = { c with balance := row.balance }

/-- What every allowed deed keeps. -/
structure Sound (b : Books) : Prop where
  ascending : Table.Ascending b.tables.accounts
  known : ∀ c ∈ b.tables.accounts, c.id ≤ b.tables.accountSeq
  fits : ∀ c ∈ b.tables.accounts, c.balance.FitsColumn
  fresh : ∀ s, b.nextSession ≤ s → b.drafts s = none
  sorted : ∀ s x, b.drafts s = some x → Table.Ascending x.accounts
  drafted : ∀ s x, b.drafts s = some x → ∀ row ∈ x.accounts,
    row.balance.FitsColumn ∧ DraftOf row b.tables.accounts
  exclusive : ∀ s t x y, s ≠ t → b.drafts s = some x → b.drafts t = some y →
    ∀ row ∈ x.accounts, Table.find? row.id y.accounts = none

theorem sound_empty : Sound {} where
  ascending := Table.ascending_nil
  known _ h := by cases h
  fits _ h := by cases h
  fresh _ _ := rfl
  sorted _ _ h := by cases h
  drafted _ _ h := by cases h
  exclusive _ _ _ _ _ h := by cases h

/-- A session's draft is replaced by one of the same accounts, or of none, or there is no draft. -/
theorem sound_setDraft (h : b.Sound) {o : Option Session}
    (within : ∀ y, o = some y → y.accounts = [] ∨ ∃ x, b.drafts s = some x ∧
      y.accounts = x.accounts) (begun : s < b.nextSession) : (b.setDraft s o).Sound := by
  have origin : ∀ t y, (b.setDraft s o).drafts t = some y → y.accounts = [] ∨
      ∃ x, b.drafts t = some x ∧ y.accounts = x.accounts := by
    intro t y hy
    rw [drafts_setDraft] at hy
    split at hy
    · rename_i same
      exact same ▸ within y hy
    · exact .inr ⟨y, hy, rfl⟩
  refine ⟨h.ascending, h.known, h.fits, ?_, ?_, ?_, ?_⟩
  · intro t ht
    rw [drafts_setDraft, if_neg (Nat.ne_of_gt (Nat.lt_of_lt_of_le begun ht))]
    exact h.fresh t ht
  · intro t y hy
    rcases origin t y hy with empty | ⟨x, hx, same⟩
    · rw [empty]
      exact Table.ascending_nil
    · rw [same]
      exact h.sorted t x hx
  · intro t y hy row hr
    rcases origin t y hy with empty | ⟨x, hx, same⟩
    · rw [empty] at hr
      cases hr
    · exact h.drafted t x hx row (same ▸ hr)
  · intro t u y z ne hy hz row hr
    rcases origin t y hy with empty | ⟨x, hx, same⟩
    · rw [empty] at hr
      cases hr
    · rcases origin u z hz with empty | ⟨w, hw, same'⟩
      · rw [empty]
        rfl
      · rw [same']
        exact h.exclusive t u x w ne hx hw row (same ▸ hr)

theorem lt_of_drafts (h : b.Sound) (hx : b.drafts s = some x) : s < b.nextSession := by
  refine Nat.lt_of_not_le fun late => ?_
  rw [h.fresh s late] at hx
  cases hx

theorem sound_mapDraft (h : b.Sound) (hx : b.drafts s = some x) {f : Session → Session}
    (same : (f x).accounts = x.accounts) : (b.mapDraft s f).Sound := by
  refine sound_setDraft h ?_ (lt_of_drafts h hx)
  intro y hy
  rw [hx] at hy
  cases hy
  exact .inr ⟨x, hx, same⟩

theorem sound_clearDraft (h : b.Sound) (s : SessionId) : (b.setDraft s none).Sound := by
  by_cases begun : s < b.nextSession
  · exact sound_setDraft h (fun _ hy => by cases hy) begun
  · have same : b.setDraft s none = b := by
      refine Books.ext rfl (funext fun t => ?_) rfl
      rw [drafts_setDraft]
      split
      · rename_i eq
        rw [eq, h.fresh s (Nat.le_of_not_lt begun)]
      · rfl
    rw [same]
    exact h

theorem sound_tables (h : b.Sound) {tables : Tables} (same : tables.accounts = b.tables.accounts)
    (seq : tables.accountSeq = b.tables.accountSeq) : Sound { b with tables := tables } where
  ascending := same ▸ h.ascending
  known c hc := by
    rw [seq]
    exact h.known c (same ▸ hc)
  fits c hc := h.fits c (same ▸ hc)
  fresh := h.fresh
  sorted := h.sorted
  drafted s x hx row hr := by
    rw [same]
    exact h.drafted s x hx row hr
  exclusive := h.exclusive

/-- A session begins with the next number, and has drafted nothing. -/
theorem sound_began (h : b.Sound) :
    Sound { b.setDraft b.nextSession (some {}) with nextSession := b.nextSession + 1 } := by
  have grown : Sound { b with nextSession := b.nextSession + 1 } :=
    ⟨h.ascending, h.known, h.fits, fun s hs => h.fresh s (Nat.le_of_succ_le hs), h.sorted,
      h.drafted, h.exclusive⟩
  refine sound_setDraft grown ?_ (Nat.lt_succ_self _)
  intro y hy
  cases hy
  exact .inl rfl

theorem current?_cases {a : Int} {row : Account} (hrow : b.current? x a = some row) :
    Table.find? a x.accounts = some row ∨
      Table.find? a x.accounts = none ∧ Table.find? a b.tables.accounts = some row := by
  simp only [current?] at hrow
  cases hx : Table.find? a x.accounts with
  | some found => exact .inl (by simpa [hx] using hrow)
  | none => exact .inr ⟨rfl, by simpa [hx] using hrow⟩

theorem sound_changedBalance (h : b.Sound) {delta : Decimal} {after : Account}
    (allowed : b.Allows (.changedBalance s delta after)) :
    (b.after (.changedBalance s delta after)).Sound := by
  obtain ⟨⟨x, row, hx, hrow, changed⟩, free⟩ := allowed
  obtain ⟨balance, sum, fits, positive, shape⟩ := MemoryStore.changed_eq_ok changed
  have draftOf : DraftOf after b.tables.accounts := by
    rcases current?_cases hrow with staged | ⟨_, committed⟩
    · obtain ⟨c, hc, eq⟩ := (h.drafted s x hx row (Table.mem_of_find? staged)).2
      have id : row.id = after.id := Table.id_of_find? staged
      refine ⟨c, id ▸ hc, ?_⟩
      rw [shape, eq]
    · exact ⟨row, committed, by rw [shape]⟩
  have drafts : ∀ t y, (b.after (.changedBalance s delta after)).drafts t = some y →
      (t = s ∧ y = { x with accounts := Table.insert after x.accounts }) ∨
        (t ≠ s ∧ b.drafts t = some y) := by
    intro t y hy
    simp only [Books.after, mapDraft, drafts_setDraft, hx, Option.map_some] at hy
    split at hy
    · rename_i same
      exact .inl ⟨same, (Option.some.inj hy).symm⟩
    · rename_i other
      exact .inr ⟨other, hy⟩
  refine ⟨h.ascending, h.known, h.fits, ?_, ?_, ?_, ?_⟩
  · intro t late
    have begun := lt_of_drafts h hx
    change (if t = s then _ else _) = _
    rw [if_neg (Nat.ne_of_gt (Nat.lt_of_lt_of_le begun late))]
    exact h.fresh t late
  · intro t y hy
    rcases drafts t y hy with ⟨_, rfl⟩ | ⟨_, old⟩
    · exact Table.ascending_insert after (h.sorted s x hx)
    · exact h.sorted t y old
  · intro t y hy r hr
    rcases drafts t y hy with ⟨_, rfl⟩ | ⟨_, old⟩
    · rcases Table.mem_insert hr with rfl | older
      · exact ⟨by rw [shape]; exact fits, draftOf⟩
      · exact h.drafted s x hx r older
    · exact h.drafted t y old r hr
  · intro t u y z ne hy hz r hr
    rcases drafts t y hy with ⟨rfl, rfl⟩ | ⟨other, old⟩
    · rcases drafts u z hz with ⟨same, _⟩ | ⟨other', old'⟩
      · exact absurd same.symm ne
      · rcases Table.mem_insert hr with rfl | older
        · exact free u z (fun eq => other' (Option.some.inj eq)) old'
        · exact h.exclusive t u x z ne hx old' r older
    · rcases drafts u z hz with ⟨rfl, rfl⟩ | ⟨other', old'⟩
      · rw [Table.find?_insert]
        split
        · rename_i same
          have none := free t y (fun eq => other (Option.some.inj eq)) old
          exact absurd same.symm (Table.find?_eq_none_iff.mp none r hr)
        · exact h.exclusive t u y x ne old hx r hr
      · exact h.exclusive t u y z ne old old' r hr

/-- A committed draft settles the accounts that it has. -/
theorem accounts_committed (h : b.Sound) (hx : b.drafts s = some x) :
    (b.after (.committed s)).tables.accounts =
      b.tables.accounts.map (Account.settled x.accounts) := by
  simp only [Books.after, hx]
  exact MemoryStore.published_accounts b.tables (h.sorted s x hx)

/-- An account that another session has drafted is not settled. -/
theorem settled_of_drafted (h : b.Sound) (hx : b.drafts s = some x) (hy : b.drafts t = some y)
    (ne : t ≠ s) {row c : Account} (hr : row ∈ y.accounts) (hc : c.id = row.id) :
    c.settled x.accounts = c := by
  refine Account.settled_of_none ?_
  rw [hc]
  exact h.exclusive t s y x ne hy hx row hr

theorem sound_committed (h : b.Sound) (hx : b.drafts s = some x) :
    (b.after (.committed s)).Sound := by
  have cleared := sound_clearDraft h s
  have accounts := accounts_committed h hx
  have drafts : (b.after (.committed s)).drafts = (b.setDraft s none).drafts := by
    simp only [Books.after, hx]
  have next : (b.after (.committed s)).nextSession = b.nextSession := by
    simp only [Books.after, hx]
    rfl
  have seq : (b.after (.committed s)).tables.accountSeq = b.tables.accountSeq := by
    simp only [Books.after, hx]
    rfl
  refine ⟨?_, ?_, ?_, ?_, ?_, ?_, ?_⟩
  · rw [accounts]
    exact Table.ascending_map (fun c => Account.id_settled x.accounts c) h.ascending
  · intro c hc
    rw [accounts] at hc
    obtain ⟨old, mem, rfl⟩ := List.mem_map.mp hc
    rw [Account.id_settled, seq]
    exact h.known old mem
  · intro c hc
    rw [accounts] at hc
    obtain ⟨old, mem, rfl⟩ := List.mem_map.mp hc
    cases staged : Table.find? old.id x.accounts with
    | none =>
        rw [Account.settled_of_none staged]
        exact h.fits old mem
    | some row =>
        rw [Account.settled_of_find? staged]
        exact (h.drafted s x hx row (Table.mem_of_find? staged)).1
  · rw [next, drafts]
    exact cleared.fresh
  · rw [drafts]
    exact cleared.sorted
  · intro t y hy row hr
    rw [drafts] at hy
    obtain ⟨fits, c, hc, shape⟩ := cleared.drafted t y hy row hr
    have ne : t ≠ s := by
      intro same
      rw [drafts_setDraft, if_pos same] at hy
      cases hy
    rw [drafts_setDraft, if_neg ne] at hy
    refine ⟨fits, c, ?_, shape⟩
    rw [accounts, Table.find?_map (fun c => Account.id_settled x.accounts c)]
    change Table.find? row.id b.tables.accounts = some c at hc
    rw [hc]
    exact congrArg some (settled_of_drafted h hx hy ne hr (Table.id_of_find? hc))
  · rw [drafts]
    exact cleared.exclusive

theorem sound_opened (h : b.Sound) {account : Account} (allowed : b.Allows (.opened account)) :
    (b.after (.opened account)).Sound where
  ascending := Table.ascending_insert account h.ascending
  known c hc := by
    have new := allowed.1
    change c.id ≤ account.id
    rcases Table.mem_insert hc with rfl | old
    · exact Int.le_refl _
    · have := h.known c old
      omega
  fits c hc := by
    rcases Table.mem_insert hc with rfl | old
    · exact allowed.2.2
    · exact h.fits c old
  fresh := h.fresh
  sorted := h.sorted
  drafted s x hx row hr := by
    obtain ⟨fits, c, hc, shape⟩ := h.drafted s x hx row hr
    refine ⟨fits, c, ?_, shape⟩
    have older := h.known c (Table.mem_of_find? hc)
    have id : c.id = row.id := Table.id_of_find? hc
    have new := allowed.1
    refine (Table.find?_insert row.id account b.tables.accounts).trans ?_
    rw [if_neg, hc]
    change account.id ≠ row.id
    omega
  exclusive := h.exclusive

theorem sound_deleted (h : b.Sound) {a : Int} (allowed : b.Allows (.deleted a)) :
    (b.after (.deleted a)).Sound where
  ascending := Table.ascending_erase a h.ascending
  known c hc := h.known c (Table.mem_erase.mp hc).1
  fits c hc := h.fits c (Table.mem_erase.mp hc).1
  fresh := h.fresh
  sorted := h.sorted
  drafted s x hx row hr := by
    obtain ⟨fits, c, hc, shape⟩ := h.drafted s x hx row hr
    refine ⟨fits, c, ?_, shape⟩
    have free := allowed.2.2 s x (by simp) hx
    have other : row.id ≠ a := Table.find?_eq_none_iff.mp free row hr
    exact (Table.find?_erase a row.id b.tables.accounts).trans ((if_neg other).trans hc)
  exclusive := h.exclusive

theorem sound_after (h : b.Sound) (allowed : b.Allows d) : (b.after d).Sound := by
  cases d with
  | began s =>
      cases allowed
      exact sound_began h
  | drewTransaction s t =>
      obtain ⟨⟨x, hx⟩, _⟩ := allowed
      exact sound_tables (sound_mapDraft h hx
        (f := fun x => { x with transactions := x.transactions ++ [t] }) rfl) rfl rfl
  | drewEntry s e =>
      obtain ⟨⟨x, hx⟩, _⟩ := allowed
      exact sound_tables (sound_mapDraft h hx
        (f := fun x => { x with entries := x.entries ++ [e] }) rfl) rfl rfl
  | changedBalance s delta row => exact sound_changedBalance h allowed
  | committed s =>
      obtain ⟨x, hx, _⟩ := allowed
      exact sound_committed h hx
  | rolledBack s => exact sound_clearDraft h s
  | abandoned s => exact sound_clearDraft h s
  | opened account => exact sound_opened h allowed
  | deleted a => exact sound_deleted h allowed

theorem sound_replay {ds : List Deed} (h : Lawful ds) : (replay ds).Sound := by
  induction h with
  | nil => exact sound_empty
  | snoc before allowed ih =>
      rw [replay_snoc]
      exact sound_after ih allowed

end Books
end DoubleEntry
