import DoubleEntry.Proofs.Decimal.Rounding
import DoubleEntry.Proofs.Store.Balances

/-!
Balances that have a text. A balance has no more digits after the point than the opening balance and
the deltas, so that there is room for its text if there was for theirs.
-/

namespace DoubleEntry

/-- The balance or delta that a request brings along. -/
def StoreRequest.brings? : StoreRequest → Option Decimal
  | query (.createAccount new) => some new.balance
  | perform _ (.addBalance _ delta) => some delta
  | _ => none

def StoreRequest.HasText (r : StoreRequest) : Prop := ∀ d ∈ r.brings?, d.HasText

instance (r : StoreRequest) : Decidable r.HasText :=
  inferInstanceAs (Decidable (∀ d ∈ r.brings?, d.HasText))

instance (m : Move) : Decidable (m.Asks StoreRequest.HasText) :=
  match m with
  | .submit _ r => inferInstanceAs (Decidable r.HasText)
  | .resume _ _ => isTrue trivial
  | .expire _ => isTrue trivial
  | .desert _ => isTrue trivial

def Deed.HasText : Deed → Prop
  | opened account => account.balance.HasText
  | changedBalance _ delta _ => delta.HasText
  | _ => True

theorem MemoryStore.hasText_changed {base row : Account} {delta : Decimal}
    (balance : base.balance.HasText) (text : delta.HasText)
    (made : MemoryStore.changed base delta = .ok row) : row.balance.HasText := by
  obtain ⟨sum, added, _, _, rfl⟩ := MemoryStore.changed_eq_ok made
  exact (Decimal.scale_le_of_add? added).trans (max_le balance text)

theorem MemoryStore.balance_of_createAccount {st : MemoryStore} {now : Timestamp}
    {new : NewAccount} {account : Account}
    (h : (st.answer now (.query (.createAccount new))).1 = .ok account) :
    account.balance = new.balance := by
  simp only [MemoryStore.answer, MemoryStore.query] at h
  split at h
  · rename_i created
    obtain ⟨_, shape, _⟩ := Tables.createAccount_eq_ok created
    cases h
    rw [shape]
  · cases h

/-- What was asked for with a text is done with one. -/
theorem Deed.hasText_of? {r : StoreRequest} {now : Timestamp} {st : MemoryStore} {d : Deed}
    (text : r.HasText) (h : Deed.of? r (st.answer now r).1 = some d) : d.HasText := by
  generalize answered : (st.answer now r).1 = reply at h
  cases d with
  | changedBalance s delta row =>
      simp only [Deed.of?] at h
      split at h
      case h_4 =>
        cases h
        exact text delta rfl
      all_goals cases h
  | opened account =>
      simp only [Deed.of?] at h
      split at h
      case h_8 =>
        cases h
        have same := MemoryStore.balance_of_createAccount answered
        exact (congrArg Decimal.HasText same).mpr (text _ rfl)
      all_goals cases h
  | _ => trivial

namespace Books

variable {b : Books} {d : Deed} {ds : List Deed}

/-- Every balance has a text, those that are committed and those that are drafted. -/
structure Legible (b : Books) : Prop where
  committed : ∀ c ∈ b.tables.accounts, c.balance.HasText
  drafted : ∀ s x, b.drafts s = some x → ∀ row ∈ x.accounts, row.balance.HasText

theorem legible_current? (h : b.Legible) {s : SessionId} {x : Session} {a : Int} {row : Account}
    (hx : b.drafts s = some x) (found : b.current? x a = some row) : row.balance.HasText := by
  rcases current?_cases found with staged | ⟨_, committed⟩
  · exact h.drafted s x hx row (Table.mem_of_find? staged)
  · exact h.committed row (Table.mem_of_find? committed)

theorem drafted_after (h : b.Legible) (allowed : b.Allows d) (text : d.HasText) {t : SessionId}
    {y : Session} (hy : (b.after d).drafts t = some y) :
    ∀ row ∈ y.accounts, row.balance.HasText := by
  rcases drafts_after allowed hy with ⟨x, hx, rfl⟩ | ⟨rfl, _⟩
  · have old := h.drafted t x hx
    split
    · rename_i mine
      cases d with
      | changedBalance s delta after =>
          obtain ⟨⟨x', base, hx', found, made⟩, _⟩ := allowed
          intro row hr
          rcases Table.mem_insert hr with rfl | older
          · exact MemoryStore.hasText_changed (legible_current? h hx' found) text made
          · exact old row older
      | _ => exact old
    · exact old
  · intro row hr
    cases hr

theorem legible_after (h : b.Legible) (sound : b.Sound) (allowed : b.Allows d) (text : d.HasText) :
    (b.after d).Legible where
  committed := by
    cases d with
    | committed s =>
        obtain ⟨x, hx, _⟩ := allowed
        rw [accounts_committed sound hx]
        intro c hc
        obtain ⟨old, mem, rfl⟩ := List.mem_map.mp hc
        cases staged : Table.find? old.id x.accounts with
        | none =>
            rw [Account.settled_of_none staged]
            exact h.committed old mem
        | some row =>
            rw [Account.settled_of_find? staged]
            exact h.drafted s x hx row (Table.mem_of_find? staged)
    | opened account =>
        intro c hc
        rcases Table.mem_insert hc with rfl | old
        · exact text
        · exact h.committed c old
    | deleted a => exact fun c hc => h.committed c (Table.mem_erase.mp hc).1
    | _ => exact h.committed
  drafted _ _ hy := drafted_after h allowed text hy

theorem legible_of_lawful (h : Lawful ds) (texts : ∀ d ∈ ds, d.HasText) : (replay ds).Legible := by
  induction h with
  | nil => exact ⟨fun _ h => (by cases h), fun _ _ h => (by cases h)⟩
  | @snoc ds d before allowed ih =>
      rw [replay_snoc]
      have old := ih fun e he => texts e (List.mem_append_left [d] he)
      exact legible_after old (sound_replay before) allowed
        (texts d (List.mem_append_right ds (List.mem_singleton_self d)))

end Books

/-- Whatever clients do with a store, its balances have texts if all that they send has. -/
theorem Desk.balances_legible {moves : List Move}
    (texts : ∀ m ∈ moves, m.Asks StoreRequest.HasText) :
    ∀ c ∈ (run moves).store.tables.accounts, c.balance.HasText := by
  have order := orderly_run moves
  have asked := asked_run texts
  rw [tables_eq order]
  refine (Books.legible_of_lawful order.lawful fun d hd => ?_).committed
  obtain ⟨r, now, st, text, done_⟩ := asked.deeds d hd
  exact Deed.hasText_of? text done_

end DoubleEntry
