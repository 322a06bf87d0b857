import DoubleEntry.Proofs.Client.Alone
import DoubleEntry.Proofs.Client.LockOrder
import DoubleEntry.Proofs.Store.Growth

/-!
Every lawful history is the history of a store in use: one that is asked for its deeds one after
another answers each of them at once. The locks are in nobody's way there, because a session locks
only rows that it changes, and a lawful history changes and deletes only what no other session has
drafted.
-/

namespace DoubleEntry

namespace Deed

/-- The request that does the deed. -/
def request : Deed → StoreRequest
  | began _ => .begin
  | drewTransaction s t => .perform s (.insertTransaction t.toNewTransaction)
  | drewEntry s e => .perform s (.insertEntry e.accountId e.amount)
  | changedBalance s delta row => .perform s (.addBalance row.id delta)
  | committed s => .perform s .commit
  | rolledBack s => .perform s .rollback
  | abandoned s => .abandon s
  | opened account => .query (.createAccount ⟨account.owner, account.currency, account.balance⟩)
  | deleted a => .query (.deleteAccount a)

/-- The time of the deed, if it is on record. -/
def time : Deed → Timestamp
  | drewTransaction _ t => t.createdAt
  | drewEntry _ e => e.createdAt
  | opened account => account.createdAt
  | _ => Timestamp.ofMillis 0

def move (d : Deed) : Move := .submit d.time d.request

/-- An account is opened in a currency that the schema has room for. -/
def KnowsCurrency : Deed → Prop
  | opened account => account.currency.utf8ByteSize ≤ Currency.codeLength
  | _ => True

end Deed

namespace Books

variable {b : Books} {d : Deed} {s : SessionId} {a : Int}

/-- The session is open and has changed the balance of the account. -/
def HasDrafted (b : Books) (s : SessionId) (a : Int) : Prop :=
  ∃ x row, b.drafts s = some x ∧ Table.find? a x.accounts = some row

/-- What a session has drafted it keeps until it is over. -/
theorem hasDrafted_after (sound : b.Sound) (allowed : b.Allows d) (drafted : b.HasDrafted s a)
    {y : Session} (goesOn : (b.after d).drafts s = some y) : (b.after d).HasDrafted s a := by
  obtain ⟨x, row, hx, found⟩ := drafted
  cases drafts_after allowed goesOn with
  | inr new => exact absurd (lt_of_drafts sound hx) (Nat.not_lt.mpr (Nat.le_of_eq new.2.1.symm))
  | inl old =>
      obtain ⟨z, hz, rfl⟩ := old
      rw [hx] at hz
      cases hz
      have kept : ∃ row, Table.find? a (d.drafting x).accounts = some row := by
        cases d with
        | changedBalance t delta changed =>
            simp only [Deed.drafting, Table.find?_insert]
            split
            · exact ⟨changed, rfl⟩
            · exact ⟨row, found⟩
        | _ => exact ⟨row, found⟩
      split at goesOn
      · obtain ⟨kept, there⟩ := kept
        exact ⟨_, kept, goesOn, there⟩
      · exact ⟨_, row, goesOn, found⟩

theorem hasDrafted_changedBalance {delta : Decimal} {row : Account}
    (allowed : b.Allows (.changedBalance s delta row)) :
    (b.after (.changedBalance s delta row)).HasDrafted s row.id := by
  obtain ⟨⟨x, _, hx, _⟩, _⟩ := allowed
  refine ⟨{ x with accounts := Table.insert row x.accounts }, row, ?_, ?_⟩
  · simp only [after, mapDraft, drafts_setDraft, hx, if_true]
    rfl
  · exact (Table.find?_insert row.id row x.accounts).trans (if_pos rfl)

/-- An account that nobody else has drafted is drafted by the session itself. -/
theorem eq_of_freeFor {o : Option SessionId} (free : b.FreeFor a o) (drafted : b.HasDrafted s a) :
    o = some s := by
  obtain ⟨x, row, hx, found⟩ := drafted
  refine Classical.byContradiction fun other => ?_
  rw [free s x (Ne.symm other) hx] at found
  cases found

end Books

namespace MemoryStore

variable {st : MemoryStore} {d : Deed} {s : SessionId} {loose waits : List (Int × Nat)}

/-- Sessions have locked only rows that they have changed. -/
def Sparing (st : MemoryStore) : Prop := ∀ s, ∀ g ∈ st.guardsOf s, st.books.HasDrafted s g.1

theorem open_of_guard (h : st.Orderly loose waits) {g : Int × Nat} (hg : g ∈ st.guardsOf s) :
    ∃ x, st.openSession? s = some x := by
  simp only [guardsOf] at hg
  cases hs : st.session? s with
  | none =>
      rw [hs] at hg
      cases hg
  | some x =>
      rw [hs] at hg
      refine ⟨x, openSession?_eq_some.mpr ⟨hs, ?_⟩⟩
      cases ended : x.finished with
      | false => rfl
      | true =>
          have cleared : x = { finished := true } :=
            (h.tidy _ (mem_of_session? hs)).cleared ended
          rw [cleared] at hg
          cases hg

/-- A deed that is allowed is done when it is asked for. -/
theorem of?_answer (allowed : st.books.Allows d) (knows : d.KnowsCurrency) :
    Deed.of? d.request (st.answer d.time d.request).1 = some d := by
  cases d with
  | began s =>
      cases allowed
      rfl
  | drewTransaction s row =>
      obtain ⟨⟨x, hx⟩, id, check, source, destination⟩ := allowed
      obtain ⟨y, hy, rfl⟩ := openSession?_of_drafts hx
      have id : row.id = st.tables.transactionSeq + 1 := id
      have drawn : st.tables.drawTransaction row.createdAt row.toNewTransaction =
          .ok (row, { st.tables with transactionSeq := st.tables.transactionSeq + 1 }) :=
        Tables.drawTransaction_eq_ok.mpr ⟨check, source, destination, by rw [← id], rfl⟩
      simp only [Deed.request, Deed.time, answer, perform, hy, insertTransaction, drawn, Deed.of?]
  | drewEntry s row =>
      obtain ⟨⟨x, hx⟩, id, fits, there⟩ := allowed
      obtain ⟨y, hy, rfl⟩ := openSession?_of_drafts hx
      have id : row.id = st.tables.entrySeq + 1 := id
      have drawn : st.tables.drawEntry row.createdAt row.accountId row.amount =
          .ok (row, { st.tables with entrySeq := st.tables.entrySeq + 1 }) :=
        Tables.drawEntry_eq_ok.mpr ⟨fits, there, by rw [← id], rfl⟩
      simp only [Deed.request, Deed.time, answer, perform, hy, insertEntry, drawn, Deed.of?]
  | changedBalance s delta row =>
      obtain ⟨⟨x, base, hx, found, changed⟩, _⟩ := allowed
      obtain ⟨y, hy, rfl⟩ := openSession?_of_drafts hx
      have found : st.current? y row.id = some base := found
      simp only [Deed.request, answer, perform, hy, addBalance, found, changed, Deed.of?]
  | committed s =>
      obtain ⟨x, hx, check⟩ := allowed
      obtain ⟨y, hy, rfl⟩ := openSession?_of_drafts hx
      have check : checkStaged st.tables y = .ok () := check
      simp only [Deed.request, answer, perform, hy, commit, check, Deed.of?]
  | rolledBack s =>
      obtain ⟨x, hx⟩ := allowed
      obtain ⟨y, hy, rfl⟩ := openSession?_of_drafts hx
      simp only [Deed.request, answer, perform, hy, Deed.of?]
  | abandoned s => rfl
  | opened account =>
      obtain ⟨id, positive, fits⟩ := allowed
      have id : account.id = st.tables.accountSeq + 1 := id
      let new : NewAccount := ⟨account.owner, account.currency, account.balance⟩
      have check : new.check = .ok () := by
        have covered : ¬ new.balance < Decimal.zero := Int.not_lt.mpr positive
        have fits : new.balance.FitsColumn := fits
        simp only [NewAccount.check, if_neg covered, checkColumn, if_pos fits, checkCurrency]
        exact if_pos knows
      have created : st.tables.createAccount account.createdAt new =
          .ok (account, { st.tables with
            accounts := Table.insert account st.tables.accounts
            accountSeq := st.tables.accountSeq + 1 }) := by
        simp only [Tables.createAccount, check, ← id]
        rfl
      simp only [Deed.request, Deed.time, answer, query]
      rw [created]
      rfl
  | deleted a =>
      obtain ⟨there, free, _⟩ := allowed
      have there : st.tables.hasAccount a = true := there
      have free : st.tables.isReferenced a = false := free
      have deleted : st.tables.deleteAccount a = .ok (true, { st.tables with
          accounts := Table.erase a st.tables.accounts }) := by
        rw [Tables.deleteAccount, there, free]
        rfl
      simp only [Deed.request, answer, query, deleted, Deed.of?]

/-- The row of a deed that is allowed is free, or the session has locked it before. -/
theorem not_mem_tickets_of_allows (h : st.Orderly [] []) (sparing : st.Sparing)
    (allowed : st.books.Allows d) {a : Int} (wanted : st.wantedRow? d.request = some a) :
    ∀ l ∈ st.locks.tickets, l.account ≠ a := by
  intro l hl same
  obtain ⟨s, hg⟩ := (mem_guards h.distinct).mp (mem_guards_of_ticket h hl)
  have drafted := sparing s _ hg
  change st.books.HasDrafted s l.account at drafted
  rw [same] at drafted hg
  cases d with
  | changedBalance t delta row =>
      obtain ⟨x, hx⟩ := open_of_guard h hg
      have row_eq : row.id = a := Option.some.inj (wantedRow?_eq_some wanted).1
      cases Books.eq_of_freeFor allowed.2 (row_eq ▸ drafted)
      -- The session has locked the row itself, and so wants no lock.
      have holds : x.holds row.id = true := by
        rw [guardsOf_of_session? (openSession?_eq_some.mp hx).1] at hg
        exact List.any_eq_true.mpr ⟨_, hg, beq_iff_eq.mpr row_eq.symm⟩
      simp only [Deed.request, wantedRow?, hx, holds] at wanted
      cases wanted
  | deleted b =>
      have row_eq : b = a := Option.some.inj (wantedRow?_eq_some wanted).1
      cases Books.eq_of_freeFor allowed.2.2 (row_eq ▸ drafted)
  | _ => cases wanted

/-- A deed that is allowed is done at once when it is asked for. -/
theorem submit_of_allows (h : st.Orderly [] []) (sparing : st.Sparing)
    (allowed : st.books.Allows d) (knows : d.KnowsCurrency) :
    ∃ reply st', st.submit d.time d.request = (.answered reply, st') ∧
      Deed.of? d.request reply = some d := by
  cases wanted : st.wantedRow? d.request with
  | none => exact ⟨_, _, submit_of_unlocked wanted, of?_answer allowed knows⟩
  | some a =>
      have holding := LockTable.holding_of_isFree h.sound fun l hl same =>
        absurd same (not_mem_tickets_of_allows h sparing allowed wanted l hl)
      let locked : MemoryStore := { st with locks := (st.locks.request a).2 }
      let answer := locked.answerLocked d.time d.request a st.locks.nextTicket
      refine ⟨answer.1, answer.2, ?_, ?_⟩
      · simp only [submit, wanted]
        exact if_pos holding
      · cases d with
        | changedBalance s delta row =>
            obtain ⟨x, hx⟩ := (wantedRow?_eq_some wanted).2 s rfl
            have hx : locked.openSession? s = some x := hx
            have guarded : (locked.addGuard s a st.locks.nextTicket).books.Allows
                (.changedBalance s delta row) := by
              rw [books_addGuard hx]
              exact allowed
            exact of?_answer guarded knows
        | deleted b =>
            have waiting : locked.books.Allows (.deleted b) := allowed
            exact of?_answer waiting knows
        | _ => cases wanted

end MemoryStore

namespace Desk

variable {d : Desk} {e : Deed}

/-- Nobody waits, and sessions have locked only rows that they have changed. -/
structure Prompt (d : Desk) : Prop where
  order : d.Orderly
  idle : d.waiting = []
  sparing : d.store.Sparing

theorem prompt_empty : Prompt {} where
  order := orderly_empty
  idle := rfl
  sparing _ _ h := by cases h

theorem mem_grip_request {rows : List (SessionId × Int)} {s : SessionId} {a : Int}
    (h : (s, a) ∈ e.request.grip rows) :
    (s, a) ∈ rows ∨ ∃ delta row, e = .changedBalance s delta row ∧ row.id = a := by
  cases e with
  | changedBalance t delta row =>
      cases List.mem_append.mp h with
      | inl old => exact .inl old
      | inr new =>
          cases List.mem_singleton.mp new
          exact .inr ⟨delta, row, rfl, rfl⟩
  | abandoned t => exact .inl (List.mem_filter.mp h).1
  | _ => exact .inl h

/-- A deed that is allowed is done in one move. -/
theorem prompt_step (h : d.Prompt) (allowed : (Books.replay d.deeds).Allows e)
    (knows : e.KnowsCurrency) :
    (d.step e.move).Prompt ∧ (d.step e.move).deeds = d.deeds ++ [e] := by
  have allows : d.store.books.Allows e := by
    rw [h.order.books]
    exact allowed
  have order : d.store.Orderly [] [] := by
    have order := h.order.store
    rwa [h.idle] at order
  obtain ⟨reply, st, answered, deed⟩ := MemoryStore.submit_of_allows order h.sparing allows knows
  have done : d.submit? e.time e.request = some (.answered reply, d.record e.request reply st) := by
    have idle : d.isBusy e.request = false := by
      rw [isBusy, h.idle]
      rfl
    simp only [submit?, idle, answered]
    rfl
  have next : d.step e.move = d.record e.request reply st := by
    simp only [Deed.move, step, done]
    rfl
  have deeds : (d.step e.move).deeds = d.deeds ++ [e] := by
    rw [next, record, deed]
    rfl
  have after := orderly_step h.order e.move
  refine ⟨⟨after, ?_, fun s g hg => ?_⟩, deeds⟩
  · rw [next]
    exact h.idle
  · obtain ⟨x, hx⟩ := MemoryStore.open_of_guard after.store hg
    have goesOn := MemoryStore.drafts_of_open hx
    rw [after.books, deeds, Books.replay_snoc] at goesOn ⊢
    have sound := Books.sound_replay h.order.lawful
    have before : d.store.GripsIn s ((d.store.guardsOf s).map fun g => (s, g.1)) :=
      fun g hg => List.mem_map_of_mem hg
    rw [next] at hg
    cases mem_grip_request (gripsIn_submit? before done g hg) with
    | inl old =>
        obtain ⟨g', hg', same⟩ := List.mem_map.mp old
        have drafted := h.sparing s g' hg'
        rw [h.order.books, show g'.1 = g.1 from congrArg Prod.snd same] at drafted
        exact Books.hasDrafted_after sound allowed drafted goesOn
    | inr new =>
        obtain ⟨delta, row, rfl, same⟩ := new
        rw [← same]
        exact Books.hasDrafted_changedBalance allowed

/-- Every lawful history is one of a store that answers each request at once. -/
theorem prompt_run {ds : List Deed} (h : Books.Lawful ds) (knows : ∀ e ∈ ds, e.KnowsCurrency) :
    (run (ds.map Deed.move)).Prompt ∧ (run (ds.map Deed.move)).deeds = ds := by
  induction h with
  | nil => exact ⟨prompt_empty, rfl⟩
  | @snoc ds e before allowed ih =>
      obtain ⟨prompt, deeds⟩ := ih fun e he => knows e (List.mem_append_left _ he)
      have last := knows e (List.mem_append_right _ (List.mem_singleton_self e))
      obtain ⟨after, all⟩ := prompt_step prompt (deeds.symm ▸ allowed) last
      rw [List.map_append, List.map_singleton, run_concat, all, deeds]
      exact ⟨after, rfl⟩

end Desk
end DoubleEntry
