import DoubleEntry.Proofs.Client.Steps
import DoubleEntry.Proofs.Store.Prompt
import DoubleEntry.Proofs.Store.Schema
import DoubleEntry.Proofs.Store.UncommittedWrites

/-!
What queries see. They read the committed tables, which change in one step when a session commits,
by all that it has staged, and else only when an account is opened or deleted. What a session has
written that does not commit nobody sees: a store where it has written nothing gives the same
answers, but for the ids of entries and transactions.
-/

namespace DoubleEntry

namespace Table

variable {α : Type} [HasId α] {f : α → α} {all rows : List α} {row : α}

theorem find?_map_of_keepsOrder (keeps : KeepsOrder f all) (hrow : row ∈ all) (hrows : rows ⊆ all) :
    find? (HasId.id (f row)) (rows.map f) = (find? (HasId.id row) rows).map f := by
  induction rows with
  | nil => rfl
  | cons r rows ih =>
      have hr := hrows List.mem_cons_self
      have before := keeps row hrow r hr
      have after := keeps r hr row hrow
      have same : HasId.id (f r) = HasId.id (f row) ↔ HasId.id r = HasId.id row := by omega
      simp only [List.map_cons, find?_cons, same]
      split
      · rfl
      · exact ih fun x hx => hrows (List.mem_cons_of_mem r hx)

omit [HasId α] in
theorem map_page (f : α → α) (limit offset : Int) (rows : List α) :
    (page limit offset rows).map f = page limit offset (rows.map f) := by
  simp only [page, List.map_take, List.map_drop]

end Table

/-- The queries that only read. -/
def Query.reads : Query → Bool
  | createAccount _ | deleteAccount _ => false
  | _ => true

namespace MemoryStore

variable {st st' : MemoryStore} {now : Timestamp} {q : Query}

theorem query_of_reads (h : q.reads = true) : st.query now q = ((st.query now q).1, st) := by
  cases q <;> first | rfl | cases h

theorem wantedRow?_of_reads (h : q.reads = true) : st.wantedRow? (.query q) = none := by
  cases q <;> first | rfl | cases h

/-- All queries have the same answers. -/
structure SameAnswers (st st' : MemoryStore) : Prop where
  queries : ∀ now q, q.reads = true → (st'.query now q).1 = (st.query now q).1
  entryCount : st'.tables.entries.length = st.tables.entries.length
  transactionCount : st'.tables.transactions.length = st.tables.transactions.length

theorem sameAnswers_of_content (h : st'.tables.content = st.tables.content) :
    st.SameAnswers st' := by
  obtain ⟨accounts, records⟩ := Prod.ext_iff.mp h
  obtain ⟨entries, transactions⟩ := Prod.ext_iff.mp records
  have accounts : st'.tables.accounts = st.tables.accounts := accounts
  have entries : st'.tables.entries = st.tables.entries := entries
  have transactions : st'.tables.transactions = st.tables.transactions := transactions
  refine ⟨fun now q reads => ?_, congrArg List.length entries, congrArg List.length transactions⟩
  cases q with
  | createAccount new => cases reads
  | deleteAccount a => cases reads
  | _ =>
      simp only [query, Tables.accountsOf, Tables.entriesOf, Tables.transactionsOf, accounts,
        entries, transactions]

end MemoryStore

/-- What a commit does to the tables. -/
structure Tables.Publishes (t : Tables) (x : Session) (t' : Tables) : Prop where
  accounts : t'.accounts = t.accounts.map (Account.settled x.accounts)
  settled : ∀ row ∈ x.accounts, Table.find? row.id t'.accounts = some row
  entries : t'.entries.Perm (t.entries ++ x.entries) ∧ Table.Ascending t'.entries
  transactions : t'.transactions.Perm (t.transactions ++ x.transactions) ∧
    Table.Ascending t'.transactions
  sequences : t'.accountSeq = t.accountSeq ∧ t'.entrySeq = t.entrySeq ∧
    t'.transactionSeq = t.transactionSeq

/-- The answers of a store, and those of one where some ids are missing, which others close up. -/
structure MemoryStore.AgreesUpTo (n : Numbering) (entryIds transactionIds : List Int)
    (st st' : MemoryStore) : Prop where
  account : ∀ now i, (st'.query now (.account i)).1 = (st.query now (.account i)).1
  accounts : ∀ now owner limit offset, (st'.query now (.accounts owner limit offset)).1 =
    (st.query now (.accounts owner limit offset)).1
  entry : ∀ now, ∀ i ∈ entryIds, (st'.query now (.entry (n.entry i))).1 =
    (st.query now (.entry i)).1.map (Option.map n.toEntry)
  entryGap : ∀ now i, i ∉ entryIds → (st.query now (.entry i)).1 = .ok none
  entries : ∀ now a limit offset, (st'.query now (.entries a limit offset)).1 =
    (st.query now (.entries a limit offset)).1.map (List.map n.toEntry)
  transaction : ∀ now, ∀ i ∈ transactionIds, (st'.query now (.transaction (n.transaction i))).1 =
    (st.query now (.transaction i)).1.map (Option.map n.toTransaction)
  transactionGap : ∀ now i, i ∉ transactionIds → (st.query now (.transaction i)).1 = .ok none
  transactions : ∀ now a limit offset, (st'.query now (.transactions a limit offset)).1 =
    (st.query now (.transactions a limit offset)).1.map (List.map n.toTransaction)
  entryCount : st'.tables.entries.length = st.tables.entries.length
  transactionCount : st'.tables.transactions.length = st.tables.transactions.length

namespace Desk

variable {d : Desk}

/-- The other sessions alone: what they have done, asked for at once in the same order. -/
def others (out : SessionId → Bool) (n : Numbering) (d : Desk) : List Move :=
  (Books.strike out n d.deeds).map Deed.move

/-- Queries see all that committed sessions have written and nothing else. -/
structure Isolated (d : Desk) : Prop where
  reads : ∀ now q, q.reads = true →
    d.submit? now (.query q) = some (.answered (d.store.query now q).1, d)
  steps : ∀ m, d.store.SameAnswers (d.step m).store ∨
    ∃ e, (d.step m).deeds = d.deeds ++ [e] ∧ e.publishes = true
  published : ∀ now s d', d.submit? now (.perform s .commit) = some (.answered (.ok ()), d') →
    ∃ x, d.store.openSession? s = some x ∧ d.store.tables.Publishes x d'.store.tables
  refused : ∀ now s e d',
    d.submit? now (.perform s .commit) = some (.answered (.error e), d') → d' = d
  whole : ∀ s ∈ Books.commits d.deeds,
    Drawing.entries.of d.deeds s ⊆ d.store.tables.entries ∧
      Drawing.transactions.of d.deeds s ⊆ d.store.tables.transactions
  nothing : ∀ s, s ∉ Books.commits d.deeds →
    (∀ e ∈ Drawing.entries.of d.deeds s, e ∉ d.store.tables.entries) ∧
      ∀ t ∈ Drawing.transactions.of d.deeds s, t ∉ d.store.tables.transactions
  struck : ∀ out : SessionId → Bool, (∀ s ∈ Books.commits d.deeds, out s = false) →
    let n := Books.closing out d.deeds
    (run (d.others out n)).deeds = Books.strike out n d.deeds ∧
      d.store.AgreesUpTo n ((Drawing.entries.left out d.deeds).map Entry.id)
        ((Drawing.transactions.left out d.deeds).map fun t => t.id) (run (d.others out n)).store

theorem submit?_of_reads {q : Query} (reads : q.reads = true) (now : Timestamp) :
    d.submit? now (.query q) = some (.answered (d.store.query now q).1, d) := by
  have idle : d.isBusy (.query q) = false := by
    simp [isBusy, StoreRequest.session?]
  have answered : d.store.submit now (.query q) =
      (.answered (d.store.query now q).1, d.store) := by
    have unlocked : d.store.wantedRow? (.query q) = none := MemoryStore.wantedRow?_of_reads reads
    rw [MemoryStore.submit_of_unlocked unlocked]
    exact congrArg (fun p => (Submission.answered (d.store.query now q).1, p.2))
      (MemoryStore.query_of_reads reads)
  have nothing : Deed.of? (.query q) (d.store.query now q).1 = none := by
    cases q <;> first | rfl | cases reads
  simp only [submit?, idle, answered, record, nothing, Option.toList_none, List.append_nil]
  rfl

/-- Answers change only with a commit, an opening or a deletion. -/
theorem sameAnswers_step (h : d.Orderly) (m : Move) :
    d.store.SameAnswers (d.step m).store ∨
      ∃ e, (d.step m).deeds = d.deeds ++ [e] ∧ e.publishes = true := by
  obtain ⟨o, deeds⟩ := deeds_step d m
  have before := tables_eq h
  have after := tables_eq (orderly_step h m)
  cases o with
  | none =>
      rw [Option.toList_none, List.append_nil] at deeds
      refine .inl (MemoryStore.sameAnswers_of_content ?_)
      rw [after, before, deeds]
  | some e =>
      cases loud : e.publishes with
      | true => exact .inr ⟨e, deeds, loud⟩
      | false =>
          refine .inl (MemoryStore.sameAnswers_of_content ?_)
          rw [after, before, deeds, Option.toList_some, Books.replay_snoc]
          exact Books.content_after _ loud

theorem submit?_commit {now : Timestamp} {s : SessionId} {reply : Except LedgerError Unit}
    {d' : Desk} (h : d.submit? now (.perform s .commit) = some (.answered reply, d')) :
    reply = (d.store.perform now s .commit).1 ∧
      d' = d.record (.perform s .commit) reply (d.store.perform now s .commit).2 := by
  simp only [submit?, MemoryStore.submit_of_unlocked (r := .perform s .commit) rfl] at h
  split at h
  · cases h
  · cases h
    exact ⟨rfl, rfl⟩

theorem commit_refused {now : Timestamp} {s : SessionId} {e : LedgerError} {d' : Desk}
    (h : d.submit? now (.perform s .commit) = some (.answered (.error e), d')) : d' = d := by
  obtain ⟨reply, after⟩ := submit?_commit h
  have store : (d.store.perform now s .commit).2 = d.store := by
    simp only [MemoryStore.perform, MemoryStore.commit] at reply ⊢
    split
    · rfl
    · rename_i x hx
      rw [hx] at reply
      dsimp only at reply ⊢
      split
      · rename_i check
        rw [check] at reply
        cases reply
      · rfl
  have nothing : Deed.of? (.perform s .commit) (.error e) = none := rfl
  rw [after, store, record, nothing, Option.toList_none, List.append_nil]

theorem publishes_published (h : d.Orderly) {s : SessionId} {x : Session}
    (hx : d.store.openSession? s = some x) :
    d.store.tables.Publishes x (MemoryStore.published d.store.tables x) := by
  have mem := MemoryStore.mem_of_session? (MemoryStore.openSession?_eq_some.mp hx).1
  have draft := MemoryStore.drafts_of_open hx
  rw [h.books] at draft
  have sound := Books.sound_replay h.lawful
  have sorted : Table.Ascending x.accounts := sound.sorted s x.draft draft
  have accounts := MemoryStore.published_accounts d.store.tables sorted
  refine ⟨accounts, fun row hr => ?_, ⟨?_, ?_⟩, ⟨?_, ?_⟩, rfl, rfl, rfl⟩
  · obtain ⟨_, c, hc, same⟩ := sound.drafted s _ draft row hr
    have id : c.id = row.id := Table.id_of_find? hc
    have staged : Table.find? c.id x.accounts = some row := id ▸ Table.find?_of_mem sorted hr
    rw [accounts, Table.find?_map (fun c => Account.id_settled x.accounts c), tables_eq h, hc,
      Option.map_some, Account.settled_of_find? staged, ← same]
  · exact Drawing.published_perm Drawing.regular_entries Drawing.plain_entries h.store h.lawful
      h.books mem
  · have ascending := Drawing.ascending_rows Drawing.regular_entries h.lawful
    rw [← tables_eq h] at ascending
    exact Table.ascending_foldl_insert ascending
  · exact Drawing.published_perm Drawing.regular_transactions Drawing.plain_transactions h.store
      h.lawful h.books mem
  · have ascending := Drawing.ascending_rows Drawing.regular_transactions h.lawful
    rw [← tables_eq h] at ascending
    exact Table.ascending_foldl_insert ascending

/-- A commit publishes what its session has staged. -/
theorem publishes_commit (h : d.Orderly) {now : Timestamp} {s : SessionId} {d' : Desk}
    (done : d.submit? now (.perform s .commit) = some (.answered (.ok ()), d')) :
    ∃ x, d.store.openSession? s = some x ∧ d.store.tables.Publishes x d'.store.tables := by
  obtain ⟨reply, after⟩ := submit?_commit done
  simp only [MemoryStore.perform] at reply after
  cases hx : d.store.openSession? s with
  | none =>
      rw [hx] at reply
      cases reply
  | some x =>
      rw [hx] at reply after
      dsimp only [MemoryStore.commit] at reply after
      cases check : MemoryStore.checkStaged d.store.tables x with
      | error c =>
          rw [check] at reply
          cases reply
      | ok _ =>
          rw [check] at after
          refine ⟨x, rfl, ?_⟩
          rw [after]
          exact publishes_published h hx

/-- The rows of sessions that have not committed are not in the tables. -/
theorem not_mem_rows {ρ : Type} [HasId ρ] {k : Drawing ρ} (reg : k.Regular) (h : d.Orderly)
    {s : SessionId} (open_ : s ∉ Books.commits d.deeds) {row : ρ} (hr : row ∈ k.of d.deeds s) :
    row ∉ k.rows d.store.tables := by
  intro there
  rw [tables_eq h] at there
  obtain ⟨t, ht, drawn⟩ := List.mem_flatMap.mp ((Drawing.rows_perm reg h.lawful).mem_iff.mp there)
  exact open_ ((Drawing.eq_of_id reg h.lawful hr drawn rfl).1 ▸ ht)

theorem rows_of_commits {ρ : Type} [HasId ρ] {k : Drawing ρ} (reg : k.Regular) (h : d.Orderly)
    {s : SessionId} (hs : s ∈ Books.commits d.deeds) :
    k.of d.deeds s ⊆ k.rows d.store.tables := by
  intro row hr
  rw [tables_eq h]
  exact Drawing.mem_rows reg h.lawful hs hr

/-- The accounts that were opened are in currencies that the schema has room for. -/
theorem knowsCurrency_run (moves : List Move) : ∀ e ∈ (run moves).deeds, e.KnowsCurrency := by
  induction moves using List.reverseRecOn with
  | nil => exact fun e no => by cases no
  | append_singleton moves m ih =>
      obtain ⟨o, deeds⟩ := deeds_step (run moves) m
      have tables := tables_eq (orderly_run (moves ++ [m]))
      have schema := MemoryStore.kept_inSchema.run
        ⟨rowsInSchema_nil, fun _ h => by cases h⟩ (moves ++ [m])
      rw [run_concat] at tables schema ⊢
      rw [deeds] at tables ⊢
      intro e he
      cases List.mem_append.mp he with
      | inl old => exact ih e old
      | inr new =>
          cases e with
          | opened account =>
              cases Option.mem_toList.mp new
              -- Right after it was opened the account is among the committed ones.
              rw [Option.toList_some, Books.replay_snoc] at tables
              have there : account ∈ ((run moves).step m).store.tables.accounts := by
                rw [tables]
                have found := Table.find?_insert account.id account
                  (Books.replay (run moves).deeds).tables.accounts
                exact Table.mem_of_find? (found.trans (if_pos rfl))
              exact (schema.committed.accounts account there).currency
          | _ => trivial

theorem knowsCurrency_strike {out : SessionId → Bool} {n : Numbering} {ds : List Deed}
    (h : ∀ e ∈ ds, e.KnowsCurrency) : ∀ e ∈ Books.strike out n ds, e.KnowsCurrency := by
  intro e he
  obtain ⟨old, mem, struck⟩ := List.mem_filterMap.mp he
  cases e with
  | opened account =>
      have same : old = .opened account := by
        cases old <;> simp_all [Deed.struck?]
      exact h _ (same ▸ mem)
  | _ => trivial

end Desk

namespace MemoryStore

open Books in
/-- Two stores whose books are the same but for the writes of some sessions give the same answers.
-/
theorem agreesUpTo_of_left {st st' : MemoryStore} {ds : List Deed} {out : SessionId → Bool}
    (h : Lawful ds) (stay : ∀ s ∈ commits ds, out s = false)
    (tables : st.tables = (replay ds).tables)
    (tables' : st'.tables = (left out (closing out ds) ds).tables) :
    st.AgreesUpTo (closing out ds) ((Drawing.entries.left out ds).map Entry.id)
      ((Drawing.transactions.left out ds).map fun t => t.id) st' := by
  let n := closing out ds
  have accounts : st'.tables.accounts = st.tables.accounts := by
    rw [tables, tables']
    rfl
  have entries : st'.tables.entries = st.tables.entries.map n.toEntry := by
    rw [tables, tables']
    rfl
  have transactions : st'.tables.transactions = st.tables.transactions.map n.toTransaction := by
    rw [tables, tables']
    rfl
  have numbers := renumbers_closing h out
  have entryOrder : Table.KeepsOrder n.toEntry (Drawing.entries.left out ds) :=
    Drawing.keepsOrder_of_numbers Drawing.regular_entries h numbers.entries fun _ => rfl
  have transactionOrder : Table.KeepsOrder n.toTransaction (Drawing.transactions.left out ds) :=
    Drawing.keepsOrder_of_numbers Drawing.regular_transactions h numbers.transactions fun _ => rfl
  have entryRows : st.tables.entries ⊆ Drawing.entries.left out ds := by
    rw [tables]
    exact (mem_left_of_rows Drawing.regular_entries h stay).1
  have transactionRows : st.tables.transactions ⊆ Drawing.transactions.left out ds := by
    rw [tables]
    exact (mem_left_of_rows Drawing.regular_transactions h stay).1
  refine ⟨fun now i => ?_, fun now owner limit offset => ?_, fun now i hi => ?_,
    fun now i hi => ?_, fun now a limit offset => ?_, fun now i hi => ?_, fun now i hi => ?_,
    fun now a limit offset => ?_, ?_, ?_⟩
  · simp only [query, accounts]
  · simp only [query, Tables.accountsOf, accounts]
  · obtain ⟨row, hr, rfl⟩ := List.mem_map.mp hi
    simp only [query, entries]
    exact congrArg Except.ok (Table.find?_map_of_keepsOrder entryOrder hr entryRows)
  · refine congrArg Except.ok (Table.find?_eq_none_iff.mpr fun row hr same => hi ?_)
    exact same ▸ List.mem_map_of_mem (entryRows hr)
  · simp only [query, Tables.entriesOf, entries, List.filter_map, ← Table.map_page]
    rfl
  · obtain ⟨row, hr, rfl⟩ := List.mem_map.mp hi
    simp only [query, transactions]
    exact congrArg Except.ok (Table.find?_map_of_keepsOrder transactionOrder hr transactionRows)
  · refine congrArg Except.ok (Table.find?_eq_none_iff.mpr fun row hr same => hi ?_)
    exact same ▸ List.mem_map_of_mem (transactionRows hr)
  · simp only [query, Tables.transactionsOf, transactions, List.filter_map, ← Table.map_page]
    rfl
  · rw [entries, List.length_map]
  · rw [transactions, List.length_map]

end MemoryStore

namespace Desk

/-- Whatever clients do with a store, queries see each session as a whole once it has committed, and
else nothing of it. -/
theorem sessions_isolated (moves : List Move) : (run moves).Isolated := by
  have knows := knowsCurrency_run moves
  have order := orderly_run moves
  generalize run moves = d at knows order
  refine ⟨fun now q reads => submit?_of_reads reads now, sameAnswers_step order,
    fun now s d' done => publishes_commit order done, fun now s e d' done => commit_refused done,
    fun s hs => ⟨?_, ?_⟩, fun s open_ => ⟨fun e he => ?_, fun t ht => ?_⟩, fun out stay => ?_⟩
  · exact rows_of_commits Drawing.regular_entries order hs
  · exact rows_of_commits Drawing.regular_transactions order hs
  · exact not_mem_rows Drawing.regular_entries order open_ he
  · exact not_mem_rows Drawing.regular_transactions order open_ ht
  · obtain ⟨lawful, books⟩ := Books.lawful_strike order.lawful
      (Books.renumbers_closing order.lawful out) stay
    obtain ⟨prompt, deeds⟩ := prompt_run lawful (knowsCurrency_strike knows)
    refine ⟨deeds, MemoryStore.agreesUpTo_of_left order.lawful stay (tables_eq order) ?_⟩
    rw [← books, ← deeds]
    exact tables_eq prompt.order

end Desk
end DoubleEntry
