import DoubleEntry.Proofs.Transfer.Sessions
import Mathlib.Algebra.BigOperators.Group.List.Basic

/-!
The books of a store that is written to by transfers only. The committed entries are the two sides
of the committed transactions, a balance is the opening balance and the account's entries, and so
the total of all balances is what the accounts were opened with.
-/

namespace DoubleEntry

/-- The account and the amount of both entries of a transaction. -/
def Transaction.sides (t : Transaction) : List (Int × Decimal) :=
  [(t.fromId, -t.amount), (t.toId, t.amount)]

def Entry.side (e : Entry) : Int × Decimal := (e.accountId, e.amount)

def Tables.posted (t : Tables) (a : Int) : Int := ((t.entriesOf a).map (·.amount.units)).sum

/-- The sum of the balances of accounts, in units. -/
def Account.total (accounts : List Account) : Int := (accounts.map (·.balance.units)).sum

/-- What entries and other movements add to an account, in units. -/
def moved (a : Int) (sides : List (Int × Decimal)) : Int :=
  (sides.map fun p => if p.1 = a then p.2.units else 0).sum

theorem moved_append (a : Int) (ps qs : List (Int × Decimal)) :
    moved a (ps ++ qs) = moved a ps + moved a qs := by
  simp [moved]

theorem moved_flatMap {ι : Type} (a : Int) (f : ι → List (Int × Decimal)) (xs : List ι) :
    moved a (xs.flatMap f) = (xs.map fun x => moved a (f x)).sum := by
  induction xs with
  | nil => rfl
  | cons x xs ih => rw [List.flatMap_cons, moved_append, ih, List.map_cons, List.sum_cons]

theorem moved_perm {a : Int} {ps qs : List (Int × Decimal)} (h : ps.Perm qs) :
    moved a ps = moved a qs :=
  (h.map _).sum_eq

theorem posted_eq_moved (t : Tables) (a : Int) :
    t.posted a = moved a (t.entries.map Entry.side) := by
  simp only [Tables.posted, Tables.entriesOf, moved]
  induction t.entries with
  | nil => rfl
  | cons e es ih =>
      by_cases mine : e.accountId = a
      · rw [List.filter_cons_of_pos (by simpa using mine)]
        simp [ih, Entry.side, mine]
      · rw [List.filter_cons_of_neg (by simpa using mine)]
        simp [ih, Entry.side, mine]

/-- Over all accounts, each movement counts once. -/
theorem sum_moved {ids : List Int} (distinct : ids.Nodup) {ps : List (Int × Decimal)}
    (there : ∀ p ∈ ps, p.1 ∈ ids) :
    (ids.map fun a => moved a ps).sum = (ps.map (·.2.units)).sum := by
  have once : ∀ (p : Int × Decimal) (ids : List Int), ids.Nodup →
      (ids.map fun a => if p.1 = a then p.2.units else 0).sum =
        if p.1 ∈ ids then p.2.units else 0 := by
    intro p ids distinct
    induction ids with
    | nil => rfl
    | cons a ids ih =>
        have ⟨fresh, rest⟩ := List.nodup_cons.mp distinct
        rw [List.map_cons, List.sum_cons, ih rest]
        by_cases same : p.1 = a
        · simp [same, fresh]
        · simp [same]
  induction ps with
  | nil => simp [moved]
  | cons p ps ih =>
      have rest := ih fun q hq => there q (List.mem_cons_of_mem p hq)
      have first := once p ids distinct
      rw [if_pos (there p List.mem_cons_self)] at first
      simp only [moved, List.map_cons, List.sum_cons] at rest ⊢
      rw [List.sum_map_add, first, rest]

namespace Transfer

variable {r : TransferRequest} {res : TransferResult} {s : SessionId} {ds rest : List Deed}

/-- What a transfer has added to an account is what its entries say. -/
theorem drafted_written (records : Records r res)
    (h : ds.filter (·.isOf s) = written r s res ++ rest)
    (ends : rest = [.committed s] ∨ rest = [.committed s, .abandoned s]) (a : Int) :
    Books.drafted ds s a = moved a res.transaction.sides := by
  have sides : res.transaction.sides = [(r.fromId, -r.amount), (r.toId, r.amount)] := by
    simp only [Transaction.sides, records.transaction]
    rfl
  have tail : (rest.map (Deed.shift s a)).sum = 0 := by
    cases ends with
    | inl first => simp [first, Deed.shift]
    | inr second => simp [second, Deed.shift]
  rw [← Books.drafted_filter, h, sides]
  simp only [Books.drafted, List.map_append, List.sum_append, tail, written, moved]
  split <;> simp [Deed.shift, records.source, records.destination]
  exact Int.add_comm _ _

theorem sides_of_records (records : Records r res) :
    [res.fromEntry, res.toEntry].map Entry.side = res.transaction.sides := by
  simp only [Transaction.sides, records.transaction, List.map_cons, List.map_nil, Entry.side,
    records.debit, records.credit]
  rfl

end Transfer

/-- Balances that are openings and movements have their total from both. -/
theorem Account.total_of_openings {accounts : List Account} {opening? : Int → Option Account}
    {g : Int → Int} (h : ∀ c ∈ accounts, ∃ o, opening? c.id = some o ∧
      c.balance.units = o.balance.units + g c.id) :
    total accounts = total (accounts.filterMap fun c => opening? c.id) +
      ((accounts.map (·.id)).map g).sum := by
  induction accounts with
  | nil => rfl
  | cons c accounts ih =>
      obtain ⟨o, ho, sum⟩ := h c List.mem_cons_self
      have rest := ih fun k hk => h k (List.mem_cons_of_mem c hk)
      have opened : (c :: accounts).filterMap (fun c => opening? c.id) =
          o :: accounts.filterMap fun c => opening? c.id := List.filterMap_cons_some ho
      rw [opened]
      simp only [total, List.map_cons, List.sum_cons] at rest ⊢
      omega

theorem Table.nodup_ids {rows : List Account} (h : Table.Ascending rows) :
    (rows.map (·.id)).Nodup :=
  List.pairwise_map.mpr (h.imp fun lt => Int.ne_of_lt lt)

namespace Traffic

variable {w : Traffic}

/-- Session by session, the entries are the sides of the transactions. -/
theorem sides_of_session (h : w.IsLedger) {s : SessionId}
    (hs : s ∈ Books.commits w.desk.deeds) :
    (Drawing.entries.of w.desk.deeds s).map Entry.side =
        (Drawing.transactions.of w.desk.deeds s).flatMap Transaction.sides ∧
      ∀ a, Books.drafted w.desk.deeds s a =
        moved a ((Drawing.entries.of w.desk.deeds s).map Entry.side) := by
  obtain ⟨r, res, records, rest, shape, ends⟩ := exists_written h hs
  have ⟨entries, transactions⟩ := Transfer.of_written shape ends
  rw [entries, transactions, Transfer.sides_of_records records, List.flatMap_singleton]
  exact ⟨rfl, Transfer.drafted_written records shape ends⟩

theorem entries_perm (h : w.IsLedger) :
    (w.tables.entries.map Entry.side).Perm ((Books.commits w.desk.deeds).flatMap fun s =>
      (Drawing.entries.of w.desk.deeds s).map Entry.side) := by
  have rows := Drawing.rows_perm Drawing.regular_entries h.coherent.order.lawful
  rw [tables_eq h.coherent, ← List.map_flatMap]
  exact rows.map Entry.side

theorem sides_perm (h : w.IsLedger) :
    (w.tables.entries.map Entry.side).Perm (w.tables.transactions.flatMap Transaction.sides) := by
  have rows := Drawing.rows_perm Drawing.regular_transactions h.coherent.order.lawful
  refine (entries_perm h).trans ?_
  rw [List.flatMap_congr fun s hs => (sides_of_session h hs).1, ← List.flatMap_assoc,
    tables_eq h.coherent]
  exact (rows.flatMap_right _).symm

theorem settled_eq_posted (h : w.IsLedger) (a : Int) :
    Books.settled w.desk.deeds a = w.tables.posted a := by
  rw [posted_eq_moved, moved_perm (entries_perm h), moved_flatMap, Books.settled]
  exact congrArg List.sum (List.map_congr_left fun s hs => (sides_of_session h hs).2 a)

theorem sum_sides (ts : List Transaction) :
    ((ts.flatMap Transaction.sides).map (·.2.units)).sum = 0 := by
  induction ts with
  | nil => rfl
  | cons t ts ih =>
      rw [List.flatMap_cons, List.map_append, List.sum_append, ih]
      simp [Transaction.sides, Decimal.units_neg]

theorem sum_posted (h : w.IsLedger) :
    ((w.tables.accounts.map (·.id)).map w.tables.posted).sum = 0 := by
  have lawful := h.coherent.order.lawful
  have tables := tables_eq h.coherent
  have distinct := Table.nodup_ids (Books.sound_replay lawful).ascending
  have there := (Books.referenced_of_lawful lawful).entries
  rw [← tables] at distinct there
  have moves : w.tables.posted = fun a => moved a (w.tables.entries.map Entry.side) :=
    funext (posted_eq_moved w.tables)
  rw [moves, sum_moved distinct]
  · rw [((sides_perm h).map _).sum_eq]
    exact sum_sides _
  · intro p hp
    obtain ⟨e, he, rfl⟩ := List.mem_map.mp hp
    obtain ⟨c, hc, same⟩ := Table.contains_iff.mp (there e he)
    exact List.mem_map.mpr ⟨c, hc, same⟩

/-- Whatever clients transfer, open, delete and read, in any order of their steps: the committed
entries are the sides of the committed transactions, every balance is exactly what the account was
opened with and its entries, the total is what the accounts that are there were opened with, and
what is committed refers to accounts that are there. -/
theorem double_entry (choices : List Choice)
    (starts : ∀ choice ∈ choices, choice.Starts LedgerProgram) :
    let w := run choices
    (w.tables.entries.map Entry.side).Perm (w.tables.transactions.flatMap Transaction.sides) ∧
    (∀ c ∈ w.tables.accounts, ∃ o, Books.opening? w.desk.deeds c.id = some o ∧
      c.balance.units = o.balance.units + w.tables.posted c.id) ∧
    Account.total w.tables.accounts =
      Account.total (w.tables.accounts.filterMap fun c => Books.opening? w.desk.deeds c.id) ∧
    (∀ e ∈ w.tables.entries, w.tables.hasAccount e.accountId = true) ∧
    ∀ t ∈ w.tables.transactions,
      w.tables.hasAccount t.fromId = true ∧ w.tables.hasAccount t.toId = true := by
  intro w
  have h : w.IsLedger := isLedger_run starts
  have lawful := h.coherent.order.lawful
  have tables := tables_eq h.coherent
  have settled := Books.settled_of_lawful lawful fun s delta row => fits_of_ledger h
  have referenced := Books.referenced_of_lawful lawful
  rw [← tables] at referenced
  have balances : ∀ c ∈ w.tables.accounts, ∃ o, Books.opening? w.desk.deeds c.id = some o ∧
      c.balance.units = o.balance.units + w.tables.posted c.id := by
    intro c hc
    rw [tables] at hc
    rw [← settled_eq_posted h]
    exact settled c hc
  refine ⟨sides_perm h, balances, ?_, referenced.entries, referenced.transactions⟩
  rw [Account.total_of_openings balances, sum_posted h, Int.add_zero]

/-- Two transfers in opposite directions, step by step in turn; the one that comes second waits. -/
def crossing : List Choice :=
  let now := Timestamp.ofMillis 0
  let opening (owner : String) (balance : Decimal) : Choice :=
    .spawn (Program.callFree (I := LedgerStore) (.query (.createAccount ⟨owner, "USD", balance⟩)))
  let transfer (source destination : Int) (moved : Decimal) : Choice :=
    .spawn (Transfer.transfer .unbounded none
      ⟨source, destination, moved, "USD", "", .whole 1⟩)
  let round : List Choice :=
    [.turn 2 (.think 0 0), .turn 2 (.submit now), .turn 3 (.think 0 0), .turn 3 (.submit now),
      .turn 3 (.resume now)]
  [opening "ada" (.whole 100), opening "bob" (.whole 50),
    .turn 0 (.submit now), .turn 1 (.submit now),
    transfer 1 2 (.whole 30), transfer 2 1 (.whole 20)] ++
    (List.replicate 14 round).flatten

theorem starts_crossing : ∀ choice ∈ crossing, choice.Starts LedgerProgram := by
  intro choice hc
  cases List.mem_append.mp hc with
  | inl first =>
      simp only [List.mem_cons, List.not_mem_nil, or_false] at first
      rcases first with rfl | rfl | rfl | rfl | rfl | rfl
      · exact .queries (Program.asksQueries_query _)
      · exact .queries (Program.asksQueries_query _)
      · trivial
      · trivial
      · exact .transfer _ _ _
      · exact .transfer _ _ _
  | inr later =>
      obtain ⟨round, hr, mem⟩ := List.mem_flatten.mp later
      rw [List.eq_of_mem_replicate hr] at mem
      simp only [List.mem_cons, List.not_mem_nil, or_false] at mem
      rcases mem with rfl | rfl | rfl | rfl | rfl <;> trivial

theorem double_entry_crossing :
    (∀ choice ∈ crossing, choice.Starts LedgerProgram) ∧
    Account.total (run crossing).tables.accounts =
      Account.total ((run crossing).tables.accounts.filterMap fun c =>
        Books.opening? (run crossing).desk.deeds c.id) ∧
    Books.commits (run crossing).desk.deeds = [0, 1] ∧
    (run crossing).tables.accounts.map (·.balance) =
      [.whole 90, .whole 60] :=
  ⟨starts_crossing, (double_entry crossing starts_crossing).2.2.1, by decide +kernel,
    by decide +kernel⟩

end Traffic
end DoubleEntry
