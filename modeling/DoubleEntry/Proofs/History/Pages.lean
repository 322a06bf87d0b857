import DoubleEntry.Proofs.Client.Alone
import DoubleEntry.Proofs.History.Audit
import DoubleEntry.Proofs.Transfer.Checked
import DoubleEntry.Service.History

/-!
Pages of a listing. A page that is not valid is refused. A valid one has the rows between its first
place and its last, and if its first place is no 64-bit integer, then there is no answer at all: the
arithmetic stops. The pages up to any number that is large enough make up the whole listing, each
row standing on one page only, in the order of the ids.
-/

namespace DoubleEntry

open Program MemoryStore CheckedTransfer

/-- How many rows come before a page. -/
def Page.start (p : Page) : Int := (p.pageId - 1) * p.pageSize

/-- A listing is of these rows of the tables. It asks for nothing but a part of them. -/
def Lists {α : Type} (listing : Page → Action LedgerStore (List α)) (rows : Tables → List α) :
    Prop :=
  ∃ query : Int → Int → Action LedgerStore (List α), (listing = fun p => p.list query) ∧
    ∀ (now : Timestamp) (st : MemoryStore) (limit offset : Int),
      (timed (query limit offset).toProgram).run (alone now) st =
        (.finished (.ok (Table.page limit offset (rows st.tables))), st)

theorem lists_accounts (owner : Option String) :
    Lists (AccountService.list owner) (·.accountsOf owner) :=
  ⟨_, rfl, fun _ _ _ _ => rfl⟩

theorem lists_entries (accountId : Int) :
    Lists (History.entries accountId) (·.entriesOf accountId) :=
  ⟨_, rfl, fun _ _ _ _ => rfl⟩

theorem lists_transactions (accountId : Int) :
    Lists (History.transactions accountId) (·.transactionsOf accountId) :=
  ⟨_, rfl, fun _ _ _ _ => rfl⟩

namespace Page

variable {p : Page}

theorem window_of_invalid (h : ¬ p.IsValid) :
    p.window = .fail (.validation (.page p.violations)) := by
  simp only [window]
  split
  · rename_i none
    exact absurd ((violations_eq_nil_iff p).mp none) h
  · rfl

theorem offset_eq (h : p.IsValid) (long : IsInt64 p.pageId) :
    p.offset = Overflow.multiplication.checked p.start := by
  have before : checkedSub p.pageId 1 = .ok (p.pageId - 1) := by
    have first := h.1
    refine if_pos ?_
    simp only [IsInt64] at long ⊢
    omega
  rw [offset, before]
  rfl

theorem window_of_valid (h : p.IsValid) (long : IsInt64 p.pageId) (there : IsInt64 p.start) :
    p.window = .ok (.ok (p.pageSize, p.start)) := by
  have offset : p.offset = .ok p.start := (offset_eq h long).trans (if_pos there)
  simp only [window, (violations_eq_nil_iff p).mpr h, offset]
  rfl

theorem window_of_beyond (h : p.IsValid) (long : IsInt64 p.pageId) (beyond : ¬ IsInt64 p.start) :
    p.window = .halt .multiplication := by
  have offset : p.offset = .error .multiplication := (offset_eq h long).trans (if_neg beyond)
  simp only [window, (violations_eq_nil_iff p).mpr h, offset]
  rfl

/-- A valid page begins within the 64-bit integers, or behind all of them. -/
theorem isInt64_start (h : p.IsValid) : IsInt64 p.start ↔ p.start ≤ maxInt64 := by
  obtain ⟨first, least, _⟩ := h
  have notNegative : 0 ≤ p.start :=
    Int.mul_nonneg (by omega) (Int.le_trans (by decide) least)
  simp only [IsInt64, maxInt64] at *
  omega

end Page

/-- How a listing of some rows ends that is asked for a page. -/
structure Answers {α : Type} (p : Page) (st : MemoryStore) (rows : List α)
    (ended : Progress (Timed LedgerStore) (Except LedgerError (List α)) × MemoryStore) :
    Prop where
  invalid : ¬ p.IsValid → ended = (.finished (.error (.validation (.page p.violations))), st)
  valid : p.IsValid → p.start ≤ maxInt64 →
    ended = (.finished (.ok ((rows.drop p.start.toNat).take p.pageSize.toNat)), st)
  beyond : p.IsValid → maxInt64 < p.start → ended = (.halted .multiplication, st)

section Listing

variable {α : Type} {listing : Page → Action LedgerStore (List α)} {rows : Tables → List α}

theorem answers_of_lists (lists : Lists listing rows) {p : Page} (long : IsInt64 p.pageId)
    (now : Timestamp) (st : MemoryStore) :
    Answers p st (rows st.tables) ((timed (listing p).toProgram).run (alone now) st) := by
  obtain ⟨query, rfl, asked⟩ := lists
  refine ⟨fun broken => ?_, fun valid there => ?_, fun valid beyond => ?_⟩
  · simp only [Page.list, Page.window_of_invalid broken]
    rfl
  · simp only [Page.list, Page.window_of_valid valid long ((Page.isInt64_start valid).mpr there)]
    exact asked now st p.pageSize p.start
  · have far : ¬ IsInt64 p.start := fun there =>
      absurd ((Page.isInt64_start valid).mp there) (Int.not_le.mpr beyond)
    simp only [Page.list, Page.window_of_beyond valid long far]
    rfl

end Listing

/-- All listings answer in the same way: an invalid page is refused, a valid page has its rows, and
one that begins behind the 64-bit integers has no answer, for the product stops the program. -/
theorem listings_answer (now : Timestamp) (moves : List Move) {p : Page} (long : IsInt64 p.pageId) :
    let st := (Desk.run moves).store
    (∀ owner, Answers p st (st.tables.accountsOf owner)
      ((timed (AccountService.list owner p).toProgram).run (alone now) st)) ∧
    (∀ accountId, Answers p st (st.tables.entriesOf accountId)
      ((timed (History.entries accountId p).toProgram).run (alone now) st)) ∧
    ∀ accountId, Answers p st (st.tables.transactionsOf accountId)
      ((timed (History.transactions accountId p).toProgram).run (alone now) st) :=
  ⟨fun owner => answers_of_lists (lists_accounts owner) long now _,
    fun accountId => answers_of_lists (lists_entries accountId) long now _,
    fun accountId => answers_of_lists (lists_transactions accountId) long now _⟩

/-- The last page that can be asked for. -/
def lastPage : Page := ⟨maxInt64, 5⟩

/-- The last page is valid, and stops the listing of an empty store. -/
theorem listings_answer_lastPage :
    IsInt64 lastPage.pageId ∧ lastPage.IsValid ∧
      (timed (AccountService.list none lastPage).toProgram).run (alone (.ofMillis 0)) {} =
        (.halted .multiplication, {}) := by
  have long : IsInt64 lastPage.pageId := by decide
  have valid : lastPage.IsValid := by decide
  exact ⟨long, valid, ((listings_answer (.ofMillis 0) [] long).1 none).beyond valid (by decide)⟩

/-- Not every valid page has an answer. -/
theorem valid_page_unanswered :
    ¬ ∀ (now : Timestamp) (moves : List Move) (p : Page), IsInt64 p.pageId → p.IsValid →
      ∃ rows, ((timed (AccountService.list none p).toProgram).run (alone now)
        (Desk.run moves).store).1 = .finished (.ok rows) := by
  intro claim
  obtain ⟨rows, answered⟩ := claim (.ofMillis 0) [] lastPage (by decide) (by decide)
  cases answered

/-- Some pages of a size, one after another, are these rows. All pages are full that come before the
last one with a row, and those after it are empty. -/
structure Divides {α : Type} (page : Nat → List α) (size : Int) (count : Nat) (rows : List α) :
    Prop where
  joined : (List.range count).flatMap page = rows
  short : ∀ k, ((page k).length : Int) ≤ size
  full : ∃ last ≤ count, (∀ k < last, page k ≠ []) ∧
    (∀ k, k + 1 < last → ((page k).length : Int) = size) ∧ ∀ k, last ≤ k → page k = []

namespace Table

variable {α : Type} (rows : List α) (size : Nat)

/-- The rows of a page, pages being counted from zero. -/
def part (k : Nat) : List α := (rows.drop (k * size)).take size

theorem flatMap_part (count : Nat) :
    (List.range count).flatMap (part rows size) = rows.take (count * size) := by
  induction count with
  | zero => simp
  | succ count ih =>
      rw [List.range_succ, List.flatMap_append, ih, Nat.succ_mul, List.take_add]
      simp [part]

variable {rows size}

theorem length_part (k : Nat) : (part rows size k).length = min size (rows.length - k * size) := by
  simp [part]

/-- There is a first page that comes after all rows. -/
theorem exists_first_empty {count : Nat} (enough : rows.length ≤ count * size) :
    ∃ last ≤ count, rows.length ≤ last * size ∧ ∀ k < last, k * size < rows.length := by
  have some_ : ∃ count, rows.length ≤ count * size := ⟨count, enough⟩
  refine ⟨Nat.find some_, Nat.find_min' some_ enough, Nat.find_spec some_, fun k before => ?_⟩
  exact Nat.lt_of_not_le (Nat.find_min some_ before)

theorem divides_part (positive : 0 < size) {count : Nat} (enough : rows.length ≤ count * size) :
    Divides (part rows size) size count rows := by
  obtain ⟨last, le, behind, before⟩ := exists_first_empty enough
  refine ⟨?_, fun k => ?_, last, le, fun k early => ?_, fun k early => ?_, fun k late => ?_⟩
  · rw [flatMap_part, List.take_of_length_le enough]
  · rw [length_part]
    omega
  · have some_ := before k early
    refine List.ne_nil_of_length_pos ?_
    rw [length_part]
    omega
  · have next := before (k + 1) early
    rw [Nat.succ_mul] at next
    rw [length_part]
    omega
  · have all : last * size ≤ k * size := Nat.mul_le_mul_right size late
    refine List.eq_nil_of_length_eq_zero ?_
    rw [length_part]
    omega

end Table

/-- The pages of a listing are nothing but its rows, which are those of a table that are wanted, in
the order of their ids. -/
structure Paged {α : Type} [HasId α] (ask : Page → Progress (Timed LedgerStore)
    (Except LedgerError (List α)) × MemoryStore) (st : MemoryStore) (size : Int)
    (table : List α) (wanted : α → Prop) (rows : List α) : Prop where
  ascending : Table.Ascending rows
  mem_iff : ∀ row, row ∈ rows ↔ row ∈ table ∧ wanted row
  pages : ∀ count : Nat, (rows.length : Int) ≤ count * size → (count - 1) * size ≤ maxInt64 →
    ∃ page : Nat → List α, Divides page size count rows ∧
      ∀ k < count, ask ⟨k + 1, size⟩ = (.finished (.ok (page k)), st)

section Paging

variable {α : Type} [HasId α] {listing : Page → Action LedgerStore (List α)}
  {rows : Tables → List α} {table : List α} {wanted : α → Prop}

theorem paged_of_lists (lists : Lists listing rows) (now : Timestamp) (st : MemoryStore)
    {size : Int} (least : Page.minSize ≤ size) (most : size ≤ Page.maxSize)
    (ascending : Table.Ascending (rows st.tables))
    (mem_iff : ∀ row, row ∈ rows st.tables ↔ row ∈ table ∧ wanted row) :
    Paged (fun p => (timed (listing p).toProgram).run (alone now) st) st size table wanted
      (rows st.tables) := by
  obtain ⟨s, rfl⟩ := Int.eq_ofNat_of_zero_le (Int.le_trans (by decide) least)
  refine ⟨ascending, mem_iff, fun count enough near => ?_⟩
  have enough : (rows st.tables).length ≤ count * s := by exact_mod_cast enough
  have positive : 0 < s := by
    simp only [Page.minSize] at least
    omega
  refine ⟨Table.part (rows st.tables) s, Table.divides_part positive enough, fun k hk => ?_⟩
  have below : (k : Int) * s ≤ (count - 1) * s :=
    Int.mul_le_mul_of_nonneg_right (by omega) (by omega)
  have start : Page.start ⟨k + 1, s⟩ = (k * s : Nat) := by simp [Page.start]
  have there : Page.start ⟨k + 1, s⟩ ≤ maxInt64 := by
    rw [start]
    push_cast
    exact below.trans near
  have long : IsInt64 (k + 1 : Int) := by
    have large : (k : Int) * Page.minSize ≤ k * s := Int.mul_le_mul_of_nonneg_left least (by omega)
    simp only [IsInt64, maxInt64, Page.minSize] at *
    omega
  have valid : Page.IsValid ⟨k + 1, s⟩ := ⟨Int.le_add_of_nonneg_left (by omega), least, most⟩
  rw [(answers_of_lists lists (p := ⟨k + 1, s⟩) long now st).valid valid there, start]
  rfl

end Paging

/-- The rows of each listing are divided into pages of any valid size: up to a page that comes after
all of them, the pages have every committed row that is wanted, once and in the order of the ids. -/
theorem pages_partition (moves : List Move) (now : Timestamp) {size : Int}
    (least : Page.minSize ≤ size) (most : size ≤ Page.maxSize) :
    let st := (Desk.run moves).store
    (∀ owner : Option String, ∃ rows,
      Paged (fun p => (timed (AccountService.list owner p).toProgram).run (alone now) st) st size
        st.tables.accounts (fun a => ∀ name, owner = some name → a.owner = name) rows) ∧
    (∀ accountId : Int, ∃ rows,
      Paged (fun p => (timed (History.entries accountId p).toProgram).run (alone now) st) st size
        st.tables.entries (fun e => e.accountId = accountId) rows) ∧
    ∀ accountId : Int, ∃ rows,
      Paged (fun p => (timed (History.transactions accountId p).toProgram).run (alone now) st) st
        size st.tables.transactions (fun t => t.fromId = accountId ∨ t.toId = accountId) rows := by
  intro st
  have order := Desk.orderly_run moves
  have tables : st.tables = _ := Desk.tables_eq order
  have accounts : Table.Ascending st.tables.accounts := by
    rw [tables]
    exact (Books.sound_replay order.lawful).ascending
  have entries : Table.Ascending st.tables.entries := by
    rw [tables]
    exact Drawing.ascending_rows Drawing.regular_entries order.lawful
  have transactions : Table.Ascending st.tables.transactions := by
    rw [tables]
    exact Drawing.ascending_rows Drawing.regular_transactions order.lawful
  refine ⟨fun owner => ⟨st.tables.accountsOf owner, ?_⟩,
    fun accountId => ⟨st.tables.entriesOf accountId, ?_⟩,
    fun accountId => ⟨st.tables.transactionsOf accountId, ?_⟩⟩
  · refine paged_of_lists (lists_accounts owner) now st least most (accounts.filter _) fun a => ?_
    simp only [Tables.accountsOf, List.mem_filter]
    cases owner with
    | none => simp
    | some name => simp only [Option.all_some, beq_iff_eq, Option.some.injEq, forall_eq']
  · refine paged_of_lists (lists_entries accountId) now st least most (entries.filter _) fun e => ?_
    simp only [Tables.entriesOf, List.mem_filter, beq_iff_eq]
  · refine paged_of_lists (lists_transactions accountId) now st least most
      (transactions.filter _) fun t => ?_
    simp [Tables.transactionsOf, List.mem_filter, NewTransaction.involves]

/-- Seven accounts are opened. -/
def sevenOpened : List Move :=
  (List.range 7).map fun i =>
    .submit (.ofMillis i) (.query (.createAccount ⟨"ada", "USD", .whole 10⟩))

/-- Two pages of five have all seven accounts. -/
theorem pages_partition_sevenOpened :
    let st := (Desk.run sevenOpened).store
    let page := fun k => (timed (AccountService.list none ⟨k, 5⟩).toProgram).run
      (alone (.ofMillis 0)) st
    Page.minSize ≤ 5 ∧ (5 : Int) ≤ Page.maxSize ∧ ∃ first second,
      page 1 = (.finished (.ok first), st) ∧ page 2 = (.finished (.ok second), st) ∧
        first.length = 5 ∧ ∀ a, a ∈ first ++ second ↔ a ∈ st.tables.accounts := by
  intro st page
  have least : Page.minSize ≤ 5 := by decide
  have most : (5 : Int) ≤ Page.maxSize := by decide
  obtain ⟨rows, paged⟩ := (pages_partition sevenOpened (.ofMillis 0) least most).1 none
  have all : ∀ a, a ∈ rows ↔ a ∈ st.tables.accounts := fun a =>
    (paged.mem_iff a).trans (and_iff_left fun _ no => by cases no)
  have distinct : st.tables.accounts.Nodup := by decide +kernel
  have same := (List.perm_ext_iff_of_nodup (Table.nodup_of_ascending paged.ascending) distinct).mpr
    all
  have seven : rows.length = 7 := same.length_eq.trans (by decide +kernel)
  obtain ⟨parts, divides, answered⟩ := paged.pages 2 (by rw [seven]; decide) (by decide)
  have joined : parts 0 ++ parts 1 = rows := by simpa [List.range_succ] using divides.joined
  have two : (parts 0).length + (parts 1).length = 7 := by
    rw [← List.length_append, joined, seven]
  have short := divides.short
  obtain ⟨last, _, _, full, none⟩ := divides.full
  have later : 1 < last := by
    refine Nat.lt_of_not_le fun early => ?_
    rw [none 1 early] at two
    have first := short 0
    simp only [List.length_nil] at two
    omega
  refine ⟨least, most, parts 0, parts 1, answered 0 (by decide), answered 1 (by decide), ?_, ?_⟩
  · exact_mod_cast full 0 later
  · intro a
    rw [joined]
    exact all a

end DoubleEntry
