import DoubleEntry.Proofs.Store.Growth
import Mathlib.Data.List.Induction

/-!
Histories without the writes of some sessions that do not commit. What such a session writes goes
into its draft alone, so that the history can be rewritten without it: every other deed is still
allowed, and the tables are the same, but for the ids of entries and transactions, which close up
where the session has drawn some.
-/

namespace DoubleEntry

namespace Table

variable {α : Type} [HasId α]

/-- New ids for rows, in the order of the old ones. -/
def KeepsOrder (f : α → α) (rows : List α) : Prop :=
  ∀ r ∈ rows, ∀ r' ∈ rows, HasId.id (f r) < HasId.id (f r') ↔ HasId.id r < HasId.id r'

variable {f : α → α} {all rows news : List α} {row : α}

theorem keepsOrder_of_pairwise (old : all.Pairwise fun r r' => HasId.id r < HasId.id r')
    (new : all.Pairwise fun r r' => HasId.id (f r) < HasId.id (f r')) : KeepsOrder f all := by
  induction all with
  | nil => exact fun r hr => by cases hr
  | cons first rest ih =>
      obtain ⟨olds, old⟩ := List.pairwise_cons.mp old
      obtain ⟨news, new⟩ := List.pairwise_cons.mp new
      intro r hr r' hr'
      cases List.mem_cons.mp hr with
      | inl same =>
          cases List.mem_cons.mp hr' with
          | inl same' =>
              rw [same, same']
              exact iff_of_false (Int.lt_irrefl _) (Int.lt_irrefl _)
          | inr later => exact same ▸ iff_of_true (news r' later) (olds r' later)
      | inr later =>
          cases List.mem_cons.mp hr' with
          | inl same' =>
              have before := olds r later
              have after := news r later
              rw [same']
              exact iff_of_false (by omega) (by omega)
          | inr later' => exact ih old new r later r' later'

theorem map_insert (keeps : KeepsOrder f all) (hrow : row ∈ all) (hrows : rows ⊆ all) :
    (insert row rows).map f = insert (f row) (rows.map f) := by
  induction rows with
  | nil => rfl
  | cons r rows ih =>
      have hr := hrows List.mem_cons_self
      have before := keeps row hrow r hr
      have after := keeps r hr row hrow
      have same : HasId.id (f row) = HasId.id (f r) ↔ HasId.id row = HasId.id r := by omega
      simp only [insert, List.map_cons, before, same]
      split
      · rfl
      · split
        · rfl
        · rw [List.map_cons, ih fun x hx => hrows (List.mem_cons_of_mem r hx)]

theorem map_foldl_insert (keeps : KeepsOrder f all) (hnews : news ⊆ all) (hrows : rows ⊆ all) :
    (news.foldl (fun rows n => insert n rows) rows).map f =
      (news.map f).foldl (fun rows n => insert n rows) (rows.map f) := by
  induction news generalizing rows with
  | nil => rfl
  | cons n news ih =>
      have hn := hnews List.mem_cons_self
      rw [List.foldl_cons, List.map_cons, List.foldl_cons, ← map_insert keeps hn hrows]
      refine ih (fun x hx => hnews (List.mem_cons_of_mem n hx)) fun x hx => ?_
      cases mem_insert hx with
      | inl same => exact same ▸ hn
      | inr old => exact hrows old

end Table

/-- The number of an id when ids are counted from one on. -/
def rank (ids : List Int) (i : Int) : Int := (ids.countP (· ≤ i) : Nat)

theorem rank_append_of_lt {ids : List Int} {i j : Int} (before : i < j) :
    rank (ids ++ [j]) i = rank ids i := by
  have late : ¬ j ≤ i := by omega
  simp [rank, late]

theorem map_rank {ids : List Int} (h : ids.Pairwise (· < ·)) :
    ids.map (rank ids) = (List.range ids.length).map fun i : Nat => (i : Int) + 1 := by
  induction ids using List.reverseRecOn with
  | nil => rfl
  | append_singleton ids j ih =>
      obtain ⟨old, _, before⟩ := List.pairwise_append.mp h
      have early : ∀ i ∈ ids, i < j := fun i hi => before i hi j (List.mem_singleton_self j)
      have same : ids.map (rank (ids ++ [j])) = ids.map (rank ids) :=
        List.map_congr_left fun i hi => rank_append_of_lt (early i hi)
      have all : ids.countP (· ≤ j) = ids.length :=
        List.countP_eq_length.mpr fun i hi => decide_eq_true (Int.le_of_lt (early i hi))
      have last : rank (ids ++ [j]) j = ids.length + 1 := by
        simp [rank, all]
      simp [List.range_succ, same, ih old, last]

/-- New ids for entries and for transactions. -/
structure Numbering where
  entry : Int → Int
  transaction : Int → Int

namespace Numbering

variable (n : Numbering)

def toEntry (e : Entry) : Entry := { e with id := n.entry e.id }

def toTransaction (t : Transaction) : Transaction := { t with id := n.transaction t.id }

def toSession (x : Session) : Session :=
  { x with entries := x.entries.map n.toEntry
           transactions := x.transactions.map n.toTransaction }

end Numbering

/-- A deed without the writes of the sessions that are struck out. -/
def Deed.struck? (out : SessionId → Bool) (n : Numbering) : Deed → Option Deed
  | drewTransaction s t =>
      if out s then none else some (drewTransaction s (n.toTransaction t))
  | drewEntry s e => if out s then none else some (drewEntry s (n.toEntry e))
  | changedBalance s delta row => if out s then none else some (changedBalance s delta row)
  | d => some d

namespace Drawing

variable {ρ : Type} {k : Drawing ρ} {ds : List Deed} {d : Deed} {out : SessionId → Bool} {row : ρ}

/-- The rows that are left when those of some sessions are struck out. -/
def left (k : Drawing ρ) (out : SessionId → Bool) (ds : List Deed) : List ρ :=
  ((k.all ds).filter fun p => !out p.1).map (·.2)

theorem left_snoc_of_none (h : k.row? d = none) : k.left out (ds ++ [d]) = k.left out ds := by
  simp [left, all_snoc, h]

theorem left_snoc_of_some {s : SessionId} (h : k.row? d = some (s, row)) :
    k.left out (ds ++ [d]) = k.left out ds ++ if out s then [] else [row] := by
  cases hs : out s <;> simp [left, all_snoc, h, hs]

theorem mem_left {s : SessionId} (hr : row ∈ k.of ds s) (stays : out s = false) :
    row ∈ k.left out ds := by
  refine List.mem_map.mpr ⟨(s, row), List.mem_filter.mpr ⟨mem_of.mp hr, ?_⟩, rfl⟩
  rw [stays]
  rfl

variable [HasId ρ]

/-- The rows that are left are numbered from one on. -/
def Numbers (k : Drawing ρ) (out : SessionId → Bool) (f : Int → Int) (ds : List Deed) : Prop :=
  (k.left out ds).map (fun r => f (HasId.id r)) =
    (List.range (k.left out ds).length).map fun i : Nat => (i : Int) + 1

theorem numbers_of_snoc {f : Int → Int} (h : k.Numbers out f (ds ++ [d])) :
    k.Numbers out f ds ∧ ∀ s row, k.row? d = some (s, row) → out s = false →
      f (HasId.id row) = (k.left out ds).length + 1 := by
  cases hd : k.row? d with
  | none =>
      rw [Numbers, left_snoc_of_none hd] at h
      exact ⟨h, fun _ _ no => by cases no⟩
  | some p =>
      rw [Numbers, left_snoc_of_some hd] at h
      cases hs : out p.1 with
      | true =>
          rw [hs, if_pos rfl, List.append_nil] at h
          refine ⟨h, fun s row same stays => ?_⟩
          cases same
          rw [hs] at stays
          cases stays
      | false =>
          rw [hs, if_neg Bool.false_ne_true, List.map_append, List.length_append,
            List.length_singleton, List.range_succ, List.map_append] at h
          obtain ⟨before, last⟩ := List.append_inj h (by simp)
          refine ⟨before, fun s row same _ => ?_⟩
          cases same
          simpa using last

open Books in
theorem ascending_left (reg : k.Regular) (h : Lawful ds) (out : SessionId → Bool) :
    ((k.left out ds).map HasId.id).Pairwise (· < ·) := by
  rw [left, List.map_map]
  exact (ascending_ids reg h).sublist (List.filter_sublist.map _)

open Books in
/-- The numbers that the rows are given are in the order of their ids. -/
theorem keepsOrder_of_numbers (reg : k.Regular) (h : Lawful ds) {f : Int → Int}
    (numbers : k.Numbers out f ds) {g : ρ → ρ} (hg : ∀ r, HasId.id (g r) = f (HasId.id r)) :
    Table.KeepsOrder g (k.left out ds) := by
  refine Table.keepsOrder_of_pairwise ?_ ?_
  · exact List.pairwise_map.mp (ascending_left reg h out)
  · have counted : ((List.range (k.left out ds).length).map fun i : Nat => (i : Int) + 1).Pairwise
        (· < ·) := by
      refine List.pairwise_map.mpr (List.pairwise_lt_range.imp fun lt => ?_)
      omega
    rw [← numbers] at counted
    simp only [hg]
    exact List.pairwise_map.mp counted

end Drawing

namespace Books

variable {b : Books} {d : Deed} {ds : List Deed} {out : SessionId → Bool} {n : Numbering}
  {s : SessionId} {x : Session}

/-- The draft of a session that is struck out is empty. -/
def draftWithout (out : SessionId → Bool) (n : Numbering) (s : SessionId) (x : Session) : Session :=
  if out s then {} else n.toSession x

/-- Books without the writes of the sessions that are struck out. So many entries and transactions
are left. -/
def struck (out : SessionId → Bool) (n : Numbering) (entries transactions : Nat) (b : Books) :
    Books where
  tables := { b.tables with
    entries := b.tables.entries.map n.toEntry
    transactions := b.tables.transactions.map n.toTransaction
    entrySeq := entries
    transactionSeq := transactions }
  drafts s := (b.drafts s).map (draftWithout out n s)
  nextSession := b.nextSession

@[simp] theorem drafts_struck (b : Books) (e t : Nat) (s : SessionId) :
    (b.struck out n e t).drafts s = (b.drafts s).map (draftWithout out n s) := rfl

theorem draftWithout_of_stays (stays : out s = false) : draftWithout out n s = n.toSession :=
  funext fun _ => if_neg (by rw [stays]; exact Bool.false_ne_true)

theorem accounts_draftWithout (x : Session) {a : Int} (absent : Table.find? a x.accounts = none) :
    Table.find? a (draftWithout out n s x).accounts = none := by
  simp only [draftWithout]
  split
  · rfl
  · exact absent

theorem freeFor_struck {a : Int} {o : Option SessionId} (free : b.FreeFor a o) (e t : Nat) :
    (b.struck out n e t).FreeFor a o := by
  intro s x other hx
  obtain ⟨y, hy, rfl⟩ := Option.map_eq_some_iff.mp hx
  exact accounts_draftWithout y (free s y other hy)

theorem struck_setDraft (b : Books) (s : SessionId) (o : Option Session) (e t : Nat) :
    (b.setDraft s o).struck out n e t =
      (b.struck out n e t).setDraft s (o.map (draftWithout out n s)) := by
  refine Books.ext rfl (funext fun u => ?_) rfl
  simp only [drafts_struck, drafts_setDraft]
  split
  · rename_i same
    rw [same]
  · rfl

/-- What a session that is struck out writes is not seen. -/
theorem struck_mapDraft_out (b : Books) (gone : out s = true) (f : Session → Session) (e t : Nat) :
    (b.mapDraft s f).struck out n e t = b.struck out n e t := by
  have blank : draftWithout out n s = fun _ => {} := funext fun _ => if_pos gone
  refine (struck_setDraft b s _ e t).trans (Books.ext rfl (funext fun u => ?_) rfl)
  rw [drafts_setDraft]
  split
  · rename_i same
    rw [same, drafts_struck, Option.map_map, blank]
    rfl
  · rfl

theorem struck_mapDraft (b : Books) (stays : out s = false) {f g : Session → Session}
    (same : ∀ x, n.toSession (f x) = g (n.toSession x)) (e t : Nat) :
    (b.mapDraft s f).struck out n e t = (b.struck out n e t).mapDraft s g := by
  rw [mapDraft, struck_setDraft, mapDraft, drafts_struck, draftWithout_of_stays stays,
    Option.map_map, Option.map_map]
  exact congrArg (fun f => (b.struck out n e t).setDraft s ((b.drafts s).map f)) (funext same)

theorem checkStaged_struck {tables : Tables} (e t : Nat)
    (check : MemoryStore.checkStaged tables x = .ok ()) :
    MemoryStore.checkStaged ({ tables with
      entries := tables.entries.map n.toEntry
      transactions := tables.transactions.map n.toTransaction
      entrySeq := e
      transactionSeq := t }) (n.toSession x) = .ok () := by
  obtain ⟨entries, transactions⟩ := MemoryStore.checkStaged_eq_ok.mp check
  refine MemoryStore.checkStaged_eq_ok.mpr ⟨fun e he => ?_, fun row hr => ?_⟩
  · obtain ⟨old, mem, rfl⟩ := List.mem_map.mp he
    exact entries old mem
  · obtain ⟨old, mem, rfl⟩ := List.mem_map.mp hr
    exact transactions old mem

/-- To publish a draft under new ids is to publish it and to give new ids then. -/
theorem struck_committed {e t : Nat} {es : List Entry} {ts : List Transaction}
    (hx : b.drafts s = some x) (stays : out s = false)
    (entryOrder : Table.KeepsOrder n.toEntry es)
    (transactionOrder : Table.KeepsOrder n.toTransaction ts)
    (entries : x.entries ⊆ es ∧ b.tables.entries ⊆ es)
    (transactions : x.transactions ⊆ ts ∧ b.tables.transactions ⊆ ts) :
    (b.after (.committed s)).struck out n e t = (b.struck out n e t).after (.committed s) := by
  have draft : (b.struck out n e t).drafts s = some (n.toSession x) := by
    rw [drafts_struck, hx, draftWithout_of_stays stays]
    rfl
  have drafts := congrArg Books.drafts (@struck_setDraft out n b s none e t)
  simp only [after, hx, draft]
  refine Books.ext ?_ drafts rfl
  have first := Table.map_foldl_insert entryOrder entries.1 entries.2
  have second := Table.map_foldl_insert transactionOrder transactions.1 transactions.2
  simp only [struck, MemoryStore.published, Numbering.toSession, first, second]

theorem isReferenced_struck (b : Books) (e t : Nat) (a : Int) :
    (b.struck out n e t).tables.isReferenced a = b.tables.isReferenced a := by
  simp only [struck, Tables.isReferenced, List.any_map]
  rfl

theorem drafts_struck_of_stays (hx : b.drafts s = some x) (stays : out s = false) (e t : Nat) :
    (b.struck out n e t).drafts s = some (n.toSession x) := by
  rw [drafts_struck, hx, draftWithout_of_stays stays]
  rfl

theorem turns_drewEntry {row : Entry} {e : Nat} (t : Nat) (allowed : b.Allows (.drewEntry s row))
    (number : out s = false → n.entry row.id = e + 1) :
    (b.struck out n e t).Turns ((Deed.drewEntry s row).struck? out n)
      ((b.after (.drewEntry s row)).struck out n (if out s then e else e + 1) t) := by
  obtain ⟨⟨x, hx⟩, _, fits, there⟩ := allowed
  let draw (row : Entry) (x : Session) : Session := { x with entries := x.entries ++ [row] }
  cases gone : out s with
  | true =>
      have drafts := congrArg Books.drafts (struck_mapDraft_out (n := n) b gone (draw row) e t)
      rw [Deed.struck?, gone]
      exact Books.ext rfl drafts rfl
  | false =>
      have drafts := congrArg Books.drafts (struck_mapDraft (n := n) b gone (f := draw row)
        (g := draw (n.toEntry row)) (fun x => by simp [draw, Numbering.toSession]) e t)
      rw [Deed.struck?, gone]
      refine ⟨⟨⟨_, drafts_struck_of_stays hx gone e t⟩, number gone, fits, there⟩, ?_⟩
      refine Books.ext ?_ drafts rfl
      simp only [after, struck, mapDraft, setDraft, Numbering.toEntry, number gone]
      rfl

theorem turns_drewTransaction {row : Transaction} (e : Nat) {t : Nat}
    (allowed : b.Allows (.drewTransaction s row))
    (number : out s = false → n.transaction row.id = t + 1) :
    (b.struck out n e t).Turns ((Deed.drewTransaction s row).struck? out n)
      ((b.after (.drewTransaction s row)).struck out n e (if out s then t else t + 1)) := by
  obtain ⟨⟨x, hx⟩, _, check, source, destination⟩ := allowed
  let draw (row : Transaction) (x : Session) : Session :=
    { x with transactions := x.transactions ++ [row] }
  cases gone : out s with
  | true =>
      have drafts := congrArg Books.drafts (struck_mapDraft_out (n := n) b gone (draw row) e t)
      rw [Deed.struck?, gone]
      exact Books.ext rfl drafts rfl
  | false =>
      have drafts := congrArg Books.drafts (struck_mapDraft (n := n) b gone (f := draw row)
        (g := draw (n.toTransaction row)) (fun x => by simp [draw, Numbering.toSession]) e t)
      rw [Deed.struck?, gone]
      refine ⟨⟨⟨_, drafts_struck_of_stays hx gone e t⟩, number gone, check, source, destination⟩,
        ?_⟩
      refine Books.ext ?_ drafts rfl
      simp only [after, struck, mapDraft, setDraft, Numbering.toTransaction, number gone]
      rfl

theorem turns_changedBalance {delta : Decimal} {row : Account} (e t : Nat)
    (allowed : b.Allows (.changedBalance s delta row)) :
    (b.struck out n e t).Turns ((Deed.changedBalance s delta row).struck? out n)
      ((b.after (.changedBalance s delta row)).struck out n e t) := by
  obtain ⟨⟨x, base, hx, found, changed⟩, free⟩ := allowed
  cases gone : out s with
  | true =>
      rw [Deed.struck?, gone]
      exact struck_mapDraft_out b gone _ e t
  | false =>
      rw [Deed.struck?, gone]
      refine ⟨⟨⟨_, base, drafts_struck_of_stays hx gone e t, found, changed⟩,
        freeFor_struck free e t⟩, ?_⟩
      exact struck_mapDraft b gone
        (f := fun x => { x with accounts := Table.insert row x.accounts }) (fun _ => rfl) e t

/-- Deeds that draw no ids and are no commits are done without the struck sessions as with them. -/
theorem turns_plain (e t : Nat) (allowed : b.Allows d) (noEntry : Drawing.entries.row? d = none)
    (noTransaction : Drawing.transactions.row? d = none) (noCommit : d.commit? = none) :
    (b.struck out n e t).Turns (d.struck? out n) ((b.after d).struck out n e t) := by
  have ended : ∀ s, (b.setDraft s none).struck out n e t = (b.struck out n e t).setDraft s none :=
    fun s => struck_setDraft b s none e t
  cases d with
  | drewEntry s row => cases noEntry
  | drewTransaction s row => cases noTransaction
  | committed s => cases noCommit
  | changedBalance s delta row => exact turns_changedBalance e t allowed
  | began s =>
      refine ⟨allowed, ?_⟩
      have blank : draftWithout out n s {} = {} := by
        simp only [draftWithout]
        split <;> rfl
      have drafts := congrArg Books.drafts (@struck_setDraft out n b s (some {}) e t)
      rw [Option.map_some, blank] at drafts
      exact Books.ext rfl drafts rfl
  | rolledBack s =>
      obtain ⟨x, hx⟩ := allowed
      exact ⟨⟨_, congrArg (Option.map (draftWithout out n s)) hx⟩, ended s⟩
  | abandoned s => exact ⟨trivial, ended s⟩
  | opened account => exact ⟨allowed, rfl⟩
  | deleted a =>
      obtain ⟨there, unreferenced, free⟩ := allowed
      have unreferenced : (b.struck out n e t).tables.isReferenced a = false :=
        (isReferenced_struck b e t a).trans unreferenced
      exact ⟨⟨there, unreferenced, freeFor_struck free e t⟩, rfl⟩

/-- The rows that a history leaves when the writes of some sessions are struck out get these new
ids, from one on. -/
structure Renumbers (out : SessionId → Bool) (n : Numbering) (ds : List Deed) : Prop where
  entries : Drawing.entries.Numbers out n.entry ds
  transactions : Drawing.transactions.Numbers out n.transaction ds

/-- The ids close up where rows are struck out. -/
def closing (out : SessionId → Bool) (ds : List Deed) : Numbering where
  entry := rank ((Drawing.entries.left out ds).map HasId.id)
  transaction := rank ((Drawing.transactions.left out ds).map HasId.id)

open Drawing in
theorem numbers_rank {ρ : Type} [HasId ρ] {k : Drawing ρ} (reg : k.Regular) (h : Lawful ds)
    (out : SessionId → Bool) : k.Numbers out (rank ((k.left out ds).map HasId.id)) ds := by
  have ids := map_rank (ascending_left reg h out)
  rwa [List.map_map, List.length_map] at ids

theorem renumbers_closing (h : Lawful ds) (out : SessionId → Bool) :
    Renumbers out (closing out ds) ds where
  entries := numbers_rank Drawing.regular_entries h out
  transactions := numbers_rank Drawing.regular_transactions h out

/-- A history without the writes of some sessions. -/
def strike (out : SessionId → Bool) (n : Numbering) (ds : List Deed) : List Deed :=
  ds.filterMap (Deed.struck? out n)

/-- The books of a history, without the writes of some sessions. -/
def left (out : SessionId → Bool) (n : Numbering) (ds : List Deed) : Books :=
  (replay ds).struck out n (Drawing.entries.left out ds).length
    (Drawing.transactions.left out ds).length

open Drawing in
/-- What is committed, and what an open session that is not struck out has drafted, was drawn in
sessions that are not struck out. -/
theorem mem_left_of_rows {ρ : Type} [HasId ρ] {k : Drawing ρ} (reg : k.Regular) (h : Lawful ds)
    (stay : ∀ s ∈ commits ds, out s = false) :
    k.rows (replay ds).tables ⊆ k.left out ds ∧
      ∀ s x, (replay ds).drafts s = some x → out s = false → k.staged x ⊆ k.left out ds := by
  refine ⟨fun row hr => ?_, fun s x hx stays row hr => ?_⟩
  · obtain ⟨s, hs, drawn⟩ := List.mem_flatMap.mp ((rows_perm reg h).mem_iff.mp hr)
    exact mem_left drawn (stay s hs)
  · rw [staged_of_drafts reg h hx] at hr
    exact mem_left hr stays

theorem turns_left (before : Lawful ds) (allowed : (replay ds).Allows d)
    (renumbers : Renumbers out n (ds ++ [d])) (stay : ∀ s ∈ commits (ds ++ [d]), out s = false) :
    (left out n ds).Turns (d.struck? out n) (left out n (ds ++ [d])) := by
  obtain ⟨entries, entry⟩ := Drawing.numbers_of_snoc renumbers.entries
  obtain ⟨transactions, transaction⟩ := Drawing.numbers_of_snoc renumbers.transactions
  simp only [left, replay_snoc]
  cases d with
  | drewEntry s row =>
      have turn := turns_drewEntry (Drawing.transactions.left out ds).length allowed
        (entry s row rfl)
      rw [Drawing.left_snoc_of_some rfl, Drawing.left_snoc_of_none rfl, List.length_append]
      cases gone : out s <;> rw [gone] at turn <;> exact turn
  | drewTransaction s row =>
      have turn := turns_drewTransaction (Drawing.entries.left out ds).length allowed
        (transaction s row rfl)
      rw [Drawing.left_snoc_of_none rfl, Drawing.left_snoc_of_some rfl, List.length_append]
      cases gone : out s <;> rw [gone] at turn <;> exact turn
  | committed s =>
      have stays : ∀ t, t = s ∨ t ∈ commits ds → out t = false := by
        intro t ht
        refine stay t ?_
        rw [commits_snoc]
        exact List.mem_append.mpr (ht.symm.imp_right List.mem_singleton.mpr)
      have mine := stays s (.inl rfl)
      have fewer := fun t ht => stays t (.inr ht)
      obtain ⟨x, hx, check⟩ := allowed
      have rows := mem_left_of_rows Drawing.regular_entries before fewer
      have rows' := mem_left_of_rows Drawing.regular_transactions before fewer
      rw [Drawing.left_snoc_of_none rfl, Drawing.left_snoc_of_none rfl]
      refine ⟨⟨_, drafts_struck_of_stays hx mine _ _, checkStaged_struck _ _ check⟩, ?_⟩
      exact struck_committed hx mine
        (Drawing.keepsOrder_of_numbers Drawing.regular_entries before entries fun _ => rfl)
        (Drawing.keepsOrder_of_numbers Drawing.regular_transactions before transactions
          fun _ => rfl)
        ⟨rows.2 s x hx mine, rows.1⟩ ⟨rows'.2 s x hx mine, rows'.1⟩
  | _ =>
      rw [Drawing.left_snoc_of_none rfl, Drawing.left_snoc_of_none rfl]
      exact turns_plain _ _ allowed rfl rfl rfl

/-- A history is lawful without the writes of sessions that have not committed, and leaves the same
books but for them. -/
theorem lawful_strike (h : Lawful ds) (renumbers : Renumbers out n ds)
    (stay : ∀ s ∈ commits ds, out s = false) :
    Lawful (strike out n ds) ∧ replay (strike out n ds) = left out n ds := by
  induction h with
  | nil => exact ⟨Lawful.nil, rfl⟩
  | @snoc ds d before allowed ih =>
      have fewer : ∀ s ∈ commits ds, out s = false := fun s hs => by
        refine stay s ?_
        rw [commits_snoc]
        exact List.mem_append_left _ hs
      obtain ⟨lawful, same⟩ := ih ⟨(Drawing.numbers_of_snoc renumbers.entries).1,
        (Drawing.numbers_of_snoc renumbers.transactions).1⟩ fewer
      have turn := turns_left before allowed renumbers stay
      rw [← same] at turn
      have all : strike out n (ds ++ [d]) = strike out n ds ++ (d.struck? out n).toList := by
        cases hd : d.struck? out n <;> simp [strike, hd]
      rw [all]
      obtain ⟨after, books⟩ := lawful_turn lawful turn
      exact ⟨after, books.symm⟩

end Books
end DoubleEntry
