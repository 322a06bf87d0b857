import DoubleEntry.Proofs.Store.Balances

/-!
What becomes of entries and transactions. Their ids are drawn in ascending order and never twice, so
that publishing overwrites nothing: what is committed is what the committed sessions have drawn. The
accounts that it refers to are there, because a commit checks it and no such account is deleted.
-/

namespace DoubleEntry

/-- Rows whose ids are drawn in sessions: in the deeds, in the tables and in the drafts. -/
structure Drawing (ρ : Type) where
  row? : Deed → Option (SessionId × ρ)
  rows : Tables → List ρ
  seq : Tables → Int
  staged : Session → List ρ

namespace Drawing

def entries : Drawing Entry where
  row?
    | .drewEntry s e => some (s, e)
    | _ => none
  rows := Tables.entries
  seq := Tables.entrySeq
  staged := Session.entries

def transactions : Drawing Transaction where
  row?
    | .drewTransaction s t => some (s, t)
    | _ => none
  rows := Tables.transactions
  seq := Tables.transactionSeq
  staged := Session.transactions

open Books

/-- All rows that were drawn, with their sessions. -/
def all {ρ : Type} (k : Drawing ρ) (ds : List Deed) : List (SessionId × ρ) := ds.filterMap k.row?

/-- The rows that one session has drawn. -/
def of {ρ : Type} (k : Drawing ρ) (ds : List Deed) (s : SessionId) : List ρ :=
  ((k.all ds).filter (·.1 == s)).map (·.2)

/-- The rows that committed sessions have drawn. -/
def kept {ρ : Type} (k : Drawing ρ) (ds : List Deed) : List ρ :=
  (Books.commits ds).flatMap (k.of ds)

variable {ds : List Deed} {d : Deed} {s t : SessionId} {x : Session}

section

variable {ρ : Type} {k : Drawing ρ} {row : ρ}

theorem mem_of : row ∈ k.of ds s ↔ (s, row) ∈ k.all ds := by
  simp [of]

theorem all_snoc (ds : List Deed) (d : Deed) :
    k.all (ds ++ [d]) = k.all ds ++ (k.row? d).toList := by
  cases h : k.row? d <;> simp [all, h]

theorem of_snoc_of_none (h : k.row? d = none) (s : SessionId) : k.of (ds ++ [d]) s = k.of ds s := by
  simp [of, all_snoc, h]

theorem of_snoc_of_some (h : k.row? d = some (t, row)) (s : SessionId) :
    k.of (ds ++ [d]) s = k.of ds s ++ if t = s then [row] else [] := by
  by_cases same : t = s <;> simp [of, all_snoc, h, same]

end

variable {ρ : Type} [HasId ρ]

/-- How deeds treat rows of this kind. -/
structure Regular (k : Drawing ρ) : Prop where
  empty : k.rows {} = [] ∧ k.staged {} = []
  drawn : ∀ {b : Books} {d s row}, k.row? d = some (s, row) → b.Allows d →
    d.session? = some s ∧ d.commit? = none ∧ (∃ x, b.drafts s = some x) ∧
      HasId.id row = k.seq b.tables + 1 ∧ k.seq (b.after d).tables = HasId.id row ∧
      k.rows (b.after d).tables = k.rows b.tables ∧
      ∀ x, k.staged (d.drafting x) = k.staged x ++ [row]
  other : ∀ {b : Books} {d}, k.row? d = none → b.Allows d →
    k.seq (b.after d).tables = k.seq b.tables ∧
      (d.commit? = none → k.rows (b.after d).tables = k.rows b.tables) ∧
      ∀ x, k.staged (d.drafting x) = k.staged x
  published : ∀ {b : Books} {s x}, b.drafts s = some x →
    k.rows (b.after (.committed s)).tables =
      (k.staged x).foldl (fun rows n => Table.insert n rows) (k.rows b.tables)

theorem regular_entries : entries.Regular where
  empty := ⟨rfl, rfl⟩
  drawn := by
    intro b d s row h allowed
    cases d <;> cases h
    exact ⟨rfl, rfl, allowed.1, allowed.2.1, rfl, rfl, fun _ => rfl⟩
  other := by
    intro b d h allowed
    cases d with
    | drewEntry s e => cases h
    | committed s =>
        obtain ⟨x, hx, _⟩ := allowed
        simp only [Books.after, hx]
        exact ⟨rfl, (fun no => by cases no), fun _ => rfl⟩
    | _ => exact ⟨rfl, fun _ => rfl, fun _ => rfl⟩
  published := by
    intro b s x hx
    simp only [Books.after, hx]
    rfl

theorem regular_transactions : transactions.Regular where
  empty := ⟨rfl, rfl⟩
  drawn := by
    intro b d s row h allowed
    cases d <;> cases h
    exact ⟨rfl, rfl, allowed.1, allowed.2.1, rfl, rfl, fun _ => rfl⟩
  other := by
    intro b d h allowed
    cases d with
    | drewTransaction s t => cases h
    | committed s =>
        obtain ⟨x, hx, _⟩ := allowed
        simp only [Books.after, hx]
        exact ⟨rfl, (fun no => by cases no), fun _ => rfl⟩
    | _ => exact ⟨rfl, fun _ => rfl, fun _ => rfl⟩
  published := by
    intro b s x hx
    simp only [Books.after, hx]
    rfl

variable {k : Drawing ρ} {row : ρ}

/-- Rows are drawn in sessions that have begun, and with ids that are new. -/
theorem numbered (reg : k.Regular) (h : Lawful ds) :
    ((k.all ds).map fun p => HasId.id p.2).Nodup ∧
      ∀ p ∈ k.all ds, p.1 < (replay ds).nextSession ∧ HasId.id p.2 ≤ k.seq (replay ds).tables := by
  induction h with
  | nil => exact ⟨List.nodup_nil, fun p hp => by cases hp⟩
  | @snoc ds d before allowed ih =>
      obtain ⟨distinct, bounds⟩ := ih
      have later := nextSession_le_after allowed
      rw [all_snoc, replay_snoc]
      cases hd : k.row? d with
      | none =>
          obtain ⟨seq, _, _⟩ := reg.other hd allowed
          rw [Option.toList_none, List.append_nil, seq]
          exact ⟨distinct, fun p hp => ⟨Nat.lt_of_lt_of_le (bounds p hp).1 later, (bounds p hp).2⟩⟩
      | some p =>
          obtain ⟨s, row⟩ := p
          obtain ⟨_, _, ⟨x, hx⟩, id, seq, _, _⟩ := reg.drawn hd allowed
          rw [Option.toList_some, seq, id]
          refine ⟨?_, ?_⟩
          · rw [List.map_append]
            refine List.nodup_append.mpr ⟨distinct, List.nodup_singleton _, ?_⟩
            intro n hn m hm same
            obtain ⟨p, hp, old⟩ := List.mem_map.mp hn
            have new : m = HasId.id row := List.mem_singleton.mp hm
            have early := (bounds p hp).2
            omega
          · intro p hp
            cases List.mem_append.mp hp with
            | inl old =>
                have ⟨begun, early⟩ := bounds p old
                exact ⟨Nat.lt_of_lt_of_le begun later, by omega⟩
            | inr new =>
                cases List.mem_singleton.mp new
                have begun := lt_of_drafts (sound_replay before) hx
                exact ⟨Nat.lt_of_lt_of_le begun later, Int.le_of_eq id⟩

/-- Two drawn rows with one id are one row of one session. -/
theorem eq_of_id (reg : k.Regular) (h : Lawful ds) {row' : ρ} (hr : row ∈ k.of ds s)
    (hr' : row' ∈ k.of ds t) (same : HasId.id row = HasId.id row') : s = t ∧ row = row' := by
  have once := List.inj_on_of_nodup_map (numbered reg h).1 (mem_of.mp hr) (mem_of.mp hr') same
  exact ⟨congrArg (·.1) once, congrArg (·.2) once⟩

/-- An open session has staged the rows that it has drawn. -/
theorem staged_of_drafts (reg : k.Regular) (h : Lawful ds) (hx : (replay ds).drafts s = some x) :
    k.staged x = k.of ds s := by
  induction h generalizing x with
  | nil => cases hx
  | @snoc ds d before allowed ih =>
      rw [replay_snoc] at hx
      cases drafts_after allowed hx with
      | inl old =>
          obtain ⟨y, hy, rfl⟩ := old
          cases hd : k.row? d with
          | none =>
              obtain ⟨_, _, drafting⟩ := reg.other hd allowed
              rw [of_snoc_of_none hd, ← ih hy]
              split
              · exact drafting y
              · rfl
          | some p =>
              obtain ⟨t, row⟩ := p
              obtain ⟨mine, _, _, _, _, _, drafting⟩ := reg.drawn hd allowed
              rw [of_snoc_of_some hd, ← ih hy, mine]
              by_cases same : t = s
              · rw [if_pos (congrArg some same), if_pos same]
                exact drafting y
              · rw [if_neg fun eq => same (Option.some.inj eq), if_neg same, List.append_nil]
      | inr new =>
          obtain ⟨rfl, late, began⟩ := new
          have nothing : k.of ds s = [] := by
            refine List.eq_nil_iff_forall_not_mem.mpr fun row hr => ?_
            have begun := ((numbered reg before).2 _ (mem_of.mp hr)).1
            exact Nat.lt_irrefl _ (late ▸ begun)
          have quiet : k.row? d = none := by
            cases hd : k.row? d with
            | none => rfl
            | some p =>
                obtain ⟨t, row⟩ := p
                obtain ⟨mine, _, ⟨y, hy⟩, _⟩ := reg.drawn hd allowed
                rw [began] at mine
                cases mine
                have begun := lt_of_drafts (sound_replay before) hy
                exact absurd begun (Nat.not_lt.mpr (Nat.le_of_eq late.symm))
          rw [of_snoc_of_none quiet, nothing]
          exact reg.empty.2

/-- What is committed is what the committed sessions have drawn. -/
theorem rows_perm (reg : k.Regular) (h : Lawful ds) :
    (k.rows (replay ds).tables).Perm (k.kept ds) := by
  induction h with
  | nil => exact List.Perm.of_eq reg.empty.1
  | @snoc ds d before allowed ih =>
      rw [replay_snoc, kept, commits_snoc, List.flatMap_append]
      cases hd : k.row? d with
      | some p =>
          obtain ⟨s, row⟩ := p
          obtain ⟨_, noCommit, ⟨x, hx⟩, _, _, rows, _⟩ := reg.drawn hd allowed
          have same : ∀ t ∈ commits ds, k.of (ds ++ [d]) t = k.of ds t := by
            intro t ht
            have other : s ≠ t := fun same => not_mem_commits before hx (same ▸ ht)
            rw [of_snoc_of_some hd, if_neg other, List.append_nil]
          rw [rows, noCommit, Option.toList_none, List.flatMap_nil, List.append_nil,
            List.flatMap_congr same]
          exact ih
      | none =>
          obtain ⟨_, rows, _⟩ := reg.other hd allowed
          have same : k.of (ds ++ [d]) = k.of ds := funext (of_snoc_of_none hd)
          rw [same]
          cases noCommit : d.commit? with
          | none =>
              rw [rows noCommit, Option.toList_none, List.flatMap_nil, List.append_nil]
              exact ih
          | some s =>
              cases d <;> cases noCommit
              obtain ⟨x, hx, _⟩ := allowed
              rw [reg.published hx, staged_of_drafts reg before hx, Option.toList_some,
                List.flatMap_singleton]
              refine (Table.foldl_insert_perm ?_ ?_).trans (ih.append_right _)
              · rw [of, List.map_map]
                exact (numbered reg before).1.sublist (List.filter_sublist.map _)
              · intro n hn r hr eq
                obtain ⟨t, ht, hr⟩ := List.mem_flatMap.mp (ih.mem_iff.mp hr)
                have owner := (eq_of_id reg before hr hn eq).1
                exact not_mem_commits before hx (owner ▸ ht)

theorem mem_rows (reg : k.Regular) (h : Lawful ds) (hs : s ∈ commits ds) (hr : row ∈ k.of ds s) :
    row ∈ k.rows (replay ds).tables :=
  (rows_perm reg h).mem_iff.mpr (List.mem_flatMap.mpr ⟨s, hs, hr⟩)

end Drawing

namespace MemoryStore

theorem checkStaged_eq_ok {t : Tables} {x : Session} :
    checkStaged t x = .ok () ↔ (∀ e ∈ x.entries, t.hasAccount e.accountId = true) ∧
      ∀ row ∈ x.transactions, t.hasAccount row.fromId = true ∧ t.hasAccount row.toId = true := by
  have all : ∀ {ρ : Type} (f : ρ → Except Conflict Unit) (rows : List ρ),
      rows.forM f = .ok () ↔ ∀ row ∈ rows, f row = .ok () := by
    intro ρ f rows
    induction rows with
    | nil => exact ⟨(fun _ _ no => by cases no), fun _ => rfl⟩
    | cons row rows ih =>
        change (f row >>= fun _ => rows.forM f) = .ok () ↔ _
        cases hf : f row with
        | error e =>
            refine ⟨(fun no => by cases no), fun h => ?_⟩
            have first := h row List.mem_cons_self
            rw [hf] at first
            cases first
        | ok _ =>
            refine ih.trans ⟨fun h r hr => ?_, fun h r hr => h r (List.mem_cons_of_mem row hr)⟩
            cases List.mem_cons.mp hr with
            | inl same => exact same ▸ hf
            | inr later => exact h r later
  have sides : ∀ row : Transaction, t.checkSides row.toNewTransaction = .ok () ↔
      t.hasAccount row.fromId = true ∧ t.hasAccount row.toId = true :=
    fun row => Tables.checkSides_eq_ok
  simp only [checkStaged]
  cases first : x.entries.forM fun e => t.checkAccount .entries e.accountId with
  | error c =>
      refine ⟨(fun no => by cases no), fun h => ?_⟩
      rw [(all _ _).mpr fun e he => Tables.checkAccount_eq_ok.mpr (h.1 e he)] at first
      cases first
  | ok _ =>
      have entries := (all _ _).mp first
      refine (all _ _).trans ⟨fun h => ⟨fun e he => ?_, fun row hr => ?_⟩, fun h row hr => ?_⟩
      · exact Tables.checkAccount_eq_ok.mp (entries e he)
      · exact (sides row).mp (h row hr)
      · exact (sides row).mpr (h.2 row hr)

end MemoryStore

namespace Books

variable {b : Books} {d : Deed} {ds : List Deed}

/-- An account stays there until it is deleted. -/
theorem hasAccount_after (sound : b.Sound) (allowed : b.Allows d) {a : Int}
    (there : b.tables.hasAccount a = true) (kept : d ≠ .deleted a) :
    (b.after d).tables.hasAccount a = true := by
  cases d with
  | committed s =>
      obtain ⟨x, hx, _⟩ := allowed
      obtain ⟨c, hc, same⟩ := Table.contains_iff.mp there
      refine Table.contains_iff.mpr ⟨c.settled x.accounts, ?_, ?_⟩
      · rw [accounts_committed sound hx]
        exact List.mem_map_of_mem hc
      · exact (Account.id_settled x.accounts c).trans same
  | opened account =>
      obtain ⟨c, hc⟩ := Table.contains_iff_find?.mp there
      refine Table.contains_iff_find?.mpr ?_
      change ∃ row, Table.find? a (Table.insert account b.tables.accounts) = some row
      rw [Table.find?_insert]
      split
      · exact ⟨account, rfl⟩
      · exact ⟨c, hc⟩
  | deleted a' =>
      obtain ⟨c, hc, same⟩ := Table.contains_iff.mp there
      refine Table.contains_iff.mpr ⟨c, Table.mem_erase.mpr ⟨hc, fun eq => kept ?_⟩, same⟩
      rw [← same, eq]
  | _ => exact there

/-- The account that a deed has changed in a session, as it is afterwards. -/
def change? (s : SessionId) : Deed → Option Account
  | .changedBalance t _ row => if t = s then some row else none
  | _ => none

/-- The accounts that a session has changed, as they were after each change. -/
def changes (ds : List Deed) (s : SessionId) : List Account := ds.filterMap (change? s)

theorem changes_snoc (ds : List Deed) (d : Deed) (s : SessionId) :
    changes (ds ++ [d]) s = changes ds s ++ (change? s d).toList := by
  cases h : change? s d <;> simp [changes, h]

theorem changes_filter (ds : List Deed) (s : SessionId) :
    changes (ds.filter (·.isOf s)) s = changes ds s := by
  refine Deed.filterMap_isOf (fun d row found => ?_) ds
  cases d with
  | changedBalance t delta row' =>
      simp only [change?] at found
      split at found
      · rename_i same
        exact congrArg some same
      · cases found
  | _ => cases found

/-- An open session has drafted what it has changed. -/
theorem accounts_of_drafts (h : Lawful ds) {s : SessionId} {x : Session}
    (hx : (replay ds).drafts s = some x) :
    x.accounts = (changes ds s).foldl (fun rows row => Table.insert row rows) [] := by
  induction h generalizing x with
  | nil => cases hx
  | @snoc ds d before allowed ih =>
      rw [replay_snoc] at hx
      rw [changes_snoc, List.foldl_append]
      cases drafts_after allowed hx with
      | inl old =>
          obtain ⟨y, hy, rfl⟩ := old
          rw [← ih hy]
          cases d with
          | changedBalance t delta row =>
              by_cases same : t = s <;> simp [change?, Deed.session?, Deed.drafting, same]
          | _ => split <;> rfl
      | inr new =>
          obtain ⟨rfl, late, rfl⟩ := new
          have nothing : changes ds s = [] := by
            refine List.filterMap_eq_nil_iff.mpr fun d hd => ?_
            cases d with
            | changedBalance t delta row =>
                refine if_neg fun same => ?_
                have begun := (begun_of_changed before hd).1
                exact Nat.lt_irrefl _ (late ▸ same ▸ begun)
            | _ => rfl
          rw [nothing]
          rfl

/-- The accounts that committed rows refer to are there. -/
structure Referenced (t : Tables) : Prop where
  entries : ∀ e ∈ t.entries, t.hasAccount e.accountId = true
  transactions : ∀ row ∈ t.transactions,
    t.hasAccount row.fromId = true ∧ t.hasAccount row.toId = true

theorem isReferenced_eq_false {t : Tables} {a : Int} (h : t.isReferenced a = false) :
    (∀ e ∈ t.entries, e.accountId ≠ a) ∧
      ∀ row ∈ t.transactions, row.fromId ≠ a ∧ row.toId ≠ a := by
  simpa [Tables.isReferenced, NewTransaction.involves] using h

theorem referenced_of_lawful (h : Lawful ds) : Referenced (replay ds).tables := by
  induction h with
  | nil => exact ⟨fun _ no => (by cases no), fun _ no => by cases no⟩
  | @snoc ds d before allowed ih =>
      have sound := sound_replay before
      rw [replay_snoc]
      cases d with
      | committed s =>
          have keep := fun a there => hasAccount_after (a := a) sound allowed there (by simp)
          obtain ⟨x, hx, check⟩ := id allowed
          obtain ⟨entries, transactions⟩ := MemoryStore.checkStaged_eq_ok.mp check
          refine ⟨fun e he => keep _ ?_, fun row hr => ?_⟩
          · rw [show ((replay ds).after (.committed s)).tables.entries = _ from
              Drawing.regular_entries.published hx] at he
            cases Table.mem_foldl_insert he with
            | inl old => exact ih.entries e old
            | inr new => exact entries e new
          · rw [show ((replay ds).after (.committed s)).tables.transactions = _ from
              Drawing.regular_transactions.published hx] at hr
            cases Table.mem_foldl_insert hr with
            | inl old =>
                have ⟨source, destination⟩ := ih.transactions row old
                exact ⟨keep _ source, keep _ destination⟩
            | inr new => exact ⟨keep _ (transactions row new).1, keep _ (transactions row new).2⟩
      | deleted a =>
          obtain ⟨entries, transactions⟩ := isReferenced_eq_false allowed.2.1
          refine ⟨fun e he => ?_, fun row hr => ?_⟩
          · refine hasAccount_after sound allowed (ih.entries e he) fun same => ?_
            cases same
            exact entries e he rfl
          · obtain ⟨source, destination⟩ := transactions row hr
            have ⟨fromThere, toThere⟩ := ih.transactions row hr
            refine ⟨hasAccount_after sound allowed fromThere fun same => ?_,
              hasAccount_after sound allowed toThere fun same => ?_⟩
            · cases same
              exact source rfl
            · cases same
              exact destination rfl
      | opened account =>
          have keep := fun a there => hasAccount_after (a := a) sound allowed there (by simp)
          exact ⟨fun e he => keep _ (ih.entries e he), fun row hr =>
            ⟨keep _ (ih.transactions row hr).1, keep _ (ih.transactions row hr).2⟩⟩
      | _ => exact ⟨ih.entries, ih.transactions⟩

end Books
end DoubleEntry
