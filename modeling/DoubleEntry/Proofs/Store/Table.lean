import DoubleEntry.Store.Memory

/-!
Tables as maps from ids to rows. Looking up in a table needs no order of its rows; that a row is
found whenever it is there, and that ids stay distinct, needs the ascending order, which every
operation of a store keeps.
-/

namespace DoubleEntry

namespace Table

variable {α : Type} [HasId α]

/-- The ids grow from row to row. -/
def Ascending (rows : List α) : Prop := rows.Pairwise fun a b => HasId.id a < HasId.id b

theorem find?_cons (a : Int) (row : α) (rows : List α) :
    find? a (row :: rows) = if HasId.id row = a then some row else find? a rows := by
  simp only [find?]
  by_cases h : HasId.id row = a <;> simp [h]

theorem id_of_find? {a : Int} {rows : List α} {row : α} (h : find? a rows = some row) :
    HasId.id row = a := by
  simpa using List.find?_some h

theorem mem_of_find? {a : Int} {rows : List α} {row : α} (h : find? a rows = some row) :
    row ∈ rows :=
  List.mem_of_find?_eq_some h

theorem find?_eq_none_iff {a : Int} {rows : List α} :
    find? a rows = none ↔ ∀ row ∈ rows, HasId.id row ≠ a := by
  simp [find?]

theorem contains_iff {a : Int} {rows : List α} :
    contains a rows = true ↔ ∃ row ∈ rows, HasId.id row = a := by
  simp [contains]

theorem contains_iff_find? {a : Int} {rows : List α} :
    contains a rows = true ↔ ∃ row, find? a rows = some row := by
  constructor
  · intro h
    obtain ⟨row, hr, ha⟩ := contains_iff.mp h
    cases hf : find? a rows with
    | some found => exact ⟨found, rfl⟩
    | none => exact absurd ha (find?_eq_none_iff.mp hf row hr)
  · rintro ⟨row, h⟩
    exact contains_iff.mpr ⟨row, mem_of_find? h, id_of_find? h⟩

theorem find?_of_mem {rows : List α} (h : Ascending rows) {row : α} (hr : row ∈ rows) :
    find? (HasId.id row) rows = some row := by
  induction rows with
  | nil => cases hr
  | cons r rows ih =>
      have ⟨first, rest⟩ := List.pairwise_cons.mp h
      rw [find?_cons]
      rcases List.mem_cons.mp hr with rfl | later
      · simp
      · rw [if_neg (Int.ne_of_lt (first row later))]
        exact ih rest later

theorem ascending_nil : Ascending ([] : List α) := List.Pairwise.nil

theorem mem_insert {x row : α} {rows : List α} (h : x ∈ insert row rows) :
    x = row ∨ x ∈ rows := by
  induction rows with
  | nil => simpa [insert] using h
  | cons r rows ih =>
      simp only [insert] at h
      split at h
      · simpa using h
      · split at h
        · rcases List.mem_cons.mp h with rfl | later
          · exact .inl rfl
          · exact .inr (List.mem_cons_of_mem r later)
        · rcases List.mem_cons.mp h with rfl | later
          · exact .inr List.mem_cons_self
          · exact (ih later).imp_right (List.mem_cons_of_mem r)

/-- A row with the largest id comes last. -/
theorem insert_of_lt {row : α} {rows : List α} (h : ∀ r ∈ rows, HasId.id r < HasId.id row) :
    insert row rows = rows ++ [row] := by
  induction rows with
  | nil => rfl
  | cons r rows ih =>
      have first := h r List.mem_cons_self
      simp only [insert]
      rw [if_neg (by omega), if_neg (by omega),
        ih fun r' hr => h r' (List.mem_cons_of_mem r hr), List.cons_append]

theorem ascending_insert {rows : List α} (row : α) (h : Ascending rows) :
    Ascending (insert row rows) := by
  induction rows with
  | nil => exact List.pairwise_singleton _ _
  | cons r rows ih =>
      have ⟨first, rest⟩ := List.pairwise_cons.mp h
      simp only [insert]
      split
      · rename_i before
        refine List.pairwise_cons.mpr ⟨?_, h⟩
        intro x hx
        rcases List.mem_cons.mp hx with rfl | later
        · exact before
        · exact Int.lt_trans before (first x later)
      · split
        · rename_i same
          refine List.pairwise_cons.mpr ⟨?_, rest⟩
          intro x hx
          rw [same]
          exact first x hx
        · refine List.pairwise_cons.mpr ⟨?_, ih rest⟩
          intro x hx
          rcases mem_insert hx with rfl | later
          · omega
          · exact first x later

theorem find?_insert (a : Int) (row : α) (rows : List α) :
    find? a (insert row rows) = if HasId.id row = a then some row else find? a rows := by
  induction rows with
  | nil => exact find?_cons a row []
  | cons r rows ih =>
      simp only [insert]
      split
      · exact find?_cons a row (r :: rows)
      · split
        · rename_i same
          simp only [find?_cons, same]
          split <;> rfl
        · rename_i different
          rw [find?_cons, ih, find?_cons]
          by_cases ha : HasId.id r = a
          · rw [if_pos ha, if_pos ha, if_neg (fun h => different (h.trans ha.symm))]
          · rw [if_neg ha, if_neg ha]

theorem mem_foldl_insert {x : α} {news rows : List α}
    (h : x ∈ news.foldl (fun rows n => insert n rows) rows) : x ∈ rows ∨ x ∈ news := by
  induction news generalizing rows with
  | nil => exact .inl h
  | cons n news ih =>
      cases ih h with
      | inr later => exact .inr (List.mem_cons_of_mem n later)
      | inl now =>
          cases mem_insert now with
          | inl same => exact .inr (same ▸ List.mem_cons_self)
          | inr old => exact .inl old

/-- A row with a new id only joins the others. -/
theorem insert_perm {row : α} {rows : List α} (h : ∀ r ∈ rows, HasId.id r ≠ HasId.id row) :
    (insert row rows).Perm (row :: rows) := by
  induction rows with
  | nil => exact List.Perm.refl _
  | cons r rows ih =>
      simp only [insert]
      split
      · exact List.Perm.refl _
      · rw [if_neg (fun same => h r List.mem_cons_self same.symm)]
        have later := ih fun x hx => h x (List.mem_cons_of_mem r hx)
        exact (later.cons r).trans (List.Perm.swap row r rows)

theorem foldl_insert_perm {news rows : List α} (distinct : (news.map HasId.id).Nodup)
    (fresh : ∀ n ∈ news, ∀ r ∈ rows, HasId.id r ≠ HasId.id n) :
    (news.foldl (fun rows n => insert n rows) rows).Perm (rows ++ news) := by
  induction news generalizing rows with
  | nil => simp
  | cons n news ih =>
      have ⟨first, rest⟩ := List.nodup_cons.mp distinct
      have joined := insert_perm (fresh n List.mem_cons_self)
      have later : ∀ m ∈ news, ∀ r ∈ insert n rows, HasId.id r ≠ HasId.id m := by
        intro m hm r hr
        rcases mem_insert hr with rfl | old
        · intro same
          exact first (List.mem_map.mpr ⟨m, hm, same.symm⟩)
        · exact fresh m (List.mem_cons_of_mem n hm) r old
      have moved : (insert n rows ++ news).Perm (rows ++ n :: news) :=
        (joined.append_right news).trans List.perm_middle.symm
      exact (ih rest later).trans moved

theorem ascending_foldl_insert {news rows : List α} (h : Ascending rows) :
    Ascending (news.foldl (fun rows n => insert n rows) rows) := by
  induction news generalizing rows with
  | nil => exact h
  | cons n news ih => exact ih (ascending_insert n h)

theorem ascending_erase {rows : List α} (a : Int) (h : Ascending rows) :
    Ascending (erase a rows) :=
  List.Pairwise.filter _ h

theorem mem_erase {x : α} {a : Int} {rows : List α} :
    x ∈ erase a rows ↔ x ∈ rows ∧ HasId.id x ≠ a := by
  simp [erase]

/-- Changing rows but for their ids keeps their order. -/
theorem ascending_map {f : α → α} (hf : ∀ x, HasId.id (f x) = HasId.id x) {rows : List α}
    (h : Ascending rows) : Ascending (rows.map f) := by
  simp only [Ascending]
  rw [List.pairwise_map]
  exact h.imp fun lt => by rwa [hf, hf]

theorem find?_map {f : α → α} (hf : ∀ x, HasId.id (f x) = HasId.id x) (a : Int)
    (rows : List α) : find? a (rows.map f) = (find? a rows).map f := by
  induction rows with
  | nil => rfl
  | cons r rows ih =>
      rw [List.map_cons, find?_cons, find?_cons, hf, ih]
      split <;> rfl

end Table

/-- The account with the balance that is staged for it, if one is. -/
def Account.settled (staged : List Account) (c : Account) : Account :=
  match Table.find? c.id staged with
  | some a => { c with balance := a.balance }
  | none => c

namespace Account

@[simp] theorem id_settled (staged : List Account) (c : Account) :
    (c.settled staged).id = c.id := by
  simp only [settled]
  split <;> rfl

theorem settled_of_find? {staged : List Account} {c a : Account}
    (h : Table.find? c.id staged = some a) :
    c.settled staged = { c with balance := a.balance } := by
  simp [settled, h]

theorem settled_of_none {staged : List Account} {c : Account}
    (h : Table.find? c.id staged = none) : c.settled staged = c := by
  simp [settled, h]

end Account

namespace Tables

theorem checkAccount_eq_ok {t : Tables} {table : TableName} {a : Int} :
    t.checkAccount table a = .ok () ↔ t.hasAccount a = true := by
  simp only [checkAccount]
  split <;> simp_all

theorem checkSides_eq_ok {t : Tables} {new : NewTransaction} :
    t.checkSides new = .ok () ↔
      t.hasAccount new.fromId = true ∧ t.hasAccount new.toId = true := by
  simp only [checkSides]
  cases source : t.checkAccount .transactions new.fromId with
  | error c =>
      have missing : t.hasAccount new.fromId ≠ true := fun there => by
        rw [checkAccount_eq_ok.mpr there] at source
        cases source
      exact ⟨fun h => (by cases h), fun h => absurd h.1 missing⟩
  | ok _ =>
      have there : t.hasAccount new.fromId = true := checkAccount_eq_ok.mp source
      refine Iff.trans ?_ (and_iff_right there).symm
      exact checkAccount_eq_ok

theorem drawTransaction_eq_ok {t t' : Tables} {now : Timestamp} {new : NewTransaction}
    {row : Transaction} :
    t.drawTransaction now new = .ok (row, t') ↔
      new.check = .ok () ∧ t.hasAccount new.fromId = true ∧ t.hasAccount new.toId = true ∧
        row = { toNewTransaction := new, id := t.transactionSeq + 1, createdAt := now } ∧
        t' = { t with transactionSeq := t.transactionSeq + 1 } := by
  simp only [drawTransaction]
  cases check : new.check with
  | error c => exact ⟨(fun h => by cases h), fun h => by cases h.1⟩
  | ok _ =>
      cases sides : t.checkSides new with
      | error c =>
          refine ⟨(fun h => by cases h), fun h => ?_⟩
          rw [checkSides_eq_ok.mpr ⟨h.2.1, h.2.2.1⟩] at sides
          cases sides
      | ok _ =>
          have ⟨source, destination⟩ := checkSides_eq_ok.mp sides
          refine ⟨fun h => ?_, fun h => ?_⟩
          · cases h
            exact ⟨rfl, source, destination, rfl, rfl⟩
          · obtain ⟨_, _, _, rfl, rfl⟩ := h
            rfl

theorem drawEntry_eq_ok {t t' : Tables} {now : Timestamp} {a : Int} {amount : Decimal}
    {row : Entry} :
    t.drawEntry now a amount = .ok (row, t') ↔
      amount.FitsColumn ∧ t.hasAccount a = true ∧
        row = { id := t.entrySeq + 1, accountId := a, amount := amount, createdAt := now } ∧
        t' = { t with entrySeq := t.entrySeq + 1 } := by
  simp only [drawEntry, checkColumn]
  by_cases fits : amount.FitsColumn
  · rw [if_pos fits]
    cases there : t.checkAccount .entries a with
    | error c =>
        refine ⟨(fun h => by cases h), fun h => ?_⟩
        rw [checkAccount_eq_ok.mpr h.2.1] at there
        cases there
    | ok _ =>
        refine ⟨fun h => ?_, fun h => ?_⟩
        · cases h
          exact ⟨fits, checkAccount_eq_ok.mp there, rfl, rfl⟩
        · obtain ⟨_, _, rfl, rfl⟩ := h
          rfl
  · rw [if_neg fits]
    exact ⟨(fun h => by cases h), fun h => absurd h.1 fits⟩

theorem createAccount_eq_ok {t t' : Tables} {now : Timestamp} {new : NewAccount}
    {account : Account} (h : t.createAccount now new = .ok (account, t')) :
    new.check = .ok () ∧
      account = { id := t.accountSeq + 1, owner := new.owner, balance := new.balance,
                  currency := new.currency, createdAt := now } ∧
      t' = { t with accounts := Table.insert account t.accounts,
                    accountSeq := t.accountSeq + 1 } := by
  simp only [createAccount] at h
  cases check : new.check with
  | error c =>
      rw [check] at h
      cases h
  | ok _ =>
      rw [check] at h
      cases h
      exact ⟨rfl, rfl, rfl⟩

theorem deleteAccount_eq_ok {t t' : Tables} {a : Int} (h : t.deleteAccount a = .ok (true, t')) :
    t.hasAccount a = true ∧ t.isReferenced a = false ∧
      t' = { t with accounts := Table.erase a t.accounts } := by
  simp only [deleteAccount] at h
  split at h
  · cases h
  · rename_i there
    split at h
    · cases h
    · rename_i free
      cases h
      exact ⟨by simpa using there, by simpa using free, rfl⟩

theorem deleteAccount_of_false {t t' : Tables} {a : Int}
    (h : t.deleteAccount a = .ok (false, t')) : t' = t := by
  simp only [deleteAccount] at h
  split at h
  · cases h
    rfl
  · split at h <;> cases h

end Tables

theorem NewAccount.check_eq_ok {new : NewAccount} (h : new.check = .ok ()) :
    Decimal.zero ≤ new.balance ∧ new.balance.FitsColumn := by
  simp only [NewAccount.check, checkColumn] at h
  by_cases negative : new.balance < Decimal.zero
  · rw [if_pos negative] at h
    cases h
  · rw [if_neg negative] at h
    by_cases fits : new.balance.FitsColumn
    · exact ⟨Int.not_lt.mp negative, fits⟩
    · rw [if_neg fits] at h
      cases h

namespace MemoryStore

theorem foldl_setBalance {staged : List Account} (h : Table.Ascending staged)
    (rows : List Account) :
    staged.foldl (fun rows a => Tables.setBalance a.id a.balance rows) rows =
      rows.map (Account.settled staged) := by
  induction staged generalizing rows with
  | nil =>
      have same : Account.settled [] = id := by
        funext c
        rfl
      rw [same, List.map_id, List.foldl_nil]
  | cons a staged ih =>
      have ⟨first, rest⟩ := List.pairwise_cons.mp h
      rw [List.foldl_cons, ih rest, Tables.setBalance, List.map_map]
      apply List.map_congr_left
      intro c _
      by_cases hc : c.id = a.id
      · have last : Table.find? c.id staged = none := by
          refine Table.find?_eq_none_iff.mpr fun x hx same => ?_
          have := first x hx
          change x.id = c.id at same
          change a.id < x.id at this
          omega
        have mine : Table.find? c.id (a :: staged) = some a := by
          rw [Table.find?_cons]
          exact if_pos hc.symm
        simp only [Function.comp_apply, if_pos hc]
        rw [Account.settled_of_find? mine]
        exact Account.settled_of_none last
      · have mine : Table.find? c.id (a :: staged) = Table.find? c.id staged := by
          rw [Table.find?_cons]
          exact if_neg fun same => hc same.symm
        simp only [Function.comp_apply, if_neg hc, Account.settled, mine]

/-- Publishing sets the staged balances and adds the staged records. -/
theorem published_accounts (tables : Tables) {session : Session}
    (h : Table.Ascending session.accounts) :
    (published tables session).accounts =
      tables.accounts.map (Account.settled session.accounts) :=
  foldl_setBalance h tables.accounts

end MemoryStore
end DoubleEntry
