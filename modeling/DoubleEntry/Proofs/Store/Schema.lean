import DoubleEntry.Proofs.Decimal.Value
import DoubleEntry.Proofs.Store.Kept

/-!
The rules of the schema for single rows. They are checked where a row is staged or created, and not
again by a commit; a balance is checked anew after every delta. So they hold of every row, committed
or staged, whatever is asked of the store.
-/

namespace DoubleEntry

structure Account.InSchema (a : Account) : Prop where
  notNegative : 0 ≤ a.balance.value
  room : HasRoom a.balance.value
  currency : a.currency.utf8ByteSize ≤ 3

def Entry.InSchema (e : Entry) : Prop := HasRoom e.amount.value

structure NewTransaction.InSchema (t : NewTransaction) : Prop where
  amountPositive : 0 < t.amount.value
  amountRoom : HasRoom t.amount.value
  feePositive : 0 < t.fee.value
  feeRoom : HasRoom t.fee.value
  currency : t.currency.utf8ByteSize ≤ 3

/-- Rows of all three tables, each of which obeys its rules. -/
structure RowsInSchema (accounts : List Account) (entries : List Entry)
    (transactions : List Transaction) : Prop where
  accounts : ∀ a ∈ accounts, a.InSchema
  entries : ∀ e ∈ entries, e.InSchema
  transactions : ∀ t ∈ transactions, t.toNewTransaction.InSchema

def Tables.InSchema (t : Tables) : Prop := RowsInSchema t.accounts t.entries t.transactions

def Session.InSchema (x : Session) : Prop := RowsInSchema x.accounts x.entries x.transactions

/-- Every row that is committed and every row that some session has staged obeys the schema. -/
structure MemoryStore.InSchema (st : MemoryStore) : Prop where
  committed : st.tables.InSchema
  staged : ∀ p ∈ st.sessions, p.2.InSchema

theorem rowsInSchema_nil : RowsInSchema [] [] [] where
  accounts _ h := by cases h
  entries _ h := by cases h
  transactions _ h := by cases h

theorem bind_eq_ok {ε α : Type} {x : Except ε Unit} {f : Unit → Except ε α} {b : α} :
    (x >>= f) = .ok b ↔ x = .ok () ∧ f () = .ok b := by
  cases x with
  | error e => exact ⟨(fun h => by cases h), fun h => by cases h.1⟩
  | ok u => exact (and_iff_right rfl).symm

theorem checkColumn_eq_ok {column : String} {d : Decimal} :
    checkColumn column d = .ok () ↔ HasRoom d.value := by
  rw [← Decimal.fitsColumn_iff_hasRoom, checkColumn]
  split <;> simp_all

theorem checkCurrency_eq_ok {code : String} :
    checkCurrency code = .ok () ↔ code.utf8ByteSize ≤ 3 := by
  rw [checkCurrency, Currency.codeLength]
  split <;> simp_all

theorem NewAccount.inSchema_of_check {new : NewAccount} (h : new.check = .ok ()) (id : Int)
    (createdAt : Timestamp) :
    Account.InSchema ⟨id, new.owner, new.balance, new.currency, createdAt⟩ := by
  simp only [NewAccount.check] at h
  split at h
  · cases h
  · rename_i notNegative
    obtain ⟨room, currency⟩ := bind_eq_ok.mp h
    refine ⟨?_, checkColumn_eq_ok.mp room, checkCurrency_eq_ok.mp currency⟩
    rw [Decimal.lt_iff_value, Decimal.value_zero] at notNegative
    exact not_lt.mp notNegative

theorem NewTransaction.inSchema_of_check {new : NewTransaction} (h : new.check = .ok ()) :
    new.InSchema := by
  simp only [NewTransaction.check, Decimal.le_iff_value, Decimal.value_zero] at h
  split at h
  · cases h
  · rename_i amount
    split at h
    · cases h
    · rename_i fee
      obtain ⟨amountRoom, h⟩ := bind_eq_ok.mp h
      obtain ⟨feeRoom, currency⟩ := bind_eq_ok.mp h
      exact ⟨not_le.mp amount, checkColumn_eq_ok.mp amountRoom, not_le.mp fee,
        checkColumn_eq_ok.mp feeRoom, checkCurrency_eq_ok.mp currency⟩

namespace MemoryStore

variable {st : MemoryStore} {s : SessionId} {x y : Session} {now : Timestamp}

theorem inSchema_setSession (h : st.InSchema) (hy : y.InSchema) : (st.setSession s y).InSchema where
  committed := h.committed
  staged p hp := by
    rcases mem_setSession hp with rfl | old
    · exact hy
    · exact h.staged p old

theorem inSchema_tables (h : st.InSchema) {tables : Tables} (ht : tables.InSchema) :
    InSchema { st with tables := tables } :=
  ⟨ht, h.staged⟩

theorem inSchema_finish (h : st.InSchema) : (st.finish s x).InSchema :=
  have kept := inSchema_setSession (y := { finished := true }) h rowsInSchema_nil
  ⟨kept.committed, kept.staged⟩

theorem inSchema_begin (h : st.InSchema) : st.begin.2.InSchema where
  committed := h.committed
  staged p hp := by
    rcases List.mem_append.mp hp with old | new
    · exact h.staged p old
    · rw [List.mem_singleton.mp new]
      exact rowsInSchema_nil

theorem inSchema_abandon (h : st.InSchema) : (st.abandon s).InSchema := by
  simp only [abandon]
  split
  · rename_i x _
    have after := inSchema_finish (s := s) (x := x) h
    exact ⟨after.committed, fun p hp => after.staged p (List.mem_filter.mp hp).1⟩
  · exact h

theorem inSchema_insertTransaction (h : st.InSchema) (hx : x.InSchema) (new : NewTransaction) :
    (st.insertTransaction now s x new).2.InSchema := by
  simp only [insertTransaction]
  split
  · rename_i row tables drawn
    obtain ⟨check, _, _, rfl, rfl⟩ := Tables.drawTransaction_eq_ok.mp drawn
    let row : Transaction :=
      { toNewTransaction := new, id := st.tables.transactionSeq + 1, createdAt := now }
    have grown : Session.InSchema { x with transactions := x.transactions ++ [row] } := by
      refine ⟨hx.accounts, hx.entries, fun t ht => ?_⟩
      rcases List.mem_append.mp ht with old | new
      · exact hx.transactions t old
      · rw [List.mem_singleton.mp new]
        exact NewTransaction.inSchema_of_check check
    exact ⟨h.committed, (inSchema_setSession h grown).staged⟩
  · exact h

theorem inSchema_insertEntry (h : st.InSchema) (hx : x.InSchema) (a : Int) (amount : Decimal) :
    (st.insertEntry now s x a amount).2.InSchema := by
  simp only [insertEntry]
  split
  · rename_i row tables drawn
    obtain ⟨fits, _, rfl, rfl⟩ := Tables.drawEntry_eq_ok.mp drawn
    let row : Entry :=
      { id := st.tables.entrySeq + 1, accountId := a, amount := amount, createdAt := now }
    have grown : Session.InSchema { x with entries := x.entries ++ [row] } := by
      refine ⟨hx.accounts, fun e he => ?_, hx.transactions⟩
      rcases List.mem_append.mp he with old | new
      · exact hx.entries e old
      · rw [List.mem_singleton.mp new]
        exact (Decimal.fitsColumn_iff_hasRoom amount).mp fits
    exact ⟨h.committed, (inSchema_setSession h grown).staged⟩
  · exact h

/-- Whatever the delta, a balance that is accepted obeys the schema. -/
theorem inSchema_changed {account after : Account} {delta : Decimal} (h : account.InSchema)
    (ok : changed account delta = .ok after) : after.InSchema := by
  obtain ⟨balance, _, fits, notNegative, rfl⟩ := changed_eq_ok ok
  rw [Decimal.le_iff_value, Decimal.value_zero] at notNegative
  exact ⟨notNegative, (Decimal.fitsColumn_iff_hasRoom balance).mp fits, h.currency⟩

theorem inSchema_current? (h : st.InSchema) (hx : x.InSchema) {a : Int} {account : Account}
    (found : st.current? x a = some account) : account.InSchema := by
  rcases current?_eq_some.mp found with staged | ⟨_, committed⟩
  · exact hx.accounts account (Table.mem_of_find? staged)
  · exact h.committed.accounts account (Table.mem_of_find? committed)

theorem inSchema_addBalance (h : st.InSchema) (hx : x.InSchema) (a : Int) (delta : Decimal) :
    (st.addBalance s x a delta).2.InSchema := by
  simp only [addBalance]
  split
  · let unlocked : Session := { x with guards := x.guards.filter (·.1 != a) }
    have drafts : unlocked.InSchema := ⟨hx.accounts, hx.entries, hx.transactions⟩
    have kept := inSchema_setSession (s := s) h drafts
    exact ⟨kept.committed, kept.staged⟩
  · rename_i account found
    split
    · rename_i after ok
      refine inSchema_setSession h ⟨fun b hb => ?_, hx.entries, hx.transactions⟩
      rcases Table.mem_insert hb with rfl | old
      · exact inSchema_changed (inSchema_current? h hx found) ok
      · exact hx.accounts b old
    · exact h

theorem inSchema_setBalances {staged : List Account} (hs : ∀ a ∈ staged, a.InSchema)
    {rows : List Account} (h : ∀ c ∈ rows, c.InSchema) :
    ∀ c ∈ staged.foldl (fun rows a => Tables.setBalance a.id a.balance rows) rows,
      c.InSchema := by
  induction staged generalizing rows with
  | nil => exact h
  | cons a staged ih =>
      refine ih (fun b hb => hs b (List.mem_cons_of_mem a hb)) fun c hc => ?_
      obtain ⟨old, ho, rfl⟩ := List.mem_map.mp hc
      -- The balance is the staged one, everything else is as it was committed.
      split
      · have new := hs a List.mem_cons_self
        exact ⟨new.notNegative, new.room, (h old ho).currency⟩
      · exact h old ho

theorem inSchema_published {t : Tables} (h : t.InSchema) (hx : x.InSchema) :
    (published t x).InSchema where
  accounts := inSchema_setBalances hx.accounts h.accounts
  entries e he := (Table.mem_foldl_insert he).elim (h.entries e) (hx.entries e)
  transactions u hu := (Table.mem_foldl_insert hu).elim (h.transactions u) (hx.transactions u)

theorem inSchema_commit (h : st.InSchema) (hx : x.InSchema) : (st.commit s x).2.InSchema := by
  simp only [commit]
  split
  · exact inSchema_finish (inSchema_tables h (inSchema_published h.committed hx))
  · exact h

theorem inSchema_perform (h : st.InSchema) (op : SessionRequest) :
    (st.perform now s op).2.InSchema := by
  simp only [perform]
  split
  · exact h
  · rename_i x hx
    have staged := h.staged _ (mem_of_session? (openSession?_eq_some.mp hx).1)
    cases op with
    | insertTransaction new => exact inSchema_insertTransaction h staged new
    | insertEntry a amount => exact inSchema_insertEntry h staged a amount
    | addBalance a delta => exact inSchema_addBalance h staged a delta
    | commit => exact inSchema_commit h staged
    | rollback => exact inSchema_finish h

theorem inSchema_query (h : st.InSchema) (q : Query) : (st.query now q).2.InSchema := by
  simp only [query]
  cases q <;> dsimp only
  case createAccount new =>
    split
    · rename_i account tables created
      obtain ⟨check, rfl, rfl⟩ := Tables.createAccount_eq_ok created
      refine inSchema_tables h ⟨fun c hc => ?_, h.committed.entries, h.committed.transactions⟩
      rcases Table.mem_insert hc with rfl | old
      · exact NewAccount.inSchema_of_check check _ _
      · exact h.committed.accounts c old
    · exact h
  case deleteAccount a =>
    split
    · rename_i found tables deleted
      cases found with
      | false => exact inSchema_tables h (Tables.deleteAccount_of_false deleted ▸ h.committed)
      | true =>
          obtain ⟨_, _, rfl⟩ := Tables.deleteAccount_eq_ok deleted
          refine inSchema_tables h ⟨fun c hc => ?_, h.committed.entries, h.committed.transactions⟩
          exact h.committed.accounts c (List.mem_filter.mp hc).1
    · exact h
  all_goals exact h

theorem kept_inSchema : Kept InSchema where
  answer h now r := by
    cases r with
    | begin => exact inSchema_begin h
    | perform s op => exact inSchema_perform h op
    | abandon s => exact inSchema_abandon h
    | query q => exact inSchema_query h q
  addGuard {st} h s a n := by
    simp only [addGuard]
    split
    · rename_i x hx
      have staged := h.staged _ (mem_of_session? hx)
      exact inSchema_setSession h ⟨staged.accounts, staged.entries, staged.transactions⟩
    · exact h
  request h _ := ⟨h.committed, h.staged⟩
  claim h _ _ := ⟨h.committed, h.staged⟩
  discard h _ := ⟨h.committed, h.staged⟩
  prune h _ := ⟨h.committed, h.staged⟩

end MemoryStore

/-- Whatever clients ask of a store, in any order, its rows obey the schema, those that are staged
as well as those that are committed. -/
theorem Desk.rows_in_schema (moves : List Move) : (run moves).store.InSchema :=
  MemoryStore.kept_inSchema.run ⟨rowsInSchema_nil, fun _ h => by cases h⟩ moves

end DoubleEntry
