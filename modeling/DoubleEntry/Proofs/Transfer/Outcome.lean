import DoubleEntry.Proofs.Store.Deltas
import DoubleEntry.Proofs.Store.Texts
import DoubleEntry.Proofs.Transfer.Course

/-!
What a transfer comes to. If nobody has locked its accounts, a valid transfer succeeds if and only
if both accounts exist, the source can pay the amount, and the destination has room for it. Then the
amount has moved, exactly, and three rows with new ids are added; otherwise the store refuses it and
has the rows that it had. A request that is not valid never reaches the store.
-/

namespace DoubleEntry

/-- Both accounts exist, the source can pay the amount, and the destination has room for it. -/
def TransferRequest.Covered (r : TransferRequest) (accounts : List Account) : Prop :=
  ∃ c k, Table.find? r.fromId accounts = some c ∧ Table.find? r.toId accounts = some k ∧
    r.amount.value ≤ c.balance.value ∧ k.balance.value + r.amount.value < 10 ^ 12

namespace Transfer

/-- The tables before and after a transfer that has succeeded, and its result. The fee is in no
balance. -/
structure Performs (r : TransferRequest) (now : Timestamp) (t : Tables) (res : TransferResult)
    (t' : Tables) : Prop where
  source : ∃ c, Table.find? r.fromId t.accounts = some c ∧
    res.fromAccount = { c with balance := res.fromAccount.balance } ∧
    res.fromAccount.balance.value = c.balance.value - r.amount.value
  destination : ∃ k, Table.find? r.toId t.accounts = some k ∧
    res.toAccount = { k with balance := res.toAccount.balance } ∧
    res.toAccount.balance.value = k.balance.value + r.amount.value
  transaction : ∃ i, res.transaction =
    { toNewTransaction := r.toNewTransaction, id := i, createdAt := now }
  fromEntry : ∃ i, res.fromEntry = ⟨i, r.fromId, -r.amount, now⟩
  toEntry : ∃ i, res.toEntry = ⟨i, r.toId, r.amount, now⟩
  accounts : t'.accounts = t.accounts.map fun a =>
    if a.id = r.fromId then res.fromAccount else if a.id = r.toId then res.toAccount else a
  transactions : t'.transactions = t.transactions ++ [res.transaction]
  entries : t'.entries = t.entries ++ [res.fromEntry, res.toEntry]

/-- The rows of a result have ids that no row has had before. -/
structure Fresh (ds : List Deed) (res : TransferResult) : Prop where
  transaction : ∀ p ∈ Drawing.transactions.all ds, p.2.id < res.transaction.id
  entry : ∀ p ∈ Drawing.entries.all ds, p.2.id < res.fromEntry.id
  entries : res.fromEntry.id < res.toEntry.id

end Transfer

/-- The ids of committed rows are drawn before. -/
theorem Drawing.id_le_seq {ρ : Type} [HasId ρ] {k : Drawing ρ} (reg : k.Regular) {ds : List Deed}
    (h : Books.Lawful ds) :
    ∀ row ∈ k.rows (Books.replay ds).tables, HasId.id row ≤ k.seq (Books.replay ds).tables := by
  intro row hr
  obtain ⟨s, _, drawn⟩ := List.mem_flatMap.mp ((Drawing.rows_perm reg h).mem_iff.mp hr)
  exact ((Drawing.numbered reg h).2 _ (Drawing.mem_of.mp drawn)).2

namespace Transfer

open MemoryStore

variable {r : TransferRequest} {t : Tables} {now : Timestamp} {source destination c k : Account}

/-- A staged account settles the committed one, and an account that is not staged is as it was. -/
theorem settled_staged (apart : r.fromId ≠ r.toId) (ascending : Table.Ascending t.accounts)
    (hc : Table.find? r.fromId t.accounts = some c) (hk : Table.find? r.toId t.accounts = some k)
    (debit : source = { c with balance := source.balance })
    (credit : destination = { k with balance := destination.balance }) :
    ∀ a ∈ t.accounts, a.settled (staged r source destination) =
      if a.id = r.fromId then source else if a.id = r.toId then destination else a := by
  have from_ : source.id = r.fromId := by
    rw [debit]
    exact Table.id_of_find? hc
  have to_ : destination.id = r.toId := by
    rw [credit]
    exact Table.id_of_find? hk
  have ⟨stagedSource, stagedDestination⟩ := find?_staged apart from_ to_
  intro a ha
  have found := Table.find?_of_mem ascending ha
  by_cases isSource : a.id = r.fromId
  · have same : c = a := Option.some.inj (hc.symm.trans (isSource ▸ found))
    rw [if_pos isSource, Account.settled_of_find? (isSource.symm ▸ stagedSource), debit, same]
  by_cases isDestination : a.id = r.toId
  · have same : k = a := Option.some.inj (hk.symm.trans (isDestination ▸ found))
    rw [if_neg isSource, if_pos isDestination,
      Account.settled_of_find? (isDestination.symm ▸ stagedDestination), credit, same]
  · rw [if_neg isSource, if_neg isDestination]
    refine Account.settled_of_none (Table.find?_eq_none_iff.mpr fun row hr => ?_)
    have other : row = source ∨ row = destination := by
      simp only [staged] at hr
      rcases Table.mem_foldl_insert hr with old | new
      · cases old
      · split at new <;> simp at new <;> rcases new with rfl | rfl <;> simp
    rcases other with rfl | rfl
    · exact fun same => isSource (same.symm.trans from_)
    · exact fun same => isDestination (same.symm.trans to_)

/-- A debit that a valid request asks for is made if the balance covers it, and then exactly. -/
theorem debit_made (h : c.InSchema) (valid : r.Valid) :
    ((∃ row, changed c (-r.amount) = .ok row) ↔ r.amount.value ≤ c.balance.value) ∧
    ∀ row, changed c (-r.amount) = .ok row →
      row.balance.value = c.balance.value - r.amount.value := by
  have new := NewTransaction.inSchema_of_check (TransferRequest.check_of_validate valid.accepted)
  have room := (Decimal.fitsColumn_iff_hasRoom _).mp (Decimal.fitsColumn_neg valid.fits)
  obtain ⟨made, exactly⟩ := changed_of_hasRoom h room
  rw [Decimal.value_neg, ← sub_eq_add_neg] at made exactly
  refine ⟨made.trans ⟨fun bounds => sub_nonneg.mp bounds.1, fun covered => ?_⟩, exactly⟩
  exact ⟨sub_nonneg.mpr covered,
    (sub_lt_self c.balance.value new.amountPositive).trans (abs_lt.mp h.room.2).2⟩

/-- A credit is made if there is room for it, and then exactly. -/
theorem credit_made (h : k.InSchema) (valid : r.Valid) :
    ((∃ row, changed k r.amount = .ok row) ↔ k.balance.value + r.amount.value < 10 ^ 12) ∧
    ∀ row, changed k r.amount = .ok row →
      row.balance.value = k.balance.value + r.amount.value := by
  have new := NewTransaction.inSchema_of_check (TransferRequest.check_of_validate valid.accepted)
  obtain ⟨made, exactly⟩ := changed_of_hasRoom h new.amountRoom
  refine ⟨made.trans ⟨fun bounds => bounds.2, fun room => ⟨?_, room⟩⟩, exactly⟩
  exact add_nonneg h.notNegative new.amountPositive.le

/-- A balance is left with a text by the debit of an amount that has one. -/
theorem hasText_debited (balance : c.balance.HasText) (text : r.amount.HasText) (row : Account)
    (made : changed c (-r.amount) = .ok row) : row.balance.HasText := by
  have negated : (-r.amount).HasText := text
  exact hasText_changed balance negated made

/-- A store whose rows obey the schema, have texts, and are numbered by its sequences. -/
structure Sound (st : MemoryStore) : Prop where
  schema : st.InSchema
  texts : ∀ c ∈ st.tables.accounts, c.balance.HasText
  ascending : Table.Ascending st.tables.accounts
  entries : ∀ e ∈ st.tables.entries, e.id ≤ st.tables.entrySeq
  transactions : ∀ x ∈ st.tables.transactions, x.id ≤ st.tables.transactionSeq

/-- The end of a transfer that nobody hinders. Rows that a refused transfer has drawn are gone,
though not their ids. -/
structure Concludes (r : TransferRequest) (now : Timestamp) (st : MemoryStore)
    (outcome : Except LedgerError TransferResult) (st' : MemoryStore) : Prop where
  succeeds : (∃ res, outcome = .ok res) ↔ r.Covered st.tables.accounts
  performs : ∀ res, outcome = .ok res → Performs r now st.tables res st'.tables
  next : ∀ res, outcome = .ok res → st.tables.transactionSeq < res.transaction.id ∧
    st.tables.entrySeq < res.fromEntry.id ∧ res.fromEntry.id < res.toEntry.id
  refused : ∀ e, outcome = .error e → (∃ conflict, e = .conflict conflict) ∧
    st'.tables.accounts = st.tables.accounts ∧ st'.tables.entries = st.tables.entries ∧
    st'.tables.transactions = st.tables.transactions
  sessions : st'.sessions = st.sessions

variable {st : MemoryStore} {waits : List (Int × Nat)}

/-- New rows come after those that are there. -/
theorem rows_settled (sound : Sound st) (r : TransferRequest) (now : Timestamp)
    (source destination : Account) :
    let res := result r st.tables now source destination
    (settled r st.tables res).transactions = st.tables.transactions ++ [res.transaction] ∧
      (settled r st.tables res).entries = st.tables.entries ++ [res.fromEntry, res.toEntry] := by
  intro res
  have next : st.tables.entrySeq + 1 < st.tables.entrySeq + 2 := Int.add_lt_add_left (by decide) _
  have first : Table.insert res.fromEntry st.tables.entries =
      st.tables.entries ++ [res.fromEntry] :=
    Table.insert_of_lt fun e he => Int.lt_add_one_of_le (sound.entries e he)
  have second : Table.insert res.toEntry (st.tables.entries ++ [res.fromEntry]) =
      st.tables.entries ++ [res.fromEntry] ++ [res.toEntry] := by
    refine Table.insert_of_lt fun e he => ?_
    rcases List.mem_append.mp he with old | new
    · exact Int.lt_trans (Int.lt_add_one_of_le (sound.entries e old)) next
    · rw [List.mem_singleton.mp new]
      exact next
  refine ⟨Table.insert_of_lt fun x hx => Int.lt_add_one_of_le (sound.transactions x hx), ?_⟩
  change Table.insert res.toEntry (Table.insert res.fromEntry st.tables.entries) = _
  rw [first, second, List.append_assoc]
  rfl

/-- Both balances are changed, so that everything is written. -/
theorem concludes_made (u : UnitOfWork) (sound : Sound st) (h : Unhindered st waits r)
    (now : Timestamp) (text : r.amount.HasText)
    (hc : Table.find? r.fromId st.tables.accounts = some c)
    (hk : Table.find? r.toId st.tables.accounts = some k)
    (debit : changed c (-r.amount) = .ok source) (credit : changed k r.amount = .ok destination) :
    ∃ outcome st', (transfer u none r).run (alone now) st = (.finished outcome, st') ∧
      Concludes r now st outcome st' := by
  have debited := debit_made (sound.schema.committed.accounts c (Table.mem_of_find? hc)) h.valid
  have credited := credit_made (sound.schema.committed.accounts k (Table.mem_of_find? hk)) h.valid
  have sourceText := hasText_debited (sound.texts c (Table.mem_of_find? hc)) text source debit
  have destinationText := hasText_changed (sound.texts k (Table.mem_of_find? hk)) text credit
  have moves : Moves u.verbose r st.tables.accounts source destination :=
    ⟨h.valid, ⟨c, hc, debit⟩, ⟨k, hk, credit⟩, Decimal.isLoggable_of_hasText sourceText _,
      Decimal.isLoggable_of_hasText destinationText _⟩
  have open_ : (none : Option Nat) ≠ some 0 := nofun
  obtain ⟨st', ran, left⟩ := run_transfer u open_ h now moves
  let res := result r st.tables now source destination
  have sourceRow := (near_of_changed debit).1
  have destinationRow := (near_of_changed credit).1
  have performs : Performs r now st.tables res st'.tables := by
    rw [left.tables]
    have ⟨transactions, entries⟩ := rows_settled sound r now source destination
    refine ⟨⟨c, hc, sourceRow, debited.2 source debit⟩,
      ⟨k, hk, destinationRow, credited.2 destination credit⟩, ⟨_, rfl⟩, ⟨_, rfl⟩, ⟨_, rfl⟩,
      ?_, transactions, entries⟩
    rw [accounts_settled]
    exact List.map_congr_left
      (settled_staged h.valid.apart sound.ascending hc hk sourceRow destinationRow)
  have covered : r.Covered st.tables.accounts :=
    ⟨c, k, hc, hk, debited.1.mp ⟨source, debit⟩, credited.1.mp ⟨destination, credit⟩⟩
  refine ⟨.ok res, st', ran, ⟨fun _ => covered, fun _ => ⟨res, rfl⟩⟩, ?_, ?_, ?_, left.sessions⟩
  · intro res' same
    cases same
    exact performs
  · intro res' same
    cases same
    exact ⟨Int.lt_succ _, Int.lt_succ _, Int.add_lt_add_left (by decide) _⟩
  · nofun

/-- A transfer of which the body is refused is not covered, and leaves no row behind. -/
theorem concludes_refused (u : UnitOfWork) (h : Unhindered st waits r) {tables : Tables}
    (refused : Refuses ((record u.verbose r st.nextSession).toProgram.run (paced now) st.begin.2)
      st.nextSession st.sessions waits tables)
    (same : tables = st.tables ∨ tables = st.tables.drawn)
    (uncovered : ¬ r.Covered st.tables.accounts) :
    ∃ outcome st', (transfer u none r).run (alone now) st = (.finished outcome, st') ∧
      Concludes r now st outcome st' := by
  have open_ : (none : Option Nat) ≠ some 0 := nofun
  obtain ⟨conflict, st', ran, left⟩ := run_transfer_refused u open_ h refused
  have never (res : TransferResult) :
      (.error (.conflict conflict) : Except LedgerError TransferResult) ≠ .ok res := nofun
  refine ⟨_, st', ran, ?_, fun res made => absurd made (never res),
    fun res made => absurd made (never res), fun e made => ?_, left.sessions⟩
  · exact ⟨fun ⟨res, made⟩ => absurd made (never res), fun covered => absurd covered uncovered⟩
  · cases made
    refine ⟨⟨conflict, rfl⟩, ?_⟩
    rw [left.tables]
    rcases same with rfl | rfl <;> exact ⟨rfl, rfl, rfl⟩

/-- A transfer that nobody hinders comes to an end, whether or not it is covered. -/
theorem concludes_of_unhindered (u : UnitOfWork) (sound : Sound st) (h : Unhindered st waits r)
    (now : Timestamp) (text : r.amount.HasText) :
    ∃ outcome st', (transfer u none r).run (alone now) st = (.finished outcome, st') ∧
      Concludes r now st outcome st' := by
  have presence (a : Int) : st.tables.hasAccount a = true ↔
      ∃ c, Table.find? a st.tables.accounts = some c := Table.contains_iff_find?
  by_cases there : st.tables.hasAccount r.fromId = true ∧ st.tables.hasAccount r.toId = true
  case neg =>
    refine concludes_refused u h (run_record_missing h.clear now there) (.inl rfl) ?_
    rintro ⟨c, k, hc, hk, _⟩
    exact there ⟨(presence _).mpr ⟨c, hc⟩, (presence _).mpr ⟨k, hk⟩⟩
  obtain ⟨c, hc⟩ := (presence _).mp there.1
  obtain ⟨k, hk⟩ := (presence _).mp there.2
  have debited := debit_made (sound.schema.committed.accounts c (Table.mem_of_find? hc)) h.valid
  have credited := credit_made (sound.schema.committed.accounts k (Table.mem_of_find? hk)) h.valid
  have stuck (refused : (∃ e, changed c (-r.amount) = .error e) ∨
      ∃ e, changed k r.amount = .error e) (uncovered : ¬ r.Covered st.tables.accounts) :
      ∃ outcome st', (transfer u none r).run (alone now) st = (.finished outcome, st') ∧
        Concludes r now st outcome st' :=
    concludes_refused u h (run_record_refused h.clear now hc hk
      (fun row made => Decimal.isLoggable_of_hasText
        (hasText_debited (sound.texts c (Table.mem_of_find? hc)) text row made) _)
      (fun _ made => Decimal.isLoggable_of_hasText
        (hasText_changed (sound.texts k (Table.mem_of_find? hk)) text made) _)
      refused) (.inr rfl) uncovered
  have covers : r.Covered st.tables.accounts → r.amount.value ≤ c.balance.value ∧
      k.balance.value + r.amount.value < 10 ^ 12 := by
    rintro ⟨c', k', hc', hk', enough, room⟩
    cases hc.symm.trans hc'
    cases hk.symm.trans hk'
    exact ⟨enough, room⟩
  cases debit : changed c (-r.amount) with
  | error e =>
      refine stuck (.inl ⟨e, debit⟩) fun covered => ?_
      obtain ⟨row, made⟩ := debited.1.mpr (covers covered).1
      cases debit.symm.trans made
  | ok source =>
      cases credit : changed k r.amount with
      | error e =>
          refine stuck (.inr ⟨e, credit⟩) fun covered => ?_
          obtain ⟨row, made⟩ := credited.1.mpr (covers covered).2
          cases credit.symm.trans made
      | ok destination => exact concludes_made u sound h now text hc hk debit credit

/-- Whatever clients have done with a store, a transfer of which nobody has locked the accounts
succeeds if and only if it is covered, and does then what it says; otherwise it is refused and
leaves the rows as they are. A request that is not valid is turned away before that, and nothing at
all has changed. -/
theorem transfer_outcome {moves : List Move} (texts : ∀ m ∈ moves, m.Asks StoreRequest.HasText)
    (u : UnitOfWork) (r : TransferRequest) (text : r.amount.HasText) (now : Timestamp) :
    let d := Desk.run moves
    (∀ cause, r.validate = .error cause → (transfer u none r).run (alone now) d.store =
      (.finished (.error (.validation cause)), d.store)) ∧
    (r.validate = .ok () → d.store.locks.IsFree r.fromId → d.store.locks.IsFree r.toId →
      ∃ outcome st', (transfer u none r).run (alone now) d.store = (.finished outcome, st') ∧
        Concludes r now d.store outcome st' ∧
        ∀ res, outcome = .ok res → Fresh d.deeds res) := by
  intro d
  refine ⟨fun cause invalid => ?_, fun accepted source destination => ?_⟩
  · simp only [transfer, invalid]
    rfl
  have order : d.Orderly := Desk.orderly_run moves
  have tables : d.store.tables = (Books.replay d.deeds).tables := Desk.tables_eq order
  have sound : Sound d.store := by
    refine ⟨Desk.rows_in_schema moves, Desk.balances_legible texts, ?_, ?_, ?_⟩
    · rw [tables]
      exact (Books.sound_replay order.lawful).ascending
    · rw [tables]
      exact Drawing.id_le_seq Drawing.regular_entries order.lawful
    · rw [tables]
      exact Drawing.id_le_seq Drawing.regular_transactions order.lawful
  obtain ⟨outcome, st', ran, concludes⟩ := concludes_of_unhindered u sound
    ⟨order.store, TransferRequest.valid_of_validate accepted, source, destination⟩ now text
  refine ⟨outcome, st', ran, concludes, fun res made => ?_⟩
  obtain ⟨transaction, entry, entries⟩ := concludes.next res made
  rw [tables] at transaction entry
  exact ⟨fun p hp => Int.lt_of_le_of_lt
      ((Drawing.numbered Drawing.regular_transactions order.lawful).2 p hp).2 transaction,
    fun p hp => Int.lt_of_le_of_lt
      ((Drawing.numbered Drawing.regular_entries order.lawful).2 p hp).2 entry, entries⟩

/-- Two accounts, and a third one that another session has locked. -/
def besides : List Move :=
  let now := Timestamp.ofMillis 0
  [.submit now (.query (.createAccount ⟨"ada", "USD", .whole 5⟩)),
    .submit now (.query (.createAccount ⟨"bob", "USD", .whole 100⟩)),
    .submit now (.query (.createAccount ⟨"eve", "USD", .whole 10⟩)),
    .submit now .begin, .submit now (.perform 0 (.addBalance 3 (.whole 1)))]

/-- From the account with the larger id to the one with the smaller id. -/
def downward : TransferRequest :=
  { fromId := 2, toId := 1, amount := .whole 100, currency := "USD", description := "",
    fee := .whole 1 }

theorem transfer_outcome_downward :
    (∀ m ∈ besides, m.Asks StoreRequest.HasText) ∧ downward.amount.HasText ∧
    downward.validate = .ok () ∧ (Desk.run besides).store.locks.IsFree 2 ∧
    (Desk.run besides).store.locks.IsFree 1 ∧
    ∃ res st', (transfer .unbounded none downward).run (alone (Timestamp.ofMillis 0))
        (Desk.run besides).store = (.finished (.ok res), st') ∧
      res.fromAccount.balance.value = 0 ∧ res.toAccount.balance.value = 105 ∧
      st'.sessions = (Desk.run besides).store.sessions := by
  have texts : ∀ m ∈ besides, m.Asks StoreRequest.HasText := by decide
  have text : downward.amount.HasText := by decide
  have accepted : downward.validate = .ok () := by decide
  have locked : ∀ k ∈ (Desk.run besides).store.locks.tickets, k.account = 3 := by decide
  have free (a : Int) (other : 3 ≠ a) : (Desk.run besides).store.locks.IsFree a :=
    fun k hk same => absurd ((locked k hk).symm.trans same) other
  obtain ⟨outcome, st', ran, concludes, _⟩ :=
    (transfer_outcome texts .unbounded downward text (Timestamp.ofMillis 0)).2 accepted
      (free 2 (by decide)) (free 1 (by decide))
  have bob : Table.find? 2 (Desk.run besides).store.tables.accounts =
      some ⟨2, "bob", .whole 100, "USD", Timestamp.ofMillis 0⟩ := by decide
  have ada : Table.find? 1 (Desk.run besides).store.tables.accounts =
      some ⟨1, "ada", .whole 5, "USD", Timestamp.ofMillis 0⟩ := by decide
  have sum : (Decimal.whole 5).value + (Decimal.whole 100).value = 105 := by
    rw [Decimal.value_whole, Decimal.value_whole, show UInt16.toNat 5 = 5 from rfl,
      show UInt16.toNat 100 = 100 from rfl]
    norm_num
  obtain ⟨res, made⟩ := concludes.succeeds.mpr ⟨_, _, bob, ada, le_refl _, by
    change (Decimal.whole 5).value + (Decimal.whole 100).value < 10 ^ 12
    rw [sum]
    norm_num⟩
  cases made
  have performs := concludes.performs res rfl
  obtain ⟨c, hc, _, debited⟩ := performs.source
  obtain ⟨k, hk, _, credited⟩ := performs.destination
  cases bob.symm.trans hc
  cases ada.symm.trans hk
  refine ⟨texts, text, accepted, free 2 (by decide), free 1 (by decide), res, st', ran, ?_, ?_,
    concludes.sessions⟩
  · rw [debited]
    exact sub_self _
  · rw [credited]
    exact sum

end Transfer
end DoubleEntry
