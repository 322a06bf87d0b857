import DoubleEntry.Proofs.Client.Limits
import DoubleEntry.Proofs.Transfer.Outcome
import DoubleEntry.Service.CheckedTransfer

/-!
Transfers that are checked before they run. The check and the transfer each have rules of their own,
and so has the store; in a store that nobody else uses they make up one list, and the first rule
that a request breaks decides. Once the check has passed, there is nothing left for the store to
refuse but a destination that has no room for the amount.
-/

namespace DoubleEntry

namespace CheckedTransfer

open Program MemoryStore Transfer

/-- An account that holds a currency. -/
def holding (accounts : List Account) (id : Int) (currency : String) : Except LedgerError Account :=
  match Table.find? id accounts with
  | none => .error (.notFound (.account id))
  | some account =>
      if account.currency = currency then .ok account
      else .error (.validation (.currencyMismatch id account.currency currency))

/-- Both accounts, if the check lets the request pass. -/
def checked (accounts : List Account) (r : TransferRequest) :
    Except LedgerError (Account × Account) := do
  let source ← holding accounts r.fromId r.currency
  let destination ← holding accounts r.toId r.currency
  if source.balance.value < r.amount.value then throw (.validation (.insufficientFunds r.fromId))
  else pure (source, destination)

/-- The first thing that is wrong with a request, if anything is. -/
def verdict (accounts : List Account) (r : TransferRequest) : Except LedgerError Unit := do
  let (_, destination) ← checked accounts r
  match r.validate with
  | .error cause => throw (.validation cause)
  | .ok () =>
      if 10 ^ 12 ≤ destination.balance.value + r.amount.value then
        throw (.conflict (.unfitValue "balance"
          ((destination.balance.add? r.amount).getD destination.balance)))
      else pure ()

/-- The end of a checked transfer that nobody disturbs. -/
structure Decided (r : TransferRequest) (now : Timestamp) (st : MemoryStore)
    (outcome : Except LedgerError TransferResult) (st' : MemoryStore) : Prop where
  verdict : outcome.map (fun _ => ()) = verdict st.tables.accounts r
  performs : ∀ res, outcome = .ok res → Performs r now st.tables res st'.tables
  refused : ∀ e, outcome = .error e → st'.tables.accounts = st.tables.accounts ∧
    st'.tables.entries = st.tables.entries ∧ st'.tables.transactions = st.tables.transactions
  /-- What the check or the validation turns away does not reach the store. -/
  early : ∀ e, outcome = .error e → (∀ conflict, e ≠ .conflict conflict) → st' = st
  /-- All that the store refuses is a balance that would be too large. -/
  noRoom : ∀ conflict, outcome = .error (.conflict conflict) → ∃ k b,
    Table.find? r.toId st.tables.accounts = some k ∧ conflict = .unfitValue "balance" b ∧
      b.value = k.balance.value + r.amount.value ∧ 10 ^ 12 ≤ b.value

theorem holding_eq_ok {accounts : List Account} {id : Int} {currency : String} {a : Account}
    (h : holding accounts id currency = .ok a) :
    Table.find? id accounts = some a ∧ a.currency = currency := by
  simp only [holding] at h
  split at h
  · cases h
  · rename_i account found
    split at h
    · rename_i same
      cases h
      exact ⟨found, same⟩
    · cases h

theorem checked_of_holding {accounts : List Account} {r : TransferRequest} {c k : Account}
    (source : holding accounts r.fromId r.currency = .ok c)
    (destination : holding accounts r.toId r.currency = .ok k) :
    checked accounts r = if c.balance.value < r.amount.value then
      .error (.validation (.insufficientFunds r.fromId)) else .ok (c, k) := by
  rw [checked, source, destination]
  rfl

section Check

variable {β α : Type} {st : MemoryStore} {now : Timestamp} {r : TransferRequest}

theorem timed_bind (a : Action LedgerStore β) (f : β → Action LedgerStore α) :
    timed (a >>= f).toProgram =
      (timed a.toProgram).bind fun outcome => timed (ExceptT.bindCont f outcome) :=
  interpret_bind _ _ _

theorem run_timed_action {a : Action LedgerStore β} {f : β → Action LedgerStore α} {b : β}
    {st' : MemoryStore} (h : (timed a.toProgram).run (alone now) st = (.finished (.ok b), st')) :
    (timed (a >>= f).toProgram).run (alone now) st =
      (timed (f b).toProgram).run (alone now) st' := by
  rw [timed_bind, run_bind h]
  rfl

theorem run_timed_action_error {a : Action LedgerStore β} {f : β → Action LedgerStore α}
    {e : LedgerError} {st' : MemoryStore}
    (h : (timed a.toProgram).run (alone now) st = (.finished (.error e), st')) :
    (timed (a >>= f).toProgram).run (alone now) st = (.finished (.error e), st') := by
  rw [timed_bind, run_bind h]
  rfl

/-- Accounts are read from the tables, and nothing changes. -/
theorem run_findHolding (st : MemoryStore) (now : Timestamp) (id : Int) (currency : String) :
    (timed (AccountService.findHolding id currency).toProgram).run (alone now) st =
      (.finished (holding st.tables.accounts id currency), st) := by
  have asked : (timed (Query.account id).ask.toProgram).run (alone now) st =
      (.finished (.ok (Table.find? id st.tables.accounts)), st) := rfl
  rw [holding]
  cases there : Table.find? id st.tables.accounts with
  | none =>
      rw [there] at asked
      exact run_timed_action_error (run_timed_action asked)
  | some account =>
      rw [there] at asked
      have found : (timed (AccountService.find id).toProgram).run (alone now) st =
          (.finished (.ok account), st) := run_timed_action asked
      refine (run_timed_action found).trans ?_
      simp only [Account.holdsCurrency, beq_iff_eq]
      split <;> rfl

theorem run_validateTransfer (st : MemoryStore) (now : Timestamp) (r : TransferRequest) :
    (timed (AccountService.validateTransfer r).toProgram).run (alone now) st =
      (.finished (checked st.tables.accounts r), st) := by
  have first := run_findHolding st now r.fromId r.currency
  have second := run_findHolding st now r.toId r.currency
  cases source : holding st.tables.accounts r.fromId r.currency with
  | error e =>
      rw [source] at first
      rw [checked, source]
      exact run_timed_action_error first
  | ok c =>
      rw [source] at first
      refine (run_timed_action first).trans ?_
      cases destination : holding st.tables.accounts r.toId r.currency with
      | error e =>
          rw [destination] at second
          rw [checked, source, destination]
          exact run_timed_action_error second
      | ok k =>
          rw [destination] at second
          refine (run_timed_action second).trans ?_
          have id : c.id = r.fromId := Table.id_of_find? (holding_eq_ok source).1
          have funds : c.HasFunds r.amount ↔ ¬ c.balance.value < r.amount.value := by
            rw [not_lt, ← Decimal.le_iff_value]
            rfl
          rw [checked_of_holding source destination]
          by_cases short : c.balance.value < r.amount.value
          · rw [if_pos short, if_neg (mt funds.mp (not_not_intro short)), id]
            rfl
          · rw [if_neg short, if_pos (funds.mpr short)]
            rfl

/-- A check reads the tables, and reports what it turns away. -/
theorem run_check (st : MemoryStore) (now : Timestamp) (r : TransferRequest) :
    (check r).run (alone now) st =
      (.finished ((checked st.tables.accounts r).map fun _ => ()), st) := by
  refine (run_bind (run_validateTransfer st now r)).trans ?_
  cases checked st.tables.accounts r <;> rfl

theorem run_after (st : MemoryStore) (now : Timestamp) (r : TransferRequest)
    (work : Program (Timed LedgerStore) (Except LedgerError TransferResult)) :
    (after r work).run (alone now) st =
      match checked st.tables.accounts r with
      | .error e => (.finished (.error e), st)
      | .ok _ => work.run (alone now) st := by
  refine (run_bind (run_check st now r)).trans ?_
  cases checked st.tables.accounts r <;> rfl

end Check

section Store

variable {verbose : Bool} {st : MemoryStore} {now : Timestamp} {r : TransferRequest} {s : SessionId}
  {x : Session}
variable {others : List (SessionId × Session)} {waits : List (Int × Nat)}
variable {c k source : Account} {e : Conflict}

/-- The destination is refused, be it before or after the source has been changed. -/
theorem run_applyTransfer_full (now : Timestamp)
    (h : Pair st s x others waits r.fromId r.toId c k)
    (debit : changed c (-r.amount) = .ok source) (loggable : source.balance.IsLoggable verbose)
    (refused : changed k r.amount = .error e) :
    ∃ st' y,
      (Balance.applyTransfer verbose s r.fromId r.toId r.amount).toProgram.run (paced now) st =
        (.finished (.error (.conflict e)), st') ∧
      st'.InSession s y others waits ∧ y.finished = false ∧ st'.tables = st.tables := by
  simp only [Balance.applyTransfer]
  split
  · obtain ⟨st₁, gs, first, there, tables, free, found⟩ := run_first_delta h now debit loggable
    obtain ⟨st', n, second, there', tables'⟩ :=
      run_applyDelta_refused there h.still free now found refused
    exact ⟨st', _, (run_action first).trans (run_action_error second), there', h.still,
      tables'.trans tables⟩
  · obtain ⟨st', n, first, there, tables⟩ :=
      run_applyDelta_refused h.there h.still h.second now h.swap.current refused
    exact ⟨st', _, run_action_error first, there, h.still, tables⟩

/-- A transfer that its destination has no room for leaves nothing behind but ids that are drawn. -/
theorem run_transfer_full (u : UnitOfWork) (now : Timestamp) (h : Unhindered st waits r)
    (hc : Table.find? r.fromId st.tables.accounts = some c)
    (hk : Table.find? r.toId st.tables.accounts = some k)
    (debit : changed c (-r.amount) = .ok source) (text : source.balance.HasText)
    (refused : changed k r.amount = .error e) :
    ∃ st', (Transfer.transfer u none r).run (alone now) st =
        (.finished (.error (.conflict e)), st') ∧
      Leaves st waits st.tables.drawn st' := by
  obtain ⟨st₁, pair, tables, rows⟩ := run_record_rows h.clear now hc hk
  obtain ⟨st₂, y, applied, there, still, same⟩ :=
    run_applyTransfer_full now pair debit (Decimal.isLoggable_of_hasText text _) refused
  have ran : (record u.verbose r st.nextSession).toProgram.run (paced now) st.begin.2 =
      (.finished (.error (.conflict e)), st₂) := rows.trans (run_action_error applied)
  have open_ : (none : Option Nat) ≠ some 0 := nofun
  obtain ⟨st', executed, orderly, sessions, after⟩ :=
    UnitOfWork.run_execute_error u open_ ran there still
  exact ⟨st', run_transfer_of_execute h.valid executed, orderly, sessions,
    after.trans (same.trans tables)⟩

/-- A credit that there is no room for is refused for its exact sum. -/
theorem credit_refused (h : k.InSchema) (valid : r.Valid)
    (full : 10 ^ 12 ≤ k.balance.value + r.amount.value) :
    ∃ b, k.balance.add? r.amount = some b ∧ b.value = k.balance.value + r.amount.value ∧
      changed k r.amount = .error (.unfitValue "balance" b) := by
  have new := NewTransaction.inSchema_of_check (TransferRequest.check_of_validate valid.accepted)
  obtain ⟨i, balance⟩ := h.room.1
  obtain ⟨j, amount⟩ := new.amountRoom.1
  have exact_ : Decimal.IsExact (k.balance.value + r.amount.value) := by
    have first := Decimal.natAbs_lt_of_hasRoom (balance ▸ h.room)
    have second := Decimal.natAbs_lt_of_hasRoom (amount ▸ new.amountRoom)
    have most : 2 * 10 ^ 20 < pow2 96 := by decide
    have sum : k.balance.value + r.amount.value = ((i + j : ℤ) : ℚ) / 10 ^ 8 := by
      rw [balance, Int.cast_add, add_div]
      exact congrArg _ amount
    rw [sum]
    exact Decimal.isExact_of_natAbs_lt (by omega)
  obtain ⟨b, added, value⟩ := Decimal.exists_add?_of_isExact exact_
  refine ⟨b, added, value, (changed_of_add? added).2.2 fun room => ?_⟩
  exact absurd (abs_lt.mp (value ▸ room.2)).2 (not_lt.mpr full)

theorem verdict_of_error {accounts : List Account} {e : LedgerError}
    (h : checked accounts r = .error e) : verdict accounts r = .error e := by
  rw [verdict, h]
  rfl

theorem verdict_of_invalid {accounts : List Account} {cause : Rejection}
    (passed : checked accounts r = .ok (c, k)) (invalid : r.validate = .error cause) :
    verdict accounts r = .error (.validation cause) := by
  simp only [verdict, passed, invalid]
  rfl

theorem verdict_of_accepted {accounts : List Account} (passed : checked accounts r = .ok (c, k))
    (accepted : r.validate = .ok ()) :
    verdict accounts r = if 10 ^ 12 ≤ k.balance.value + r.amount.value then
      .error (.conflict (.unfitValue "balance" ((k.balance.add? r.amount).getD k.balance)))
      else .ok () := by
  simp only [verdict, passed, accepted]
  rfl

/-- The check finds accounts of the table, and enough funds. -/
theorem checked_eq_ok {accounts : List Account} (h : checked accounts r = .ok (c, k)) :
    Table.find? r.fromId accounts = some c ∧ Table.find? r.toId accounts = some k ∧
      r.amount.value ≤ c.balance.value := by
  cases source : holding accounts r.fromId r.currency with
  | error e =>
      rw [checked, source] at h
      cases h
  | ok c' =>
      cases destination : holding accounts r.toId r.currency with
      | error e =>
          rw [checked, source, destination] at h
          cases h
      | ok k' =>
          rw [checked_of_holding source destination] at h
          split at h
          · cases h
          · rename_i enough
            cases h
            exact ⟨(holding_eq_ok source).1, (holding_eq_ok destination).1, not_lt.mp enough⟩

theorem holding_ne_conflict {accounts : List Account} {id : Int} {currency : String}
    {err : LedgerError} (h : holding accounts id currency = .error err) :
    ∀ conflict, err ≠ .conflict conflict := by
  simp only [holding] at h
  split at h
  · cases h
    nofun
  · split at h
    · cases h
    · cases h
      nofun

/-- A check has no conflicts. -/
theorem checked_ne_conflict {accounts : List Account} {err : LedgerError}
    (h : checked accounts r = .error err) : ∀ conflict, err ≠ .conflict conflict := by
  cases source : holding accounts r.fromId r.currency with
  | error e =>
      rw [checked, source] at h
      cases h
      exact holding_ne_conflict source
  | ok c' =>
      cases destination : holding accounts r.toId r.currency with
      | error e =>
          rw [checked, source, destination] at h
          cases h
          exact holding_ne_conflict destination
      | ok k' =>
          rw [checked_of_holding source destination] at h
          split at h
          · cases h
            nofun
          · cases h

/-- What is turned away early has not reached the store. -/
theorem decided_early {err : LedgerError} (h : verdict st.tables.accounts r = .error err)
    (apart : ∀ conflict, err ≠ .conflict conflict) : Decided r now st (.error err) st where
  verdict := h.symm
  performs _ no := by cases no
  refused _ _ := ⟨rfl, rfl, rfl⟩
  early _ _ _ := rfl
  noRoom conflict same := by
    cases same
    exact absurd rfl (apart conflict)

/-- The store refuses what the destination has no room for, and only the ids are drawn. -/
theorem decided_full {b : Decimal} {st' : MemoryStore} (left : Leaves st waits st.tables.drawn st')
    (decides : verdict st.tables.accounts r = .error (.conflict (.unfitValue "balance" b)))
    (hk : Table.find? r.toId st.tables.accounts = some k)
    (value : b.value = k.balance.value + r.amount.value)
    (full : 10 ^ 12 ≤ k.balance.value + r.amount.value) :
    Decided r now st (.error (.conflict (.unfitValue "balance" b))) st' where
  verdict := decides.symm
  performs _ no := by cases no
  refused _ _ := by
    rw [left.tables]
    exact ⟨rfl, rfl, rfl⟩
  early e same no := by
    cases same
    exact absurd rfl (no _)
  noRoom conflict same := by
    cases same
    refine ⟨k, b, hk, rfl, value, ?_⟩
    rw [value]
    exact full

theorem decided_done {res : TransferResult} {st' : MemoryStore}
    (decides : verdict st.tables.accounts r = .ok ())
    (performs : Performs r now st.tables res st'.tables) : Decided r now st (.ok res) st' where
  verdict := decides.symm
  performs res' same := by
    cases same
    exact performs
  refused _ no := by cases no
  early _ no := by cases no
  noRoom _ no := by cases no

/-- A request that has passed the check and the validation is left to the store. -/
theorem decided_passed (u : UnitOfWork) (sound : Sound st) (free : Unhindered st waits r)
    (passed : checked st.tables.accounts r = .ok (c, k)) (now : Timestamp)
    (text : r.amount.HasText) :
    ∃ outcome st', (Transfer.transfer u none r).run (alone now) st = (.finished outcome, st') ∧
      Decided r now st outcome st' := by
  obtain ⟨hc, hk, enough⟩ := checked_eq_ok passed
  have schema {a : Account} {id : Int} (ha : Table.find? id st.tables.accounts = some a) :
      a.InSchema := sound.schema.committed.accounts a (Table.mem_of_find? ha)
  have decides := verdict_of_accepted passed free.valid.accepted
  by_cases full : 10 ^ 12 ≤ k.balance.value + r.amount.value
  · obtain ⟨row, debit⟩ := (debit_made (schema hc) free.valid).1.mpr enough
    have debited := hasText_debited (sound.texts c (Table.mem_of_find? hc)) text row debit
    obtain ⟨b, added, value, refused⟩ := credit_refused (schema hk) free.valid full
    obtain ⟨st', transferred, left⟩ :=
      run_transfer_full u now free hc hk debit debited refused
    rw [if_pos full, added] at decides
    exact ⟨_, st', transferred, decided_full left decides hk value full⟩
  · rw [if_neg full] at decides
    obtain ⟨outcome, st', transferred, concludes⟩ := concludes_of_unhindered u sound free now text
    obtain ⟨res, made⟩ := concludes.succeeds.mpr ⟨c, k, hc, hk, enough, not_le.mp full⟩
    exact ⟨_, st', transferred, made ▸ decided_done decides (concludes.performs res made)⟩

theorem decided_of_undisturbed (u : UnitOfWork) (sound : Sound st) (order : st.Orderly [] waits)
    (source : st.locks.IsFree r.fromId) (destination : st.locks.IsFree r.toId)
    (now : Timestamp) (text : r.amount.HasText) :
    ∃ outcome st', (transfer u r).run (alone now) st = (.finished outcome, st') ∧
      Decided r now st outcome st' := by
  have ran := run_after st now r (Transfer.transfer u none r)
  cases passed : checked st.tables.accounts r with
  | error e =>
      rw [passed] at ran
      exact ⟨_, _, ran, decided_early (verdict_of_error passed) (checked_ne_conflict passed)⟩
  | ok found =>
      rw [passed] at ran
      cases accepted : r.validate with
      | error cause =>
          have turned : (Transfer.transfer u none r).run (alone now) st =
              (.finished (.error (.validation cause)), st) := by
            simp only [Transfer.transfer, accepted]
            rfl
          exact ⟨_, _, ran.trans turned,
            decided_early (verdict_of_invalid passed accepted) fun _ no => by cases no⟩
      | ok _ =>
          obtain ⟨outcome, st', transferred, decided⟩ := decided_passed u sound
            ⟨order, TransferRequest.valid_of_validate accepted, source, destination⟩ passed now text
          exact ⟨outcome, st', ran.trans transferred, decided⟩

end Store

/-- A store in use whose requests bring along decimals with texts. -/
theorem sound_run {moves : List Move} (texts : ∀ m ∈ moves, m.Asks StoreRequest.HasText) :
    Sound (Desk.run moves).store := by
  have order : (Desk.run moves).Orderly := Desk.orderly_run moves
  have tables := Desk.tables_eq order
  refine ⟨Desk.rows_in_schema moves, Desk.balances_legible texts, ?_, ?_, ?_⟩
  · rw [tables]
    exact (Books.sound_replay order.lawful).ascending
  · rw [tables]
    exact Drawing.id_le_seq Drawing.regular_entries order.lawful
  · rw [tables]
    exact Drawing.id_le_seq Drawing.regular_transactions order.lawful

/-- Without open sessions nobody has locked a row that nobody waits for. -/
theorem isFree_of_closed {d : Desk} (h : d.Orderly) (closed : ∀ s, d.store.openSession? s = none)
    {a : Int} (apart : ∀ p ∈ d.waiting, p.request.row? ≠ some a) : d.store.locks.IsFree a := by
  intro l hl same
  have key : (l.account, l.number) ∈ d.store.guards ++ d.waiting.map Pending.key := by
    have all := LockTable.held_append_awaited.mem_iff.mpr (List.mem_map_of_mem hl)
    exact ((h.store.held.append h.store.awaited).mem_iff.mp all)
  cases List.mem_append.mp key with
  | inl guarded =>
      obtain ⟨p, hp, hg⟩ := List.mem_flatMap.mp guarded
      have ended : p.2.finished = true := by
        by_contra still
        have there := openSession?_eq_some.mpr
          ⟨session?_of_mem h.store.distinct (s := p.1) (x := p.2) hp, by simpa using still⟩
        rw [closed p.1] at there
        cases there
      rw [(h.store.tidy p hp).cleared ended] at hg
      cases hg
  | inr awaited =>
      obtain ⟨p, hp, same'⟩ := List.mem_map.mp awaited
      obtain ⟨b, row⟩ := h.rows p hp
      have account : b = l.account := by
        have first := congrArg Prod.fst same'
        rwa [Pending.key, row] at first
      exact absurd (row.trans (congrArg some (account.trans same))) (apart p hp)

/-- Whatever clients have done with a store, when no session is open and nobody waits for either
account, a checked transfer comes to an end as the list of rules decides. If it has not succeeded,
the store has the rows that it had. -/
theorem checked_transfer_outcome {moves : List Move}
    (texts : ∀ m ∈ moves, m.Asks StoreRequest.HasText)
    (closed : ∀ s, (Desk.run moves).store.openSession? s = none) (u : UnitOfWork)
    (r : TransferRequest) (text : r.amount.HasText)
    (apart : ∀ p ∈ (Desk.run moves).waiting,
      p.request.row? ≠ some r.fromId ∧ p.request.row? ≠ some r.toId) (now : Timestamp) :
    ∃ outcome st', (transfer u r).run (alone now) (Desk.run moves).store =
        (.finished outcome, st') ∧
      Decided r now (Desk.run moves).store outcome st' := by
  have order : (Desk.run moves).Orderly := Desk.orderly_run moves
  exact decided_of_undisturbed u (sound_run texts) order.store
    (isFree_of_closed order closed fun p hp => (apart p hp).1)
    (isFree_of_closed order closed fun p hp => (apart p hp).2) now text

/-- A small account, and one that is full. -/
def smallAndFull : List Move :=
  let now := Timestamp.ofMillis 0
  [.submit now (.query (.createAccount ⟨"ada", "USD", .whole 5⟩)),
    .submit now (.query (.createAccount ⟨"bob", "USD", Desk.fullBalance⟩))]

def tooMuch : TransferRequest :=
  { fromId := 1, toId := 2, amount := .whole 5, currency := "USD", description := "",
    fee := .whole 1 }

theorem checked_transfer_outcome_full :
    (∀ m ∈ smallAndFull, m.Asks StoreRequest.HasText) ∧
    (∀ s, (Desk.run smallAndFull).store.openSession? s = none) ∧ tooMuch.amount.HasText ∧
    (∀ p ∈ (Desk.run smallAndFull).waiting,
      p.request.row? ≠ some tooMuch.fromId ∧ p.request.row? ≠ some tooMuch.toId) ∧
    ∃ conflict st', (transfer .unbounded tooMuch).run (alone (Timestamp.ofMillis 0))
        (Desk.run smallAndFull).store = (.finished (.error (.conflict conflict)), st') ∧
      st'.tables.accounts = (Desk.run smallAndFull).store.tables.accounts := by
  have texts : ∀ m ∈ smallAndFull, m.Asks StoreRequest.HasText := by decide
  have closed : ∀ s, (Desk.run smallAndFull).store.openSession? s = none := fun _ => rfl
  have text : tooMuch.amount.HasText := by decide
  have apart : ∀ p ∈ (Desk.run smallAndFull).waiting,
      p.request.row? ≠ some tooMuch.fromId ∧ p.request.row? ≠ some tooMuch.toId := nofun
  obtain ⟨outcome, st', ran, decided⟩ :=
    checked_transfer_outcome texts closed .unbounded tooMuch text apart (Timestamp.ofMillis 0)
  have full : verdict (Desk.run smallAndFull).store.tables.accounts tooMuch =
      .error (.conflict (.unfitValue "balance"
        ⟨false, 100000000000499999999, 8, by decide, by decide⟩)) := by decide +kernel
  have refused := decided.verdict.trans full
  cases outcome with
  | ok res => cases refused
  | error e =>
      cases refused
      exact ⟨texts, closed, text, apart, _, st', ran, (decided.refused _ rfl).1⟩

end CheckedTransfer

end DoubleEntry
