import DoubleEntry.Proofs.Client.Alone
import DoubleEntry.Proofs.Transfer.Atomicity

/-!
The course of a transfer that nobody disturbs. Others may have sessions of their own and wait for
rows, but the locks of the two accounts are free. So every request is answered at once, and what the
transfer comes to is told by the tables: it writes its rows and settles both accounts, or the store
refuses it and it leaves nothing behind but ids that are drawn.
-/

namespace DoubleEntry

/-- The tables after the ids of one transfer are drawn. -/
def Tables.drawn (t : Tables) : Tables :=
  { t with transactionSeq := t.transactionSeq + 1, entrySeq := t.entrySeq + 2 }

namespace Transfer

open Program MemoryStore

/-- What a transfer writes: its rows have the ids that come next. -/
def result (r : TransferRequest) (t : Tables) (now : Timestamp) (source destination : Account) :
    TransferResult where
  transaction :=
    { toNewTransaction := r.toNewTransaction, id := t.transactionSeq + 1, createdAt := now }
  fromEntry :=
    { id := t.entrySeq + 1, accountId := r.fromId, amount := -r.amount, createdAt := now }
  toEntry :=
    { id := t.entrySeq + 2, accountId := r.toId, amount := r.amount, createdAt := now }
  fromAccount := source
  toAccount := destination

variable {verbose : Bool} {st : MemoryStore} {s : SessionId} {x : Session} {now : Timestamp}
variable {others : List (SessionId × Session)} {waits : List (Int × Nat)} {a b : Int}
variable {r : TransferRequest} {c k source destination row : Account} {delta delta' : Decimal}

theorem run_applyDelta (h : st.InSession s x others waits) (still : x.finished = false)
    (free : st.locks.IsFree a) (now : Timestamp) (found : st.current? x a = some c)
    (made : changed c delta = .ok row) (loggable : row.balance.IsLoggable verbose) :
    ∃ st' n, (Balance.applyDelta verbose s a delta).toProgram.run (paced now) st =
        (.finished (.ok row), st') ∧
      st'.InSession s { x with
        guards := x.guards ++ [(a, n)], accounts := Table.insert row x.accounts } others waits ∧
      st'.tables = st.tables ∧ ∀ b, a ≠ b → st.locks.IsFree b → st'.locks.IsFree b := by
  obtain ⟨st', n, answered, there, tables, others_⟩ :=
    inSession_addBalance h still free now found made
  refine ⟨st', n, ?_, there, tables, others_⟩
  refine (run_action (run_ask answered)).trans ?_
  have told : Balance.reportBalance verbose a row.balance =
      Program.report (.balanceUpdated a row.balance) := if_pos loggable
  simp only [told]
  rfl

theorem run_applyDelta_refused (h : st.InSession s x others waits) (still : x.finished = false)
    (free : st.locks.IsFree a) (now : Timestamp) {e : Conflict}
    (found : st.current? x a = some c) (refused : changed c delta = .error e) :
    ∃ st' n, (Balance.applyDelta verbose s a delta).toProgram.run (paced now) st =
        (.finished (.error (.conflict e)), st') ∧
      st'.InSession s { x with guards := x.guards ++ [(a, n)] } others waits ∧
      st'.tables = st.tables := by
  obtain ⟨st', n, answered, there, tables⟩ :=
    inSession_addBalance_refused h still free now found refused
  exact ⟨st', n, run_action_error (run_ask answered), there, tables⟩

/-- A part of a transfer has come to a conflict, and its session is still open. -/
def Refuses {α : Type} (ran : Progress (Paced LedgerStore) (Except LedgerError α) × MemoryStore)
    (s : SessionId) (others : List (SessionId × Session)) (waits : List (Int × Nat))
    (tables : Tables) : Prop :=
  ∃ e st' y, ran = (.finished (.error (.conflict e)), st') ∧ st'.InSession s y others waits ∧
    y.finished = false ∧ st'.tables = tables

theorem refuses_bind {α β : Type} {p : Action (Paced LedgerStore) β}
    {f : β → Action (Paced LedgerStore) α} {tables : Tables}
    (h : Refuses (p.toProgram.run (paced now) st) s others waits tables) :
    Refuses ((p >>= f).toProgram.run (paced now) st) s others waits tables := by
  obtain ⟨e, st', y, ran, rest⟩ := h
  exact ⟨e, st', y, run_action_error ran, rest⟩

/-- Two accounts that a session is about to change, having changed none before. -/
structure Pair (st : MemoryStore) (s : SessionId) (x : Session)
    (others : List (SessionId × Session)) (waits : List (Int × Nat)) (a b : Int) (c k : Account) :
    Prop where
  there : st.InSession s x others waits
  still : x.finished = false
  accounts : x.accounts = []
  apart : a ≠ b
  first : st.locks.IsFree a
  second : st.locks.IsFree b
  firstFound : Table.find? a st.tables.accounts = some c
  secondFound : Table.find? b st.tables.accounts = some k

theorem Pair.swap (h : Pair st s x others waits a b c k) : Pair st s x others waits b a k c :=
  ⟨h.there, h.still, h.accounts, Ne.symm h.apart, h.second, h.first, h.secondFound, h.firstFound⟩

theorem Pair.current (h : Pair st s x others waits a b c k) : st.current? x a = some c := by
  refine current?_eq_some.mpr (.inr ⟨?_, h.firstFound⟩)
  rw [h.accounts]
  rfl

/-- The first account is changed, and the second one is as it was. -/
theorem run_first_delta (h : Pair st s x others waits a b c k) (now : Timestamp)
    (made : changed c delta = .ok row) (loggable : row.balance.IsLoggable verbose) :
    ∃ st₁ gs, let y : Session := { x with guards := gs, accounts := Table.insert row [] }
      (Balance.applyDelta verbose s a delta).toProgram.run (paced now) st =
        (.finished (.ok row), st₁) ∧
      st₁.InSession s y others waits ∧ st₁.tables = st.tables ∧ st₁.locks.IsFree b ∧
      st₁.current? y b = some k := by
  obtain ⟨st₁, n, ran, there, tables, others_⟩ :=
    run_applyDelta h.there h.still h.first now h.current made loggable
  have id : row.id = a := (id_of_changed made).trans (Table.id_of_find? h.firstFound)
  rw [h.accounts] at there
  refine ⟨st₁, _, ran, there, tables, others_ b h.apart h.second, ?_⟩
  refine current?_eq_some.mpr (.inr ⟨?_, tables ▸ h.secondFound⟩)
  exact (Table.find?_insert b row []).trans (if_neg fun same => h.apart (id.symm.trans same))

theorem run_two_deltas (h : Pair st s x others waits a b c k) (now : Timestamp)
    {first second : Account} (made : changed c delta = .ok first)
    (made' : changed k delta' = .ok second) (loggable : first.balance.IsLoggable verbose)
    (loggable' : second.balance.IsLoggable verbose) :
    ∃ st₁ st₂ gs, (Balance.applyDelta verbose s a delta).toProgram.run (paced now) st =
        (.finished (.ok first), st₁) ∧
      (Balance.applyDelta verbose s b delta').toProgram.run (paced now) st₁ =
        (.finished (.ok second), st₂) ∧
      st₂.InSession s { x with
        guards := gs,
        accounts := [first, second].foldl (fun rows row => Table.insert row rows) [] }
        others waits ∧
      st₂.tables = st.tables := by
  obtain ⟨st₁, gs, ran, there, tables, free, found⟩ := run_first_delta h now made loggable
  obtain ⟨st₂, m, ran', there', tables', _⟩ :=
    run_applyDelta there h.still free now found made' loggable'
  exact ⟨st₁, st₂, _, ran, ran', there', tables'.trans tables⟩

/-- One of two changes is refused. If it is the second one, the first one has been made. -/
theorem run_two_deltas_refused (h : Pair st s x others waits a b c k) (now : Timestamp)
    (loggable : ∀ row, changed c delta = .ok row → row.balance.IsLoggable verbose)
    (refused : (∃ e, changed c delta = .error e) ∨ ∃ e, changed k delta' = .error e) :
    Refuses ((Balance.applyDelta verbose s a delta).toProgram.run (paced now) st) s others waits
        st.tables ∨
      ∃ first st₁, (Balance.applyDelta verbose s a delta).toProgram.run (paced now) st =
          (.finished (.ok first), st₁) ∧
        Refuses ((Balance.applyDelta verbose s b delta').toProgram.run (paced now) st₁) s others
          waits st.tables := by
  cases made : changed c delta with
  | error e =>
      obtain ⟨st', n, ran, there, tables⟩ :=
        run_applyDelta_refused h.there h.still h.first now h.current made
      exact .inl ⟨e, st', _, ran, there, h.still, tables⟩
  | ok first =>
      obtain ⟨e, refused⟩ := refused.resolve_left fun ⟨e, error⟩ => by
        rw [made] at error
        cases error
      obtain ⟨st₁, gs, ran, there, tables, free, found⟩ :=
        run_first_delta h now made (loggable first made)
      obtain ⟨st', m, ran', there', tables'⟩ :=
        run_applyDelta_refused there h.still free now found refused
      exact .inr ⟨first, st₁, ran, e, st', _, ran', there', h.still, tables'.trans tables⟩

/-- What it takes for a transfer to succeed alone, and what becomes of its accounts. -/
structure Moves (verbose : Bool) (r : TransferRequest) (accounts : List Account)
    (source destination : Account) : Prop where
  valid : r.Valid
  debit : ∃ c, Table.find? r.fromId accounts = some c ∧ changed c (-r.amount) = .ok source
  credit : ∃ c, Table.find? r.toId accounts = some c ∧ changed c r.amount = .ok destination
  sourceLoggable : source.balance.IsLoggable verbose
  destinationLoggable : destination.balance.IsLoggable verbose

theorem run_applyTransfer (h : Pair st s x others waits r.fromId r.toId c k) (now : Timestamp)
    (debit : changed c (-r.amount) = .ok source) (credit : changed k r.amount = .ok destination)
    (sourceLoggable : source.balance.IsLoggable verbose)
    (destinationLoggable : destination.balance.IsLoggable verbose) :
    ∃ st' gs,
      (Balance.applyTransfer verbose s r.fromId r.toId r.amount).toProgram.run (paced now) st =
        (.finished (.ok (source, destination)), st') ∧
      st'.InSession s { x with guards := gs, accounts := staged r source destination }
        others waits ∧
      st'.tables = st.tables := by
  simp only [Balance.applyTransfer, staged]
  split
  · obtain ⟨st₁, st₂, gs, first, second, there, tables⟩ :=
      run_two_deltas h now debit credit sourceLoggable destinationLoggable
    exact ⟨st₂, gs, (run_action first).trans ((run_action second).trans rfl), there, tables⟩
  · obtain ⟨st₁, st₂, gs, first, second, there, tables⟩ :=
      run_two_deltas h.swap now credit debit destinationLoggable sourceLoggable
    exact ⟨st₂, gs, (run_action first).trans ((run_action second).trans rfl), there, tables⟩

/-- In either order of the two accounts. -/
theorem run_applyTransfer_refused (h : Pair st s x others waits r.fromId r.toId c k)
    (now : Timestamp)
    (sourceLoggable : ∀ row, changed c (-r.amount) = .ok row → row.balance.IsLoggable verbose)
    (destinationLoggable : ∀ row, changed k r.amount = .ok row → row.balance.IsLoggable verbose)
    (refused : (∃ e, changed c (-r.amount) = .error e) ∨ ∃ e, changed k r.amount = .error e) :
    Refuses
      ((Balance.applyTransfer verbose s r.fromId r.toId r.amount).toProgram.run (paced now) st)
      s others waits st.tables := by
  have both : ∀ {a b : Int} {delta delta' : Decimal} {f : Account → Account → Account × Account},
      Refuses ((Balance.applyDelta verbose s a delta).toProgram.run (paced now) st) s others waits
          st.tables ∨
        (∃ first st₁, (Balance.applyDelta verbose s a delta).toProgram.run (paced now) st =
            (.finished (.ok first), st₁) ∧
          Refuses ((Balance.applyDelta verbose s b delta').toProgram.run (paced now) st₁) s others
            waits st.tables) →
      Refuses ((do
          let first ← Balance.applyDelta verbose s a delta
          let second ← Balance.applyDelta verbose s b delta'
          pure (f first second) :
            Action (Paced LedgerStore) (Account × Account)).toProgram.run (paced now) st)
        s others waits st.tables := by
    rintro a b delta delta' f (first | ⟨first, st₁, ran, second⟩)
    · exact refuses_bind first
    · rw [run_action ran]
      exact refuses_bind second
  simp only [Balance.applyTransfer]
  split
  · exact both (run_two_deltas_refused h now sourceLoggable refused)
  · exact both (f := fun destination source => (source, destination))
      (run_two_deltas_refused h.swap now destinationLoggable refused.symm)

/-- A session that has written nothing, before a transfer whose accounts nobody has locked. -/
structure Clear (st : MemoryStore) (s : SessionId) (others : List (SessionId × Session))
    (waits : List (Int × Nat)) (r : TransferRequest) : Prop where
  there : st.InSession s {} others waits
  valid : r.Valid
  source : st.locks.IsFree r.fromId
  destination : st.locks.IsFree r.toId

/-- The rows are written, and then the balances are changed in a session that has the rows. -/
theorem run_record_rows (h : Clear st s others waits r) (now : Timestamp)
    (hc : Table.find? r.fromId st.tables.accounts = some c)
    (hk : Table.find? r.toId st.tables.accounts = some k) :
    ∃ st₁, let rows := result r st.tables now default default
      let x : Session :=
        { entries := [rows.fromEntry, rows.toEntry], transactions := [rows.transaction] }
      Pair st₁ s x others waits r.fromId r.toId c k ∧ st₁.tables = st.tables.drawn ∧
      (record verbose r s).toProgram.run (paced now) st =
        (do
          let (source, destination) ← Balance.applyTransfer verbose s r.fromId r.toId r.amount
          pure { rows with fromAccount := source, toAccount := destination } :
            Action (Paced LedgerStore) TransferResult).toProgram.run (paced now) st₁ := by
  have there {t : Tables} {a : Int} {c : Account} (same : t.accounts = st.tables.accounts)
      (found : Table.find? a st.tables.accounts = some c) : t.hasAccount a = true :=
    Table.contains_iff_find?.mpr ⟨_, same ▸ found⟩
  have check := TransferRequest.check_of_validate h.valid.accepted
  let rows := result r st.tables now default default
  let first : Tables := { st.tables with transactionSeq := st.tables.transactionSeq + 1 }
  let second : Tables := { first with entrySeq := st.tables.entrySeq + 1 }
  have next : st.tables.entrySeq + 2 = st.tables.entrySeq + 1 + 1 := (Int.add_assoc _ 1 1).symm
  have drawn₁ : st.tables.drawTransaction now r.toNewTransaction = .ok (rows.transaction, first) :=
    Tables.drawTransaction_eq_ok.mpr ⟨check, there rfl hc, there rfl hk, rfl, rfl⟩
  have drawn₂ : first.drawEntry now r.fromId (-r.amount) = .ok (rows.fromEntry, second) :=
    Tables.drawEntry_eq_ok.mpr ⟨Decimal.fitsColumn_neg h.valid.fits, there rfl hc, rfl, rfl⟩
  have drawn₃ : second.drawEntry now r.toId r.amount = .ok (rows.toEntry, st.tables.drawn) := by
    refine Tables.drawEntry_eq_ok.mpr ⟨h.valid.fits, there rfl hk, ?_, ?_⟩
    · simp only [rows, result, next, second]
    · simp only [Tables.drawn, next, second, first]
  obtain ⟨st₁, asked₁, in₁, tables₁, locks₁⟩ := inSession_insertTransaction h.there rfl drawn₁
  obtain ⟨st₂, asked₂, in₂, tables₂, locks₂⟩ :=
    inSession_insertEntry in₁ rfl (tables₁.symm ▸ drawn₂)
  obtain ⟨st₃, asked₃, in₃, tables₃, locks₃⟩ :=
    inSession_insertEntry in₂ rfl (tables₂.symm ▸ drawn₃)
  have locks : st₃.locks = st.locks := locks₃.trans (locks₂.trans locks₁)
  refine ⟨st₃, ⟨in₃, rfl, rfl, h.valid.apart, locks ▸ h.source, locks ▸ h.destination,
    tables₃ ▸ hc, tables₃ ▸ hk⟩, tables₃, ?_⟩
  exact (run_action (run_ask asked₁)).trans ((run_action (run_ask asked₂)).trans
    ((run_action (run_ask asked₃)).trans rfl))

/-- The body of a transfer that succeeds. -/
theorem run_record (h : Clear st s others waits r) (now : Timestamp)
    (moves : Moves verbose r st.tables.accounts source destination) :
    ∃ st' gs, let res := result r st.tables now source destination
      (record verbose r s).toProgram.run (paced now) st = (.finished (.ok res), st') ∧
      st'.InSession s
        { guards := gs, accounts := staged r source destination,
          entries := [res.fromEntry, res.toEntry], transactions := [res.transaction] }
        others waits ∧
      st'.tables = st.tables.drawn := by
  obtain ⟨c, hc, debit⟩ := moves.debit
  obtain ⟨k, hk, credit⟩ := moves.credit
  obtain ⟨st₁, pair, tables, ran⟩ := run_record_rows h now hc hk
  obtain ⟨st', gs, applied, there, same⟩ :=
    run_applyTransfer pair now debit credit moves.sourceLoggable moves.destinationLoggable
  refine ⟨st', gs, ?_, there, same.trans tables⟩
  rw [ran]
  exact (run_action applied).trans rfl

/-- The body of a transfer that is refused because of a balance. -/
theorem run_record_refused (h : Clear st s others waits r) (now : Timestamp)
    (hc : Table.find? r.fromId st.tables.accounts = some c)
    (hk : Table.find? r.toId st.tables.accounts = some k)
    (sourceLoggable : ∀ row, changed c (-r.amount) = .ok row → row.balance.IsLoggable verbose)
    (destinationLoggable : ∀ row, changed k r.amount = .ok row → row.balance.IsLoggable verbose)
    (refused : (∃ e, changed c (-r.amount) = .error e) ∨ ∃ e, changed k r.amount = .error e) :
    Refuses ((record verbose r s).toProgram.run (paced now) st) s others waits st.tables.drawn := by
  obtain ⟨st₁, pair, tables, ran⟩ := run_record_rows h now hc hk
  rw [ran, ← tables]
  exact refuses_bind
    (run_applyTransfer_refused pair now sourceLoggable destinationLoggable refused)

/-- The body of a transfer of which an account is missing writes nothing. -/
theorem run_record_missing (h : Clear st s others waits r) (now : Timestamp)
    (missing : ¬ (st.tables.hasAccount r.fromId = true ∧ st.tables.hasAccount r.toId = true)) :
    Refuses ((record verbose r s).toProgram.run (paced now) st) s others waits st.tables := by
  have check := TransferRequest.check_of_validate h.valid.accepted
  cases drawn : st.tables.drawTransaction now r.toNewTransaction with
  | ok p =>
      obtain ⟨_, source, destination, _⟩ := Tables.drawTransaction_eq_ok.mp drawn
      exact absurd ⟨source, destination⟩ missing
  | error e =>
      have asked : st.submit now (.perform s (.insertTransaction r.toNewTransaction)) =
          (.answered (.error (.conflict e)), st) := by
        rw [submit_of_unlocked rfl]
        simp only [answer, perform, openSession?_of_inSession h.there rfl, insertTransaction,
          drawn]
      exact ⟨e, st, {}, run_action_error (run_ask asked), h.there, rfl, rfl⟩

/-- The tables with everything that a transfer has written. -/
def settled (r : TransferRequest) (t : Tables) (res : TransferResult) : Tables :=
  published t.drawn
    { accounts := staged r res.fromAccount res.toAccount,
      entries := [res.fromEntry, res.toEntry], transactions := [res.transaction] }

theorem accounts_settled (r : TransferRequest) (t : Tables) (res : TransferResult) :
    (settled r t res).accounts =
      t.accounts.map (Account.settled (staged r res.fromAccount res.toAccount)) :=
  published_accounts t.drawn (Table.ascending_foldl_insert Table.ascending_nil)

/-- A transfer that may begin at once: nobody has locked its accounts. -/
structure Unhindered (st : MemoryStore) (waits : List (Int × Nat)) (r : TransferRequest) :
    Prop where
  orderly : st.Orderly [] waits
  valid : r.Valid
  source : st.locks.IsFree r.fromId
  destination : st.locks.IsFree r.toId

theorem Unhindered.clear (h : Unhindered st waits r) :
    Clear st.begin.2 st.nextSession st.sessions waits r :=
  ⟨(inSession_begin h.orderly default).2, h.valid, h.source, h.destination⟩

/-- The end of a transfer that was run alone: nothing but the tables may be other than before. -/
structure Leaves (st : MemoryStore) (waits : List (Int × Nat)) (tables : Tables)
    (st' : MemoryStore) : Prop where
  orderly : st'.Orderly [] waits
  sessions : st'.sessions = st.sessions
  tables : st'.tables = tables

/-- What is reported and counted changes nothing. -/
theorem run_transfer_of_execute {u : UnitOfWork} {cancelAt : Option Nat} {st' : MemoryStore}
    {outcome : Except LedgerError TransferResult} (valid : r.Valid)
    (executed : (u.execute cancelAt fun s => record u.verbose r s).run (alone now) st =
      (.finished outcome, st')) :
    (transfer u cancelAt r).run (alone now) st = (.finished outcome, st') := by
  have ran : (run u cancelAt r).run (alone now) st = (.finished outcome, st') := run_bind executed
  simp only [transfer, valid.accepted]
  exact run_bind ran

theorem run_transfer (u : UnitOfWork) {cancelAt : Option Nat} (open_ : cancelAt ≠ some 0)
    (h : Unhindered st waits r) (now : Timestamp)
    (moves : Moves u.verbose r st.tables.accounts source destination) :
    ∃ st', let res := result r st.tables now source destination
      (transfer u cancelAt r).run (alone now) st = (.finished (.ok res), st') ∧
      Leaves st waits (settled r st.tables res) st' := by
  obtain ⟨st₁, gs, ran, there, tables⟩ := run_record h.clear now moves
  have known {a : Int} {c : Account} (found : Table.find? a st.tables.accounts = some c) :
      st₁.tables.hasAccount a = true := by
    rw [tables]
    exact Table.contains_iff_find?.mpr ⟨c, found⟩
  obtain ⟨c, hc, _⟩ := moves.debit
  obtain ⟨k, hk, _⟩ := moves.credit
  obtain ⟨st', executed, orderly, sessions, after⟩ :=
    UnitOfWork.run_execute u open_ ran there rfl <| by
      refine checkStaged_eq_ok.mpr ⟨fun e he => ?_, fun row hr => ?_⟩
      · rcases List.mem_cons.mp he with rfl | second
        · exact known hc
        · rw [List.mem_singleton.mp second]
          exact known hk
      · rw [List.mem_singleton.mp hr]
        exact ⟨known hc, known hk⟩
  refine ⟨st', ?_, orderly, sessions, after.trans (by rw [tables]; rfl)⟩
  exact run_transfer_of_execute h.valid executed

theorem run_transfer_refused (u : UnitOfWork) {cancelAt : Option Nat} (open_ : cancelAt ≠ some 0)
    (h : Unhindered st waits r) {tables : Tables}
    (refused : Refuses ((record u.verbose r st.nextSession).toProgram.run (paced now) st.begin.2)
      st.nextSession st.sessions waits tables) :
    ∃ e st', (transfer u cancelAt r).run (alone now) st = (.finished (.error (.conflict e)), st') ∧
      Leaves st waits tables st' := by
  obtain ⟨e, st₁, y, ran, there, still, same⟩ := refused
  obtain ⟨st', executed, orderly, sessions, after⟩ :=
    UnitOfWork.run_execute_error u open_ ran there still
  refine ⟨e, st', ?_, orderly, sessions, after.trans same⟩
  exact run_transfer_of_execute h.valid executed

end Transfer
end DoubleEntry
