import DoubleEntry.Proofs.Client.UnitOfWork
import DoubleEntry.Proofs.Decimal.Exact
import DoubleEntry.Service.Transfer

/-!
How a transfer conducts itself. It is a unit of work whose body draws a transaction and two entries,
and changes the balances of the two accounts, the one with the smaller id first.
-/

namespace DoubleEntry

/-- What a valid request is known to be. -/
structure TransferRequest.Valid (r : TransferRequest) : Prop where
  accepted : r.validate = .ok ()
  fits : r.amount.FitsColumn
  apart : r.fromId ≠ r.toId

/-- What passes a rule has not broken it, and passes what follows. -/
theorem rule_eq_ok {ε α : Type} {c : Prop} [Decidable c] {thrown rest : Except ε α} {a : α}
    (never : thrown ≠ .ok a) (h : (if c then thrown else rest) = .ok a) : ¬ c ∧ rest = .ok a := by
  by_cases broken : c
  · rw [if_pos broken] at h
    exact absurd h never
  · rw [if_neg broken] at h
    exact ⟨broken, h⟩

theorem TransferRequest.valid_of_validate {r : TransferRequest} (h : r.validate = .ok ()) :
    r.Valid := by
  have accepted := h
  rw [validate] at h
  obtain ⟨_, h⟩ := rule_eq_ok (fun no => by cases no) h
  obtain ⟨_, h⟩ := rule_eq_ok (fun no => by cases no) h
  obtain ⟨fits, h⟩ := rule_eq_ok (fun no => by cases no) h
  obtain ⟨_, h⟩ := rule_eq_ok (fun no => by cases no) h
  obtain ⟨_, h⟩ := rule_eq_ok (fun no => by cases no) h
  obtain ⟨_, h⟩ := rule_eq_ok (fun no => by cases no) h
  obtain ⟨_, h⟩ := rule_eq_ok (fun no => by cases no) h
  obtain ⟨apart, _⟩ := rule_eq_ok (fun no => by cases no) h
  exact ⟨accepted, Decidable.not_not.mp fits, apart⟩

/-- A store draws every transaction that a valid request asks for. -/
theorem TransferRequest.check_of_validate {r : TransferRequest} (h : r.validate = .ok ()) :
    r.toNewTransaction.check = .ok () := by
  rw [validate] at h
  obtain ⟨amount, h⟩ := rule_eq_ok (fun no => by cases no) h
  obtain ⟨fee, h⟩ := rule_eq_ok (fun no => by cases no) h
  obtain ⟨fitsAmount, h⟩ := rule_eq_ok (fun no => by cases no) h
  obtain ⟨fitsFee, h⟩ := rule_eq_ok (fun no => by cases no) h
  obtain ⟨_, h⟩ := rule_eq_ok (fun no => by cases no) h
  obtain ⟨length, _⟩ := rule_eq_ok (fun no => by cases no) h
  have currency : checkCurrency r.currency = .ok () :=
    if_pos (Nat.le_of_eq (Decidable.not_not.mp length))
  have first : checkColumn "amount" r.amount = .ok () := if_pos (Decidable.not_not.mp fitsAmount)
  have second : checkColumn "fee" r.fee = .ok () := if_pos (Decidable.not_not.mp fitsFee)
  simp only [NewTransaction.check, toNewTransaction, if_neg amount, if_neg fee, first, second,
    currency]
  rfl

namespace Transfer

open Program UnitOfWork

/-- What a body writes that comes to its end. -/
def written (r : TransferRequest) (s : SessionId) (res : TransferResult) : List Deed :=
  [.began s, .drewTransaction s res.transaction, .drewEntry s res.fromEntry,
    .drewEntry s res.toEntry] ++
  if r.fromId < r.toId then
    [.changedBalance s (-r.amount) res.fromAccount, .changedBalance s r.amount res.toAccount]
  else
    [.changedBalance s r.amount res.toAccount, .changedBalance s (-r.amount) res.fromAccount]

/-- A result speaks of the request. -/
structure Records (r : TransferRequest) (res : TransferResult) : Prop where
  valid : r.Valid
  transaction : res.transaction.toNewTransaction = r.toNewTransaction
  debit : res.fromEntry.accountId = r.fromId ∧ res.fromEntry.amount = -r.amount
  credit : res.toEntry.accountId = r.toId ∧ res.toEntry.amount = r.amount
  source : res.fromAccount.id = r.fromId
  destination : res.toAccount.id = r.toId

/-- The balances of a result were reported, so the log could take them. -/
def Loggable (verbose : Bool) (res : TransferResult) : Prop :=
  res.fromAccount.balance.IsLoggable verbose ∧ res.toAccount.balance.IsLoggable verbose

variable {verbose : Bool} {s : SessionId} {w : Window} {history : List Deed}

theorem works_reportBalance (h : Uncommitted s history) (a : Int) (balance : Decimal) :
    Works s w history (ExceptT.lift (Balance.reportBalance verbose a balance))
      fun after _ => after = history ∧ balance.IsLoggable verbose := by
  rw [Balance.reportBalance]
  split
  · rename_i loggable
    exact ⟨h, fun _ _ => ⟨rfl, loggable⟩⟩
  · exact ⟨h, h⟩

theorem works_applyDelta (h : Uncommitted s history) {a : Int} {delta : Decimal}
    (fits : delta.FitsColumn) :
    Works s w history (Balance.applyDelta verbose s a delta) fun after row =>
      after = history ++ [.changedBalance s delta row] ∧ row.id = a ∧
        row.balance.IsLoggable verbose := by
  have asked : Works s w history ((SessionRequest.addBalance a delta).ask s) fun after found =>
      ∀ row, found = some row →
        after = history ++ [.changedBalance s delta row] ∧ row.id = a := by
    apply works_ask h
    intro found speaks
    cases found with
    | none => exact ⟨fun _ no => (by cases no), fun _ no => by cases no⟩
    | some row =>
        refine ⟨?_, ?_⟩
        · intro e he
          cases he
          exact ⟨rfl, fits⟩
        · intro row' same
          cases same
          exact ⟨rfl, speaks⟩
  refine works_bind asked ?_
  intro after found uncommitted known
  cases found with
  | none => exact works_throw uncommitted _
  | some row =>
      obtain ⟨rfl, id⟩ := known row rfl
      refine works_bind (works_reportBalance uncommitted a row.balance) ?_
      intro last _ uncommitted' told
      obtain ⟨rfl, loggable⟩ := told
      exact works_pure uncommitted' ⟨rfl, id, loggable⟩

theorem works_applyTransfer (h : Uncommitted s history) {r : TransferRequest} (valid : r.Valid) :
    Works s w history (Balance.applyTransfer verbose s r.fromId r.toId r.amount) fun after sides =>
      after = history ++ (if r.fromId < r.toId then
          [.changedBalance s (-r.amount) sides.1, .changedBalance s r.amount sides.2]
        else [.changedBalance s r.amount sides.2, .changedBalance s (-r.amount) sides.1]) ∧
      (sides.1.id = r.fromId ∧ sides.1.balance.IsLoggable verbose) ∧
      sides.2.id = r.toId ∧ sides.2.balance.IsLoggable verbose := by
  have debit := Decimal.fitsColumn_neg valid.fits
  simp only [Balance.applyTransfer]
  split
  · refine works_bind (works_applyDelta h debit) ?_
    intro after source uncommitted first
    refine works_bind (works_applyDelta uncommitted valid.fits) ?_
    intro after' destination uncommitted' second
    refine works_pure uncommitted' ⟨?_, first.2, second.2⟩
    rw [second.1, first.1]
    exact List.append_assoc _ _ _
  · refine works_bind (works_applyDelta h valid.fits) ?_
    intro after destination uncommitted first
    refine works_bind (works_applyDelta uncommitted debit) ?_
    intro after' source uncommitted' second
    refine works_pure uncommitted' ⟨?_, second.2, first.2⟩
    rw [second.1, first.1]
    exact List.append_assoc _ _ _

/-- A row is drawn in the session. -/
theorem works_draw (h : Uncommitted s history) (op : SessionRequest) (deed : op.Reply → Deed)
    (known : op.Reply → Prop)
    (drawn : ∀ row, StoreRequest.Fits (.perform s op) (.ok row) →
      Deed.of? (.perform s op) (.ok row) = some (deed row) ∧ (deed row).IsWork s ∧ known row) :
    Works s w history (op.ask s) fun after row => after = history ++ [deed row] ∧ known row := by
  apply works_ask h
  intro row speaks
  obtain ⟨does, work, fact⟩ := drawn row speaks
  rw [does]
  refine ⟨fun e he => ?_, rfl, fact⟩
  cases he
  exact work

theorem works_record {r : TransferRequest} (valid : r.Valid) (s : SessionId) (w : Window) :
    Works s w [.began s] (record verbose r s) fun after res =>
      after = written r s res ∧ Records r res ∧ Loggable verbose res := by
  refine works_bind (works_draw (Uncommitted.began s) (.insertTransaction r.toNewTransaction)
    (.drewTransaction s) _ fun _ speaks => ⟨rfl, rfl, speaks⟩) ?_
  intro after t uncommitted known
  obtain ⟨rfl, transaction⟩ := known
  refine works_bind (works_draw uncommitted (.insertEntry r.fromId (-r.amount))
    (.drewEntry s) _ fun _ speaks => ⟨rfl, rfl, speaks⟩) ?_
  intro after fromEntry uncommitted known
  obtain ⟨rfl, debit⟩ := known
  refine works_bind (works_draw uncommitted (.insertEntry r.toId r.amount)
    (.drewEntry s) _ fun _ speaks => ⟨rfl, rfl, speaks⟩) ?_
  intro after toEntry uncommitted known
  obtain ⟨rfl, credit⟩ := known
  refine works_bind (works_applyTransfer uncommitted valid) ?_
  intro after sides uncommitted known
  obtain ⟨rfl, source, destination⟩ := known
  exact works_pure uncommitted ⟨rfl,
    ⟨valid, transaction, debit, credit, source.1, destination.1⟩, source.2, destination.2⟩

/-- The conduct of a transfer. -/
def conduct (r : TransferRequest) : Conduct (Except LedgerError TransferResult) :=
  UnitOfWork.conduct fun s work res => work = written r s res ∧ Records r res

theorem follows_run (u : UnitOfWork) {cancelAt : Option Nat} {r : TransferRequest}
    {post : SessionId → List Deed → TransferResult → Prop}
    (works : cancelAt ≠ some 0 → ∀ s w, Works s w [.began s] (record u.verbose r s) (post s)) :
    (run u cancelAt r).Follows (UnitOfWork.conduct post) [] := by
  have body : (u.execute cancelAt fun s => record u.verbose r s).Follows
      (UnitOfWork.conduct post) [] :=
    follows_execute works
  change ((u.execute cancelAt fun s => record u.verbose r s).bind _).Follows
    (UnitOfWork.conduct post) []
  refine follows_bind_of body (fun _ h => h) (fun _ h => h) ?_
  intro history outcome always ended
  exact ⟨always, ended⟩

/-- What the body of a transfer establishes, the transfer does, from its validation to its count. -/
theorem follows_transfer_of (u : UnitOfWork) {cancelAt : Option Nat} {r : TransferRequest}
    {post : SessionId → List Deed → TransferResult → Prop}
    (works : r.Valid → cancelAt ≠ some 0 →
      ∀ s w, Works s w [.began s] (record u.verbose r s) (post s)) :
    (transfer u cancelAt r).Follows (UnitOfWork.conduct post) [] := by
  cases accepted : r.validate with
  | error cause =>
      simp only [transfer, accepted]
      exact ⟨.inl rfl, .inl rfl⟩
  | ok _ =>
      have body := follows_run u (works (TransferRequest.valid_of_validate accepted))
      simp only [transfer, accepted]
      change ((run u cancelAt r).bind _).Follows (UnitOfWork.conduct post) []
      refine follows_bind_of body (fun _ h => h) (fun _ h => h) ?_
      intro history outcome always ended
      exact ⟨always, ended⟩

theorem follows_transfer (u : UnitOfWork) (cancelAt : Option Nat) (r : TransferRequest) :
    (transfer u cancelAt r).Follows (conduct r) [] :=
  follows_transfer_of u fun valid _ s w =>
    works_mono (works_record valid s w) fun _ _ known => ⟨known.1, known.2.1⟩

/-- A transfer that is cancelled from the outset commits nothing, and one whose balances the log
cannot take commits nothing either. -/
theorem follows_transfer_open (u : UnitOfWork) (cancelAt : Option Nat) (r : TransferRequest) :
    (transfer u cancelAt r).Follows (UnitOfWork.conduct fun s work res =>
      work = written r s res ∧ cancelAt ≠ some 0 ∧ Loggable u.verbose res) [] :=
  follows_transfer_of u fun valid open_ s w =>
    works_mono (works_record valid s w) fun _ _ known => ⟨known.1, open_, known.2.2⟩

end Transfer
end DoubleEntry
