import DoubleEntry.Ledger.Currency
import DoubleEntry.Log.Mask
import DoubleEntry.Service.Balance
import DoubleEntry.Service.UnitOfWork
import DoubleEntry.Text.Blank

/-!
Transfers as units of work. One transfer writes a transaction, a debit entry for the source and a
credit entry for the destination, and then changes both balances.
-/

namespace DoubleEntry

/-- The rules that a request must meet before a store is asked for anything. -/
def TransferRequest.validate (r : TransferRequest) : Except Rejection Unit := do
  if r.amount ≤ Decimal.zero then throw .amountNotPositive
  if r.fee ≤ Decimal.zero then throw .feeNotPositive
  if ¬ r.amount.FitsColumn then throw .unfitAmount
  if ¬ r.fee.FitsColumn then throw .unfitFee
  if Text.isBlankText r.currency then throw .emptyCurrency
  if r.currency.utf8ByteSize ≠ Currency.codeLength then throw (.currencyLength r.currency)
  if r.fromId ≤ 0 ∨ r.toId ≤ 0 then throw .idsNotPositive
  if r.fromId = r.toId then throw .sameAccount

namespace Transfer

open Program

/-- Writes one transfer inside a session. -/
def record (verbose : Bool) (r : TransferRequest) (s : SessionId) :
    Action (Paced LedgerStore) TransferResult := do
  let transaction ← (SessionRequest.insertTransaction r.toNewTransaction).ask s
  let fromEntry ← (SessionRequest.insertEntry r.fromId (-r.amount)).ask s
  let toEntry ← (SessionRequest.insertEntry r.toId r.amount).ask s
  let (source, destination) ← Balance.applyTransfer verbose s r.fromId r.toId r.amount
  pure { transaction := transaction, fromEntry := fromEntry, toEntry := toEntry,
         fromAccount := source, toAccount := destination }

/-- What is reported of a transfer that reached the store. -/
def outcomeEvent : Except LedgerError TransferResult → Event
  | .ok r =>
      .transferCommitted r.transaction.id (Mask.amount r.transaction.amount) r.transaction.currency
  | .error e => .transferFailed e

/-- What is counted for a transfer in a currency. -/
def outcomeCount (currency : String) : Except LedgerError TransferResult → Measurement
  | .ok _ => .transfer currency
  | .error e => .transferFailed e.reason

/-- Runs a transfer whose request is valid. -/
def run (u : UnitOfWork) (cancelAt : Option Nat) (r : TransferRequest) :
    Program (Timed LedgerStore) (Except LedgerError TransferResult) := do
  tell (.spanOpened ⟨r.fromId, r.toId⟩)
  let outcome ← u.execute cancelAt fun s => record u.verbose r s
  report (outcomeEvent outcome)
  tell .spanClosed
  pure outcome

/-- Validates a request, runs the transfer and counts it. -/
def transfer (u : UnitOfWork) (cancelAt : Option Nat) (r : TransferRequest) :
    Program (Timed LedgerStore) (Except LedgerError TransferResult) := do
  let outcome ← match r.validate with
    | .ok () => run u cancelAt r
    | .error cause => pure (.error (.validation cause))
  count .latency
  count (outcomeCount r.currency outcome)
  pure outcome

end Transfer
end DoubleEntry
