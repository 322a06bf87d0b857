import DoubleEntry.Service.Account
import DoubleEntry.Service.Transfer

/-!
Transfers for callers: both accounts are checked first, then the transfer runs.
-/

namespace DoubleEntry.CheckedTransfer

open Program

/-- Checks the accounts of a request; a refusal is reported and counted. -/
def check (r : TransferRequest) : Program (Timed LedgerStore) (Except LedgerError Unit) := do
  match ← timed (AccountService.validateTransfer r).run with
  | .ok _ => pure (.ok ())
  | .error e =>
      report (.transferRejected e)
      count (.transferFailed e.reason)
      pure (.error e)

/-- Runs a transfer if the check passes. -/
def after (r : TransferRequest)
    (work : Program (Timed LedgerStore) (Except LedgerError TransferResult)) :
    Program (Timed LedgerStore) (Except LedgerError TransferResult) := do
  match ← check r with
  | .error e => pure (.error e)
  | .ok () => work

def transfer (u : UnitOfWork) (r : TransferRequest) :
    Program (Timed LedgerStore) (Except LedgerError TransferResult) :=
  after r (Transfer.transfer u none r)

def transferWithHook (u : UnitOfWork) (hook : CommitHook TransferResult) (r : TransferRequest) :
    Program (Timed LedgerStore) (Except LedgerError TransferResult) :=
  after r (hook.after (Transfer.transfer u none r))

end DoubleEntry.CheckedTransfer
