import DoubleEntry.Ledger.Currency
import DoubleEntry.Log.Mask
import DoubleEntry.Store.Request
import DoubleEntry.Text.Blank

/-!
Management of accounts: opening, finding, listing and deleting them, and the advisory check of the
two accounts of a transfer.
-/

namespace DoubleEntry

structure OpeningRequest where
  owner : String
  currency : String
  openingBalance : Option Decimal
  deriving DecidableEq

/-- The account that a request asks for, if the request is acceptable. -/
def OpeningRequest.toNewAccount (r : OpeningRequest) : Except Rejection NewAccount := do
  if Text.isBlankText r.owner then throw .emptyOwner
  if ¬ Currency.isSupported r.currency then throw (.unsupportedCurrency r.currency)
  let balance := r.openingBalance.getD Decimal.zero
  if balance < Decimal.zero then throw .negativeOpening
  if ¬ balance.FitsColumn then throw .unfitOpening
  pure { owner := r.owner, currency := r.currency, balance := balance }

/-- How many rows a valid page has, and how many lie before it. -/
def Page.window (p : Page) : Checked LedgerError (Int × Int) :=
  match p.violations with
  | [] => do
      let offset ← ExceptT.lift p.offset
      pure (p.limit, offset)
  | violations => .fail (.validation (.page violations))

/-- A listing of a page: the page is checked before anything is asked. -/
def Page.list {α : Type} (p : Page) (query : Int → Int → Action LedgerStore (List α)) :
    Action LedgerStore (List α) := do
  let (limit, offset) ← Action.ofChecked p.window
  query limit offset

namespace AccountService

open Program

def openAccount (r : OpeningRequest) : Action LedgerStore Account := do
  match r.toNewAccount with
  | .error cause => throw (.validation cause)
  | .ok new =>
      let account ← (Query.createAccount new).ask
      ExceptT.lift (report
        (.accountOpened account.id (Mask.text 2 account.owner) account.currency))
      pure account

def find (id : Int) : Action LedgerStore Account := do
  match ← (Query.account id).ask with
  | some account => pure account
  | none => throw (.notFound (.account id))

/-- The accounts of a page in id order, perhaps of one owner only. -/
def list (owner : Option String) (p : Page) : Action LedgerStore (List Account) :=
  p.list fun limit offset => (Query.accounts owner limit offset).ask

/-- Deletes an account without history. -/
def delete (id : Int) : Action LedgerStore Unit := do
  if ← (Query.deleteAccount id).ask then
    ExceptT.lift (report (.accountDeleted id))
  else throw (.notFound (.account id))

/-- An account that exists and holds a currency. -/
def findHolding (id : Int) (currency : String) : Action LedgerStore Account := do
  let account ← find id
  if account.holdsCurrency currency then pure account
  else throw (.validation (.currencyMismatch id account.currency currency))

/-- Checks that both accounts exist, hold the currency, and that the source covers the amount. The
balance may change before the transfer runs. -/
def validateTransfer (r : TransferRequest) : Action LedgerStore (Account × Account) := do
  let source ← findHolding r.fromId r.currency
  let destination ← findHolding r.toId r.currency
  if source.HasFunds r.amount then pure (source, destination)
  else throw (.validation (.insufficientFunds source.id))

end AccountService
end DoubleEntry
