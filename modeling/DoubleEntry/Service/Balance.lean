import DoubleEntry.Store.Request

/-!
Changes of balances inside a session. The change itself locks the account's row, and a transfer
changes the account with the smaller id first, so that transfers cannot wait for each other in a
circle.
-/

namespace DoubleEntry

/-- A log can take the balance: one that shows every event takes the text, and another one passes
the event over before there is a text. -/
def Decimal.IsLoggable (verbose : Bool) (balance : Decimal) : Prop :=
  verbose = true → balance.HasText

instance (verbose : Bool) (balance : Decimal) : Decidable (balance.IsLoggable verbose) :=
  inferInstanceAs (Decidable (verbose = true → balance.HasText))

theorem Decimal.isLoggable_of_hasText {balance : Decimal} (text : balance.HasText)
    (verbose : Bool) : balance.IsLoggable verbose :=
  fun _ => text

namespace Balance

/-- Reports a balance. -/
def reportBalance (verbose : Bool) (accountId : Int) (balance : Decimal) :
    Program (Paced LedgerStore) Unit :=
  if balance.IsLoggable verbose then Program.report (.balanceUpdated accountId balance)
  else .halt .decimalText

/-- Adds a signed delta to an account that must exist. -/
def applyDelta (verbose : Bool) (s : SessionId) (accountId : Int) (delta : Decimal) :
    Action (Paced LedgerStore) Account := do
  match ← (SessionRequest.addBalance accountId delta).ask s with
  | none => throw (.notFound (.account accountId))
  | some account =>
      ExceptT.lift (reportBalance verbose accountId account.balance)
      pure account

/-- Moves an amount between two accounts, and gives the source and the destination as they are then.
-/
def applyTransfer (verbose : Bool) (s : SessionId) (fromId toId : Int) (amount : Decimal) :
    Action (Paced LedgerStore) (Account × Account) := do
  if fromId < toId then
    let source ← applyDelta verbose s fromId (-amount)
    let destination ← applyDelta verbose s toId amount
    pure (source, destination)
  else
    let destination ← applyDelta verbose s toId amount
    let source ← applyDelta verbose s fromId (-amount)
    pure (source, destination)

end Balance
end DoubleEntry
