import DoubleEntry.Decimal.Text
import DoubleEntry.Error.Database
import DoubleEntry.Ledger.Page
import DoubleEntry.Time.Duration

/-!
The causes of the ledger's errors, one type for each kind of error, and their wording. A cause of
the form `text` was worded elsewhere.
-/

namespace DoubleEntry

/-- Why a request is unacceptable. -/
inductive Rejection where
  | emptyOwner
  | unsupportedCurrency (code : String)
  | negativeOpening
  | unfitOpening
  | amountNotPositive
  | feeNotPositive
  | unfitAmount
  | unfitFee
  | emptyCurrency
  | currencyLength (code : String)
  | idsNotPositive
  | sameAccount
  | insufficientFunds (accountId : Int)
  | currencyMismatch (accountId : Int) (held asked : String)
  | page (violations : List Page.Violation)
  | text (message : String)
  deriving DecidableEq, Repr

namespace Rejection

def message : Rejection → String
  | emptyOwner => "Owner cannot be empty"
  | unsupportedCurrency code => s!"Unsupported currency '{code}'"
  | negativeOpening => "Initial balance cannot be negative"
  | unfitOpening => "Initial balance must have at most 8 decimal places and be below 10^12"
  | amountNotPositive => "Amount must be positive"
  | feeNotPositive => "Fee must be positive"
  | unfitAmount => "Amount must have at most 8 decimal places and be below 10^12"
  | unfitFee => "Fee must have at most 8 decimal places and be below 10^12"
  | emptyCurrency => "Currency cannot be empty"
  | currencyLength code => s!"Currency '{code}' must be a 3-letter code"
  | idsNotPositive => "Account ids must be positive"
  | sameAccount => "Source and destination accounts must be different"
  | insufficientFunds id =>
      s!"Insufficient funds: account '{id}' cannot cover the requested amount"
  | currencyMismatch id held asked => s!"Account '{id}' currency mismatch: {held} vs {asked}"
  | page violations =>
      ", ".intercalate (violations.map fun v => s!"{v.field}: {v.value} is out of range")
  | text m => m

end Rejection

/-- What was looked for and is not there. -/
inductive Missing where
  | account (id : Int)
  | entry (id : Int)
  | transaction (id : Int)
  | row
  | text (message : String)
  deriving DecidableEq, Repr

def Missing.message : Missing → String
  | account id => s!"Account '{id}' not found"
  | entry id => s!"Entry '{id}' not found"
  | transaction id => s!"Transaction '{id}' not found"
  | row => "row not found"
  | text m => m

/-- The tables that a row can be refused by. -/
inductive TableName where
  | accounts
  | entries
  | transactions
  deriving DecidableEq, Repr

def TableName.name : TableName → String
  | accounts => "accounts"
  | entries => "entries"
  | transactions => "transactions"

/-- Which rule of the schema a write would break. -/
inductive Conflict where
  | amountNotPositive
  | feeNotPositive
  | negativeOpening
  | negativeBalance (accountId : Int) (balance : Decimal)
  | unfitValue (column : String) (value : Decimal)
  | longCurrency (code : String)
  | missingAccount (table : TableName) (accountId : Int)
  | referencedAccount (accountId : Int)
  | database (failure : DatabaseFailure)
  | text (message : String)
  deriving DecidableEq

namespace Conflict

def message : Conflict → String
  | amountNotPositive => "transactions_amount_check: amount must be positive"
  | feeNotPositive => "transactions_fee_check: fee must be positive"
  | negativeOpening => "accounts_balance_check: balance must not be negative"
  | negativeBalance id balance =>
      s!"accounts_balance_check: balance of account {id} would become {balance}"
  | unfitValue column value =>
      s!"numeric field overflow: {column} value {value} does not fit NUMERIC(20, 8)"
  | longCurrency code => s!"value too long for type character varying(3): '{code}'"
  | missingAccount table id =>
      s!"insert on table \"{table.name}\" violates foreign key: account {id} does not exist"
  | referencedAccount id => s!"account {id} is still referenced by ledger history"
  | database failure => failure.message
  | text m => m

end Conflict

/-- Why a transaction gives way to a concurrent one. -/
inductive Contention where
  | lockTimeout (accountId : Int)
  | database (failure : DatabaseFailure)
  | text (message : String)
  deriving DecidableEq, Repr

def Contention.message : Contention → String
  | lockTimeout id => s!"lock timeout waiting for account {id}"
  | database failure => failure.message
  | text m => m

/-- Why a store cannot serve. -/
inductive StoreFault where
  | finished
  | text (message : String)
  deriving DecidableEq, Repr

def StoreFault.message : StoreFault → String
  | finished => "transaction already finished"
  | text m => m

/-- What ended a unit of work early. -/
inductive Cancellation where
  | requested
  | deadline (ms : Nat)
  | text (message : String)
  deriving DecidableEq, Repr

def Cancellation.message : Cancellation → String
  | requested => "unit of work cancelled"
  | deadline ms => s!"deadline of {Duration.toText ms} exceeded"
  | text m => m

/-- What should not have happened. -/
inductive InternalFault where
  | entrySumOverflow (accountId : Int)
  | text (message : String)
  deriving DecidableEq, Repr

def InternalFault.message : InternalFault → String
  | entrySumOverflow id => s!"entry sum for account {id} overflowed"
  | text m => m

end DoubleEntry
