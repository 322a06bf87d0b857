import DoubleEntry.Ledger.Account
import DoubleEntry.Ledger.Entry
import DoubleEntry.Ledger.Transaction

/-!
Requests to move an amount from one account to another, and what a committed one wrote.
-/

namespace DoubleEntry

/-- The fee is recorded on the transaction and debited from neither account. -/
structure TransferRequest where
  fromId : Int
  toId : Int
  amount : Decimal
  currency : String
  description : String
  fee : Decimal
  deriving DecidableEq, Inhabited

def TransferRequest.toNewTransaction (r : TransferRequest) : NewTransaction :=
  { fromId := r.fromId, toId := r.toId, amount := r.amount, fee := r.fee, currency := r.currency,
    description := r.description }

/-- Everything that a committed transfer wrote. -/
structure TransferResult where
  transaction : Transaction
  fromEntry : Entry
  toEntry : Entry
  fromAccount : Account
  toAccount : Account
  deriving DecidableEq

end DoubleEntry
