import DoubleEntry.Decimal.Basic
import DoubleEntry.Time.Timestamp

/-!
Transactions: the logical transfers between two accounts.
-/

namespace DoubleEntry

/-- A transaction that is yet to be recorded. The amount is the magnitude that moves; the fee is
recorded with it and debited from neither account. -/
structure NewTransaction where
  fromId : Int
  toId : Int
  amount : Decimal
  fee : Decimal
  currency : String
  description : String
  deriving DecidableEq, Inhabited

structure Transaction extends NewTransaction where
  id : Int
  createdAt : Timestamp
  deriving DecidableEq, Inhabited

/-- The account is on either side of the transfer. -/
def NewTransaction.involves (t : NewTransaction) (accountId : Int) : Bool :=
  t.fromId == accountId || t.toId == accountId

end DoubleEntry
