import DoubleEntry.Decimal.Basic
import DoubleEntry.Time.Timestamp

/-!
Accounts. A balance changes only by signed deltas inside a store transaction; the currency is fixed
when the account is opened.
-/

namespace DoubleEntry

structure Account where
  id : Int
  owner : String
  balance : Decimal
  currency : String
  createdAt : Timestamp
  deriving DecidableEq, Inhabited

/-- An account that is yet to be opened; the store gives it an id. -/
structure NewAccount where
  owner : String
  currency : String
  balance : Decimal := Decimal.zero
  deriving DecidableEq

namespace Account

def HasFunds (a : Account) (amount : Decimal) : Prop := amount ≤ a.balance

instance (a : Account) (amount : Decimal) : Decidable (a.HasFunds amount) :=
  inferInstanceAs (Decidable (amount ≤ a.balance))

def holdsCurrency (a : Account) (currency : String) : Bool := a.currency == currency

end Account
end DoubleEntry
