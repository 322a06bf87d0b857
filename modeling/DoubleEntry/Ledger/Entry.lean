import DoubleEntry.Arithmetic
import DoubleEntry.Decimal.Sum
import DoubleEntry.Time.Timestamp

/-!
Entries: the append-only record of balance movements. A negative amount is a debit, a positive one a
credit, and the two sides of a transfer cancel out.
-/

namespace DoubleEntry

structure Entry where
  id : Int
  accountId : Int
  amount : Decimal
  createdAt : Timestamp
  deriving DecidableEq, Inhabited

namespace Entry

def isDebit (e : Entry) : Bool := e.amount.negative && !e.amount.isZero

def isCredit (e : Entry) : Bool := !e.amount.negative && !e.amount.isZero

/-- Whether amounts cancel each other out, added from left to right. -/
def amountsBalance (amounts : List Decimal) : Except Overflow Bool :=
  match Decimal.sum? amounts with
  | some total => .ok total.isZero
  | none => .error .decimalSum

/-- Whether entries cancel each other out. -/
def balance (es : List Entry) : Except Overflow Bool := amountsBalance (es.map (·.amount))

end Entry
end DoubleEntry
