import DoubleEntry.Ledger.Account
import DoubleEntry.Ledger.Entry
import DoubleEntry.Ledger.Transaction
import DoubleEntry.Sql.Numeric
import DoubleEntry.Time.Reader

/-!
Rows of a reply, and the accounts, entries and transactions in them. The columns are read from left
to right, and the first bad one is reported.
-/

namespace DoubleEntry.Sql

/-- A value as it arrives. Amounts and instants are text. -/
inductive Cell where
  | null
  | integer (n : Int)
  | text (s : String)
  deriving DecidableEq, Repr

namespace Cell

/-- A cell of the wrong kind holds nothing that can be read. -/
def toInt : Cell → Checked DecodeFault Int
  | integer n => pure n
  | _ => throw .unexpectedNull

def toText : Cell → Checked DecodeFault String
  | text s => pure s
  | _ => throw .unexpectedNull

def toDecimal : Cell → Checked DecodeFault Decimal
  | text s => ofNumericText s
  | _ => throw .unexpectedNull

def toTimestamp : Cell → Checked DecodeFault Timestamp
  | text s => (Timestamp.ofText? s).elim (throw .unexpectedNull) pure
  | _ => throw .unexpectedNull

end Cell

abbrev Row : Type := List Cell

namespace Row

/-- Reads the column with this position and name. -/
def read {α : Type} (row : Row) (position : Nat) (column : String)
    (f : Cell → Checked DecodeFault α) : Checked DatabaseFailure α :=
  (f (row[position]?.getD .null)).adapt (.undecodable column)

def account (row : Row) : Checked DatabaseFailure Account := do
  let id ← row.read 0 "id" Cell.toInt
  let owner ← row.read 1 "owner" Cell.toText
  let balance ← row.read 2 "balance" Cell.toDecimal
  let currency ← row.read 3 "currency" Cell.toText
  let createdAt ← row.read 4 "created_at" Cell.toTimestamp
  return ⟨id, owner, balance, currency, createdAt⟩

def entry (row : Row) : Checked DatabaseFailure Entry := do
  let id ← row.read 0 "id" Cell.toInt
  let accountId ← row.read 1 "account_id" Cell.toInt
  let amount ← row.read 2 "amount" Cell.toDecimal
  let createdAt ← row.read 3 "created_at" Cell.toTimestamp
  return ⟨id, accountId, amount, createdAt⟩

def transaction (row : Row) : Checked DatabaseFailure Transaction := do
  let id ← row.read 0 "id" Cell.toInt
  let fromId ← row.read 1 "from_account_id" Cell.toInt
  let toId ← row.read 2 "to_account_id" Cell.toInt
  let amount ← row.read 3 "amount" Cell.toDecimal
  let fee ← row.read 4 "fee" Cell.toDecimal
  let currency ← row.read 5 "currency" Cell.toText
  let description ← row.read 6 "description" Cell.toText
  let createdAt ← row.read 7 "created_at" Cell.toTimestamp
  return ⟨⟨fromId, toId, amount, fee, currency, description⟩, id, createdAt⟩

end Row
end DoubleEntry.Sql
