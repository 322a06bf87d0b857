import DoubleEntry.Proofs.Decimal.Exact
import DoubleEntry.Proofs.Ledger.Json

/-!
The round trip of every kind of record through its text. What is written is read again with each
digit and each nanosecond; only the sign of a zero is lost, and once it is, the text stays the same.
The order of the keys, members that no field has and the array of the fields make no difference,
in the nested records either.
-/

namespace DoubleEntry

open Json

/-- The kinds of records that have a JSON form. -/
inductive RecordKind where
  | currency
  | page
  | account
  | entry
  | transaction
  | transferRequest
  | transferResult

namespace RecordKind

abbrev Record : RecordKind → Type
  | currency => Currency
  | page => Page
  | account => Account
  | entry => Entry
  | transaction => Transaction
  | transferRequest => TransferRequest
  | transferResult => TransferResult

def form : (k : RecordKind) → Form k.Record
  | currency => Currency.form
  | page => Page.form
  | account => Account.form
  | entry => Entry.form
  | transaction => Transaction.form
  | transferRequest => TransferRequest.form
  | transferResult => TransferResult.form

theorem lawful_form : ∀ k : RecordKind, k.form.Lawful
  | currency => Currency.lawful_form
  | page => Page.lawful_form
  | account => Account.lawful_form
  | entry => Entry.lawful_form
  | transaction => Transaction.lawful_form
  | transferRequest => TransferRequest.lawful_form
  | transferResult => TransferResult.lawful_form

/-- The keys of the fields; a currency has none. -/
def keys : RecordKind → List String
  | currency => []
  | page => Page.keys
  | account => Account.keys
  | entry => Entry.keys
  | transaction => Transaction.keys
  | transferRequest => TransferRequest.keys
  | transferResult => TransferResult.keys

end RecordKind
end DoubleEntry
