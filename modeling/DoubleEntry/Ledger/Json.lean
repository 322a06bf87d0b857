import DoubleEntry.Json.Record
import DoubleEntry.Ledger.Currency
import DoubleEntry.Ledger.Page
import DoubleEntry.Ledger.Transfer

/-!
The JSON forms of the ledger's records.
-/

namespace DoubleEntry

open Json

namespace Currency

def toJson (c : Currency) : Json := .string c.code

def ofJson? (v : Json) : Option Currency := v.caseName? >>= ofCode?

end Currency

namespace Account

def keys : List String := ["id", "owner", "balance", "currency", "created_at"]

def toJson (a : Account) : Json :=
  .object [("id", .ofInt a.id), ("owner", .string a.owner), ("balance", .ofDecimal a.balance),
    ("currency", .string a.currency), ("created_at", .ofTimestamp a.createdAt)]

def ofJson? (v : Json) : Option Account := do
  match ← v.fields? keys with
  | [id, owner, balance, currency, createdAt] =>
      some { id := ← id.int64?, owner := ← owner.string?, balance := ← balance.decimal?,
             currency := ← currency.string?, createdAt := ← createdAt.timestamp? }
  | _ => none

end Account

namespace Entry

def keys : List String := ["id", "account_id", "amount", "created_at"]

def toJson (e : Entry) : Json :=
  .object [("id", .ofInt e.id), ("account_id", .ofInt e.accountId), ("amount", .ofDecimal e.amount),
    ("created_at", .ofTimestamp e.createdAt)]

def ofJson? (v : Json) : Option Entry := do
  match ← v.fields? keys with
  | [id, accountId, amount, createdAt] =>
      some { id := ← id.int64?, accountId := ← accountId.int64?, amount := ← amount.decimal?,
             createdAt := ← createdAt.timestamp? }
  | _ => none

end Entry

namespace Transaction

def keys : List String :=
  ["id", "from_account_id", "to_account_id", "amount", "fee", "currency", "description",
    "created_at"]

def toJson (t : Transaction) : Json :=
  .object [("id", .ofInt t.id), ("from_account_id", .ofInt t.fromId),
    ("to_account_id", .ofInt t.toId), ("amount", .ofDecimal t.amount), ("fee", .ofDecimal t.fee),
    ("currency", .string t.currency), ("description", .string t.description),
    ("created_at", .ofTimestamp t.createdAt)]

def ofJson? (v : Json) : Option Transaction := do
  match ← v.fields? keys with
  | [id, fromId, toId, amount, fee, currency, description, createdAt] =>
      some { id := ← id.int64?, fromId := ← fromId.int64?, toId := ← toId.int64?,
             amount := ← amount.decimal?, fee := ← fee.decimal?, currency := ← currency.string?,
             description := ← description.string?, createdAt := ← createdAt.timestamp? }
  | _ => none

end Transaction

namespace TransferRequest

def keys : List String :=
  ["from_account_id", "to_account_id", "amount", "currency", "description", "fee"]

def toJson (r : TransferRequest) : Json :=
  .object [("from_account_id", .ofInt r.fromId), ("to_account_id", .ofInt r.toId),
    ("amount", .ofDecimal r.amount), ("currency", .string r.currency),
    ("description", .string r.description), ("fee", .ofDecimal r.fee)]

def ofJson? (v : Json) : Option TransferRequest := do
  match ← v.fields? keys with
  | [fromId, toId, amount, currency, description, fee] =>
      some { fromId := ← fromId.int64?, toId := ← toId.int64?, amount := ← amount.decimal?,
             currency := ← currency.string?, description := ← description.string?,
             fee := ← fee.decimal? }
  | _ => none

end TransferRequest

namespace TransferResult

def keys : List String := ["transaction", "from_entry", "to_entry", "from_account", "to_account"]

def toJson (r : TransferResult) : Json :=
  .object [("transaction", r.transaction.toJson), ("from_entry", r.fromEntry.toJson),
    ("to_entry", r.toEntry.toJson), ("from_account", r.fromAccount.toJson),
    ("to_account", r.toAccount.toJson)]

def ofJson? (v : Json) : Option TransferResult := do
  match ← v.fields? keys with
  | [transaction, fromEntry, toEntry, fromAccount, toAccount] =>
      some { transaction := ← Transaction.ofJson? transaction,
             fromEntry := ← Entry.ofJson? fromEntry, toEntry := ← Entry.ofJson? toEntry,
             fromAccount := ← Account.ofJson? fromAccount,
             toAccount := ← Account.ofJson? toAccount }
  | _ => none

end TransferResult

namespace Page

def keys : List String := ["page_id", "page_size"]

def toJson (p : Page) : Json :=
  .object [("page_id", .ofInt p.pageId), ("page_size", .ofInt p.pageSize)]

def ofJson? (v : Json) : Option Page := do
  match ← v.fields? keys with
  | [pageId, pageSize] => some ⟨← pageId.int64?, ← pageSize.int64?⟩
  | _ => none

end Page
end DoubleEntry
