import DoubleEntry.Ledger.Transfer
import DoubleEntry.Timed

/-!
What is asked of a store of ledgers. A session is one store transaction: what is written through it
is private until it commits, and abandoning it undoes all of it. Queries stand outside of sessions.
-/

namespace DoubleEntry

abbrev SessionId : Type := Nat

inductive SessionRequest where
  | insertTransaction (new : NewTransaction)
  | insertEntry (accountId : Int) (amount : Decimal)
  /-- Adds to a balance and locks the account's row until the session ends. -/
  | addBalance (accountId : Int) (delta : Decimal)
  | commit
  | rollback
  deriving DecidableEq

/-- There is no account to return if none has the id. -/
@[reducible] def SessionRequest.Reply : SessionRequest → Type
  | insertTransaction _ => Transaction
  | insertEntry _ _ => Entry
  | addBalance _ _ => Option Account
  | commit => Unit
  | rollback => Unit

inductive Query where
  | createAccount (new : NewAccount)
  | account (id : Int)
  | accounts (owner : Option String) (limit offset : Int)
  /-- Removes an account that no history refers to; says whether there was one. -/
  | deleteAccount (id : Int)
  | entry (id : Int)
  | entries (accountId limit offset : Int)
  | transaction (id : Int)
  | transactions (accountId limit offset : Int)
  deriving DecidableEq

@[reducible] def Query.Reply : Query → Type
  | createAccount _ => Account
  | account _ => Option Account
  | accounts _ _ _ => List Account
  | deleteAccount _ => Bool
  | entry _ => Option Entry
  | entries _ _ _ => List Entry
  | transaction _ => Option Transaction
  | transactions _ _ _ => List Transaction

inductive StoreRequest where
  | begin
  | perform (s : SessionId) (op : SessionRequest)
  /-- Ends a session; what it has not committed is undone. -/
  | abandon (s : SessionId)
  | query (q : Query)
  deriving DecidableEq

@[reducible] def StoreRequest.Reply : StoreRequest → Type
  | begin => Except LedgerError SessionId
  | perform _ op => Except LedgerError op.Reply
  | abandon _ => Unit
  | query q => Except LedgerError q.Reply

/-- The reply that refuses a request. Abandoning a session cannot be refused. -/
def StoreRequest.refusal (e : LedgerError) : (r : StoreRequest) → r.Reply
  | begin => .error e
  | perform _ _ => .error e
  | abandon _ => ()
  | query _ => .error e

/-- A request is answered, or waits with a ticket. -/
inductive Submission (τ α : Type) where
  | answered (reply : α)
  | waiting (ticket : τ)

/-- The interface of every store. -/
@[reducible] def LedgerStore : Interface := ⟨StoreRequest, StoreRequest.Reply⟩

namespace Query

/-- Asks a query as part of a program. -/
def ask (q : Query) : Action LedgerStore q.Reply :=
  Program.request (I := LedgerStore) (.query q)

end Query

namespace SessionRequest

/-- Performs a request in a session as part of a program. -/
def ask (op : SessionRequest) (s : SessionId) : Action (Paced LedgerStore) op.Reply :=
  Program.call (I := LedgerStore) (.perform s op)

end SessionRequest
end DoubleEntry
