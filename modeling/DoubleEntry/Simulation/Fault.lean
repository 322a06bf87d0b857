import DoubleEntry.Store.Request

/-!
A store with faults. Every call on a session is first shown to a list of rules, which records it and
may delay it, answer it with an error, or hide an account from it.
-/

namespace DoubleEntry.Simulation

/-- A call that can be recorded and disturbed. -/
inductive Call where
  | begin
  | insertTransaction (fromId toId : Int) (amount fee : Decimal)
  | insertEntry (accountId : Int) (amount : Decimal)
  | addBalance (accountId : Int) (delta : Decimal)
  | commit
  | rollback
  deriving DecidableEq

namespace Call

def name : Call → String
  | begin => "begin"
  | insertTransaction .. => "insert_transaction"
  | insertEntry .. => "insert_entry"
  | addBalance .. => "add_balance"
  | commit => "commit"
  | rollback => "rollback"

def account? : Call → Option Int
  | insertEntry accountId _ | addBalance accountId _ => some accountId
  | _ => none

def text : Call → String
  | insertTransaction fromId toId amount fee =>
      s!"insert_transaction {fromId} {toId} {amount} {fee}"
  | insertEntry accountId amount => s!"insert_entry {accountId} {amount}"
  | addBalance accountId delta => s!"add_balance {accountId} {delta}"
  | call => call.name

/-- The call that a request makes, if it is one of those that are recorded. -/
def ofRequest? : StoreRequest → Option Call
  | .begin => some begin
  | .perform _ (.insertTransaction new) =>
      some (insertTransaction new.fromId new.toId new.amount new.fee)
  | .perform _ (.insertEntry accountId amount) => some (insertEntry accountId amount)
  | .perform _ (.addBalance accountId delta) => some (addBalance accountId delta)
  | .perform _ .commit => some commit
  | .perform _ .rollback => some rollback
  | .abandon _ | .query _ => none

end Call

/-- An error, and the events that were reported when it was made. -/
structure MadeError where
  error : LedgerError
  events : List Event
  deriving DecidableEq

/-- An error that reports nothing when it is made. -/
def MadeError.silent (e : LedgerError) : MadeError := ⟨e, []⟩

/-- The error that a failure of the database becomes. -/
def MadeError.ofDatabase (failure : DatabaseFailure) : MadeError :=
  ⟨LedgerError.ofDatabase failure, (Event.ofClassification? failure).toList⟩

/-- What is done to the calls of one name, perhaps on one account only. -/
structure FaultRule where
  callName : String
  account : Option Int
  delay : Nat
  error : Option MadeError
  /-- The account of a balance change is not found. -/
  hidesAccount : Bool

namespace FaultRule

def applies (f : FaultRule) (c : Call) : Bool :=
  f.callName == c.name && f.account.all (c.account? == some ·)

end FaultRule

/-- Requests to a store, and questions what is to be done to a call. -/
inductive ScriptedRequest where
  | store (r : StoreRequest)
  | consult (c : Call)

@[reducible] def ScriptedRequest.Reply : ScriptedRequest → Type
  | store r => r.Reply
  | consult _ => Option FaultRule

@[reducible] def ScriptedStore : Interface := ⟨ScriptedRequest, ScriptedRequest.Reply⟩

open Program

/-- Passes a request on. -/
def undisturbed (r : StoreRequest) : Program (Paced ScriptedStore) r.Reply :=
  call (I := ScriptedStore) (.store r)

/-- The reply in which an account is hidden, if the request is about one. -/
def hiddenReply? : (r : StoreRequest) → Option r.Reply
  | .perform _ (.addBalance _ _) => some (.ok none)
  | _ => none

/-- Does to a request what a rule demands. -/
def disturbedBy (f : FaultRule) (r : StoreRequest) : Program (Paced ScriptedStore) r.Reply := do
  if f.delay ≠ 0 then pause f.delay
  match f.error with
  | some made =>
      made.events.forM report
      pure (r.refusal made.error)
  | none =>
      match (if f.hidesAccount then hiddenReply? r else none) with
      | some reply => pure reply
      | none => undisturbed r

/-- Shows a call to the rules before it is made. -/
def disturbed (r : StoreRequest) : Program (Paced ScriptedStore) r.Reply :=
  match Call.ofRequest? r with
  | none => undisturbed r
  | some c => do
      match ← call (I := ScriptedStore) (.consult c) with
      | some f => disturbedBy f r
      | none => undisturbed r

end DoubleEntry.Simulation
