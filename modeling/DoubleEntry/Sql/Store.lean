import DoubleEntry.Sql.Connection
import DoubleEntry.Store.Request

/-!
The store in a database. A session is one database transaction, open from the statement that begins
it until it is committed or rolled back, successfully or not: a transaction that could not be begun
or ended is rolled back at once.
-/

namespace DoubleEntry.Sql

structure Options where
  isolation : IsolationLevel := .default
  /-- How long to wait for a row, in milliseconds; without it there is no limit. -/
  lockTimeout : Option Nat := none

/-- What every transaction begins with. The database's own level need not be asked for. -/
def Options.opening (o : Options) : List Statement :=
  .begin ::
    (if o.isolation = .readCommitted then [] else [.setIsolation o.isolation]) ++
    o.lockTimeout.toList.map .setLockTimeout

/-- Sends statements until one fails. -/
def sendAll : List Statement → Program Database (Except DatabaseFailure Answer)
  | [] => pure (.ok {})
  | s :: rest => do
      match ← send s with
      | .ok _ => sendAll rest
      | .error failure => pure (.error failure)

def openTransaction (o : Options) : Program Database (Except LedgerError Unit) := do
  settle Answer.nothing (← rollBackAfter (← sendAll o.opening))

/-- Ends a transaction by one of the two statements that do. -/
def closeTransaction (s : Statement) : Program Database (Except LedgerError Unit) := do
  settle Answer.nothing (← rollBackAfter (← send s))

/-- Performs a request in an open transaction. -/
def performOpen : (op : SessionRequest) → Program Database (Except LedgerError op.Reply)
  | .insertTransaction new => fetch (.insertTransaction new) (Answer.one Row.transaction)
  | .insertEntry accountId amount => fetch (.insertEntry accountId amount) (Answer.one Row.entry)
  | .addBalance accountId delta => fetch (.addBalance accountId delta) (Answer.first? Row.account)
  | .commit => closeTransaction .commit
  | .rollback => closeTransaction .rollback

def answerQuery : (q : Query) → Program Database (Except LedgerError q.Reply)
  | .createAccount new => fetch (.insertAccount new) (Answer.one Row.account)
  | .account id => fetch (.account id) (Answer.first? Row.account)
  | .accounts owner limit offset => fetch (.accounts owner limit offset) (Answer.all Row.account)
  | .deleteAccount id => fetch (.deleteAccount id) Answer.anyAffected
  | .entry id => fetch (.entry id) (Answer.first? Row.entry)
  | .entries accountId limit offset =>
      fetch (.entries accountId limit offset) (Answer.all Row.entry)
  | .transaction id => fetch (.transaction id) (Answer.first? Row.transaction)
  | .transactions accountId limit offset =>
      fetch (.transactions accountId limit offset) (Answer.all Row.transaction)

/-- The sessions whose transaction is open, and the number of the next one. -/
structure Sessions where
  live : List SessionId := []
  next : SessionId := 0

namespace Sessions

def start (ss : Sessions) : Sessions := { live := ss.next :: ss.live, next := ss.next + 1 }

def finish (ss : Sessions) (s : SessionId) : Sessions := { ss with live := ss.live.filter (· != s) }

/-- A session is over with the request that ends it, whatever the reply. -/
def after (ss : Sessions) (s : SessionId) : SessionRequest → Sessions
  | .commit | .rollback => ss.finish s
  | _ => ss

end Sessions

/-- Serves a request to the store. -/
def serve (o : Options) :
    (r : StoreRequest) → Sessions → Program Database (r.Reply × Sessions)
  | .begin, ss => do
      match ← openTransaction o with
      | .ok () => pure (.ok ss.next, ss.start)
      | .error e => pure (.error e, ss)
  | .perform s op, ss => do
      if ss.live.contains s then pure (← performOpen op, ss.after s op)
      else pure (.error (.store .finished), ss)
  | .abandon s, ss => do
      if ss.live.contains s then
        let _ ← send .rollback
      pure ((), ss.finish s)
  | .query q, ss => do pure (← answerQuery q, ss)

/-- Asks the database whether it answers at all. -/
def checkHealth : Program Database (Except LedgerError Unit) := fetch .healthCheck Answer.nothing

end DoubleEntry.Sql
