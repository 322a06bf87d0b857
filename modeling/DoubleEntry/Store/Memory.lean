import DoubleEntry.Decimal.Sum
import DoubleEntry.Ledger.Currency
import DoubleEntry.Store.LockTable
import DoubleEntry.Store.Request
import DoubleEntry.Store.Tables

/-!
A store in memory. A session stages its writes and keeps the locks of the rows it has changed; a
commit checks the references of what is staged, publishes it in one step and gives the locks back.
A request that needs a row lock may have to wait for it: then it has a ticket, and is answered when
the lock is granted or refused when it gives up.
-/

namespace DoubleEntry

/-- An open session: the tickets of the rows it has locked, and what it has staged. -/
structure Session where
  guards : List (Int × Nat) := []
  accounts : List Account := []
  entries : List Entry := []
  transactions : List Transaction := []
  finished : Bool := false
  deriving DecidableEq, Inhabited

structure MemoryStore where
  tables : Tables := {}
  locks : LockTable := {}
  sessions : List (SessionId × Session) := []
  nextSession : SessionId := 0
  deriving DecidableEq, Inhabited

namespace Session

def holds (s : Session) (accountId : Int) : Bool := s.guards.any (·.1 == accountId)

end Session

namespace MemoryStore

def session? (st : MemoryStore) (s : SessionId) : Option Session := st.sessions.lookup s

def setSession (st : MemoryStore) (s : SessionId) (session : Session) : MemoryStore :=
  { st with sessions := st.sessions.map fun (k, old) => if k = s then (k, session) else (k, old) }

/-- The session, if it can still be written to. -/
def openSession? (st : MemoryStore) (s : SessionId) : Option Session :=
  (st.session? s).filter (!·.finished)

def releaseAll (guards : List (Int × Nat)) (locks : LockTable) : LockTable :=
  guards.foldl (fun locks (accountId, ticket) => locks.release accountId ticket) locks

/-- Discards what a session has staged and gives its locks back. -/
def finish (s : SessionId) (session : Session) (st : MemoryStore) : MemoryStore :=
  { st.setSession s { finished := true } with locks := releaseAll session.guards st.locks }

def begin (st : MemoryStore) : SessionId × MemoryStore :=
  (st.nextSession,
    { st with
      sessions := st.sessions ++ [(st.nextSession, {})]
      nextSession := st.nextSession + 1 })

/-- Ends a session for good. -/
def abandon (s : SessionId) (st : MemoryStore) : MemoryStore :=
  match st.session? s with
  | some session =>
      let st := st.finish s session
      { st with sessions := st.sessions.filter (·.1 != s) }
  | none => st

def insertTransaction (now : Timestamp) (s : SessionId) (session : Session)
    (new : NewTransaction) (st : MemoryStore) : Except LedgerError Transaction × MemoryStore :=
  match st.tables.drawTransaction now new with
  | .ok (row, tables) =>
      let recorded := { session with transactions := session.transactions ++ [row] }
      (.ok row, { st.setSession s recorded with tables := tables })
  | .error c => (.error (.conflict c), st)

def insertEntry (now : Timestamp) (s : SessionId) (session : Session) (accountId : Int)
    (amount : Decimal) (st : MemoryStore) : Except LedgerError Entry × MemoryStore :=
  match st.tables.drawEntry now accountId amount with
  | .ok (row, tables) =>
      (.ok row, { st.setSession s { session with entries := session.entries ++ [row] } with
        tables := tables })
  | .error c => (.error (.conflict c), st)

/-- The account as the session sees it: what it has staged, else what is committed. -/
def current? (st : MemoryStore) (session : Session) (accountId : Int) : Option Account :=
  Table.find? accountId session.accounts <|> Table.find? accountId st.tables.accounts

/-- The account after a change of its balance, if the schema allows it. -/
def changed (account : Account) (delta : Decimal) : Except Conflict Account := do
  match account.balance.add? delta with
  | none => throw (.unfitValue "balance" account.balance)
  | some balance =>
      checkColumn "balance" balance
      if balance < Decimal.zero then throw (.negativeBalance account.id balance)
      pure { account with balance := balance }

/-- Changes a balance whose row the session has locked. A lock on no row is given back. -/
def addBalance (s : SessionId) (session : Session) (accountId : Int) (delta : Decimal)
    (st : MemoryStore) : Except LedgerError (Option Account) × MemoryStore :=
  match st.current? session accountId with
  | none =>
      let kept := session.guards.filter (·.1 != accountId)
      let dropped := session.guards.filter (·.1 == accountId)
      (.ok none, { st.setSession s { session with guards := kept } with
        locks := releaseAll dropped st.locks })
  | some account =>
      match changed account delta with
      | .ok account =>
          (.ok (some account),
            st.setSession s { session with accounts := Table.insert account session.accounts })
      | .error c => (.error (.conflict c), st)

/-- Every account that a staged row refers to still exists. -/
def checkStaged (tables : Tables) (session : Session) : Except Conflict Unit := do
  session.entries.forM fun e => tables.checkAccount .entries e.accountId
  session.transactions.forM fun t => tables.checkSides t.toNewTransaction

/-- The tables with everything that a session has staged. -/
def published (tables : Tables) (session : Session) : Tables :=
  { tables with
    accounts := session.accounts.foldl (fun rows a => Tables.setBalance a.id a.balance rows)
      tables.accounts
    entries := session.entries.foldl (fun rows e => Table.insert e rows) tables.entries
    transactions := session.transactions.foldl (fun rows t => Table.insert t rows)
      tables.transactions }

/-- Publishes what is staged. If a reference is broken the session goes on as it is. -/
def commit (s : SessionId) (session : Session) (st : MemoryStore) :
    Except LedgerError Unit × MemoryStore :=
  match checkStaged st.tables session with
  | .ok () => (.ok (), { st with tables := published st.tables session }.finish s session)
  | .error c => (.error (.conflict c), st)

/-- Performs a request in a session, the row that it needs being locked. -/
def perform (now : Timestamp) (s : SessionId) (op : SessionRequest) (st : MemoryStore) :
    Except LedgerError op.Reply × MemoryStore :=
  match st.openSession? s with
  | none => (.error (.store .finished), st)
  | some session =>
      match op with
      | .insertTransaction new => st.insertTransaction now s session new
      | .insertEntry accountId amount => st.insertEntry now s session accountId amount
      | .addBalance accountId delta => st.addBalance s session accountId delta
      | .commit => st.commit s session
      | .rollback => (.ok (), st.finish s session)

/-- Answers a query, the row that it needs being locked. -/
def query (now : Timestamp) (q : Query) (st : MemoryStore) :
    Except LedgerError q.Reply × MemoryStore :=
  match q with
  | .createAccount new =>
      match st.tables.createAccount now new with
      | .ok (account, tables) => (.ok account, { st with tables := tables })
      | .error c => (.error (.conflict c), st)
  | .account id => (.ok (Table.find? id st.tables.accounts), st)
  | .accounts owner limit offset =>
      (.ok (Table.page limit offset (st.tables.accountsOf owner)), st)
  | .deleteAccount id =>
      match st.tables.deleteAccount id with
      | .ok (found, tables) => (.ok found, { st with tables := tables })
      | .error c => (.error (.conflict c), st)
  | .entry id => (.ok (Table.find? id st.tables.entries), st)
  | .entries accountId limit offset =>
      (.ok (Table.page limit offset (st.tables.entriesOf accountId)), st)
  | .transaction id => (.ok (Table.find? id st.tables.transactions), st)
  | .transactions accountId limit offset =>
      (.ok (Table.page limit offset (st.tables.transactionsOf accountId)), st)

/-- The row whose lock a request still needs. -/
def wantedRow? (st : MemoryStore) : StoreRequest → Option Int
  | .perform s (.addBalance accountId _) =>
      match st.openSession? s with
      | some session => if session.holds accountId then none else some accountId
      | none => none
  | .query (.deleteAccount id) => some id
  | _ => none

/-- Answers a request that needs no lock. -/
def answer (now : Timestamp) (r : StoreRequest) (st : MemoryStore) : r.Reply × MemoryStore :=
  match r with
  | .begin => let (s, st) := st.begin; (.ok s, st)
  | .perform s op => st.perform now s op
  | .abandon s => ((), st.abandon s)
  | .query q => st.query now q

/-- Gives the lock that a ticket holds to the session that asked for it. -/
def addGuard (s : SessionId) (accountId : Int) (ticket : Nat) (st : MemoryStore) : MemoryStore :=
  match st.session? s with
  | some session =>
      st.setSession s { session with guards := session.guards ++ [(accountId, ticket)] }
  | none => st

/-- Answers a request whose row lock is held by a ticket. A session keeps the lock; a query gives
it back. -/
def answerLocked (now : Timestamp) (r : StoreRequest) (accountId : Int) (ticket : Nat)
    (st : MemoryStore) : r.Reply × MemoryStore :=
  match r with
  | .perform s op => (st.addGuard s accountId ticket).answer now (.perform s op)
  | r =>
      let (reply, st) := st.answer now r
      (reply, { st with locks := st.locks.release accountId ticket })

/-- Takes a request in. -/
def submit (now : Timestamp) (r : StoreRequest) (st : MemoryStore) :
    Submission Nat r.Reply × MemoryStore :=
  match st.wantedRow? r with
  | none =>
      let (reply, st) := st.answer now r
      (.answered reply, st)
  | some accountId =>
      let (ticket, locks) := st.locks.request accountId
      let st := { st with locks := locks }
      if locks.standing? ticket = some .holding then
        let (reply, st) := st.answerLocked now r accountId ticket
        (.answered reply, st)
      else (.waiting ticket, st)

/-- The lock that a ticket waits for has been granted. -/
def isGranted (ticket : Nat) (st : MemoryStore) : Bool :=
  st.locks.standing? ticket == some .granted

/-- The account whose lock a ticket waits for. -/
def awaitedRow (ticket : Nat) (st : MemoryStore) : Int :=
  ((st.locks.ticket? ticket).map (·.account)).getD 0

/-- Answers a request whose lock has been granted. -/
def resume (now : Timestamp) (r : StoreRequest) (ticket : Nat) (st : MemoryStore) :
    r.Reply × MemoryStore :=
  { st with locks := st.locks.claim ticket }.answerLocked now r (st.awaitedRow ticket) ticket

/-- Refuses a request that has waited too long. -/
def expire (r : StoreRequest) (ticket : Nat) (st : MemoryStore) : r.Reply × MemoryStore :=
  let accountId := st.awaitedRow ticket
  (r.refusal (.serialization (.lockTimeout accountId)),
    { st with locks := st.locks.release accountId ticket })

/-- Forgets a request that nobody waits for any more. Its slot is not pruned. -/
def desert (ticket : Nat) (st : MemoryStore) : MemoryStore :=
  { st with locks := st.locks.discard ticket }

end MemoryStore
end DoubleEntry
