import DoubleEntry.Service.CheckedTransfer
import DoubleEntry.Service.History
import DoubleEntry.Simulation.Fault
import DoubleEntry.Simulation.Value
import DoubleEntry.Sql.Migration
import DoubleEntry.Store.Table

/-!
The steps of a simulation, and the programs that they run. A simulation records events of every
level.
-/

namespace DoubleEntry.Simulation

open Program

/-- What can be done in an open session. -/
inductive SessionStep where
  | insertTransaction (new : NewTransaction)
  | insertEntry (accountId : Int) (amount : Decimal)
  | addBalance (accountId : Int) (delta : Decimal)
  | applyDelta (accountId : Int) (delta : Decimal)
  | applyTransfer (fromId toId : Int) (amount : Decimal)
  | commit
  | rollback

namespace SessionStep

def program (s : SessionId) : SessionStep → Action (Paced LedgerStore) Value
  | insertTransaction new => Value.transaction <$> (SessionRequest.insertTransaction new).ask s
  | insertEntry accountId amount =>
      Value.entry <$> (SessionRequest.insertEntry accountId amount).ask s
  | addBalance accountId delta =>
      Value.ofOption .account <$> (SessionRequest.addBalance accountId delta).ask s
  | applyDelta accountId delta => Value.account <$> Balance.applyDelta true s accountId delta
  | applyTransfer fromId toId amount =>
      Value.ofPair .account <$> Balance.applyTransfer true s fromId toId amount
  | commit => (fun _ => Value.nothing) <$> SessionRequest.commit.ask s
  | rollback => (fun _ => Value.nothing) <$> SessionRequest.rollback.ask s

end SessionStep

/-- A step of the body of a unit of work. -/
inductive BodyStep where
  | session (step : SessionStep)
  | sleep (ms : Nat)
  | fail (made : MadeError)
  | malformed (f : InputFault)

/-- A step of a body, and whether the body goes on after its error. -/
structure GuardedStep where
  step : BodyStep
  caught : Bool

namespace GuardedStep

/-- What a step of a body gives is shown at once. -/
def program (s : SessionId) : BodyStep → Program (Paced LedgerStore) Outcome
  | .session step => do Outcome.shown (Outcome.ofResult id (← (step.program s).run))
  | .sleep ms => do
      pause ms
      pure (.ok .nothing)
  | .fail made => do
      made.events.forM report
      pure (.error made.error)
  | .malformed f => pure (.input f)

/-- Runs steps in their order. The first error that is not caught ends the body. -/
def body (s : SessionId) :
    List GuardedStep → Program (Paced LedgerStore) (Except LedgerError (List Outcome))
  | [] => pure (.ok [])
  | g :: gs => do
      let outcome ← program s g.step
      match outcome, g.caught with
      | .error e, false => pure (.error e)
      | outcome, _ => do
          match ← body s gs with
          | .ok outcomes => pure (.ok (outcome :: outcomes))
          | .error e => pure (.error e)

end GuardedStep

/-- Limits of a call, and a hook that succeeds or fails. -/
structure CallOptions where
  timeout : Option Nat
  cancelAfter : Option Nat
  hookSucceeds : Option Bool

namespace CallOptions

def unit (o : CallOptions) : UnitOfWork := { timeout := o.timeout, verbose := true }

def hook {α : Type} (succeeds : Bool) : CommitHook α :=
  fun _ => pure (if succeeds then .ok () else .error "hook refused")

/-- Runs a call with the hook, if there is one, and without a cancellation then. A hook is called
once for a call that succeeds, and the outcome becomes part of the value. -/
def program {α : Type} (o : CallOptions) (f : α → Value)
    (call : Option Nat → Program (Timed LedgerStore) (Except LedgerError α)) :
    Program (Timed LedgerStore) Outcome := do
  match o.hookSucceeds with
  | some succeeds =>
      let outcome := Outcome.ofResult f (← (hook succeeds).after (call none))
      pure (.ok (.hooked outcome (if outcome.isOk then 1 else 0)))
  | none =>
      let start ← now
      pure (Outcome.ofResult f (← call (o.cancelAfter.map (start + ·))))

end CallOptions

/-- A step that can also run as a task. -/
inductive ClientStep where
  | transfer (r : TransferRequest) (checked : Bool) (o : CallOptions)
  | unit (body : List GuardedStep) (o : CallOptions)
  | removeAccount (id : Int)

namespace ClientStep

/-- What a call is made of, over a store. -/
def storeProgram : ClientStep → Program (Timed LedgerStore) Outcome
  | transfer r true o => o.program .transfer fun _ => CheckedTransfer.transfer o.unit r
  | transfer r false o =>
      o.program .transfer fun cancelAt => Transfer.transfer o.unit cancelAt r
  | unit steps o =>
      o.program .outcomes fun cancelAt =>
        o.unit.execute cancelAt fun s => GuardedStep.body s steps
  | removeAccount id => Outcome.ofResult .flag <$> timed (Query.deleteAccount id).ask.run

/-- The calls of a transfer or a unit of work can be disturbed. -/
def program (c : ClientStep) : Program (Timed ScriptedStore) Outcome :=
  (do (← c.storeProgram).shown).interpret (interpretTimed disturbed)

end ClientStep

/-- A step outside of sessions that is one call. -/
inductive QueryStep where
  | createAccount (new : NewAccount)
  | openAccount (r : OpeningRequest)
  | account (id : Int)
  | findAccount (id : Int)
  | listAccounts (owner : Option String) (p : Page)
  | accounts (owner : Option String) (limit offset : Int)
  | deleteAccount (id : Int)
  | validateTransfer (r : TransferRequest)
  | findEntry (id : Int)
  | findTransaction (id : Int)
  | entry (id : Int)
  | transaction (id : Int)
  | listEntries (accountId : Int) (p : Page)
  | listTransactions (accountId : Int) (p : Page)
  | entries (accountId limit offset : Int)
  | transactions (accountId limit offset : Int)
  | netSum (accountId : Int)
  /-- All rows that can be listed. -/
  | dump

namespace QueryStep

def ofAction {α : Type} (f : α → Value) (a : Action LedgerStore α) : Program LedgerStore Outcome :=
  Outcome.ofResult f <$> a.run

/-- Adds the entries and the transactions of an account to those that were found before. A record
that is listed again takes the place of the one before. -/
def addHistory (found : List Entry × List Transaction) (a : Account) :
    Action LedgerStore (List Entry × List Transaction) := do
  let es ← (Query.entries a.id maxInt64 0).ask
  let ts ← (Query.transactions a.id maxInt64 0).ask
  pure (es.foldl (fun rows e => Table.insert e rows) found.1,
    ts.foldl (fun rows t => Table.insert t rows) found.2)

/-- All accounts as they are listed, and their history by ids. -/
def listAll : Action LedgerStore Value := do
  let owners ← (Query.accounts none maxInt64 0).ask
  let (es, ts) ← owners.foldlM addHistory ([], [])
  match Entry.balance es with
  | .ok balanced => pure (.dump owners es ts balanced)
  | .error o => Action.ofProgram (.halt o)

def storeProgram : QueryStep → Program LedgerStore Outcome
  | createAccount new => ofAction .account (Query.createAccount new).ask
  | openAccount r => ofAction .account (AccountService.openAccount r)
  | account id => ofAction (Value.ofOption .account) (Query.account id).ask
  | findAccount id => ofAction .account (AccountService.find id)
  | listAccounts owner p => ofAction (Value.ofList .account) (AccountService.list owner p)
  | accounts owner limit offset =>
      ofAction (Value.ofList .account) (Query.accounts owner limit offset).ask
  | deleteAccount id => ofAction (fun _ => .nothing) (AccountService.delete id)
  | validateTransfer r => ofAction (Value.ofPair .account) (AccountService.validateTransfer r)
  | findEntry id => ofAction .entry (History.entry id)
  | findTransaction id => ofAction .transaction (History.transaction id)
  | entry id => ofAction (Value.ofOption .entry) (Query.entry id).ask
  | transaction id => ofAction (Value.ofOption .transaction) (Query.transaction id).ask
  | listEntries accountId p => ofAction (Value.ofList .entry) (History.entries accountId p)
  | listTransactions accountId p =>
      ofAction (Value.ofList .transaction) (History.transactions accountId p)
  | entries accountId limit offset =>
      ofAction (Value.ofList .entry) (Query.entries accountId limit offset).ask
  | transactions accountId limit offset =>
      ofAction (Value.ofList .transaction) (Query.transactions accountId limit offset).ask
  | netSum accountId => ofAction .amount (History.netEntrySum accountId)
  | dump => ofAction id listAll

def program (q : QueryStep) : Program (Timed ScriptedStore) Outcome :=
  (timed do (← q.storeProgram).shown).interpret (interpretTimed undisturbed)

end QueryStep

inductive Step where
  | query (q : QueryStep)
  | client (c : ClientStep)
  /-- Opens a session under a name. -/
  | begin (name : String)
  | drop (name : String)
  | session (name : Option String) (step : Except InputFault SessionStep)
  | faults (rules : List FaultRule)
  | sleep (ms : Nat)
  | cycle (times : Nat) (steps : List Step)
  | spawn (task : String) (c : ClientStep)
  | join (task : String)
  | abort (task : String)
  | healthCheck
  | migrate (applied : List Sql.AppliedMigration)
  | malformed (f : InputFault)

end DoubleEntry.Simulation
