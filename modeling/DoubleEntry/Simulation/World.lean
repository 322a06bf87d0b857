import DoubleEntry.Log.Record
import DoubleEntry.Simulation.Backend

/-!
The world of a simulation: a store, a clock that stands still while anything can run, the tasks, and
the record of what was reported, called and counted. One client runs at a time, until it is done or
must wait.
-/

namespace DoubleEntry.Simulation

/-- What a client waits for: a lock or just time, until an instant. Timers are numbered in the order
in which they were set. -/
structure Wait (B : Backend) where
  number : Nat
  due : Nat
  ticket : Option B.Ticket

/-- A client that waits for the reply to a request. -/
structure Blocked (B : Backend) (α : Type) where
  request : TimedRequest ScriptedStore
  next : request.Reply → Program (Timed ScriptedStore) α
  wait : Wait B

/-- Where a client stands after it has run. -/
inductive ClientState (B : Backend) (α : Type) where
  | finished (value : α)
  | halted (o : Overflow)
  | blocked (b : Blocked B α)

/-- What a client has open. -/
structure Belongings where
  span : Option Span := none
  sessions : List SessionId := []

inductive TaskState (B : Backend) where
  | ready (p : Program (Timed ScriptedStore) Outcome)
  | blocked (b : Blocked B Outcome)
  | finished (o : Outcome)

def TaskState.isFinished {B : Backend} : TaskState B → Bool
  | .finished _ => true
  | _ => false

/-- A task that runs beside the steps. Its name is gone once another task has taken it over. -/
structure Task (B : Backend) where
  number : Nat
  name : Option String
  state : TaskState B
  belongings : Belongings

structure World (B : Backend) where
  store : B.State
  /-- Milliseconds since the start. -/
  clock : Nat := 0
  /-- The newest record first. -/
  log : List LogRecord := []
  /-- The newest call first. -/
  calls : List String := []
  counters : Counters := {}
  rules : List FaultRule := []
  tasks : List (Task B) := []
  /-- The numbers of the tasks that can go on, the next one first. -/
  ready : List Nat := []
  nextNumber : Nat := 0
  /-- What the running client has open, and what it has begun to wait for. -/
  running : Belongings := {}
  wait : Option (Wait B) := none
  /-- The sessions that are open under a name. -/
  names : List (String × SessionId) := []

namespace World

variable {B : Backend}

def time (w : World B) : Timestamp := Timestamp.ofMillis w.clock

def note (w : World B) : Note → World B
  | .event e => { w with log := .event e w.running.span :: w.log }
  | .spanOpened s =>
      { w with log := .opened s :: w.log, running := { w.running with span := some s } }
  | .spanClosed =>
      match w.running.span with
      | some s => { w with log := .closed s :: w.log, running := { w.running with span := none } }
      | none => w
  | .counted m => { w with counters := w.counters.record m }

def noteAll (w : World B) (notes : List Note) : World B := notes.foldl note w

/-- Keeps track of the sessions that the running client has open. -/
def trackSession (w : World B) : (r : StoreRequest) → r.Reply → World B
  | .begin, .ok s =>
      { w with running := { w.running with sessions := w.running.sessions ++ [s] } }
  | .abandon s, _ =>
      { w with running := { w.running with sessions := w.running.sessions.filter (· != s) } }
  | _, _ => w

/-- Begins to wait for a lock or for time. -/
def startWait (w : World B) (duration : Nat) (ticket : Option B.Ticket) : World B :=
  { w with wait := some ⟨w.nextNumber, w.clock + duration, ticket⟩, nextNumber := w.nextNumber + 1 }

/-- Hands a request to the store. A client without patience does not wait at all. -/
def submit (w : World B) (r : StoreRequest) : Response r.Reply × World B :=
  match B.submit w.time r w.store with
  | (.ok (.answered reply), notes, store) =>
      (.answer reply, ({ w with store := store }.noteAll notes).trackSession r reply)
  | (.ok (.waiting ticket), notes, store) =>
      let w := { w with store := store }.noteAll notes
      if B.patience w.store = 0 then
        let (reply, store) := B.expire r ticket w.store
        (.answer reply, { w with store := store })
      else (.wait, w.startWait (B.patience w.store) (some ticket))
  | (.error o, notes, store) => (.halt o, { w with store := store }.noteAll notes)

/-- Starts what may take time. -/
def start (w : World B) : (r : PacedRequest ScriptedStore) → Response r.Reply × World B
  | .call (.store r) => w.submit r
  | .call (.consult c) =>
      (.answer (w.rules.find? (·.applies c)), { w with calls := c.text :: w.calls })
  | .pause ms => if ms = 0 then (.answer (), w) else (.wait, w.startWait ms none)

/-- Gives up a wait. -/
def desert (w : World B) (wait : Wait B) : World B :=
  match wait.ticket with
  | some ticket => { w with store := B.desert ticket w.store, wait := none }
  | none => { w with wait := none }

def isDue (w : World B) (instant : Option Nat) : Bool := instant.any (· ≤ w.clock)

/-- Serves the running client. A body that must wait is stopped if its time is up. -/
def serve : (r : TimedRequest ScriptedStore) → World B → Response r.Reply × World B
  | .now, w => (.answer w.clock, w)
  | .openWindow cancelAt timeout, w =>
      if w.isDue cancelAt then (.answer (.error .cancelled), w)
      else
        (.answer (.ok ⟨w.nextNumber, cancelAt, timeout.map (w.clock + ·)⟩),
          { w with nextNumber := w.nextNumber + 1 })
  | .free r, w => w.start r
  | .within window r, w =>
      match w.start r with
      | (.wait, w) =>
          if w.isDue window.deadline then
            (.answer (.error .deadline), (w.wait.map w.desert).getD w)
          else (.wait, w)
      | (response, w) => (response.map .ok, w)

def server : Server (Timed ScriptedStore) (World B) where
  note n w := w.note n
  serve := serve

/-- The reply to a request whose wait is over: the lock is granted, or the time has passed. -/
def endWait (w : World B) (wait : Wait B) : (r : PacedRequest ScriptedStore) →
    Option r.Reply × World B
  | .call (.store r) =>
      match wait.ticket with
      | none => (none, w)
      | some ticket =>
          if B.isGranted ticket w.store then
            let (reply, store) := B.resume w.time r ticket w.store
            (some reply, { w with store := store })
          else if wait.due ≤ w.clock then
            let (reply, store) := B.expire r ticket w.store
            (some reply, { w with store := store })
          else (none, w)
  | .call (.consult _) => (none, w)
  | .pause _ => if wait.due ≤ w.clock then (some (), w) else (none, w)

/-- Drops what the running client has open: its sessions first, and its span last. A session that
has a name stays open. -/
def dropOpen (w : World B) : World B :=
  let unnamed := w.running.sessions.filter fun s => !w.names.any (·.2 == s)
  (unnamed.foldl (fun w s => (w.submit (.abandon s)).2) w).note .spanClosed

/-- Looks again at a client that waits. A cancellation comes before all else, and the deadline
after what the client waited for. -/
def wake (w : World B) (wait : Wait B) : (r : TimedRequest ScriptedStore) →
    Option r.Reply × World B
  | .now => (none, w)
  | .openWindow _ _ => (none, w)
  | .free r => w.endWait wait r
  | .within window r =>
      if w.isDue window.cancelAt then (some (.error .cancelled), w.desert wait)
      else
        match w.endWait wait r with
        | (some reply, w) => (some (.ok reply), w)
        | (none, w) =>
            if w.isDue window.deadline then (some (.error .deadline), w.desert wait)
            else (none, w)

/-- The instants that a waiting client can be woken at, each with the number of its timer. -/
def timers {α : Type} (b : Blocked B α) : List (Nat × Nat) :=
  let own := (b.wait.due, b.wait.number)
  match b.request with
  | .within window _ =>
      own :: (window.cancelAt.toList ++ window.deadline.toList).map fun due => (due, window.number)
  | _ => [own]

end World
end DoubleEntry.Simulation
