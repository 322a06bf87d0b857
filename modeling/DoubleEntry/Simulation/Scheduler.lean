import DoubleEntry.Simulation.World

/-!
Tasks and the passing of time. A client runs until it must wait; tasks that can go on do so in the
order in which they became able to; and only when everything waits does the clock move, to the next
timer. The main client, which runs the steps, is looked at before the tasks when a timer goes off.
-/

namespace DoubleEntry.Simulation.World

variable {B : Backend} {α : Type}

/-- The steps that a simulation may take in all; none comes near it. -/
def enough : Nat := 1000000000

/-- A task waits for a lock that it has been granted. -/
def hasGrant (w : World B) (t : Task B) : Bool :=
  match t.state with
  | .blocked b => b.wait.ticket.any (B.isGranted · w.store)
  | _ => false

/-- Lines up the tasks whose locks have been granted. -/
def lineUpGranted (w : World B) : World B :=
  let granted := w.tasks.filter fun t => w.hasGrant t && !w.ready.contains t.number
  { w with ready := w.ready ++ granted.map (·.number) }

/-- Runs the client that has `belongings` open. A client that halts drops them. -/
def runClient (w : World B) (belongings : Belongings) (p : Program (Timed ScriptedStore) α) :
    ClientState B α × Belongings × World B :=
  let (progress, w) := p.run server { w with running := belongings, wait := none }
  match progress, w.wait with
  | .finished value, _ => (.finished value, w.running, w.lineUpGranted)
  | .halted o, _ =>
      let w := w.dropOpen
      (.halted o, w.running, w.lineUpGranted)
  | .blocked r next, some wait => (.blocked ⟨r, next, wait⟩, w.running, w.lineUpGranted)
  | .blocked r next, none => (.blocked ⟨r, next, ⟨w.nextNumber, w.clock, none⟩⟩, w.running, w)

/-- Lets a client that waits go on, if its wait is over. -/
def resumeClient (w : World B) (belongings : Belongings) (b : Blocked B α) :
    Option (ClientState B α × Belongings × World B) :=
  match w.wake b.wait b.request with
  | (some reply, w) => some (w.lineUpGranted.runClient belongings (b.next reply))
  | (none, _) => none

def setTask (w : World B) (t : Task B) : World B :=
  { w with tasks := w.tasks.map fun old => if old.number = t.number then t else old }

def task? (w : World B) (number : Nat) : Option (Task B) := w.tasks.find? (·.number == number)

def namedTask? (w : World B) (name : String) : Option (Task B) :=
  w.tasks.find? (·.name == some name)

def removeTask (w : World B) (number : Nat) : World B :=
  { w with tasks := w.tasks.filter (·.number != number) }

def taskState : ClientState B Outcome → TaskState B
  | .finished outcome => .finished outcome
  | .halted o => .finished (.overflow o)
  | .blocked b => .blocked b

/-- Lets one task run as far as it can. -/
def runTask (w : World B) (t : Task B) : World B :=
  match t.state with
  | .finished _ => w
  | .ready p =>
      let (state, belongings, w) := w.runClient t.belongings p
      w.setTask { t with state := taskState state, belongings := belongings }
  | .blocked b =>
      match w.resumeClient t.belongings b with
      | some (state, belongings, w) =>
          w.setTask { t with state := taskState state, belongings := belongings }
      | none => w

/-- Lets tasks run until each of them waits or is done. -/
def settle : Nat → World B → World B
  | 0, w => w
  | fuel + 1, w =>
      match w.ready with
      | [] => w
      | number :: rest =>
          let w := { w with ready := rest }
          match w.task? number with
          | some t => settle fuel (w.runTask t)
          | none => settle fuel w

def blockedTimers (t : Task B) : List (Nat × Nat) :=
  match t.state with
  | .blocked b => timers b
  | _ => []

/-- The next instant at which anyone waiting is woken; the main client's timers are given. -/
def nextInstant? (w : World B) (main : List (Nat × Nat)) : Option Nat :=
  ((main ++ w.tasks.flatMap blockedTimers).map (·.1)).min?

/-- The number of a task's first timer that has gone off. -/
def firstDue? (w : World B) (t : Task B) : Option Nat :=
  (((blockedTimers t).filter fun timer => timer.1 ≤ w.clock).map (·.2)).min?

/-- Moves the clock and lines up the tasks whose timers go off, in the order of the timers. -/
def advanceTo (w : World B) (instant : Nat) : World B :=
  let w := { w with clock := max w.clock instant }
  let due := w.tasks.filterMap fun t => (w.firstDue? t).map fun timer => (timer, t.number)
  let due := due.mergeSort fun a b => a.1 ≤ b.1
  { w with ready := w.ready ++ (due.map (·.2)).filter (!w.ready.contains ·) }

/-- How a program of the main client ends. -/
inductive Ending (α : Type) where
  | value (a : α)
  | halted (o : Overflow)
  /-- It waits for something that never comes. -/
  | stalled

/-- Runs the main client to its end, and the tasks meanwhile. -/
def finish : Nat → ClientState B α × Belongings × World B → Ending α × Belongings × World B
  | 0, (_, belongings, w) => (.stalled, belongings, w)
  | _ + 1, (.finished value, belongings, w) => (.value value, belongings, w)
  | _ + 1, (.halted o, belongings, w) => (.halted o, belongings, w)
  | fuel + 1, (.blocked b, belongings, w) =>
      match w.resumeClient belongings b with
      | some state => finish fuel state
      | none =>
          if w.ready.isEmpty then
            match w.nextInstant? (timers b) with
            | some instant => finish fuel (.blocked b, belongings, w.advanceTo instant)
            | none => (.stalled, belongings, w)
          else finish fuel (.blocked b, belongings, w.settle enough)

/-- Runs a program of the main client. -/
def perform (w : World B) (p : Program (Timed ScriptedStore) α) : Ending α × World B :=
  let (result, belongings, w) := finish enough (w.runClient w.running p)
  (result, { w with running := belongings })

/-- Waits until a task is done, and takes its outcome. -/
def awaitTask (name : String) : Nat → World B → Outcome × World B
  | 0, w => (.stalled, w)
  | fuel + 1, w =>
      match w.namedTask? name with
      | none => (.input (.field "task"), w)
      | some t =>
          match t.state with
          | .finished outcome => (outcome, w.removeTask t.number)
          | _ =>
              if w.ready.isEmpty then
                match w.nextInstant? [] with
                | some instant => awaitTask name fuel (w.advanceTo instant)
                | none => (.stalled, w)
              else awaitTask name fuel (w.settle enough)

def spawn (w : World B) (name : String) (p : Program (Timed ScriptedStore) Outcome) : World B :=
  let others := w.tasks.map fun t => if t.name = some name then { t with name := none } else t
  { w with
    tasks := others ++ [⟨w.nextNumber, some name, .ready p, {}⟩]
    ready := w.ready ++ [w.nextNumber]
    nextNumber := w.nextNumber + 1 }

/-- Drops a client's wait, and then what it has open. -/
def dropClient (w : World B) (t : Task B) : World B :=
  let w := match t.state with
    | .blocked b => w.desert b.wait
    | _ => w
  let main := w.running
  { { w with running := t.belongings }.dropOpen with running := main }.lineUpGranted

/-- Drops a task where it waits. -/
def abort (w : World B) (t : Task B) : World B :=
  (w.dropClient t).removeTask t.number

/-- The names of all tasks that are not taken yet. -/
def taskNames (w : World B) : List String := w.tasks.filterMap (·.name)

/-- The names of the tasks that are not done. -/
def waitingTasks (w : World B) : List String :=
  (w.tasks.filter (!·.state.isFinished)).filterMap (·.name)

end DoubleEntry.Simulation.World
