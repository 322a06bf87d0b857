import DoubleEntry.Simulation.Scheduler

/-!
Running the steps of a simulation one after another, with a report of each.
-/

namespace DoubleEntry.Simulation

/-- Committed entries, committed transactions, and slots of row locks. -/
structure Counts where
  entries : Nat
  transactions : Nat
  lockSlots : Nat
  deriving DecidableEq, Repr

/-- What a step gave, and what happened meanwhile, in order. -/
structure StepReport where
  outcome : Outcome
  counts : Option Counts
  calls : List String
  log : List LogRecord
  /-- The tasks that are not done, while there are tasks at all. -/
  waiting : Option (List String)

namespace World

variable {B : Backend}

def performOutcome (w : World B) (p : Program (Timed ScriptedStore) Outcome) : Outcome × World B :=
  match w.perform p with
  | (.value outcome, w) => (outcome, w)
  | (.halted o, w) => (.overflow o, w)
  | (.stalled, w) => (.stalled, w)

/-- Asks the store something that is not disturbed. -/
def askStore (w : World B) (r : StoreRequest) : Ending r.Reply × World B :=
  w.perform (Program.untimed (undisturbed r))

def abandonSession (w : World B) (s : SessionId) : World B := (w.askStore (.abandon s)).2

def forgetName (w : World B) (name : String) : World B :=
  { w with names := w.names.filter (·.1 != name) }

/-- Opens a session under a name. A session that had the name before ends after that. -/
def openNamed (w : World B) (name : String) : Outcome × World B :=
  match w.askStore .begin with
  | (.value (.ok s), w) =>
      let old := w.names.lookup name
      let w := { w.forgetName name with names := (name, s) :: (w.forgetName name).names }
      (.ok .nothing, (old.map w.abandonSession).getD w)
  | (.value (.error e), w) => (.error e, w)
  | (.halted o, w) => (.overflow o, w)
  | (.stalled, w) => (.stalled, w)

def dropNamed (w : World B) (name : String) : Outcome × World B :=
  match w.names.lookup name with
  | some s => (.ok (.flag true), (w.forgetName name).abandonSession s)
  | none => (.ok (.flag false), w)

/-- Performs a step in a session that is open under a name. -/
def performInSession (w : World B) (name : Option String)
    (step : Except InputFault SessionStep) : Outcome × World B :=
  match name.bind (fun n => w.names.lookup n), step with
  | none, _ => (.input (.field "tx"), w)
  | some _, .error f => (.input f, w)
  | some s, .ok step =>
      let p := (Program.untimed (step.program s).run).interpret (Program.interpretTimed undisturbed)
      w.performOutcome do (Outcome.ofResult id (← p)).shown

def admin (w : World B) : AdminReply B.State → Outcome × World B
  | some (.ok (.ok ()), notes, store) => (.ok .nothing, { w with store := store }.noteAll notes)
  | some (.ok (.error e), notes, store) => (.error e, { w with store := store }.noteAll notes)
  | some (.error o, notes, store) => (.overflow o, { w with store := store }.noteAll notes)
  | none => (.input (.field "tx"), w)

/-- Lets the tasks run that can. -/
def settled (result : Outcome × World B) : Outcome × World B :=
  (result.1, result.2.settle enough)

/-- How many steps went well and how many did not, and the last outcome. -/
structure Tally where
  succeeded : Nat := 0
  failed : Nat := 0
  last : Option Outcome := none

def Tally.add (t : Tally) (o : Outcome) : Tally :=
  if o.isOk then { t with succeeded := t.succeeded + 1, last := some o }
  else { t with failed := t.failed + 1, last := some o }

def Tally.toOutcome (t : Tally) : Outcome := .ok (.tally t.succeeded t.failed t.last)

/-- Applies a function so many times. -/
def iterate {σ : Type} (f : σ → σ) : Nat → σ → σ
  | 0, s => s
  | n + 1, s => iterate f n (f s)

mutual

def runStep : Step → World B → Outcome × World B
  | .query q, w => settled (w.performOutcome q.program)
  | .client c, w => settled (w.performOutcome c.program)
  | .begin name, w => settled (w.openNamed name)
  | .drop name, w => settled (w.dropNamed name)
  | .session name step, w => settled (w.performInSession name step)
  | .faults rules, w => settled (.ok .nothing, { w with rules := rules })
  | .sleep ms, w =>
      settled (w.performOutcome do
        Program.untimed (Program.pause ms)
        pure (.ok .nothing))
  | .cycle times steps, w =>
      let (tally, after) := iterate (fun state => runAll steps state) times ({}, w)
      (tally.toOutcome, after)
  | .spawn task c, w => settled (.ok .nothing, w.spawn task c.program)
  | .join task, w => settled (w.awaitTask task enough)
  | .abort task, w =>
      match w.namedTask? task with
      | some t => settled (.ok .nothing, w.abort t)
      | none => settled (.ok .nothing, w)
  | .healthCheck, w => settled (w.admin (B.healthCheck w.store))
  | .migrate applied, w => settled (w.admin (B.migrate applied w.store))
  | .malformed f, w => settled (.input f, w)

/-- Runs steps in their order and counts their outcomes. -/
def runAll : List Step → Tally × World B → Tally × World B
  | [], state => state
  | step :: steps, (tally, w) =>
      let (outcome, w) := runStep step w
      runAll steps (tally.add outcome, w)

end

/-- A step whose calls and reports are not shown. -/
def hidesDetails : Step → Bool
  | .cycle _ _ => true
  | _ => false

def counts (w : World B) : Option Counts :=
  (B.tables? w.store).map fun (t, slots) => ⟨t.entries.length, t.transactions.length, slots⟩

/-- Runs a step and reports what happened since. -/
def reportStep (step : Step) (w : World B) : StepReport × World B :=
  let (outcome, after) := runStep step w
  let hidden := hidesDetails step
  let calls := if hidden then [] else after.calls.take (after.calls.length - w.calls.length)
  let log := if hidden then [] else after.log.take (after.log.length - w.log.length)
  let waiting := if after.taskNames.isEmpty then none else some after.waitingTasks
  ({ outcome := outcome, counts := after.counts, calls := calls.reverse, log := log.reverse,
     waiting := waiting }, after)

/-- Runs steps and reports each of them. -/
def reportAll : List Step → World B → List StepReport × World B
  | [], w => ([], w)
  | step :: steps, w =>
      let (report, w) := w.reportStep step
      let (reports, w) := reportAll steps w
      (report :: reports, w)

end World
end DoubleEntry.Simulation
