import DoubleEntry.Simulation.Run
import DoubleEntry.Sql.Migration
import DoubleEntry.Sql.Store

/-!
A database with a script. It answers statements in the order of the script, whatever they are, with
an empty success once the script is over, and remembers what it was sent.
-/

namespace DoubleEntry.Simulation

open Sql

abbrev ScriptedReply : Type := Except DatabaseFailure Answer

namespace ScriptedReply

def cell : Json → Cell
  | .number n => (n.int?).elim .null .integer
  | .string s => .text s
  | _ => .null

/-- A failure from an object with a code and a message. -/
def failure (v : Json) : DatabaseFailure :=
  .refused (v.member? "code" >>= Json.string?) ((v.member? "message" >>= Json.string?).getD "")

/-- An object with an `error`, or with `rows` and the number of rows `affected`. What is missing is
empty, and without a number all rows count. -/
def ofJson (v : Json) : ScriptedReply :=
  match (v.member? "error").filter (!·.isNull) with
  | some e => .error (failure e)
  | none =>
      let rows := ((v.member? "rows" >>= Json.array?).getD []).map fun row =>
        (row.array?.getD []).map cell
      .ok { rows := rows, affected := (v.member? "affected" >>= Json.word64?).getD rows.length }

end ScriptedReply

structure Script where
  replies : List ScriptedReply := []
  /-- The newest statement first. -/
  sent : List Statement := []

namespace Script

def reply (s : Statement) (script : Script) : ScriptedReply × Script :=
  (script.replies.head?.getD (.ok {}),
    { replies := script.replies.tail, sent := s :: script.sent })

/-- Runs what is sent to a database against a script. -/
def run {α : Type} (p : Program Database α) (script : Script) :
    Except Overflow α × List Note × Script :=
  p.answered reply script

end Script

/-- The store over a scripted database. -/
structure ScriptedState where
  options : Options := {}
  sessions : Sessions := {}
  script : Script := {}

namespace ScriptedState

def submit (r : StoreRequest) (st : ScriptedState) :
    Except Overflow (Submission Empty r.Reply) × List Note × ScriptedState :=
  match st.script.run (Sql.serve st.options r st.sessions) with
  | (.ok (reply, sessions), notes, script) =>
      (.ok (.answered reply), notes, { st with sessions := sessions, script := script })
  | (.error o, notes, script) => (.error o, notes, { st with script := script })

def admin (p : Program Database (Except LedgerError Unit)) (st : ScriptedState) :
    AdminReply ScriptedState :=
  let (result, notes, script) := st.script.run p
  some (result, notes, { st with script := script })

end ScriptedState

def databaseBackend : Backend where
  State := ScriptedState
  Ticket := Empty
  submit _ r st := st.submit r
  isGranted ticket _ := ticket.elim
  resume _ _ ticket _ := ticket.elim
  expire _ ticket _ := ticket.elim
  desert ticket _ := ticket.elim
  patience _ := 0
  tables? _ := none
  healthCheck st := st.admin checkHealth
  migrate applied st := st.admin (Sql.migrate applied)

/-- A step, and how the statements in it are answered. -/
structure ScriptedStep where
  step : Step
  replies : List ScriptedReply

namespace World

/-- Runs a step against its script. Also gives what was sent, in order. -/
def reportScripted (s : ScriptedStep) (w : World databaseBackend) :
    (StepReport × List Statement) × World databaseBackend :=
  let script : Script := { replies := s.replies }
  let (report, w) := World.reportStep s.step { w with store := { w.store with script := script } }
  ((report, w.store.script.sent.reverse), w)

def reportAllScripted : List ScriptedStep → World databaseBackend →
    List (StepReport × List Statement) × World databaseBackend
  | [], w => ([], w)
  | s :: rest, w =>
      let (report, w) := reportScripted s w
      let (reports, w) := reportAllScripted rest w
      (report :: reports, w)

end World
end DoubleEntry.Simulation
