import DoubleEntry.Log.Layout
import DoubleEntry.Simulation.Database
import DoubleEntry.Startup

/-!
Starting the program against a database with a script.
-/

namespace DoubleEntry.Simulation

open Sql

/-- A server that listens on a socket in a directory, and may refuse every connection. -/
structure ScriptedServer where
  directory : String
  refusal : Option DatabaseFailure := none
  applied : List AppliedMigration := []
  replies : List ScriptedReply := []

namespace ScriptedServer

/-- The names on the way to the socket. -/
def socketSteps (server : ScriptedServer) : List String :=
  server.directory.splitOn "/" ++ [Endpoint.socketName Endpoint.standardPort]
    |>.filter (· ≠ "")

/-- Walks along a path through a file system that has one file and the directories on the way to it.
-/
def walk (file : List String) : List String → List String → Except DatabaseFailure Unit
  | place, [] =>
      if place = file then .ok () else .error (.unreachable "Connection refused (os error 111)")
  | place, step :: steps =>
      if place = file then .error (.unreachable "Not a directory (os error 20)")
      else if step = "" ∨ step = "." then walk file place steps
      else if step = ".." then walk file place.dropLast steps
      else if (place ++ [step]).isPrefixOf file then walk file (place ++ [step]) steps
      else .error (.unreachable "No such file or directory (os error 2)")

/-- The hosts that are the machine itself. -/
def isOwnHost (host : String) : Bool :=
  ["localhost", "0.0.0.0", "::", "[::]", "::1", "[::1]"].contains host || host.startsWith "127."

/-- The machine has no network. No port of its own answers in time, it does not find names, and it
does not come to other machines. -/
def reachHost (host : String) : Except DatabaseFailure Unit :=
  if isOwnHost host then .error .poolTimedOut
  else if SocketAddress.isHostAddress (host.toList.filter fun c => c != '[' && c != ']') then
    .error (.unreachable "Network is unreachable (os error 101)")
  else
    .error (.unreachable <|
      "failed to lookup address information: Temporary failure in name resolution")

/-- The server does not encrypt, and may refuse whoever comes to its socket. -/
def reach (server : ScriptedServer) : Startup.Reach := fun endpoint => do
  match endpoint.socketPath? with
  | none => reachHost endpoint.host
  | some path => walk server.socketSteps [] (path.splitOn "/")
  if endpoint.encryption.isDemanded then throw .unencrypted
  match server.refusal with
  | some failure => throw failure
  | none => return

end ScriptedServer

structure LaunchReport where
  result : Checked StartupFailure Unit
  log : List LogLine
  sent : List Statement

def eventRecord? : Note → Option LogRecord
  | .event e => some (.event e none)
  | _ => none

/-- Starts the program. Without settings there is no log. -/
def launch (s : Startup.Surroundings) (reach : Startup.Reach) (applied : List AppliedMigration)
    (script : Script) (stamp : LogStamp) : LaunchReport :=
  match s.settings with
  | .error o => ⟨.halt o, [], []⟩
  | .ok (.error failure) => ⟨.fail (.config failure), [], []⟩
  | .ok (.ok settings) =>
      let config := settings.application.logConfig
      let program := Startup.program settings s.endpoint reach applied
      let (result, notes, script) := script.run program.run
      let lines := (notes.filterMap eventRecord?).flatMap (config.lines (s.logFilter config) stamp)
      ⟨result, lines, script.sent.reverse⟩

def ScriptedServer.launch (server : ScriptedServer) (s : Startup.Surroundings)
    (stamp : LogStamp) : LaunchReport :=
  Simulation.launch s server.reach server.applied { replies := server.replies } stamp

end DoubleEntry.Simulation
