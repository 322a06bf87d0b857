import DoubleEntry.Json.Reader
import DoubleEntry.Json.Writer
import DoubleEntry.Simulation.Launch

/-!
The command line. It starts the program where it stands: with the JSON files under `config`, the
file `.env` and the environment. The database is played by the standard input, which has one reply
on each line.

Only `config/default.json` and `config/local.json` are read. The defaults are shipped as
`config/default.toml`, and where there is nothing else the start fails for want of a default file.
-/

namespace DoubleEntry.CommandLine

open Simulation

def readFile? (path : String) : IO (Option String) := do
  try return some (← IO.FS.readFile path) catch _ => return none

/-- The members of a file that holds a JSON object. A file in another format has none. -/
def readObject? (path : String) : IO (Option (List (String × Json))) := do
  return (← readFile? path) >>= Json.ofText? >>= Json.members?

def assignment? (item : String) : Option (String × String) :=
  let name := item.toList.takeWhile (· != '=')
  if name.length < item.length then
    some (String.ofList name, String.ofList (item.toList.drop (name.length + 1)))
  else none

def environment : IO (List (String × String)) := do
  let text := (← readFile? "/proc/self/environ").getD ""
  return (text.splitOn "\x00").filterMap assignment?

partial def readReplies (input : IO.FS.Stream) : IO (List ScriptedReply) := do
  let line ← input.getLine
  if line.isEmpty then return []
  let reply := ScriptedReply.ofJson ((Json.ofText? line).getD .null)
  return reply :: (← readReplies input)

def lineText : LogLine → String
  | .object j => j.toText
  | .text s => s

end DoubleEntry.CommandLine

open DoubleEntry CommandLine Simulation in
def main : IO UInt32 := do
  let surroundings : Startup.Surroundings :=
    ⟨← readObject? "config/default.json", ← readObject? "config/local.json", ← environment,
      ← readFile? ".env"⟩
  let replies ← readReplies (← IO.getStdin)
  let time := Duration.toText (← IO.monoMsNow)
  let report := launch surroundings (fun _ => .ok ()) [] { replies := replies } ⟨time, "", "", ""⟩
  for line in report.log do
    IO.println (lineText line)
  match report.result with
  | .ok (.ok ()) => return 0
  | .ok (.error failure) => do
      IO.eprintln s!"Error: {failure.message}"
      return 1
  | .error o => do
      IO.eprintln o.message
      return 1
