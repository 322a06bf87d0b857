import DoubleEntry.Json.Basic
import DoubleEntry.Log.Config
import DoubleEntry.Log.Filter
import DoubleEntry.Log.Record

/-!
The lines of a log. The filter hides events, and also the span around an event; only the JSON layout
tells when a span ends.
-/

namespace DoubleEntry

/-- What differs from one run to the next: the time of a line, the reference of a transfer, and how
long its span was busy and idle. -/
structure LogStamp where
  time : String
  reference : String
  busy : String
  idle : String

inductive LogLine where
  | object (j : Json)
  | text (s : String)

namespace FieldValue

def text : FieldValue → String
  | int n => Text.integerText n
  | shown s => s
  | quoted s => Text.quoted s

def json : FieldValue → Json
  | int n => .ofInt n
  | shown s | quoted s => .string s

end FieldValue

namespace Span

def json (s : Span) (stamp : LogStamp) : Json :=
  .object (("name", .string name) :: (s.fields stamp.reference).map fun (k, v) => (k, v.json))

end Span

namespace LogConfig

/-- The name of a level at the right of five places. -/
def levelText (level : LogLevel) : String :=
  String.ofList (List.replicate (5 - level.name.length) ' ') ++ level.name

def objectLine (c : LogConfig) (stamp : LogStamp) (level : LogLevel) (target : String)
    (fields : List (String × Json)) (around : List (String × Json)) : LogLine :=
  let targetField := if c.includeTarget then [("target", .string target)] else []
  .object (.object (("timestamp", .string stamp.time) :: ("level", .string level.name) ::
    ("fields", .object fields) :: targetField ++ around))

def eventObject (c : LogConfig) (stamp : LogStamp) (e : Event) (span : Option Span) : LogLine :=
  let fields := ("message", .string e.message) :: e.fields.map fun (k, v) => (k, v.json)
  let around := match span with
    | some s => [("span", s.json stamp), ("spans", .array [s.json stamp])]
    | none => []
  c.objectLine stamp e.level e.target fields around

def closeObject (c : LogConfig) (stamp : LogStamp) (s : Span) : LogLine :=
  let fields := [("message", .string "close"), ("time.busy", .string stamp.busy),
    ("time.idle", .string stamp.idle)]
  c.objectLine stamp .info Span.target fields [("span", s.json stamp), ("spans", .array [])]

/-- Controls that can steer a terminal are written by number; that of a line is not. -/
def shownChar (c : Char) : List Char :=
  if ['\x07', '\x08', '\x0c', '\x1b', '\x7f'].contains c then
    '\\' :: 'x' :: Text.hexPadded 2 c.toNat
  else if 0x80 ≤ c.toNat ∧ c.toNat ≤ 0x9F then Text.escapeByNumber c
  else [c]

/-- A message in a text. -/
def shownMessage (e : Event) : String := String.ofList (e.message.toList.flatMap shownChar)

/-- One line, with the fields of the span behind those of the event. -/
def compactText (c : LogConfig) (stamp : LogStamp) (e : Event) (span : Option Span) : String :=
  let spanName := if span.isSome then Span.name ++ ": " else ""
  let target := if c.includeTarget then e.target ++ ": " else ""
  let spanFields := span.elim [] (·.fields stamp.reference)
  let fields := (e.fields ++ spanFields).map fun (k, v) => " " ++ k ++ "=" ++ v.text
  stamp.time ++ " " ++ levelText e.level ++ " " ++ spanName ++ target ++ shownMessage e ++
    String.join fields

def listedFields (fields : List (String × FieldValue)) : List String :=
  fields.map fun (k, v) => k ++ ": " ++ v.text

/-- A line for the event, one for its span, and an empty one. -/
def prettyText (c : LogConfig) (stamp : LogStamp) (e : Event) (span : Option Span) : String :=
  let target := if c.includeTarget then e.target ++ ": " else " "
  let head := "  " ++ stamp.time ++ " " ++ levelText e.level ++ " " ++ target ++
    ", ".intercalate (shownMessage e :: listedFields e.fields) ++ "\n"
  let place := if c.includeTarget then Span.target ++ "::" ++ Span.name else Span.name
  let around := span.elim "" fun s =>
    "    in " ++ place ++ " with " ++
      ", ".intercalate (listedFields (s.fields stamp.reference)) ++ "\n"
  head ++ around

def textLines (s : String) : List LogLine := (s.splitOn "\n").map .text

/-- The lines of one record. -/
def lines (c : LogConfig) (f : LogFilter) (stamp : LogStamp) : LogRecord → List LogLine
  | .event e span =>
      if f.shows e span then
        let span := span.filter fun _ => f.showsSpans
        match c.format with
        | .json => [c.eventObject stamp e span]
        | .compact => textLines (c.compactText stamp e span)
        | .pretty => textLines (c.prettyText stamp e span)
      else []
  | .opened _ => []
  | .closed s =>
      if c.format = .json ∧ f.showsSpans then [c.closeObject stamp s] else []

end LogConfig
end DoubleEntry
