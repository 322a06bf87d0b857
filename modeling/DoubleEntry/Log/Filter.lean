import DoubleEntry.Log.Directive

/-!
Filters of logs: lists of directives between commas. Of the directives that look at a report alone,
the most specific one for it counts, and of equal ones the last. Those that name spans or fields
show a span that they are for, whatever its level, and inside of it what is as detailed as they
say. Nothing passes that is more detailed than every directive.
-/

namespace DoubleEntry

abbrev LogFilter : Type := List LogDirective

namespace LogFilter

/-- Without directives only errors pass. -/
def ofDirectives (ds : List LogDirective) : LogFilter :=
  if ds.isEmpty then [{ detail := LogLevel.error.detail }] else ds

def parts (s : String) : List String := (s.splitOn ",").filter (!·.isEmpty)

/-- Reads a filter and passes over what is no directive. -/
def ofText (s : String) : LogFilter := ofDirectives ((parts s).filterMap LogDirective.ofText?)

/-- Reads a filter that consists of directives alone. -/
def ofText? (s : String) : Option LogFilter :=
  ((parts s).mapM LogDirective.ofText?).map ofDirectives

/-- The filter of a configured level, unless a variable of the environment holds a better one. -/
def chosen (level : String) (override : Option String) : LogFilter :=
  (override.bind ofText?).getD (ofText level)

/-- The most specific of some directives; of equal ones the last. -/
def best? (ds : List LogDirective) : Option LogDirective :=
  ds.foldl
    (fun best d =>
      match best with
      | some b => if d.isAsSpecific b then some d else some b
      | none => some d)
    none

/-- What is as detailed as this passes the directives that look at each report alone. -/
def detailOf (ds : List LogDirective) : Nat := (best? ds).elim 0 (·.detail)

/-- The directives that look at an event alone. They may ask for fields that it has. -/
def forEvent (f : LogFilter) (e : Event) : List LogDirective :=
  f.filter fun d =>
    d.isStatic && d.isFor e.filterTarget && d.fieldNames.all e.fieldNames.contains

/-- The directives that look at a span alone, whatever fields they ask for. -/
def forSpan (f : LogFilter) : List LogDirective :=
  f.filter fun d => d.isStatic && d.isFor Span.target

/-- Of directives that are for the same, the last. -/
def latest : List LogDirective → List LogDirective
  | [] => []
  | d :: ds => if ds.any d.isSameAs then latest ds else d :: latest ds

/-- The directives that follow what happens in the spans of transfers. -/
def forInside (f : LogFilter) : List LogDirective :=
  latest (f.filter fun d =>
    d.isDynamic && d.isFor Span.target && d.span.all (· == Span.name) &&
      d.fieldNames.all Span.fieldNames.contains)

/-- Whether the values of a span are those that a directive asks for. -/
def suits (d : LogDirective) (s : Span) : Bool :=
  d.fields.all fun field =>
    field.test.all fun test => ((s.fields "").lookup field.name).any test.holds

/-- How detailed a report inside a span may be because of it. -/
def detailInside (f : LogFilter) (s : Span) : Nat :=
  ((f.forInside.filter (suits · s)).map (·.detail)).foldl max 0

/-- Nothing more detailed passes. A directive that looks at values has to see every span first. -/
def limit (f : LogFilter) : Nat :=
  if f.any fun d => d.fields.any (·.test.isSome) then LogDirective.fullDetail
  else (f.map (·.detail)).foldl max 0

/-- Whether spans of transfers are shown. -/
def showsSpans (f : LogFilter) : Bool :=
  LogLevel.info.detail ≤ f.limit &&
    (!f.forInside.isEmpty || LogLevel.info.detail ≤ detailOf f.forSpan)

/-- Whether an event is shown that was reported in a span or outside of any. -/
def shows (f : LogFilter) (e : Event) (span : Option Span) : Bool :=
  e.level.detail ≤ f.limit &&
    (span.any (fun s => f.showsSpans && e.level.detail ≤ f.detailInside s) ||
      e.level.detail ≤ detailOf (f.forEvent e))

end LogFilter
end DoubleEntry
