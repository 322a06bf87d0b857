import DoubleEntry.Log.Event

/-!
The record of what was reported: events, each with the span that it was reported in, and the spans
themselves.
-/

namespace DoubleEntry

/-- What was reported, and the span that it was reported in. -/
inductive LogRecord where
  | event (e : Event) (span : Option Span)
  | opened (s : Span)
  | closed (s : Span)
  deriving DecidableEq

end DoubleEntry
