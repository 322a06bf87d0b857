/-!
Counters: what is counted, the series that a count belongs to, and totals by series.
-/

namespace DoubleEntry

inductive Measurement where
  | transfer (currency : String)
  | transferFailed (reason : String)
  | rollback (reason : String)
  | hookFailure
  /-- One sample of a transfer's duration. -/
  | latency
  deriving DecidableEq, Repr

namespace Measurement

/-- Escapes newlines, quotes and backslashes. A backslash that already stands before a quote or
another backslash is taken to escape it; `held` says that one is waiting. -/
def escapeLabel (held : Bool) : List Char → List Char
  | [] => if held then ['\\', '\\'] else []
  | c :: cs =>
      if c = '\n' then '\\' :: 'n' :: escapeLabel held cs
      else if c = '"' then '\\' :: '"' :: escapeLabel false cs
      else if c = '\\' then
        if held then '\\' :: '\\' :: escapeLabel false cs else escapeLabel true cs
      else (if held then ['\\', '\\'] else []) ++ c :: escapeLabel false cs

def labelled (series label value : String) : String :=
  String.ofList (series.toList ++ '{' :: label.toList ++ '=' :: '"' ::
    escapeLabel false value.toList ++ ['"', '}'])

/-- The text of the series that a measurement adds one to. -/
def series : Measurement → String
  | transfer currency => labelled "ledger_transfers_total" "currency" currency
  | transferFailed reason => labelled "ledger_transfers_failed_total" "reason" reason
  | rollback reason => labelled "ledger_unit_of_work_rollbacks_total" "reason" reason
  | hookFailure => "ledger_post_commit_hook_failures_total"
  | latency => "ledger_transfer_duration_ms_count"

end Measurement

/-- How often each measurement was made, in the order of the first one. -/
structure Counters where
  counts : List (Measurement × Nat) := []
  deriving Inhabited

namespace Counters

def get (cs : Counters) (m : Measurement) : Nat := (cs.counts.lookup m).getD 0

def bump (m : Measurement) : List (Measurement × Nat) → List (Measurement × Nat)
  | [] => [(m, 1)]
  | (k, n) :: rest => if k = m then (k, n + 1) :: rest else (k, n) :: bump m rest

def record (cs : Counters) (m : Measurement) : Counters := ⟨bump m cs.counts⟩

/-- The totals by the text of the series. -/
def totals (cs : Counters) : List (String × Nat) := cs.counts.map fun (m, n) => (m.series, n)

theorem lookup_bump (m k : Measurement) (counts : List (Measurement × Nat)) :
    ((bump m counts).lookup k).getD 0 = (counts.lookup k).getD 0 + if k = m then 1 else 0 := by
  induction counts with
  | nil =>
      by_cases h : k = m
      · simp [bump, h]
      · simp [bump, List.lookup_cons, h, show (k == m) = false by simp [h]]
  | cons c rest ih =>
      obtain ⟨l, n⟩ := c
      by_cases hl : l = m
      · by_cases h : k = m
        · simp [bump, hl, h]
        · simp [bump, List.lookup_cons, hl, h, show (k == m) = false by simp [h]]
      · by_cases h : k = l
        · have : ¬ k = m := fun hk => hl (h ▸ hk)
          simp [bump, hl, h]
        · simp [bump, List.lookup_cons, hl, show (k == l) = false by simp [h], ih]

theorem get_record (cs : Counters) (m k : Measurement) :
    (cs.record m).get k = cs.get k + if k = m then 1 else 0 :=
  lookup_bump m k cs.counts

end Counters
end DoubleEntry
