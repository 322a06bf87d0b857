import DoubleEntry.Proofs.Decimal.Rounding
import DoubleEntry.Proofs.History.Audit

/-!
An audit of a listing that does not change. The batches are read from the front, each once, and
their sums add up to that of the whole listing. The audit ends early where a call fails or where the
sum gets too large, whichever comes first. Amounts of a column do not make it too large, nor do
their partial sums lose a digit, before there are hundreds of millions of them.
-/

namespace DoubleEntry

section Column

variable {es : List Entry}

/-- Amounts of a column add up to a multiple of 10⁻⁸. -/
theorem exists_sum_eq (column : ∀ e ∈ es, e.amount.FitsColumn) :
    ∃ k : ℤ, (es.map (·.amount.value)).sum = k / 10 ^ 8 ∧ k.natAbs ≤ es.length * 10 ^ 20 := by
  induction es with
  | nil => exact ⟨0, by simp, by simp⟩
  | cons e es ih =>
      obtain ⟨k, sum, small⟩ := ih fun x hx => column x (List.mem_cons_of_mem e hx)
      have room := (Decimal.fitsColumn_iff_hasRoom e.amount).mp (column e List.mem_cons_self)
      obtain ⟨j, multiple⟩ := room.1
      have bound : j.natAbs < 10 ^ 20 := Decimal.natAbs_lt_of_hasRoom (multiple ▸ room)
      refine ⟨j + k, ?_, ?_⟩
      · rw [List.map_cons, List.sum_cons, sum, multiple, Int.cast_add, add_div]
      · rw [List.length_cons, Nat.add_mul]
        omega

/-- So many amounts of a column have an exact sum, and every partial sum is exact as well. -/
theorem addAll_exact (column : ∀ e ∈ es, e.amount.FitsColumn) (few : es.length ≤ 7 * 10 ^ 8) :
    ∃ total, History.addAll Decimal.zero es = some total ∧
      total.value = (es.map (·.amount.value)).sum := by
  induction es using List.reverseRecOn with
  | nil => exact ⟨Decimal.zero, rfl, Decimal.value_zero⟩
  | append_singleton es e ih =>
      obtain ⟨total, added, sum⟩ := ih (fun x hx => column x (List.mem_append_left _ hx))
        (Nat.le_trans (by simp) few)
      obtain ⟨k, exact_, small⟩ := exists_sum_eq column
      have last : total.value + e.amount.value = k / 10 ^ 8 := by
        rw [sum, ← exact_, List.map_append, List.sum_append]
        simp
      have fits : k.natAbs < pow2 96 := by
        have room : es.length * 10 ^ 20 + 10 ^ 20 ≤ 7 * 10 ^ 28 := by
          rw [List.length_append, List.length_singleton] at few
          omega
        rw [List.length_append, List.length_singleton, Nat.add_mul] at small
        have most : 7 * 10 ^ 28 < pow2 96 := by decide
        omega
      obtain ⟨more, found, value⟩ :=
        Decimal.exists_add?_of_isExact (last ▸ Decimal.isExact_of_natAbs_lt fits)
      refine ⟨more, ?_, ?_⟩
      · rw [History.addAll_append, added]
        simp only [Option.bind_some, History.addAll, List.foldlM_cons, List.foldlM_nil, found]
        rfl
      · rw [value, last, exact_]

end Column

/-- A listing that is read in slices. Any of the calls, counted from zero, may fail. What else may
be asked does not matter. -/
structure Listing where
  entries : List Entry
  failure? : Nat → Option LedgerError
  other : (r : StoreRequest) → r.Reply

namespace Listing

open History

/-- The reply to a call. -/
def slice (l : Listing) (call : Nat) (limit offset : Int) : Except LedgerError (List Entry) :=
  match l.failure? call with
  | some e => .error e
  | none => .ok (Table.page limit offset l.entries)

/-- Replies, and keeps a list of the calls. -/
def reply (l : Listing) : (r : StoreRequest) → List StoreRequest → r.Reply × List StoreRequest
  | .query (.entries a limit offset), calls =>
      (l.slice calls.length limit offset, calls ++ [.query (.entries a limit offset)])
  | r, calls => (l.other r, calls ++ [r])

/-- How a program ends that reads the listing, and the calls that it has made. -/
def read (l : Listing) (p : Action LedgerStore Decimal) (calls : List StoreRequest) :
    Except Overflow (Except LedgerError Decimal) × List StoreRequest :=
  ((p.toProgram.answered l.reply calls).1, (p.toProgram.answered l.reply calls).2.2)

/-- The call for one of the batches, counted from zero. -/
def call (a : Int) (batch : Nat) : StoreRequest :=
  .query (.entries a batchSize ((500 * batch : Nat) : Int))

/-- The entries before a batch. -/
def before (l : Listing) (batch : Nat) : List Entry := l.entries.take (500 * batch)

/-- What goes wrong at a batch: the call for it fails, or the sum gets too large in it. -/
def event? (l : Listing) (a : Int) (batch : Nat) : Option LedgerError :=
  match l.failure? batch with
  | some e => some e
  | none =>
      match addAll Decimal.zero (l.before (batch + 1)) with
      | none => some (.internal (.entrySumOverflow a))
      | some _ => none

/-- The audit ends at this batch: the batches up to it are called for in their order, nothing goes
wrong before it, and it is either where something goes wrong or where the listing ends. -/
structure EndsAt (l : Listing) (a : Int) (last : Nat)
    (outcome : Except Overflow (Except LedgerError Decimal) × List StoreRequest) : Prop where
  within : last ≤ l.entries.length / 500
  calls : outcome.2 = (List.range (last + 1)).map (call a)
  quiet : ∀ batch < last, l.event? a batch = none
  stopped : ∀ e, l.event? a last = some e → outcome.1 = .ok (.error e)
  /-- Offsets are 64-bit integers, and so are lengths of lists. -/
  summed : l.event? a last = none → (l.entries.length : Int) ≤ maxInt64 →
    last = l.entries.length / 500 ∧
      ∃ total, addAll Decimal.zero l.entries = some total ∧ outcome.1 = .ok (.ok total)

variable {l : Listing} {a : Int} {batch : Nat} {total : Decimal}

theorem before_succ (l : Listing) (batch : Nat) :
    l.before (batch + 1) =
      l.before batch ++ Table.page batchSize ((500 * batch : Nat) : Int) l.entries := by
  simp only [before, Table.page, Nat.mul_add, List.take_add]
  rfl

theorem before_eq_entries (short : l.entries.length < 500 * batch) :
    l.before batch = l.entries :=
  List.take_of_length_le (Nat.le_of_lt short)

/-- A batch, added to the sum of those before it. -/
theorem addAll_page (sum : addAll Decimal.zero (l.before batch) = some total) :
    addAll total (Table.page batchSize ((500 * batch : Nat) : Int) l.entries) =
      addAll Decimal.zero (l.before (batch + 1)) := by
  rw [before_succ, addAll_append, sum]
  rfl

/-- A batch is short if and only if the listing ends before the next. -/
theorem length_page_lt_iff (within : 500 * batch ≤ l.entries.length) :
    ((Table.page batchSize ((500 * batch : Nat) : Int) l.entries).length : Int) < batchSize ↔
      l.entries.length < 500 * (batch + 1) := by
  have length : (Table.page batchSize ((500 * batch : Nat) : Int) l.entries).length =
      min 500 (l.entries.length - 500 * batch) := by
    simp only [Table.page, List.length_take, List.length_drop, Int.toNat_natCast]
    rfl
  rw [length, batchSize]
  omega

/-- One call of the audit, and how it goes on with the batch. -/
theorem read_netFrom (l : Listing) (a : Int) (total : Decimal) (batch : Nat) :
    l.read (netFrom a total ((500 * batch : Nat) : Int)) ((List.range batch).map (call a)) =
      match l.failure? batch with
      | some e => (.ok (.error e), (List.range (batch + 1)).map (call a))
      | none =>
          l.read (proceed a ((500 * batch : Nat) : Int)
              (netFrom a · ((500 * (batch + 1) : Nat) : Int))
              total (Table.page batchSize ((500 * batch : Nat) : Int) l.entries))
            ((List.range (batch + 1)).map (call a)) := by
  have made : ((List.range batch).map (call a)).length = batch := by
    rw [List.length_map, List.length_range]
  have next : ((500 * batch : Nat) : Int) + batchSize = ((500 * (batch + 1) : Nat) : Int) := by
    rw [batchSize]
    omega
  rw [netFrom_eq, next, List.range_succ, List.map_append]
  simp only [read, Action.toProgram, bind, ExceptT.bind, ExceptT.mk, Query.ask, Program.request,
    Program.bind, Program.answered, reply, slice, made]
  cases l.failure? batch with
  | some e => rfl
  | none => rfl

theorem event?_of_failure {e : LedgerError} (failed : l.failure? batch = some e) :
    l.event? a batch = some e := by
  rw [event?, failed]

theorem event?_of_overflow (answered : l.failure? batch = none)
    (overflow : addAll Decimal.zero (l.before (batch + 1)) = none) :
    l.event? a batch = some (.internal (.entrySumOverflow a)) := by
  rw [event?, answered, overflow]

theorem event?_of_sum (answered : l.failure? batch = none)
    (sum : addAll Decimal.zero (l.before (batch + 1)) = some total) :
    l.event? a batch = none := by
  rw [event?, answered, sum]

/-- The audit ends where something goes wrong. -/
theorem endsAt_of_event {e : LedgerError} (within : 500 * batch ≤ l.entries.length)
    (quiet : ∀ earlier < batch, l.event? a earlier = none) (event : l.event? a batch = some e) :
    l.EndsAt a batch (.ok (.error e), (List.range (batch + 1)).map (call a)) where
  within := by omega
  calls := rfl
  quiet := quiet
  stopped e' same := by
    cases event.symm.trans same
    rfl
  summed no := by cases event.symm.trans no

/-- The audit at a batch: it ends there, or it goes on with the next batch in the same way. -/
theorem endsAt_or_goes_on (within : 500 * batch ≤ l.entries.length)
    (sum : addAll Decimal.zero (l.before batch) = some total)
    (quiet : ∀ earlier < batch, l.event? a earlier = none) :
    let outcome :=
      l.read (netFrom a total ((500 * batch : Nat) : Int)) ((List.range batch).map (call a))
    l.EndsAt a batch outcome ∨
      ∃ more, 500 * (batch + 1) ≤ l.entries.length ∧ l.event? a batch = none ∧
        addAll Decimal.zero (l.before (batch + 1)) = some more ∧
        outcome = l.read (netFrom a more ((500 * (batch + 1) : Nat) : Int))
          ((List.range (batch + 1)).map (call a)) := by
  intro outcome
  have asked := read_netFrom l a total batch
  cases answered : l.failure? batch with
  | some e =>
      rw [answered] at asked
      have ends : outcome = (.ok (.error e), _) := asked
      exact .inl (ends ▸ endsAt_of_event within quiet (event?_of_failure answered))
  | none =>
      rw [answered] at asked
      simp only [proceed, addAll_page sum] at asked
      cases next : addAll Decimal.zero (l.before (batch + 1)) with
      | none =>
          rw [next] at asked
          have ends : outcome = (.ok (.error (.internal (.entrySumOverflow a))), _) := asked
          exact .inl (ends ▸ endsAt_of_event within quiet (event?_of_overflow answered next))
      | some more =>
          have event := event?_of_sum (a := a) answered next
          have no (e : LedgerError) (same : l.event? a batch = some e) :
              outcome.1 = .ok (.error e) := by cases event.symm.trans same
          rw [next] at asked
          by_cases short : l.entries.length < 500 * (batch + 1)
          · simp only [if_pos ((length_page_lt_iff within).mpr short)] at asked
            rw [before_eq_entries short] at next
            refine .inl ⟨by omega, congrArg (·.2) asked, quiet, no, fun _ _ => ?_⟩
            exact ⟨by omega, more, next, congrArg (·.1) asked⟩
          · simp only [if_neg (mt (length_page_lt_iff within).mp short)] at asked
            by_cases range : IsInt64 (((500 * batch : Nat) : Int) + batchSize)
            · rw [if_pos range] at asked
              exact .inr ⟨more, Nat.not_lt.mp short, event, rfl, asked⟩
            · rw [if_neg range] at asked
              refine .inl ⟨by omega, congrArg (·.2) asked, quiet, no, fun _ few => ?_⟩
              simp only [IsInt64, maxInt64, batchSize] at range few
              omega

/-- The rest of an audit, from a batch on. -/
theorem endsAt_netFrom (batch : Nat) (within : 500 * batch ≤ l.entries.length)
    (sum : addAll Decimal.zero (l.before batch) = some total)
    (quiet : ∀ earlier < batch, l.event? a earlier = none) :
    ∃ last, l.EndsAt a last
      (l.read (netFrom a total ((500 * batch : Nat) : Int)) ((List.range batch).map (call a))) := by
  -- The induction is on the batches that are left in the listing.
  induction left : l.entries.length / 500 - batch generalizing batch total with
  | zero =>
      cases endsAt_or_goes_on within sum quiet with
      | inl ends => exact ⟨batch, ends⟩
      | inr goes =>
          obtain ⟨more, later, _⟩ := goes
          omega
  | succ left ih =>
      cases endsAt_or_goes_on within sum quiet with
      | inl ends => exact ⟨batch, ends⟩
      | inr goes =>
          obtain ⟨more, later, event, next, same⟩ := goes
          rw [same]
          refine ih (batch + 1) later next (fun earlier lt => ?_) (by omega)
          cases Nat.lt_succ_iff_lt_or_eq.mp lt with
          | inl old => exact quiet earlier old
          | inr here => exact here ▸ event

/-- The audit of the whole listing. -/
def audit (l : Listing) (a : Int) :
    Except Overflow (Except LedgerError Decimal) × List StoreRequest :=
  l.read (netEntrySum a) []

theorem endsAt_audit (l : Listing) (a : Int) : ∃ last, l.EndsAt a last (l.audit a) :=
  endsAt_netFrom 0 (Nat.zero_le _) rfl fun _ no => absurd no (Nat.not_lt_zero _)

variable {last : Nat}
  {outcome : Except Overflow (Except LedgerError Decimal) × List StoreRequest}

theorem EndsAt.finished (h : l.EndsAt a last outcome)
    (countable : (l.entries.length : Int) ≤ maxInt64) : ∃ result, outcome.1 = .ok result := by
  cases event : l.event? a last with
  | some e => exact ⟨_, h.stopped e event⟩
  | none =>
      obtain ⟨_, total, _, result⟩ := h.summed event countable
      exact ⟨_, result⟩

/-- Partial sums of a sum that is not too large are not too large either. -/
theorem event?_of_total (answered : l.failure? batch = none)
    (sum : addAll Decimal.zero l.entries = some total) : l.event? a batch = none := by
  cases next : addAll Decimal.zero (l.before (batch + 1)) with
  | some more => exact event?_of_sum answered next
  | none =>
      rw [← List.take_append_drop (500 * (batch + 1)) l.entries, addAll_append] at sum
      rw [before] at next
      rw [next] at sum
      cases sum

theorem EndsAt.result (h : l.EndsAt a last outcome)
    (countable : (l.entries.length : Int) ≤ maxInt64)
    (answered : ∀ batch ≤ l.entries.length / 500, l.failure? batch = none)
    (sum : addAll Decimal.zero l.entries = some total) : outcome.1 = .ok (.ok total) := by
  have event : l.event? a last = none := event?_of_total (answered last h.within) sum
  obtain ⟨_, total', same, result⟩ := h.summed event countable
  cases sum.symm.trans same
  exact result

/-- An audit reads a listing from the front, a batch with each call, and makes no more calls than it
takes. What goes wrong first decides how it ends; if nothing does, it gives the sum of all the
entries. Amounts of a column have an exact sum, and so have those of them that come first. -/
theorem audit_eq_sum (l : Listing) (a : Int) :
    (∃ last, l.EndsAt a last (l.audit a)) ∧
    (l.audit a).2.length ≤ l.entries.length / 500 + 1 ∧
    ((l.entries.length : Int) ≤ maxInt64 →
      (∃ result, (l.audit a).1 = .ok result) ∧
      ∀ total, (∀ batch ≤ l.entries.length / 500, l.failure? batch = none) →
        addAll Decimal.zero l.entries = some total → (l.audit a).1 = .ok (.ok total)) ∧
    ((∀ e ∈ l.entries, e.amount.FitsColumn) → l.entries.length ≤ 7 * 10 ^ 8 →
      (∀ es, es <+: l.entries → ∃ total, addAll Decimal.zero es = some total ∧
        total.value = (es.map (·.amount.value)).sum) ∧
      ((∀ batch ≤ l.entries.length / 500, l.failure? batch = none) →
        ∃ total, (l.audit a).1 = .ok (.ok total) ∧
          total.value = (l.entries.map (·.amount.value)).sum)) := by
  obtain ⟨last, ends⟩ := l.endsAt_audit a
  refine ⟨⟨last, ends⟩, ?_, fun countable => ⟨ends.finished countable, fun total answered sum =>
    ends.result countable answered sum⟩, fun column few => ⟨fun es front => ?_, fun answered => ?_⟩⟩
  · rw [ends.calls, List.length_map, List.length_range]
    exact Nat.succ_le_succ ends.within
  · exact addAll_exact (fun e he => column e (front.subset he)) (Nat.le_trans front.length_le few)
  · obtain ⟨total, sum, value⟩ := addAll_exact column few
    refine ⟨total, ends.result ?_ answered sum, value⟩
    rw [maxInt64]
    omega

/-- A deposit and a smaller withdrawal; the second call would fail. -/
def twoEntries : Listing where
  entries := [⟨1, 1, .whole 30, .ofMillis 0⟩, ⟨2, 1, -.whole 12, .ofMillis 0⟩]
  failure? := fun | 0 => none | _ => some (.store .finished)
  other r := r.refusal (.store .finished)

theorem audit_eq_sum_twoEntries : ∃ total, (twoEntries.audit 1).1 = .ok (.ok total) ∧
    total.value = (twoEntries.entries.map (·.amount.value)).sum ∧
    (twoEntries.audit 1).2.length ≤ 1 := by
  obtain ⟨_, few, _, exact_⟩ := audit_eq_sum twoEntries 1
  obtain ⟨total, result, value⟩ := (exact_ (by decide) (by decide)).2 (by decide)
  exact ⟨total, result, value, few⟩

end Listing
end DoubleEntry
