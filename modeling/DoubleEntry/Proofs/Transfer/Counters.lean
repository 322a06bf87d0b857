import DoubleEntry.Proofs.Transfer.Callers

/-!
Counters reconcile with the ledger. A check, a transfer, a unit of work and a hook each count on
their own, in whatever order the clients take their turns; yet once all calls have come to their
ends, each counter shows how many of them have ended so, and the counted transfers are the committed
ones.
-/

namespace DoubleEntry

theorem Counters.get_foldl_record (ms : List Measurement) (cs : Counters) (m : Measurement) :
    (ms.foldl Counters.record cs).get m = cs.get m + ms.count m := by
  induction ms generalizing cs with
  | nil => rfl
  | cons k ms ih =>
      simp only [List.foldl_cons, ih, get_record, List.count_cons, beq_iff_eq, @eq_comm _ m k]
      omega

namespace Happening

theorem counted_made (r : TransferRequest) (outcome : Except LedgerError TransferResult) :
    (made r outcome).counted = match outcome with
      | .ok _ => [.latency, .transfer r.currency]
      | .error e => (if r.validate.isOk = true then [.rollback e.reason] else []) ++
          [.latency, .transferFailed e.reason] := by
  simp only [counted, Transfer.counted]
  cases r.validate <;> cases outcome <;> rfl

/-- It is counted in this way. -/
def shows : Measurement → Happening → Bool
  | .transfer currency, h => (h.transaction?.map (·.currency == currency)).getD false
  | .transferFailed reason, h => h.isFailed reason
  | .rollback reason, h => h.isUndone reason
  | .hookFailure, h => h.isHookFailure
  | .latency, h => h.isMade

/-- Each happening is counted in each way once or not at all. -/
theorem count_counted {h : Happening} (m : Measurement)
    (records : ∀ r res, h = .made r (.ok res) → Transfer.Records r res) :
    h.counted.count m = if h.shows m then 1 else 0 := by
  cases h with
  | rejected e =>
      cases m with
      | transferFailed reason => simp [counted, shows, isFailed, List.count_cons]
      | _ => rfl
  | made r outcome =>
      rw [counted_made]
      cases outcome with
      | ok res =>
          have same : res.transaction.currency = r.currency :=
            congrArg NewTransaction.currency (records r res rfl).transaction
          cases m with
          | transfer currency => simp [shows, transaction?, List.count_cons, same]
          | _ => rfl
      | error e =>
          by_cases valid : r.validate.isOk <;>
            cases m <;> simp [shows, transaction?, isFailed, isUndone, isHookFailure, isMade,
              List.count_cons, valid]
  | invoked ended => cases ended <;> cases m <;> rfl

theorem count_flatMap_counted {log : List Happening} (m : Measurement)
    (records : ∀ r res, .made r (.ok res) ∈ log → Transfer.Records r res) :
    (log.flatMap counted).count m = log.countP (·.shows m) := by
  induction log with
  | nil => rfl
  | cons h log ih =>
      have first := count_counted m fun r res same => records r res (same ▸ List.mem_cons_self)
      have rest := ih fun r res mem => records r res (List.mem_cons_of_mem h mem)
      rw [List.flatMap_cons, List.count_append, first, rest, List.countP_cons, Nat.add_comm]

end Happening

/-- What stands in one place of many that are empty. -/
theorem flatMap_range_ite {β : Type} (xs : List β) {j n : Nat} (h : j < n) :
    (List.range n).flatMap (fun i => if j = i then xs else []) = xs := by
  induction n with
  | zero => cases h
  | succ n ih =>
      rw [List.range_succ, List.flatMap_append, List.flatMap_singleton]
      by_cases last : j = n
      · have none : (List.range n).flatMap (fun i => if j = i then xs else []) = [] := by
          refine List.flatMap_eq_nil_iff.mpr fun i hi => if_neg fun same => ?_
          exact absurd (List.mem_range.mp hi) (by omega)
        rw [none, if_pos last, List.nil_append]
      · rw [ih (by omega), if_neg last, List.append_nil]

/-- A client has come to the end of its program. -/
def Stage.isFinished {α : Type} : Stage α → Bool
  | running (.done _) => true
  | _ => false

theorem Stage.exists_of_isFinished {α : Type} {stage : Stage α} (h : stage.isFinished = true) :
    ∃ a, stage = .running (.done a) := by
  cases stage with
  | running p =>
      cases p with
      | done a => exact ⟨a, rfl⟩
      | _ => cases h
  | _ => cases h

namespace Traffic

/-- What is counted in a step. -/
def measurement? (w : Traffic) : Choice → Option Measurement
  | .spawn _ => none
  | .turn i t => (w.moment? i (.turn i t)).bind Moment.counted?

def measurements (w : Traffic) : List Choice → List Measurement
  | [] => []
  | choice :: choices => (w.measurement? choice).toList ++ (w.step choice).measurements choices

/-- The counters at the end of a run. -/
def counters (choices : List Choice) : Counters :=
  (measurements {} choices).foldl Counters.record {}

theorem get_counters (choices : List Choice) (m : Measurement) :
    (counters choices).get m = (measurements {} choices).count m :=
  (Counters.get_foldl_record _ {} m).trans (Nat.zero_add _)

/-- What is counted in a step is counted of the client that takes its turn. -/
theorem measured_step {w : Traffic} {n : Nat} (bound : w.clients.length ≤ n) (choice : Choice) :
    (w.measurement? choice).toList =
      (List.range n).flatMap fun i => measured (w.moment? i choice).toList := by
  have single : ∀ m : Option Moment, measured m.toList = (m.bind Moment.counted?).toList := by
    intro m
    cases m with
    | none => rfl
    | some m =>
        change [m].filterMap Moment.counted? = (m.counted?).toList
        cases counted : m.counted? <;> simp [counted]
  cases choice with
  | spawn p => exact (List.flatMap_eq_nil_iff.mpr fun i _ => rfl).symm
  | turn j t =>
      have others : ∀ i, measured (w.moment? i (.turn j t)).toList =
          if j = i then (w.measurement? (.turn j t)).toList else [] := by
        intro i
        by_cases same : j = i
        · rw [if_pos same, ← same]
          exact single _
        · rw [if_neg same, show w.moment? i (.turn j t) = none from if_neg same]
          rfl
      simp only [others]
      by_cases there : j < n
      · exact (flatMap_range_ite _ there).symm
      · have none : w.measurement? (.turn j t) = none := by
          rw [measurement?, moment?_of_late (Nat.le_trans bound (Nat.le_of_not_lt there))]
          rfl
        rw [none, Option.toList_none]
        exact (List.flatMap_eq_nil_iff.mpr fun i _ => ite_self []).symm

/-- What is counted in a run is what is counted of all of its clients. -/
theorem measurements_perm (w : Traffic) {n : Nat} {choices : List Choice}
    (bound : (w.runFrom choices).clients.length ≤ n) :
    (w.measurements choices).Perm
      ((List.range n).flatMap fun i => measured (w.moments i choices)) := by
  induction choices generalizing w with
  | nil => exact List.Perm.of_eq (List.flatMap_eq_nil_iff.mpr fun i _ => rfl).symm
  | cons choice choices ih =>
      have now := measured_step (Nat.le_trans (clients_length_runFrom w (choice :: choices)) bound)
        choice
      have both : ∀ i, measured (w.moments i (choice :: choices)) =
          measured (w.moment? i choice).toList ++ measured ((w.step choice).moments i choices) :=
        fun i => measured_append _ _
      simp only [both]
      refine List.Perm.trans ?_ (List.flatMap_append_perm _ _ _)
      rw [← now]
      exact (ih _ bound).append_left _

/-- A client has made its calls to their ends, and this has happened in them; or it makes none. -/
def Accounts (x : AnyClient) (ms : List Moment) (log : List Happening) : Prop :=
  (∃ a, x.2.stage = .running (.done a) ∧ Went x.2.program ms a log) ∨
    x.2.program.Quiet ∧ log = []

/-- What has happened in the calls of all clients of a run. -/
def Logged (choices : List Choice) (log : List Happening) : Prop :=
  ∃ logs : Nat → List Happening,
    log = (List.range (run choices).clients.length).flatMap logs ∧
    ∀ (i : Nat) x, (run choices).clients[i]? = some x →
      Accounts x (moments {} i choices) (logs i)

variable {choices : List Choice} {i : Nat} {x : AnyClient} {log : List Happening}

/-- Of a finished client it can be told what has happened in its calls. -/
theorem exists_accounts (hx : (run choices).clients[i]? = some x)
    (calling : CallingProgram x.1 x.2.program)
    (finished : x.2.stage.isFinished = true ∨ x.2.program.Quiet) :
    ∃ log, Accounts x (moments {} i choices) log := by
  cases finished with
  | inr quiet => exact ⟨[], .inr ⟨quiet, rfl⟩⟩
  | inl finished =>
      obtain ⟨a, stage⟩ := Stage.exists_of_isFinished finished
      cases led_run hx with
      | stands at_ leads deeds =>
          rw [Client.rest?, stage] at at_
          cases at_
          obtain ⟨log, went⟩ := exists_went calling leads
          exact ⟨log, .inl ⟨a, stage, went⟩⟩
      | left dropped leads ends deeds => cases stage.symm.trans dropped

theorem measured_of_accounts (accounts : Accounts x (moments {} i choices) log)
    (hx : (run choices).clients[i]? = some x) :
    measured (moments {} i choices) = log.flatMap Happening.counted := by
  cases accounts with
  | inl finished =>
      obtain ⟨a, _, went⟩ := finished
      exact measured_of_went went (granted_run choices i)
  | inr silent =>
      obtain ⟨quiet, rfl⟩ := silent
      cases led_run hx with
      | stands at_ leads deeds => exact Program.measured_of_limited quiet leads
      | left dropped leads ends deeds => exact Program.measured_of_limited quiet leads

theorem kept_of_accounts (accounts : Accounts x (moments {} i choices) log)
    (hx : (run choices).clients[i]? = some x) :
    Drawing.transactions.kept x.2.deeds = log.filterMap Happening.transaction? := by
  cases accounts with
  | inl finished =>
      obtain ⟨a, stage, went⟩ := finished
      cases led_run hx with
      | stands at_ leads deeds =>
          rw [deeds]
          exact (settled_of_went went (granted_run choices i)).kept
      | left dropped leads ends deeds => cases stage.symm.trans dropped
  | inr silent =>
      obtain ⟨quiet, rfl⟩ := silent
      refine Drawing.kept_eq_nil fun s hs => ?_
      cases led_run hx with
      | stands at_ leads deeds => cases Program.session?_of_limited quiet leads _ (deeds ▸ hs)
      | left dropped leads ends deeds =>
          cases List.mem_append.mp (deeds ▸ hs) with
          | inl done => cases Program.session?_of_limited quiet leads _ done
          | inr ended =>
              obtain ⟨t, _, no⟩ := List.mem_map.mp ended
              cases no

theorem records_of_accounts {ms : List Moment} (accounts : Accounts x ms log)
    {r : TransferRequest} {res : TransferResult} (h : .made r (.ok res) ∈ log) :
    Transfer.Records r res := by
  cases accounts with
  | inl finished =>
      obtain ⟨a, _, went⟩ := finished
      exact records_of_went went h
  | inr silent =>
      rw [silent.2] at h
      cases h

theorem exists_logged (starts : ∀ choice ∈ choices, choice.Starts CallingProgram)
    (finished : ∀ x ∈ (run choices).clients, x.2.stage.isFinished = true ∨ x.2.program.Quiet) :
    ∃ log, Logged choices log := by
  have each : ∀ i : Nat, ∃ log, ∀ x, (run choices).clients[i]? = some x →
      Accounts x (moments {} i choices) log := by
    intro i
    cases found : (run choices).clients[i]? with
    | none => exact ⟨[], fun _ no => by cases no⟩
    | some x =>
        have mem := List.mem_of_getElem? found
        have calling := program_runFrom (fun _ no => by cases no) starts x mem
        obtain ⟨log, accounts⟩ := exists_accounts found calling (finished x mem)
        exact ⟨log, fun y same => Option.some.inj same ▸ accounts⟩
  obtain ⟨logs, accounts⟩ := Classical.skolem.mp each
  exact ⟨_, logs, rfl, accounts⟩

end Traffic

/-- Counters agree with what is committed and with what has happened in calls. -/
structure Counters.Reconciles (cs : Counters) (t : Tables) (log : List Happening) : Prop where
  transfers (currency : String) :
    cs.get (.transfer currency) = t.transactions.countP (·.currency == currency)
  failures (reason : String) : cs.get (.transferFailed reason) = log.countP (·.isFailed reason)
  latencies : cs.get .latency = log.countP (·.isMade)
  rollbacks (reason : String) : cs.get (.rollback reason) = log.countP (·.isUndone reason)
  hookFailures : cs.get .hookFailure = log.countP (·.isHookFailure)

namespace Traffic

variable {choices : List Choice} {log : List Happening}

theorem records_of_logged (logged : Logged choices log) {r : TransferRequest}
    {res : TransferResult} (h : .made r (.ok res) ∈ log) : Transfer.Records r res := by
  obtain ⟨logs, rfl, accounts⟩ := logged
  obtain ⟨i, hi, mine⟩ := List.mem_flatMap.mp h
  have there := List.getElem?_eq_getElem (List.mem_range.mp hi)
  exact records_of_accounts (accounts i _ there) mine

/-- A counter shows how often something has happened. -/
theorem get_counters_of_logged (logged : Logged choices log) (m : Measurement) :
    (counters choices).get m = log.countP (·.shows m) := by
  rw [← Happening.count_flatMap_counted m fun r res => records_of_logged logged]
  obtain ⟨logs, rfl, accounts⟩ := logged
  have each : ∀ i ∈ List.range (run choices).clients.length,
      measured (moments {} i choices) = (logs i).flatMap Happening.counted := by
    intro i hi
    have there := List.getElem?_eq_getElem (List.mem_range.mp hi)
    exact measured_of_accounts (accounts i _ there) there
  rw [get_counters, (measurements_perm {} (Nat.le_refl _)).count_eq, List.flatMap_assoc]
  exact congrArg _ (List.flatMap_congr each)

theorem transactions_of_logged (logged : Logged choices log) :
    (run choices).tables.transactions.Perm (log.filterMap Happening.transaction?) := by
  obtain ⟨logs, rfl, accounts⟩ := logged
  refine (transactions_perm (coherent_run choices)).trans (List.Perm.of_eq ?_)
  rw [List.filterMap_flatMap]
  refine congrArg List.flatten (List.ext_getElem (by simp) fun i hi _ => ?_)
  have there := List.getElem?_eq_getElem (List.length_map _ ▸ hi)
  simpa using kept_of_accounts (accounts i _ there) there

/-- Once all calls of a run have come to their ends, the counters reconcile with what has happened
in them. -/
theorem counters_reconcile (starts : ∀ choice ∈ choices, choice.Starts CallingProgram)
    (finished : ∀ x ∈ (run choices).clients, x.2.stage.isFinished = true ∨ x.2.program.Quiet) :
    (∃ log, Logged choices log) ∧
      ∀ log, Logged choices log → (counters choices).Reconciles (run choices).tables log := by
  refine ⟨exists_logged starts finished, fun log logged => ?_⟩
  have shown := get_counters_of_logged logged
  refine ⟨fun currency => ?_, fun reason => shown _, shown _, fun reason => shown _, shown _⟩
  rw [shown, (transactions_of_logged logged).countP_eq, List.countP_filterMap]
  rfl

/-- Four calls, step by step in turn: a transfer whose hook fails, one that its check turns away,
one that fails in the store, and one whose request is not valid. -/
def mixed : List Choice :=
  let now := Timestamp.ofMillis 0
  let opening (owner : String) : Choice :=
    .spawn (Program.callFree (I := LedgerStore)
      (.query (.createAccount ⟨owner, "USD", .whole 100⟩)))
  let request (source destination : Int) : TransferRequest :=
    ⟨source, destination, .whole 30, "USD", "", .whole 1⟩
  let round : List Choice :=
    [2, 3, 4, 5].flatMap fun i => [.turn i (.think 0 0), .turn i (.submit now)]
  [opening "ada", opening "bob", .turn 0 (.submit now), .turn 1 (.submit now),
    .spawn (CheckedTransfer.transferWithHook .unbounded (fun _ => .done (.error "full"))
      (request 1 2)),
    .spawn (CheckedTransfer.transfer .unbounded (request 1 9)),
    .spawn (Transfer.transfer .unbounded none (request 2 9)),
    .spawn (Transfer.transfer .unbounded none (request 2 2))] ++
    (List.replicate 20 round).flatten

theorem starts_mixed : ∀ choice ∈ mixed, choice.Starts CallingProgram := by
  intro choice hc
  cases List.mem_append.mp hc with
  | inl first =>
      simp only [List.mem_cons, List.not_mem_nil, or_false] at first
      rcases first with rfl | rfl | rfl | rfl | rfl | rfl | rfl | rfl
      · exact .quiet ⟨⟨_, rfl⟩, fun _ => trivial⟩
      · exact .quiet ⟨⟨_, rfl⟩, fun _ => trivial⟩
      · trivial
      · trivial
      · exact .checked _ (.hooked _ (.transfer _ _ _) fun _ => .quiet trivial)
      · exact .checked _ (.transfer _ _ _)
      · exact .transfer _ _ _
      · exact .transfer _ _ _
  | inr later =>
      obtain ⟨round, hr, mem⟩ := List.mem_flatten.mp later
      rw [List.eq_of_mem_replicate hr] at mem
      obtain ⟨i, _, turn⟩ := List.mem_flatMap.mp mem
      simp only [List.mem_cons, List.not_mem_nil, or_false] at turn
      rcases turn with rfl | rfl <;> trivial

theorem counters_reconcile_mixed :
    (∀ choice ∈ mixed, choice.Starts CallingProgram) ∧
    (∀ x ∈ (run mixed).clients, x.2.stage.isFinished = true) ∧
    (run mixed).tables.transactions.countP (·.currency == "USD") = 1 ∧
    ∃ log, Logged mixed log ∧ log.countP (·.isFailed "not_found") = 1 ∧
      log.countP (·.isMade) = 3 ∧ log.countP (·.isUndone "conflict") = 1 ∧
      log.countP (·.isHookFailure) = 1 := by
  have finished : ∀ x ∈ (run mixed).clients, x.2.stage.isFinished = true := by decide +kernel
  have counts : (counters mixed).get (.transfer "USD") = 1 ∧
      (counters mixed).get (.transferFailed "not_found") = 1 ∧
      (counters mixed).get .latency = 3 ∧ (counters mixed).get (.rollback "conflict") = 1 ∧
      (counters mixed).get .hookFailure = 1 := by decide +kernel
  obtain ⟨transfers, failures, latencies, rollbacks, hookFailures⟩ := counts
  obtain ⟨⟨log, logged⟩, reconciles⟩ :=
    counters_reconcile starts_mixed fun x hx => .inl (finished x hx)
  have agrees := reconciles log logged
  exact ⟨starts_mixed, finished, (agrees.transfers _).symm.trans transfers, log, logged,
    (agrees.failures _).symm.trans failures, agrees.latencies.symm.trans latencies,
    (agrees.rollbacks _).symm.trans rollbacks, agrees.hookFailures.symm.trans hookFailures⟩

end Traffic
end DoubleEntry
