import DoubleEntry.Proofs.Client.Host
import DoubleEntry.Proofs.Decimal.Value
import DoubleEntry.Proofs.Transfer.Conduct

/-!
Which requests for a transfer reach a store. Amount and fee are positive and have room in a column,
the ids are positive and differ, and the currency is a text of three bytes that is not blank. All
codes of three capitals are such texts, but there are others, and they get through as well. A
request that breaks a rule is turned away before the store is asked for anything.
-/

namespace DoubleEntry

namespace Currency

/-- Three capitals. -/
def IsCode (s : String) : Prop := s.toList.length = 3 ∧ ∀ c ∈ s.toList, 'A' ≤ c ∧ c ≤ 'Z'

/-- What is taken for a code: three bytes that are not all blank. -/
def IsTag (s : String) : Prop := s.utf8ByteSize = 3 ∧ ∃ c ∈ s.toList, Text.isBlank c = false

instance (s : String) : Decidable (IsCode s) := inferInstanceAs (Decidable (_ ∧ _))

instance (s : String) : Decidable (IsTag s) := inferInstanceAs (Decidable (_ ∧ _))

/-- The bytes of a text are those of its characters. -/
theorem utf8ByteSize_ofList (cs : List Char) :
    (String.ofList cs).utf8ByteSize = (cs.map Char.utf8Size).sum := by
  induction cs with
  | nil => rfl
  | cons c cs ih =>
      rw [String.ofList_cons, String.utf8ByteSize_append, ih]
      simp

theorem utf8Size_of_capital {c : Char} (h : 'A' ≤ c ∧ c ≤ 'Z') : c.utf8Size = 1 := by
  have capital : c.val ≤ 'Z'.val := h.2
  exact Char.utf8Size_eq_one_iff.mpr (UInt32.le_trans capital (by decide))

theorem isBlank_of_capital {c : Char} (h : 'A' ≤ c ∧ c ≤ 'Z') : Text.isBlank c = false := by
  have low : 65 ≤ c.toNat := UInt32.le_iff_toNat_le.mp h.1
  have high : c.toNat ≤ 90 := UInt32.le_iff_toNat_le.mp h.2
  refine Bool.eq_false_iff.mpr fun blank => ?_
  obtain ⟨range, there, from_, to_⟩ := (Text.CodeRanges.contains_iff _ _).mp blank
  simp only [Text.blankRanges, List.mem_cons, List.not_mem_nil, or_false] at there
  rcases there with rfl | rfl | rfl | rfl | rfl | rfl | rfl | rfl | rfl | rfl <;> omega

theorem isTag_of_isCode {s : String} (h : IsCode s) : IsTag s := by
  obtain ⟨length, capitals⟩ := h
  have sizes : s.toList.map Char.utf8Size = List.replicate 3 1 := by
    rw [← length, ← List.map_const']
    exact List.map_congr_left fun c hc => utf8Size_of_capital (capitals c hc)
  have first : s.toList[0] ∈ s.toList := List.getElem_mem (by omega)
  refine ⟨?_, _, first, isBlank_of_capital (capitals _ first)⟩
  rw [← String.ofList_toList (s := s), utf8ByteSize_ofList, sizes]
  rfl

/-- Three small letters pass for a code that they are not. -/
theorem isTag_small_letters : IsTag "usd" ∧ ¬ IsCode "usd" := by
  have there : 'u' ∈ "usd".toList := by simp
  exact ⟨⟨rfl, 'u', there, rfl⟩, fun code => absurd (code.2 'u' there).2 (by decide)⟩

end Currency

/-- A request that keeps all limits, given which texts name a currency. -/
structure TransferRequest.Admissible (isCode : String → Prop) (r : TransferRequest) : Prop where
  amount : 0 < r.amount.value ∧ HasRoom r.amount.value
  fee : 0 < r.fee.value ∧ HasRoom r.fee.value
  currency : isCode r.currency
  positive : 0 < r.fromId ∧ 0 < r.toId
  apart : r.fromId ≠ r.toId

namespace TransferRequest

variable {r : TransferRequest}

theorem isTag_iff {s : String} :
    Currency.IsTag s ↔ ¬ Text.isBlankText s = true ∧ s.utf8ByteSize = Currency.codeLength := by
  simp only [Currency.IsTag, Text.isBlankText, List.all_eq_true, not_forall, Bool.not_eq_true,
    exists_prop]
  exact and_comm

theorem not_le_zero_iff {d : Decimal} : ¬ d ≤ Decimal.zero ↔ 0 < d.value := by
  rw [Decimal.le_iff_value, Decimal.value_zero, not_le]

theorem admissible_of_validate (h : r.validate = .ok ()) : r.Admissible Currency.IsTag := by
  rw [validate] at h
  obtain ⟨amount, h⟩ := rule_eq_ok (fun no => by cases no) h
  obtain ⟨fee, h⟩ := rule_eq_ok (fun no => by cases no) h
  obtain ⟨fitsAmount, h⟩ := rule_eq_ok (fun no => by cases no) h
  obtain ⟨fitsFee, h⟩ := rule_eq_ok (fun no => by cases no) h
  obtain ⟨blank, h⟩ := rule_eq_ok (fun no => by cases no) h
  obtain ⟨length, h⟩ := rule_eq_ok (fun no => by cases no) h
  obtain ⟨ids, h⟩ := rule_eq_ok (fun no => by cases no) h
  obtain ⟨apart, _⟩ := rule_eq_ok (fun no => by cases no) h
  exact
    { amount := ⟨not_le_zero_iff.mp amount,
        (Decimal.fitsColumn_iff_hasRoom _).mp (not_not.mp fitsAmount)⟩
      fee := ⟨not_le_zero_iff.mp fee, (Decimal.fitsColumn_iff_hasRoom _).mp (not_not.mp fitsFee)⟩
      currency := isTag_iff.mpr ⟨blank, not_not.mp length⟩
      positive := by simpa only [not_or, not_le] using ids
      apart := apart }

theorem validate_of_admissible (h : r.Admissible Currency.IsTag) : r.validate = .ok () := by
  obtain ⟨blank, length⟩ := isTag_iff.mp h.currency
  have ids : ¬ (r.fromId ≤ 0 ∨ r.toId ≤ 0) := by simpa only [not_or, not_le] using h.positive
  have fitsAmount := (Decimal.fitsColumn_iff_hasRoom _).mpr h.amount.2
  have fitsFee := (Decimal.fitsColumn_iff_hasRoom _).mpr h.fee.2
  simp only [validate, if_neg (not_le_zero_iff.mpr h.amount.1),
    if_neg (not_le_zero_iff.mpr h.fee.1), if_neg (not_not.mpr fitsAmount),
    if_neg (not_not.mpr fitsFee), if_neg blank, if_neg (not_not.mpr length), if_neg ids,
    if_neg h.apart]
  rfl

/-- The rules let through what keeps the limits, three bytes that are not blank being enough for
the currency. -/
theorem validate_eq_ok_iff : r.validate = .ok () ↔ r.Admissible Currency.IsTag :=
  ⟨admissible_of_validate, validate_of_admissible⟩

theorem admissible_isCode_iff :
    r.Admissible Currency.IsCode ↔ r.Admissible Currency.IsTag ∧ Currency.IsCode r.currency where
  mp h := ⟨{ h with currency := Currency.isTag_of_isCode h.currency }, h.currency⟩
  mpr h := { h.1 with currency := h.2 }

end TransferRequest

/-- The request of a mark, if something was asked. -/
def Mark.asked? : Mark → Option StoreRequest
  | .asked r => some r
  | .told _ => none

namespace Visit

variable {σ : Type}

/-- What a store was asked, in this order. -/
def requests (v : Visit σ) : List StoreRequest := v.log.filterMap Mark.asked?

@[simp] theorem requests_tell (v : Visit σ) (n : Note) : (v.tell n).requests = v.requests := by
  simp [requests, Mark.asked?]

theorem requests_send (v : Visit σ) (r : StoreRequest) :
    (v.send (.call r)).requests = v.requests ++ [r] := by
  simp [requests, send, Mark.asked?]

end Visit

namespace Host

open Program

variable {σ α : Type} {h : Host σ} {v : Visit σ}

/-- Serving a request adds it to the log, and nothing else. -/
theorem log_paced_serve (h : Host σ) (v : Visit σ) (r : PacedRequest LedgerStore) :
    (h.paced.serve r v).2.log = (v.send r).log := by
  simp only [paced]
  cases started : h.start v r with
  | none => rfl
  | some x => exact (start_extends started).2

theorem log_server_serve (h : Host σ) (v : Visit σ) (r : TimedRequest LedgerStore) :
    v.log <+: (h.server.serve r v).2.log := by
  have sent : ∀ q, v.log <+: (v.send q).log := fun q => (Visit.Extends.send v q).log
  cases r with
  | now => exact List.prefix_refl _
  | openWindow cancelAt timeout =>
      simp only [server]
      split <;> exact List.prefix_refl _
  | free q =>
      change v.log <+: (h.paced.serve q v).2.log
      rw [log_paced_serve]
      exact sent q
  | within w q =>
      simp only [server]
      split
      · rw [leave_log]
        exact sent q
      · change v.log <+: (h.paced.serve q v).2.log
        rw [log_paced_serve]
        exact sent q

/-- What a request leaves in the log is there at the end, if what follows adds to the log. -/
theorem log_run_ask {r : TimedRequest LedgerStore} {next : r.Reply → Program (Timed LedgerStore) α}
    (follows : ∀ reply (v : Visit σ), v.log <+: ((next reply).run h.server v).2.log) :
    (h.server.serve r v).2.log <+:
      ((ask (I := Timed LedgerStore) r next).run h.server v).2.log := by
  rw [run]
  generalize h.server.serve r v = result
  obtain ⟨response, v'⟩ := result
  cases response with
  | answer reply => exact follows reply v'
  | wait => exact List.prefix_refl _
  | halt o => exact List.prefix_refl _

theorem log_run (p : Program (Timed LedgerStore) α) (v : Visit σ) :
    v.log <+: (p.run h.server v).2.log := by
  induction p generalizing v with
  | done a => exact List.prefix_refl _
  | halt o => exact List.prefix_refl _
  | note n next ih => exact (List.prefix_append v.log [.told n]).trans (ih (v.tell n))
  | ask r next ih => exact (log_server_serve h v r).trans (log_run_ask ih)

/-- What a program asks first is the next request of the store. -/
theorem requests_run_callFree (r : StoreRequest)
    (next : r.Reply → Program (Timed LedgerStore) α) (v : Visit σ) :
    v.requests ++ [r] <+:
      (((callFree (I := LedgerStore) r).bind next).run h.server v).2.requests := by
  have asked : (v.send (.call r)).log <+:
      (((callFree (I := LedgerStore) r).bind next).run h.server v).2.log := by
    rw [← log_paced_serve h v (.call r)]
    exact log_run_ask (r := .free (.call r)) fun reply v => log_run (next reply) v
  rw [← Visit.requests_send]
  exact asked.filterMap _

end Host

namespace Transfer

open Program

variable {σ : Type}

theorem run_refused {h : Host σ} {v : Visit σ} {u : UnitOfWork} {cancelAt : Option Nat}
    {r : TransferRequest} {cause : Rejection} (rejected : r.validate = .error cause) :
    (transfer u cancelAt r).run h.server v =
      (.finished (.error (.validation cause)),
        (v.tell (.counted .latency)).tell
          (.counted (outcomeCount r.currency (.error (.validation cause))))) := by
  simp only [transfer, rejected]
  rfl

theorem requests_run_accepted {h : Host σ} {v : Visit σ} {u : UnitOfWork} {cancelAt : Option Nat}
    {r : TransferRequest} (accepted : r.validate = .ok ()) :
    v.requests ++ [.begin] <+: ((transfer u cancelAt r).run h.server v).2.requests := by
  simp only [transfer, accepted]
  rw [← Visit.requests_tell v (.spanOpened ⟨r.fromId, r.toId⟩)]
  exact Host.requests_run_callFree .begin _ _

/-- A transfer reaches a store if and only if its request keeps the limits, where any three bytes
that are not all blank pass for a currency; the requests that also have a code of three capitals are
among them. All others are turned away, and the store hears nothing of them. -/
theorem opens_iff_admissible (h : Host σ) (v : Visit σ) (u : UnitOfWork) (cancelAt : Option Nat)
    (r : TransferRequest) :
    let ended := (transfer u cancelAt r).run h.server v
    (v.requests ++ [.begin] <+: ended.2.requests ↔ r.Admissible Currency.IsTag) ∧
    (¬ r.Admissible Currency.IsTag →
      (∃ cause, ended.1 = .finished (.error (.validation cause))) ∧
        ended.2.requests = v.requests ∧ ended.2.store = v.store) ∧
    (r.Admissible Currency.IsCode ↔
      r.Admissible Currency.IsTag ∧ Currency.IsCode r.currency) := by
  intro ended
  have turnedAway : ¬ r.Admissible Currency.IsTag →
      (∃ cause, ended.1 = .finished (.error (.validation cause))) ∧
        ended.2.requests = v.requests ∧ ended.2.store = v.store := by
    intro broken
    cases verdict : r.validate with
    | ok _ => exact absurd (TransferRequest.validate_eq_ok_iff.mp verdict) broken
    | error cause =>
        have run_ : ended = _ := run_refused verdict
        rw [run_]
        exact ⟨⟨cause, rfl⟩, by simp, rfl⟩
  refine ⟨⟨fun opened => ?_, fun keeps => ?_⟩, turnedAway, TransferRequest.admissible_isCode_iff⟩
  · refine Classical.byContradiction fun broken => ?_
    -- nothing would have been asked
    rw [(turnedAway broken).2.1] at opened
    simpa using opened.length_le
  · exact requests_run_accepted (TransferRequest.validate_eq_ok_iff.mpr keeps)

end Transfer

/-- A store that answers at once, or leaves a request waiting for its lock. -/
def MemoryStore.host (now : Timestamp) : Host MemoryStore where
  serve _ r st :=
    match st.submit now r with
    | (.answered reply, st) => some (0, reply, st)
    | (.waiting _, _) => none
  drop _ _ st := st
  abandons _ _ _ := rfl

namespace Transfer

/-- A store with two accounts in dollars. -/
def twoHolders : Visit MemoryStore where
  store :=
    { tables :=
        { accounts := [⟨1, "ada", .whole 100, "USD", .ofMillis 0⟩,
            ⟨2, "bob", .whole 100, "USD", .ofMillis 0⟩]
          accountSeq := 2 } }
  clock := 0
  log := []
  counters := {}

/-- A session is begun for a currency in small letters, which is no code of three capitals. -/
theorem opens_for_small_letters :
    ¬ ∀ (σ : Type) (h : Host σ) (v : Visit σ) (u : UnitOfWork) (cancelAt : Option Nat)
        (r : TransferRequest),
      (v.requests ++ [.begin] <+: ((transfer u cancelAt r).run h.server v).2.requests ↔
        r.Admissible Currency.IsCode) := by
  intro claim
  have opened := claim MemoryStore (MemoryStore.host (.ofMillis 0)) twoHolders .unbounded none
    ⟨1, 2, .whole 10, "usd", "", .whole 1⟩
  exact Currency.isTag_small_letters.2 (opened.mp (by decide +kernel)).currency

end Transfer
end DoubleEntry
