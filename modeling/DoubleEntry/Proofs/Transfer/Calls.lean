import DoubleEntry.Proofs.Client.Limits
import DoubleEntry.Service.CheckedTransfer

/-!
What a call comes through that makes a transfer: the check of both accounts, if there is one, the
transfer itself, and its hook. A check has heard of two accounts if it passes, and asks for nothing
else; a transfer draws one transaction, the one of its request.
-/

namespace DoubleEntry

namespace UnitOfWork

open Program

variable {α : Type} {verbose : Bool} {s : SessionId} {history : List Deed} {ms : List Moment}

/-- What is counted of a unit of work that has begun: an error is counted as a rollback. -/
def undone : Except LedgerError α → List Measurement
  | .ok _ => []
  | .error e => [.rollback e.reason]

theorem measured_settle {outcome result : Except LedgerError α}
    (leads : (settle s outcome).Leads ms (done result)) (granted : Granted history ms)
    (working : Working s history) : measured ms = undone result := by
  cases outcome with
  | ok value =>
      cases leads with
      | @heard q next reply ms p fits goes =>
          cases reply with
          | ok _ =>
              cases goes with
              | told goes =>
                  cases goes
                  rfl
          | error e =>
              cases goes with
              | told goes =>
                  cases goes with
                  | told goes =>
                      cases goes
                      rfl
  | error e =>
      cases leads with
      | told leads =>
          cases leads with
          | @heard q next reply ms p fits goes =>
              -- The session is worked in, and so the store does not refuse to undo it.
              have undone : reply = .ok () := by
                refine granted.2.1.undoes rfl ?_
                rw [show (Moment.told _).deeds = [] from rfl, List.append_nil]
                exact working
              subst undone
              cases goes with
              | told goes =>
                  cases goes
                  rfl

theorem measured_conclude {outcome result : Except LedgerError α}
    (leads : (conclude s outcome).Leads ms (done result)) (granted : Granted history ms)
    (working : Working s history) : measured ms = undone result := by
  rw [conclude_eq] at leads
  obtain ⟨first, rest, settled, rfl, led, goes⟩ := leads_bind_done leads
  cases goes with
  | heard fits goes =>
      cases goes
      rw [measured_append, measured_settle led (granted_append.mp granted).1 working]
      exact List.append_nil _

/-- A session that was just begun is worked in as long as everything stays in it. -/
theorem working_of_leads {N : Note → Prop} {p p' : Program (Timed LedgerStore) α}
    (limited : p.Limited N (TimedRequest.Asks (StaysIn s))) (leads : p.Leads ms p')
    (fresh : ∀ d ∈ history, ¬ d.Ends s) :
    Working s (history ++ [.began s] ++ ms.flatMap Moment.deeds) := by
  refine ⟨by simp, fun d hd => ?_⟩
  rw [List.append_assoc, List.singleton_append, List.mem_append, List.mem_cons] at hd
  rcases hd with old | rfl | worked
  · exact fresh d old
  · exact id
  · obtain ⟨m, hm, mine⟩ := List.mem_flatMap.mp worked
    obtain ⟨r, answer, heard, does⟩ := Moment.exists_answer_of_mem mine
    exact not_ends_of_staysIn
      (Moment.asked_of_limited ((limited_of_leads limited leads).1 m hm) heard) does

/-- A unit of work counts its error, if it ends in one, and nothing else, as long as its body counts
nothing and leaves the session alone. -/
theorem measured_execute {u : UnitOfWork} {cancelAt : Option Nat}
    {body : SessionId → Program (Paced LedgerStore) (Except LedgerError α)}
    {result : Except LedgerError α}
    (works : ∀ s, (body s).Limited Note.Uncounted (PacedRequest.Asks (StaysIn s)))
    (leads : (u.execute cancelAt body).Leads ms (done result)) (granted : Granted history ms) :
    measured ms = undone result := by
  cases leads with
  | @heard q next reply ms p fits goes =>
      obtain ⟨s, rfl, new⟩ := granted.1.begins rfl
      have goes : ((u.bounded cancelAt (body s)).bind fun outcome => conclude s outcome).Leads ms
        (done result) := goes
      obtain ⟨first, rest, outcome, rfl, led, concludes⟩ := leads_bind_done goes
      have limited := limited_bounded u cancelAt (works s)
      have working := working_of_leads limited led fun d hd ends =>
        new d hd (Deed.session?_of_ends ends)
      have later := (granted_append.mp granted.2).2
      change measured (first ++ rest) = _
      rw [measured_append, measured_of_limited limited led, List.nil_append]
      exact measured_conclude concludes later working

end UnitOfWork

namespace Transfer

open Program

/-- What the body of a transfer may ask for in its session. -/
def BodyAsks (r : TransferRequest) (s : SessionId) : StoreRequest → Prop
  | .perform t (.insertTransaction new) => t = s ∧ new = r.toNewTransaction
  | .perform t (.insertEntry _ _) | .perform t (.addBalance _ _) => t = s
  | _ => False

/-- What a transfer may ask for: no transaction but its own, and no query. -/
def MayAsk (r : TransferRequest) : StoreRequest → Prop
  | .perform _ (.insertTransaction new) => new = r.toNewTransaction
  | .query _ => False
  | _ => True

theorem staysIn_of_bodyAsks {r : TransferRequest} {s : SessionId} {q : StoreRequest}
    (h : BodyAsks r s q) : UnitOfWork.StaysIn s q := by
  cases q with
  | perform t op => cases op <;> first | exact h.1 | exact h
  | _ => exact h

theorem mayAsk_of_bodyAsks {r : TransferRequest} {s : SessionId} {q : StoreRequest}
    (h : BodyAsks r s q) : MayAsk r q := by
  cases q with
  | perform t op => cases op <;> first | exact h.2 | trivial
  | query q => exact h
  | _ => trivial

theorem limited_ask {r : TransferRequest} {op : SessionRequest} {s : SessionId}
    (may : BodyAsks r s (.perform s op)) :
    (op.ask s).toProgram.Limited Note.Uncounted (PacedRequest.Asks (BodyAsks r s)) :=
  ⟨may, fun _ => trivial⟩

theorem limited_applyDelta (r : TransferRequest) (s : SessionId) (a : Int) (delta : Decimal) :
    (Balance.applyDelta verbose s a delta).toProgram.Limited Note.Uncounted
      (PacedRequest.Asks (BodyAsks r s)) := by
  refine limited_action (limited_ask rfl) fun found => ?_
  cases found with
  | none => trivial
  | some row =>
      refine limited_action ?_ fun _ => trivial
      rw [Balance.reportBalance]
      split
      · exact ⟨Note.uncounted_event _, trivial⟩
      · trivial

theorem limited_record (r : TransferRequest) (s : SessionId) :
    (record verbose r s).toProgram.Limited Note.Uncounted (PacedRequest.Asks (BodyAsks r s)) := by
  refine limited_action (limited_ask ⟨rfl, rfl⟩) fun transaction => ?_
  refine limited_action (limited_ask rfl) fun fromEntry => ?_
  refine limited_action (limited_ask rfl) fun toEntry => ?_
  refine limited_action ?_ fun sides => trivial
  simp only [Balance.applyTransfer]
  split
  · refine limited_action (limited_applyDelta r s _ _) fun source => ?_
    exact limited_action (limited_applyDelta r s _ _) fun destination => trivial
  · refine limited_action (limited_applyDelta r s _ _) fun destination => ?_
    exact limited_action (limited_applyDelta r s _ _) fun source => trivial

/-- The body of a transfer stays in its session. -/
theorem limited_record_staysIn (r : TransferRequest) (s : SessionId) :
    (record verbose r s).toProgram.Limited Note.Uncounted
      (PacedRequest.Asks (UnitOfWork.StaysIn s)) :=
  limited_mono (fun _ h => h) (fun _ => PacedRequest.asks_mono fun _ => staysIn_of_bodyAsks)
    (limited_record r s)

/-- A transfer before it is counted. -/
def attempt (u : UnitOfWork) (cancelAt : Option Nat) (r : TransferRequest) :
    Program (Timed LedgerStore) (Except LedgerError TransferResult) :=
  match r.validate with
  | .ok () => run u cancelAt r
  | .error cause => done (.error (.validation cause))

/-- What is counted of a transfer in the end. -/
def tally (currency : String) (outcome : Except LedgerError TransferResult) :
    Program (Timed LedgerStore) (Except LedgerError TransferResult) :=
  note (.counted .latency) (note (.counted (outcomeCount currency outcome)) (done outcome))

theorem transfer_eq (u : UnitOfWork) (cancelAt : Option Nat) (r : TransferRequest) :
    transfer u cancelAt r = (attempt u cancelAt r).bind (tally r.currency) := by
  simp only [transfer, attempt]
  cases r.validate <;> rfl

theorem limited_attempt (u : UnitOfWork) (cancelAt : Option Nat) (r : TransferRequest) :
    (attempt u cancelAt r).Limited (fun _ => True) (TimedRequest.Asks (MayAsk r)) := by
  rw [attempt]
  split
  · have body : (u.execute cancelAt fun s => record u.verbose r s).Limited (fun _ => True)
        (TimedRequest.Asks (MayAsk r)) := by
      refine UnitOfWork.limited_execute u cancelAt trivial
        (fun _ => ⟨trivial, trivial, trivial⟩) fun s => ?_
      exact limited_mono (fun _ _ => trivial)
        (fun _ => PacedRequest.asks_mono fun _ => mayAsk_of_bodyAsks) (limited_record r s)
    refine And.intro trivial
      (limited_bind (p := u.execute cancelAt fun s => record u.verbose r s) body ?_)
    exact fun outcome => ⟨trivial, trivial, trivial⟩
  · trivial

/-- What is counted of a transfer with an outcome. -/
def counted (r : TransferRequest) (outcome : Except LedgerError TransferResult) :
    List Measurement :=
  (match r.validate with
    | .ok () => UnitOfWork.undone outcome
    | .error _ => []) ++ [.latency, outcomeCount r.currency outcome]

section Leads

variable {u : UnitOfWork} {cancelAt : Option Nat} {r : TransferRequest}
  {outcome : Except LedgerError TransferResult} {ms : List Moment}

theorem leads_tally {currency : String} {came : Except LedgerError TransferResult}
    (leads : (tally currency came).Leads ms (done outcome)) : came = outcome ∧
      ms = [.told (.counted .latency), .told (.counted (outcomeCount currency outcome))] := by
  cases leads with
  | told leads =>
      cases leads with
      | told leads =>
          cases leads
          exact ⟨rfl, rfl⟩

/-- A transfer of a valid request works in a span, and reports what it has come to. -/
theorem leads_accepted (accepted : r.validate = .ok ())
    (leads : (transfer u cancelAt r).Leads ms (done outcome)) :
    ∃ work, (u.execute cancelAt fun s => record u.verbose r s).Leads work (done outcome) ∧
      ms = .told (.spanOpened ⟨r.fromId, r.toId⟩) :: (work ++
        [.told (.event (outcomeEvent outcome)), .told .spanClosed, .told (.counted .latency),
          .told (.counted (outcomeCount r.currency outcome))]) := by
  rw [transfer_eq, attempt, accepted] at leads
  obtain ⟨first, rest, came, rfl, ran, tallied⟩ := leads_bind_done leads
  obtain ⟨rfl, rfl⟩ := leads_tally tallied
  cases ran with
  | told ran =>
      obtain ⟨work, reports, ended, rfl, executed, reported⟩ :=
        leads_bind_done (p := u.execute cancelAt fun s => record u.verbose r s) ran
      cases reported with
      | told reported =>
          cases reported with
          | told reported =>
              cases reported
              exact ⟨work, executed, by simp⟩

theorem leads_rejected {cause : Rejection} (rejected : r.validate = .error cause)
    (leads : (transfer u cancelAt r).Leads ms (done outcome)) :
    outcome = .error (.validation cause) ∧
      ms = [.told (.counted .latency), .told (.counted (outcomeCount r.currency outcome))] := by
  rw [transfer_eq, attempt, rejected] at leads
  obtain ⟨rfl, told⟩ := leads_tally leads
  exact ⟨rfl, told⟩

end Leads

theorem measured_transfer {u : UnitOfWork} {cancelAt : Option Nat} {r : TransferRequest}
    {outcome : Except LedgerError TransferResult} {ms : List Moment}
    {history : List Deed} (leads : (transfer u cancelAt r).Leads ms (done outcome))
    (granted : Granted history ms) : measured ms = counted r outcome := by
  cases accepted : r.validate with
  | error cause =>
      obtain ⟨_, rfl⟩ := leads_rejected accepted leads
      rw [counted, accepted]
      rfl
  | ok _ =>
      obtain ⟨work, executed, rfl⟩ := leads_accepted accepted leads
      have counts := UnitOfWork.measured_execute (limited_record_staysIn r) executed
        (granted_append.mp granted.2).1
      change measured (work ++ _) = _
      rw [measured_append, counts, counted, accepted]
      rfl

theorem limited_transfer (u : UnitOfWork) (cancelAt : Option Nat) (r : TransferRequest) :
    (transfer u cancelAt r).Limited (fun _ => True) (TimedRequest.Asks (MayAsk r)) := by
  rw [transfer_eq]
  exact limited_bind (limited_attempt u cancelAt r) fun _ => ⟨trivial, trivial, trivial⟩

end Transfer

namespace CheckedTransfer

open Program

/-- What a check may ask for. -/
def MayAsk : StoreRequest → Prop
  | .query (.account _) => True
  | _ => False

theorem limited_findHolding (id : Int) (currency : String) :
    (AccountService.findHolding id currency).toProgram.Limited (I := LedgerStore) Note.Uncounted
      MayAsk := by
  refine limited_action (limited_action ⟨trivial, fun _ => trivial⟩ fun found => ?_) fun a => ?_
  · cases found <;> trivial
  · change Limited _ _ (if _ then _ else _)
    split <;> trivial

theorem limited_validateTransfer (r : TransferRequest) :
    (AccountService.validateTransfer r).toProgram.Limited (I := LedgerStore) Note.Uncounted
      MayAsk := by
  refine limited_action (limited_findHolding _ _) fun source => ?_
  refine limited_action (limited_findHolding _ _) fun destination => ?_
  change Limited _ _ (if _ then _ else _)
  split <;> trivial

theorem limited_check (r : TransferRequest) :
    (check r).Limited (fun _ => True) (TimedRequest.Asks MayAsk) := by
  refine limited_bind (limited_timed (limited_mono (fun _ _ => trivial) (fun _ h => h)
    (limited_validateTransfer r))) fun verdict => ?_
  cases verdict with
  | error e => exact ⟨trivial, trivial, trivial⟩
  | ok accounts => trivial

/-- An account that is found to hold a currency has been heard of. -/
theorem heard_of_findHolding {id : Int} {currency : String} {ms : List Moment} {a : Account}
    (h : (timed (AccountService.findHolding id currency).toProgram).Leads ms (done (.ok a))) :
    ∃ m ∈ ms, ∃ a, m.answer? = some ⟨.query (.account id), .ok (some a)⟩ ∧
      a.currency = currency := by
  obtain ⟨first, rest, b, rfl, found, held⟩ := leads_action h
  obtain ⟨asked, last, reply, rfl, heard, known⟩ := leads_action found
  have holds : b.currency = currency := by
    change (timed (if b.holdsCurrency currency then _ else _)).Leads rest _ at held
    split at held
    · rename_i same
      exact eq_of_beq same
    · cases held
  cases reply with
  | none => cases known
  | some c =>
      cases known
      cases heard with
      | heard fits goes =>
          cases goes
          exact ⟨_, List.mem_append_left _ List.mem_cons_self, _, rfl, holds⟩

/-- A check that passes has heard of both accounts that they hold the currency. -/
theorem heard_of_check {r : TransferRequest} {ms : List Moment}
    (h : (check r).Leads ms (done (.ok ()))) {id : Int} (side : id = r.fromId ∨ id = r.toId) :
    ∃ m ∈ ms, ∃ a, m.answer? = some ⟨.query (.account id), .ok (some a)⟩ ∧
      a.currency = r.currency := by
  have bound : check r = (timed (AccountService.validateTransfer r).toProgram).bind _ := rfl
  rw [bound] at h
  obtain ⟨first, rest, verdict, rfl, valid, goes⟩ := leads_bind_done h
  cases verdict with
  | error e => cases goes with | told goes => cases goes with | told goes => cases goes
  | ok accounts =>
      obtain ⟨source, later, _, rfl, foundSource, valid⟩ := leads_action valid
      obtain ⟨destination, _, _, rfl, foundDestination, _⟩ := leads_action valid
      cases side with
      | inl is =>
          obtain ⟨m, hm, heard⟩ := heard_of_findHolding foundSource
          exact ⟨m, by simp [hm], is ▸ heard⟩
      | inr is =>
          obtain ⟨m, hm, heard⟩ := heard_of_findHolding foundDestination
          exact ⟨m, by simp [hm], is ▸ heard⟩

theorem measured_check {r : TransferRequest} {ms : List Moment} {verdict : Except LedgerError Unit}
    (h : (check r).Leads ms (done verdict)) :
    measured ms = match verdict with
      | .ok () => []
      | .error e => [.transferFailed e.reason] := by
  have bound : check r = (timed (AccountService.validateTransfer r).toProgram).bind _ := rfl
  rw [bound] at h
  obtain ⟨first, rest, found, rfl, valid, goes⟩ := leads_bind_done h
  rw [measured_append, measured_of_limited (limited_timed (limited_validateTransfer r)) valid]
  cases found with
  | ok accounts =>
      cases goes
      rfl
  | error e =>
      cases goes with
      | told goes =>
          cases goes with
          | told goes =>
              cases goes
              rfl

end CheckedTransfer

end DoubleEntry
