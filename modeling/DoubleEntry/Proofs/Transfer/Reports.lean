import DoubleEntry.Proofs.Client.Scene
import DoubleEntry.Proofs.Transfer.Callers
import DoubleEntry.Proofs.Transfer.Conduct

/-!
What is reported of a transfer from the level of information on. Its body reports nothing there, and
gives up with whatever the store refuses. The session is the client's own, so the store refuses
neither to undo it nor to commit it. So the outcome of a transfer tells all that is reported of it.
-/

namespace DoubleEntry

/-- The store refuses a request in a session. -/
def Moment.Refuses (m : Moment) (e : LedgerError) : Prop :=
  ∃ s op, m.answer? = some ⟨.perform s op, .error e⟩

theorem Moment.not_refuses_told (n : Note) (e : LedgerError) : ¬ (told n).Refuses e := by
  rintro ⟨_, _, no⟩
  cases no

/-- In some moments this is shown. A refusal that is heard in them is their outcome, and no outcome
finds fault with the shape of a request. -/
structure Heeded {α : Type} (ms : List Moment) (shown : List Note)
    (outcome : Except LedgerError α) : Prop where
  shows : ms.filterMap Moment.shown? = shown
  refused : ∀ m ∈ ms, ∀ e, m.Refuses e → outcome = .error e
  wellFormed : ∀ e, outcome = .error e → e.errorClass ≠ .invalid

namespace Heeded

variable {α : Type} {ms : List Moment} {shown : List Note} {outcome : Except LedgerError α}

theorem nil (wellFormed : ∀ e, outcome = .error e → e.errorClass ≠ .invalid) :
    Heeded [] [] outcome :=
  ⟨rfl, fun _ no => (by cases no), wellFormed⟩

/-- The store has the last word. -/
theorem last {q : TimedRequest LedgerStore} {reply : q.Reply} {e : LedgerError}
    (refused : ∀ e', (Moment.heard q reply).Refuses e' → e' = e)
    (wellFormed : e.errorClass ≠ .invalid) :
    Heeded [.heard q reply] [] (.error e : Except LedgerError α) where
  shows := rfl
  refused m hm e' refuses := by
    cases List.mem_singleton.mp hm
    rw [refused e' refuses]
  wellFormed e' same := by
    cases same
    exact wellFormed

/-- A moment comes before, in which nothing is refused. -/
theorem cons (h : Heeded ms shown outcome) {m : Moment} (calm : ∀ e, ¬ m.Refuses e) :
    Heeded (m :: ms) (m.shown?.toList ++ shown) outcome where
  shows := by
    rw [← h.shows]
    cases told : m.shown? <;> simp [told]
  refused m' hm e refuses := by
    rcases List.mem_cons.mp hm with rfl | later
    · exact absurd refuses (calm e)
    · exact h.refused m' later e refuses
  wellFormed := h.wellFormed

/-- Nothing is refused any more. -/
theorem append (h : Heeded ms shown outcome) {ns : List Moment}
    (calm : ∀ m ∈ ns, ∀ e, ¬ m.Refuses e) :
    Heeded (ms ++ ns) (shown ++ ns.filterMap Moment.shown?) outcome where
  shows := by rw [List.filterMap_append, h.shows]
  refused m hm e refuses := by
    rcases List.mem_append.mp hm with before | after
    · exact h.refused m before e refuses
    · exact absurd refuses (calm m after e)
  wellFormed := h.wellFormed

end Heeded

/-- What a body comes to in a window. -/
def UnitOfWork.outcome {α : Type} (u : UnitOfWork) :
    Except Stop (Except LedgerError α) → Except LedgerError α
  | .error stop => .error (u.stopped stop)
  | .ok outcome => outcome

namespace Program

variable {α β : Type} {s : SessionId} {history : List Deed} {ms : List Moment}

/-- A body that reports nothing from the level of information on, makes requests in its session, and
gives up with what it is refused. -/
inductive Heeds (s : SessionId) : Program (Paced LedgerStore) (Except LedgerError α) → Prop where
  | ok (a : α) : Heeds s (done (.ok a))
  | error {e : LedgerError} (wellFormed : e.errorClass ≠ .invalid) : Heeds s (done (.error e))
  | halt (o : Overflow) : Heeds s (halt o)
  | note {n next} (hidden : n.shown? = none) (rest : Heeds s next) : Heeds s (note n next)
  | ask {op : SessionRequest}
      {next : Except LedgerError op.Reply → Program (Paced LedgerStore) (Except LedgerError α)}
      (refused : ∀ e, next (.error e) = done (.error e)) (rest : ∀ v, Heeds s (next (.ok v))) :
      Heeds s (ask (I := Paced LedgerStore) (.call (.perform s op)) next)

theorem heeds_ask (op : SessionRequest) (s : SessionId) : (op.ask s).toProgram.Heeds s :=
  .ask (fun _ => rfl) fun v => .ok v

theorem heeds_action {a : Action (Paced LedgerStore) β} {f : β → Action (Paced LedgerStore) α}
    (first : a.toProgram.Heeds s) (rest : ∀ b, (f b).toProgram.Heeds s) :
    (a >>= f).toProgram.Heeds s := by
  change (a.toProgram.bind (ExceptT.bindCont f)).Heeds s
  generalize a.toProgram = p at first
  induction first with
  | ok b => exact rest b
  | error wellFormed => exact .error wellFormed
  | halt o => exact .halt o
  | note hidden _ ih => exact .note hidden ih
  | ask refused _ ih =>
      refine .ask (fun e => ?_) ih
      rw [refused]
      rfl

/-- What comes out of a window is heeded, if the body in it heeds what it hears. -/
theorem heeded_within {body : Program (Paced LedgerStore) (Except LedgerError α)}
    (heeds : body.Heeds s) (u : UnitOfWork) {w : Window}
    {outcome : Except Stop (Except LedgerError α)}
    (leads : (body.within w).Leads ms (done outcome)) (given : AllGiven history ms) :
    Heeded ms [] (u.outcome outcome) := by
  induction heeds generalizing ms history with
  | ok a =>
      cases leads
      exact .nil fun _ no => by cases no
  | error wellFormed =>
      cases leads
      refine .nil fun e same => ?_
      cases same
      exact wellFormed
  | halt o => cases leads
  | @note n next hidden _ ih =>
      cases leads with
      | told leads =>
          have first := (ih leads given.2).cons (Moment.not_refuses_told n)
          rw [Moment.shown?, hidden] at first
          exact first
  | @ask op next refused _ ih =>
      simp only [within] at leads
      cases leads with
      | @heard q next' reply ms p fits leads =>
          rcases reply with stop | e | v
          · cases leads
            refine .last (fun e refuses => ?_) ?_
            · obtain ⟨_, _, no⟩ := refuses
              cases no
            · cases stop <;> exact fun no => by cases no
          · simp only [refused] at leads
            cases leads
            refine .last (fun e refuses => ?_) (given.1.errorClass rfl)
            obtain ⟨_, _, same⟩ := refuses
            cases same
            rfl
          · refine (ih v leads given.2).cons fun e refuses => ?_
            obtain ⟨_, _, no⟩ := refuses
            cases no

end Program

namespace UnitOfWork

open Program

variable {α : Type} {s : SessionId} {history : List Deed} {ms : List Moment} {u : UnitOfWork}
  {cancelAt : Option Nat}

theorem heeded_bounded {body : Program (Paced LedgerStore) (Except LedgerError α)}
    (heeds : body.Heeds s) {outcome : Except LedgerError α}
    (leads : (u.bounded cancelAt body).Leads ms (done outcome)) (given : AllGiven history ms) :
    Heeded ms [] outcome := by
  cases leads with
  | @heard q next reply ms p fits leads =>
      cases reply with
      | error stop =>
          cases leads
          refine .last (fun e refuses => ?_) ?_
          · obtain ⟨_, _, no⟩ := refuses
            cases no
          · cases stop <;> exact fun no => by cases no
      | ok w =>
          obtain ⟨first, rest, came, rfl, led, goes⟩ :=
            leads_bind_done (p := body.within w) leads
          have heeded := heeded_within heeds u led (allGiven_append.mp given.2).1
          have same : rest = [] ∧ u.outcome came = outcome := by
            rcases came with stop | came
            · cases goes
              exact ⟨rfl, rfl⟩
            · cases goes
              exact ⟨rfl, rfl⟩
          rw [same.1, List.append_nil, ← same.2]
          refine heeded.cons fun e refuses => ?_
          obtain ⟨_, _, no⟩ := refuses
          cases no

/-- What is shown of the end of a unit of work. -/
def undoing : Except LedgerError α → List Note
  | .ok _ => []
  | .error e => [.event (.unitRolledBack e)]

/-- What a session has drafted can be committed at any time. -/
def Committable (s : SessionId) (history : List Deed) : Prop :=
  .began s ∈ history ∧ ∃ x, (Books.replay history).drafts s = some x ∧ x.Covers

/-- An end is smooth that changes nothing about an outcome and is refused nothing. -/
structure Smooth (outcome result : Except LedgerError α) (ms : List Moment) : Prop where
  result_eq : result = outcome
  shows : ms.filterMap Moment.shown? = undoing outcome
  calm : ∀ m ∈ ms, ∀ e, ¬ m.Refuses e

theorem smooth_settle {outcome result : Except LedgerError α}
    (leads : (settle s outcome).Leads ms (done result)) (given : AllGiven history ms)
    (working : Working s history)
    (committable : ∀ value, outcome = .ok value → Committable s history) :
    Smooth outcome result ms := by
  cases outcome with
  | ok value =>
      cases leads with
      | @heard q next reply ms p fits goes =>
          obtain ⟨begun, x, drafted, covers⟩ := committable value rfl
          have committed : reply = .ok () := given.1.commits rfl begun drafted covers
          subst committed
          cases goes with
          | told goes =>
              cases goes
              refine ⟨rfl, rfl, List.forall_mem_cons.mpr ⟨?_,
                List.forall_mem_singleton.mpr (Moment.not_refuses_told _)⟩⟩
              rintro e ⟨_, _, no⟩
              cases no
  | error e =>
      cases leads with
      | told leads =>
          cases leads with
          | @heard q next reply ms p fits goes =>
              have undone : reply = .ok () := by
                refine given.2.1.undoes rfl ?_
                rw [show (Moment.told _).deeds = [] from rfl, List.append_nil]
                exact working
              subst undone
              cases goes with
              | told goes =>
                  cases goes
                  refine ⟨rfl, rfl, List.forall_mem_cons.mpr ⟨Moment.not_refuses_told _,
                    List.forall_mem_cons.mpr ⟨?_,
                      List.forall_mem_singleton.mpr (Moment.not_refuses_told _)⟩⟩⟩
                  rintro e ⟨_, _, no⟩
                  cases no

theorem smooth_conclude {outcome result : Except LedgerError α}
    (leads : (conclude s outcome).Leads ms (done result)) (given : AllGiven history ms)
    (working : Working s history)
    (committable : ∀ value, outcome = .ok value → Committable s history) :
    Smooth outcome result ms := by
  rw [conclude_eq] at leads
  obtain ⟨first, rest, settled, rfl, led, goes⟩ := leads_bind_done leads
  have smooth := smooth_settle led (allGiven_append.mp given).1 working committable
  cases goes with
  | heard fits goes =>
      cases goes
      refine ⟨smooth.result_eq, ?_, List.forall_mem_append.mpr ⟨smooth.calm, ?_⟩⟩
      · rw [List.filterMap_append, smooth.shows]
        exact List.append_nil _
      · intro m hm e refuses
        cases List.mem_singleton.mp hm
        obtain ⟨_, _, no⟩ := refuses
        cases no

/-- What is shown of a unit of work whose session can be committed once its body has come to its
end: nothing but the rollback of an error. -/
theorem heeded_execute {body : SessionId → Action (Paced LedgerStore) α}
    (heeds : ∀ s, (body s).toProgram.Heeds s)
    (stays : ∀ s, (body s).toProgram.Limited Note.Uncounted (PacedRequest.Asks (StaysIn s)))
    {post : SessionId → List Deed → α → Prop}
    (works : ∀ s w, Works s w [.began s] (body s) (post s))
    (committable : ∀ s history value, post s history value → Committable s history)
    {result : Except LedgerError α}
    (leads : (u.execute cancelAt fun s => body s).Leads ms (done result))
    (given : AllGiven [] ms) : Heeded ms (undoing result) result := by
  cases leads with
  | @heard q next reply ms p fits goes =>
      obtain ⟨s, rfl⟩ := given.1.begins rfl
      have goes : ((u.bounded cancelAt (body s)).bind fun outcome => conclude s outcome).Leads ms
        (done result) := goes
      obtain ⟨first, rest, outcome, rfl, led, concludes⟩ := leads_bind_done goes
      obtain ⟨givenFirst, givenRest⟩ := allGiven_append.mp given.2
      have working : Working s ([] ++ [.began s] ++ first.flatMap Moment.deeds) :=
        working_of_leads (limited_bounded u cancelAt (stays s)) led fun _ no => by cases no
      have follows : (u.bounded cancelAt (body s)).Follows (boundedConduct s (post s)) [.began s] :=
        follows_bounded (Uncommitted.began s) fun _ => works s
      have ended := Program.follows_of_leads led follows
      have smooth := smooth_conclude concludes givenRest working fun value same =>
        committable s _ value (ended.2 value same)
      have heeded := (heeded_bounded (heeds s) led givenFirst).append smooth.calm
      rw [smooth.shows, ← smooth.result_eq] at heeded
      refine heeded.cons fun e refuses => ?_
      obtain ⟨_, _, no⟩ := refuses
      cases no

end UnitOfWork

namespace Transfer

open Program UnitOfWork

variable {verbose : Bool} {r : TransferRequest} {s : SessionId} {res : TransferResult}

theorem heeds_applyDelta (s : SessionId) (a : Int) (delta : Decimal) :
    (Balance.applyDelta verbose s a delta).toProgram.Heeds s := by
  refine heeds_action (heeds_ask _ s) fun found => ?_
  cases found with
  | none => exact .error fun no => by cases no
  | some row =>
      refine heeds_action ?_ fun _ => .ok _
      rw [Balance.reportBalance]
      split
      · exact .note rfl (.ok _)
      · exact .halt _

theorem heeds_record (r : TransferRequest) (s : SessionId) :
    (record verbose r s).toProgram.Heeds s := by
  refine heeds_action (heeds_ask _ s) fun transaction => ?_
  refine heeds_action (heeds_ask _ s) fun fromEntry => ?_
  refine heeds_action (heeds_ask _ s) fun toEntry => ?_
  refine heeds_action ?_ fun sides => .ok _
  simp only [Balance.applyTransfer]
  split
  · refine heeds_action (heeds_applyDelta s _ _) fun source => ?_
    exact heeds_action (heeds_applyDelta s _ _) fun destination => .ok _
  · refine heeds_action (heeds_applyDelta s _ _) fun destination => ?_
    exact heeds_action (heeds_applyDelta s _ _) fun source => .ok _

/-- What a transfer has drafted in the end: its rows, and both accounts. -/
theorem drafts_written (records : Records r res) : ∃ accounts,
    (Books.replay (written r s res)).drafts s =
      some {
        accounts
        entries := [res.fromEntry, res.toEntry]
        transactions := [res.transaction] } ∧
    (∃ a, Table.find? r.fromId accounts = some a) ∧ ∃ a, Table.find? r.toId accounts = some a := by
  have source : ∀ rows, ∃ a, Table.find? r.fromId (Table.insert res.fromAccount rows) = some a :=
    fun rows => ⟨_, (Table.find?_insert ..).trans (if_pos records.source)⟩
  have destination : ∀ rows, ∃ a, Table.find? r.toId (Table.insert res.toAccount rows) = some a :=
    fun rows => ⟨_, (Table.find?_insert ..).trans (if_pos records.destination)⟩
  have kept : ∀ b (row : Account) rows, (∃ a, Table.find? b rows = some a) →
      ∃ a, Table.find? b (Table.insert row rows) = some a := by
    rintro b row rows ⟨a, found⟩
    rw [Table.find?_insert]
    split
    · exact ⟨_, rfl⟩
    · exact ⟨a, found⟩
  by_cases order : r.fromId < r.toId
  · refine ⟨_, ?_, kept _ _ _ (source []), destination _⟩
    simp [written, order, Books.replay, Books.after, Books.mapDraft]
  · refine ⟨_, ?_, source _, kept _ _ _ (destination [])⟩
    simp [written, order, Books.replay, Books.after, Books.mapDraft]

theorem committable_written (records : Records r res) : Committable s (written r s res) := by
  obtain ⟨accounts, drafted, source, destination⟩ := drafts_written (s := s) records
  have fromId : res.transaction.fromId = r.fromId :=
    congrArg NewTransaction.fromId records.transaction
  have toId : res.transaction.toId = r.toId := congrArg NewTransaction.toId records.transaction
  refine ⟨List.mem_append_left _ List.mem_cons_self, _, drafted, ?_, ?_⟩
  · refine List.forall_mem_cons.mpr ⟨?_, List.forall_mem_singleton.mpr ?_⟩
    · rw [records.debit.1]
      exact source
    · rw [records.credit.1]
      exact destination
  · refine List.forall_mem_singleton.mpr ⟨?_, ?_⟩
    · rw [fromId]
      exact source
    · rw [toId]
      exact destination

/-- What is shown of a transfer that reaches the store. -/
def shownOf (r : TransferRequest) (outcome : Except LedgerError TransferResult) : List Note :=
  .spanOpened ⟨r.fromId, r.toId⟩ ::
    (undoing outcome ++ [.event (outcomeEvent outcome), .spanClosed])

/-- The outcome of a transfer tells what is shown of it. -/
theorem heeded_transfer {u : UnitOfWork} {cancelAt : Option Nat} (valid : r.Valid)
    {outcome : Except LedgerError TransferResult} {ms : List Moment}
    (leads : (transfer u cancelAt r).Leads ms (done outcome)) (given : AllGiven [] ms) :
    Heeded ms (shownOf r outcome) outcome := by
  obtain ⟨work, executed, rfl⟩ := leads_accepted valid.accepted leads
  have heeded := heeded_execute (heeds_record r) (limited_record_staysIn r) (works_record valid)
    (fun s history res known => known.1 ▸ committable_written known.2.1) executed
    (allGiven_append.mp given.2).1
  have calm : ∀ m ∈ [Moment.told (.event (outcomeEvent outcome)), .told .spanClosed,
      .told (.counted .latency), .told (.counted (outcomeCount r.currency outcome))],
      ∀ e, ¬ m.Refuses e := by
    simp only [List.mem_cons, List.not_mem_nil, or_false]
    rintro m (rfl | rfl | rfl | rfl) <;> exact Moment.not_refuses_told _
  have told := (heeded.append calm).cons
    (Moment.not_refuses_told (.spanOpened ⟨r.fromId, r.toId⟩))
  cases outcome <;> exact told

end Transfer
end DoubleEntry
