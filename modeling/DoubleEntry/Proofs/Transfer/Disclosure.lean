import DoubleEntry.Proofs.Transfer.Reports

/-!
What the log of a transfer discloses. Two transfers that differ in nothing but their amounts, and
these look the same behind a mask, are reported in the same words, whatever the balances are at the
two stores. The exception is a transfer that a store refuses for a balance: the refusal names the
balance, and is reported as it is.
-/

namespace DoubleEntry

open Likeness Program

namespace UnitOfWork

variable {α : Type} {R : α → α → Prop}

theorem twin_bounded (u : UnitOfWork) (cancelAt : Option Nat)
    {body body' : Program (Paced LedgerStore) (Except LedgerError α)}
    (h : body.Twin .paced (Results R) body') :
    (u.bounded cancelAt body).Twin .timed (Results R) (u.bounded cancelAt body') := by
  refine Twin.ask (L := .timed) (TimedAlike.openWindow cancelAt u.timeout) ?_
  intro reply reply' told
  cases told with
  | openWindow _ =>
      cases reply with
      | error stop => exact .done (.error _)
      | ok window =>
          change ((body.within window).bind _).Twin .timed _ ((body'.within window).bind _)
          refine twin_bind (twin_within h window) fun x x' related => ?_
          cases related with
          | error stop => exact .done (.error _)
          | ok related => exact .done related

theorem twin_settle (s : SessionId) {outcome outcome' : Except LedgerError α}
    (h : Results R outcome outcome') :
    (settle s outcome).Twin .timed (Results R) (settle s outcome') := by
  cases h with
  | ok related =>
      refine twin_callFree (.perform s .commit) fun reply reply' told => ?_
      cases told with
      | committed s => exact .note rfl (.done (.ok related))
      | refused e => exact .note rfl (.note rfl (.done (.error e)))
  | error e =>
      refine .note rfl (twin_callFree (.perform s .rollback) fun reply reply' told => ?_)
      cases told with
      | rolledBack s => exact .note rfl (.done (.error e))
      | refused undo => exact .note rfl (.done (.error _))

theorem twin_execute (u : UnitOfWork) (cancelAt : Option Nat)
    {body body' : SessionId → Program (Paced LedgerStore) (Except LedgerError α)}
    (h : ∀ s, (body s).Twin .paced (Results R) (body' s)) :
    (u.execute cancelAt body).Twin .timed (Results R) (u.execute cancelAt body') := by
  refine twin_callFree .begin fun reply reply' told => ?_
  cases told with
  | began reply =>
      cases reply with
      | error e => exact .done (.error e)
      | ok s =>
          refine twin_bind (twin_bounded u cancelAt (h s)) fun outcome outcome' related => ?_
          rw [conclude_eq, conclude_eq]
          refine twin_bind (twin_settle s related) fun result result' related => ?_
          exact twin_callFree (.abandon s) fun _ _ _ => .done related

end UnitOfWork

/-- A refusal of a balance is the outcome of its transfer. -/
theorem Heeded.conflict {ms : List Moment} {shown : List Note}
    {outcome : Except LedgerError TransferResult} (h : Heeded ms shown outcome)
    {m : Moment} (hm : m ∈ ms) (refuses : m.RefusesBalance) :
    ∃ e : Conflict, e.TellsBalance ∧ outcome = .error (.conflict e) := by
  obtain ⟨_, _, heard, s, a, delta, tells⟩ := refuses
  exact ⟨_, tells, h.refused m hm _ ⟨s, _, heard⟩⟩

namespace Transfer

/-- Two results that are reported in the same words. -/
def SameReport (res res' : TransferResult) : Prop :=
  outcomeEvent (.ok res) = outcomeEvent (.ok res')

theorem twin_applyDelta (s : SessionId) (a : Int) (delta delta' : Decimal) :
    (Balance.applyDelta verbose s a delta).toProgram.Twin .paced (Results fun _ _ => True)
      (Balance.applyDelta verbose s a delta').toProgram := by
  refine twin_ask (.addBalance a delta delta') s fun reply reply' told => ?_
  cases told with
  | missing => exact .done (.error _)
  | changed c c' =>
      refine twin_action (R := fun _ _ => True) ?_ fun _ _ _ => .done (.ok trivial)
      simp only [Balance.reportBalance]
      split
      · split
        · exact .note rfl (.done (.ok trivial))
        · exact .haltRight _ _
      · exact .haltLeft _ _

variable {r : TransferRequest} {amount : Decimal}

theorem twin_applyTransfer (s : SessionId) (fromId toId : Int) (amount amount' : Decimal) :
    (Balance.applyTransfer verbose s fromId toId amount).toProgram.Twin .paced
      (Results fun _ _ => True)
      (Balance.applyTransfer verbose s fromId toId amount').toProgram := by
  simp only [Balance.applyTransfer]
  split
  · refine twin_action (twin_applyDelta s _ _ _) fun _ _ _ => ?_
    exact twin_action (twin_applyDelta s _ _ _) fun _ _ _ => .done (.ok trivial)
  · refine twin_action (twin_applyDelta s _ _ _) fun _ _ _ => ?_
    exact twin_action (twin_applyDelta s _ _ _) fun _ _ _ => .done (.ok trivial)

/-- The bodies of two transfers whose amounts look the same behind a mask. -/
theorem twin_record (accepted : r.validate = .ok ())
    (accepted' : { r with amount := amount }.validate = .ok ())
    (mask : Mask.amount r.amount = Mask.amount amount) (s : SessionId) :
    (record verbose r s).toProgram.Twin .paced (Results SameReport)
      (record verbose { r with amount := amount } s).toProgram := by
  have fits := (TransferRequest.valid_of_validate accepted).fits
  have fits' := (TransferRequest.valid_of_validate accepted').fits
  have checked' : ({ r with amount := amount } : TransferRequest).toNewTransaction.check = .ok () :=
    TransferRequest.check_of_validate accepted'
  refine twin_ask (.insertTransaction (TransferRequest.check_of_validate accepted) checked') s
    fun t t' drawn => ?_
  refine twin_ask (.insertEntry r.fromId (Decimal.fitsColumn_neg fits)
    (Decimal.fitsColumn_neg fits')) s fun _ _ _ => ?_
  refine twin_ask (.insertEntry r.toId fits fits') s fun _ _ _ => ?_
  refine twin_action (twin_applyTransfer s r.fromId r.toId r.amount amount) fun _ _ _ => ?_
  refine .done (.ok ?_)
  cases drawn with
  | drewTransaction fits fits' same =>
      have amounts : t.amount = r.amount := congrArg NewTransaction.amount fits
      have amounts' : t'.amount = amount := congrArg NewTransaction.amount fits'
      have currency : t.currency = r.currency := congrArg NewTransaction.currency fits
      have currency' : t'.currency = r.currency := congrArg NewTransaction.currency fits'
      simp only [SameReport, outcomeEvent, amounts, amounts', currency, currency', same, mask]

theorem twin_transfer (u : UnitOfWork) (cancelAt : Option Nat) (accepted : r.validate = .ok ())
    (accepted' : { r with amount := amount }.validate = .ok ())
    (mask : Mask.amount r.amount = Mask.amount amount) :
    (transfer u cancelAt r).Twin .timed (Results SameReport)
      (transfer u cancelAt { r with amount := amount }) := by
  have body : (u.execute cancelAt fun s => record u.verbose r s).Twin .timed (Results SameReport)
      (u.execute cancelAt fun s => record u.verbose { r with amount := amount } s) :=
    UnitOfWork.twin_execute u cancelAt (twin_record accepted accepted' mask)
  rw [transfer_eq, transfer_eq, attempt, attempt, accepted, accepted']
  refine twin_bind (R := Results SameReport) (.note rfl ?_) fun outcome outcome' related => ?_
  · change ((u.execute cancelAt fun s => record u.verbose r s).bind _).Twin .timed _
      ((u.execute cancelAt fun s => record u.verbose { r with amount := amount } s).bind _)
    refine twin_bind body fun outcome outcome' related => ?_
    have event : outcomeEvent outcome = outcomeEvent outcome' := by
      cases related with
      | ok same => exact same
      | error e => rfl
    rw [event]
    exact .note rfl (.note rfl (.done related))
  · exact .note rfl (.note rfl (.done related))

/-- Both give a value, or both an error of the same kind. -/
inductive SameKind :
    Except LedgerError TransferResult → Except LedgerError TransferResult → Prop where
  | ok (res res' : TransferResult) : SameKind (.ok res) (.ok res')
  | error {e e' : LedgerError} (same : e.reason = e'.reason) : SameKind (.error e) (.error e')

section Kinds

variable {outcome outcome' : Except LedgerError TransferResult}

theorem SameKind.symm (h : SameKind outcome outcome') : SameKind outcome' outcome := by
  cases h with
  | ok res res' => exact .ok res' res
  | error same => exact .error same.symm

theorem SameKind.conflict (kind : SameKind outcome outcome') {e : Conflict}
    (refused : outcome = .error (.conflict e)) : ∃ e', outcome' = .error (.conflict e') := by
  subst refused
  cases kind with
  | @error _ e' same => cases e' <;> simp [LedgerError.reason] at same ⊢

theorem SameKind.validation (kind : SameKind outcome outcome') {cause : Rejection}
    (rejected : outcome = .error (.validation cause)) :
    ∃ e, outcome' = .error e ∧ e.errorClass = .invalid := by
  subst rejected
  cases kind with
  | @error _ e' same =>
      cases e' <;> simp [LedgerError.reason, LedgerError.errorClass] at same ⊢

end Kinds

/-- What both scenes show in the end is told by their outcomes, and these are refusals of which one
tells a balance. -/
structure Discloses (r : TransferRequest) (outcome outcome' : Except LedgerError TransferResult)
    (shown shown' : List Note) : Prop where
  refused : ∃ e e' : Conflict, outcome = .error (.conflict e) ∧ outcome' = .error (.conflict e') ∧
    (e.TellsBalance ∨ e'.TellsBalance)
  shows : shown = shownOf r outcome
  shows' : shown' = shownOf r outcome'

section Scenes

variable {u : UnitOfWork} {cancelAt : Option Nat} {d : Desk}
  {beats : List Beat} {outcome outcome' : Except LedgerError TransferResult}

/-- In a scene of its own a transfer has heeded what it has heard. -/
theorem heeded_scene (order : d.Orderly) (accepted : r.validate = .ok ())
    (ended : (Scene.run (transfer u cancelAt r) d beats).Ended outcome) :
    Heeded (Scene.run (transfer u cancelAt r) d beats).log (shownOf r outcome) outcome := by
  have sound := Scene.sound_run (transfer u cancelAt r) order beats
  exact heeded_transfer (TransferRequest.valid_of_validate accepted)
    (Scene.leads_of_ended sound ended) sound.given

theorem shown_rejected (order : d.Orderly) {cause : Rejection}
    (rejected : r.validate = .error cause)
    (ended : (Scene.run (transfer u cancelAt r) d beats).Ended outcome) :
    outcome = .error (.validation cause) ∧
      (Scene.run (transfer u cancelAt r) d beats).shown = [] := by
  have sound := Scene.sound_run (transfer u cancelAt r) order beats
  obtain ⟨same, log⟩ := leads_rejected rejected (Scene.leads_of_ended sound ended)
  refine ⟨same, ?_⟩
  rw [Scene.shown, log]
  rfl

/-- Two transfers that differ in their amounts only, which look the same behind a mask, in stores
that differ in balances and amounts only, while others make the same moves: if both end alike they
show the same, or else they were refused for a balance, and show that. -/
theorem logs_alike_or_disclose {moves moves' : List Move}
    (look : (Desk.run moves).veiled = (Desk.run moves').veiled) (u : UnitOfWork)
    (cancelAt : Option Nat) (mask : Mask.amount r.amount = Mask.amount amount)
    (beats : List Beat)
    (ended : (Scene.run (transfer u cancelAt r) (Desk.run moves) beats).Ended outcome)
    (ended' : (Scene.run (transfer u cancelAt { r with amount := amount }) (Desk.run moves')
      beats).Ended outcome')
    (kind : SameKind outcome outcome') :
    (Scene.run (transfer u cancelAt r) (Desk.run moves) beats).shown =
        (Scene.run (transfer u cancelAt { r with amount := amount }) (Desk.run moves')
          beats).shown ∨
      Discloses r outcome outcome' (Scene.run (transfer u cancelAt r) (Desk.run moves) beats).shown
        (Scene.run (transfer u cancelAt { r with amount := amount }) (Desk.run moves')
          beats).shown := by
  have order := Desk.orderly_run moves
  have order' := Desk.orderly_run moves'
  cases accepted : r.validate with
  | error cause =>
      obtain ⟨rejected, shown⟩ := shown_rejected order accepted ended
      cases accepted' : ({ r with amount := amount } : TransferRequest).validate with
      | error cause' =>
          rw [shown, (shown_rejected order' accepted' ended').2]
          exact .inl rfl
      | ok _ =>
          obtain ⟨e, same, invalid⟩ := kind.validation rejected
          exact absurd invalid ((heeded_scene order' accepted' ended').wellFormed e same)
  | ok _ =>
      have heeded := heeded_scene order accepted ended
      cases accepted' : ({ r with amount := amount } : TransferRequest).validate with
      | error cause' =>
          obtain ⟨e, same, invalid⟩ :=
            kind.symm.validation (shown_rejected order' accepted' ended').1
          exact absurd invalid (heeded.wellFormed e same)
      | ok _ =>
          have heeded' := heeded_scene order' accepted' ended'
          have pair := Scene.pair_run order order' look
            (twin_transfer u cancelAt accepted accepted' mask) beats
          refine (Scene.shown_eq_or_refused pair ended ended').imp_right fun refused => ?_
          obtain ⟨m, hm, refuses⟩ := refused
          refine ⟨?_, heeded.shows, heeded'.shows⟩
          rcases List.mem_append.mp hm with mine | others
          · obtain ⟨e, tells, conflict⟩ := heeded.conflict mine refuses
            obtain ⟨e', conflict'⟩ := kind.conflict conflict
            exact ⟨e, e', conflict, conflict', .inl tells⟩
          · obtain ⟨e', tells, conflict'⟩ := heeded'.conflict others refuses
            obtain ⟨e, conflict⟩ := kind.symm.conflict conflict'
            exact ⟨e, e', conflict, conflict', .inr tells⟩

end Scenes

/-- Two accounts in dollars are opened, the first one with this balance. -/
def holdersWith (balance : Decimal) : List Move :=
  let now := Timestamp.ofMillis 0
  [.submit now (.query (.createAccount ⟨"ada", "USD", balance⟩)),
    .submit now (.query (.createAccount ⟨"bob", "USD", .whole 100⟩))]

/-- A client takes turn after turn, and nobody else does anything. -/
def promptBeats (n : Nat) : List Beat :=
  (List.replicate n [.own (.think 0 0), .own (.submit (.ofMillis 0))]).flatten

def tenDollars : TransferRequest := ⟨1, 2, .whole 10, "USD", "", .whole 1⟩

/-- The scene of a transfer out of an account with a balance. -/
def sceneOf (balance : Decimal) (r : TransferRequest) : Scene (Except LedgerError TransferResult) :=
  Scene.run (transfer .unbounded none r) (Desk.run (holdersWith balance)) (promptBeats 16)

/-- Ten dollars out of fifty look like twenty out of a hundred. -/
theorem logs_alike_or_disclose_tenOfFifty : ∃ res res',
    (sceneOf (.whole 50) tenDollars).Ended (.ok res) ∧
    (sceneOf (.whole 100) { tenDollars with amount := .whole 20 }).Ended (.ok res') ∧
    (sceneOf (.whole 50) tenDollars).shown =
      (sceneOf (.whole 100) { tenDollars with amount := .whole 20 }).shown := by
  have succeeds : ∀ {w : Scene (Except LedgerError TransferResult)},
      w.outcome?.any (·.isOk) = true → ∃ res, w.Ended (.ok res) := by
    intro w ended
    obtain ⟨outcome, same, isOk⟩ := (Option.any_eq_true _ _).mp ended
    cases outcome with
    | ok res => exact ⟨res, same⟩
    | error e => cases isOk
  obtain ⟨res, ended⟩ := succeeds (w := sceneOf (.whole 50) tenDollars) (by decide +kernel)
  obtain ⟨res', ended'⟩ := succeeds
    (w := sceneOf (.whole 100) { tenDollars with amount := .whole 20 }) (by decide +kernel)
  refine ⟨res, res', ended, ended', ?_⟩
  have look : (Desk.run (holdersWith (.whole 50))).veiled =
      (Desk.run (holdersWith (.whole 100))).veiled := rfl
  rcases logs_alike_or_disclose look .unbounded none (by decide) (promptBeats 16) ended ended'
    (.ok res res') with alike | discloses
  · exact alike
  · obtain ⟨e, e', no, _⟩ := discloses.refused
    cases no

/-- Five dollars look different from six, once ten are asked for. -/
theorem balance_disclosed : ¬ ∀ (moves moves' : List Move) (u : UnitOfWork)
      (cancelAt : Option Nat) (r : TransferRequest) (amount : Decimal) (beats : List Beat)
      (outcome outcome' : Except LedgerError TransferResult),
    (Desk.run moves).veiled = (Desk.run moves').veiled →
    Mask.amount r.amount = Mask.amount amount →
    (Scene.run (transfer u cancelAt r) (Desk.run moves) beats).Ended outcome →
    (Scene.run (transfer u cancelAt { r with amount := amount }) (Desk.run moves')
      beats).Ended outcome' →
    SameKind outcome outcome' →
    (Scene.run (transfer u cancelAt r) (Desk.run moves) beats).shown =
      (Scene.run (transfer u cancelAt { r with amount := amount }) (Desk.run moves')
        beats).shown := by
  intro claim
  have same := claim (holdersWith (.whole 5)) (holdersWith (.whole 6)) .unbounded none tenDollars
    (.whole 10) (promptBeats 16) (.error (.conflict (.negativeBalance 1 (-.whole 5))))
    (.error (.conflict (.negativeBalance 1 (-.whole 4)))) rfl rfl (by decide +kernel)
    (by decide +kernel) (.error rfl)
  revert same
  decide +kernel

end Transfer
end DoubleEntry
