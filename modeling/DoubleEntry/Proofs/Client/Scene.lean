import DoubleEntry.Proofs.Client.Knowledge
import DoubleEntry.Proofs.Client.AmountIndependence

/-!
One client at a desk, with all others reduced to the moves that they make there. These may be any
moves at any time, but that nobody makes requests in the client's sessions or takes up its tickets.
Two clients that go on alike, while others make the same moves at desks that look alike, show the
same as long as neither is refused a change of a balance and both go on.
-/

namespace DoubleEntry

/-- The client takes a turn, or somebody else makes a move. -/
inductive Beat where
  | own (t : Turn)
  | other (m : Move)

/-- A client at a desk, with all that it has told and heard so far. -/
structure Scene (α : Type) where
  desk : Desk
  client : Client α
  log : List Moment

namespace Scene

variable {α : Type} {w w' : Scene α}

def start (p : Program (Timed LedgerStore) α) (d : Desk) : Scene α := ⟨d, Client.start p, []⟩

/-- A turn that the client cannot take, and a move that others may not make, change nothing. -/
def step (w : Scene α) : Beat → Scene α
  | .own t =>
      let x := w.client.after w.desk t
      ⟨x.2, x.1, w.log ++ (w.client.moment? w.desk t).toList⟩
  | .other m => if w.client.Permits m then { w with desk := w.desk.step m } else w

def run (p : Program (Timed LedgerStore) α) (d : Desk) (beats : List Beat) : Scene α :=
  beats.foldl step (start p d)

/-- What a log shows of the client. -/
def shown (w : Scene α) : List Note := w.log.filterMap Moment.shown?

/-- What the client has come to, once it is at its end. -/
def outcome? (w : Scene α) : Option α :=
  match w.client.stage with
  | .running (.done a) => some a
  | _ => none

/-- The client has come to an end, with this outcome. -/
abbrev Ended (w : Scene α) (a : α) : Prop := w.outcome? = some a

theorem stage_of_ended {w : Scene α} {a : α} (ended : w.Ended a) :
    w.client.stage = .running (.done a) := by
  simp only [Ended, outcome?] at ended
  split at ended
  · rename_i at_
    cases ended
    exact at_
  · cases ended

/-- What holds of a scene at any time. -/
structure Sound (p : Program (Timed LedgerStore) α) (w : Scene α) : Prop where
  apart : w.client.KeepsApart w.desk
  lined : w.client.InLine w.desk
  led : w.client.Led p w.log
  given : AllGiven [] w.log

theorem sound_start (p : Program (Timed LedgerStore) α) {d : Desk} (order : d.Orderly) :
    (start p d).Sound p where
  apart := Client.keepsApart_start p order
  lined _ _ _ at_ := by cases at_
  led := Client.led_start p
  given := trivial

theorem sound_step {p : Program (Timed LedgerStore) α} (h : w.Sound p) (b : Beat) :
    (w.step b).Sound p := by
  cases b with
  | own t =>
      cases turn : w.client.turn w.desk t with
      | none =>
          have still : w.step (.own t) = w := by
            simp only [step, Client.after, turn, Client.moment?_of_turn_none turn, Option.getD_none,
              Option.toList_none, List.append_nil]
          exact still.symm ▸ h
      | some x =>
          simp only [step, Client.after_of_turn turn]
          have turned := Client.turned_of_turn turn
          have passes := Client.passes_of_turn turn
          refine ⟨Client.keepsApart_turned h.apart turned, fun ticket q next at_ => ?_,
            Client.led_passes h.led passes, allGiven_append.mpr ⟨h.given, ?_⟩⟩
          · obtain ⟨r, reply, call, waiting⟩ := Client.waiting_of_turned turned at_
            exact ⟨r, reply, call, waiting ▸ List.mem_append_right _ (List.mem_singleton_self _)⟩
          · cases at_ : w.client.moment? w.desk t with
            | none => trivial
            | some m =>
                rw [at_] at passes
                refine ⟨fun r answer heard => ?_, trivial⟩
                have deeds := Client.deeds_of_led h.led (Client.stands_of_passes passes)
                exact ⟨_, _, h.apart.order, deeds ▸ h.apart.knows,
                  (Client.replies_of_passes passes heard).2⟩
  | other m =>
      simp only [step]
      split
      · rename_i permitted
        refine ⟨Client.keepsApart_step h.apart permitted, fun ticket q next at_ => ?_, h.led,
          h.given⟩
        obtain ⟨r, reply, call, there⟩ := h.lined ticket q next at_
        have waits : w.client.ticket? = some ticket := Client.ticket?_eq_some.mpr ⟨q, next, at_⟩
        exact ⟨r, reply, call,
          (Desk.stepped_step w.desk m).waits there (permitted.2 ticket waits)⟩
      · exact h

theorem sound_run (p : Program (Timed LedgerStore) α) {d : Desk} (order : d.Orderly)
    (beats : List Beat) : (run p d beats).Sound p :=
  List.foldlRecOn beats step (sound_start p order) fun _ h b _ => sound_step h b

/-- What has become of two scenes of clients that go on alike. -/
inductive Pair (R : α → α → Prop) (w w' : Scene α) : Prop where
  | alike (h : Client.Alike R w.client w.desk w'.client w'.desk) (same : w.shown = w'.shown)
  | refused (h : ∃ m ∈ w.log ++ w'.log, m.RefusesBalance)
  | lost (h : w.client.IsLost ∨ w'.client.IsLost)

theorem log_step (w : Scene α) (b : Beat) : w.log ⊆ (w.step b).log := by
  cases b with
  | own t => exact List.subset_append_left _ _
  | other m =>
      simp only [step]
      split <;> exact List.Subset.refl _

theorem isLost_step (lost : w.client.IsLost) (b : Beat) : (w.step b).client.IsLost := by
  cases b with
  | own t => exact Client.isLost_after lost w.desk t
  | other m =>
      simp only [step]
      split <;> exact lost

theorem shown_own (w : Scene α) (t : Turn) : (w.step (.own t)).shown =
    w.shown ++ ((w.client.moment? w.desk t).bind Moment.shown?).toList := by
  simp only [shown, step, List.filterMap_append]
  cases w.client.moment? w.desk t with
  | none => rfl
  | some m => cases told : m.shown? <;> simp [told]

theorem permits_iff {R : α → α → Prop} (h : Client.Alike R w.client w.desk w'.client w'.desk)
    (m : Move) : w.client.Permits m ↔ w'.client.Permits m := by
  have tickets : w.client.ticket? = w'.client.ticket? := by
    have stands := h.stage
    simp only [Client.ticket?]
    generalize w.client.stage = stage at stands ⊢
    generalize w'.client.stage = stage' at stands ⊢
    cases stands <;> rfl
  simp only [Client.Permits, h.begun, tickets]

/-- Two scenes stay a pair in every beat. -/
theorem pair_step {R : α → α → Prop} {p p' : Program (Timed LedgerStore) α} (sound : w.Sound p)
    (sound' : w'.Sound p') (h : Pair R w w') (b : Beat) : Pair R (w.step b) (w'.step b) := by
  cases h with
  | refused h =>
      obtain ⟨m, there, refuses⟩ := h
      refine .refused ⟨m, ?_, refuses⟩
      rcases List.mem_append.mp there with mine | others
      · exact List.mem_append_left _ (log_step w b mine)
      · exact List.mem_append_right _ (log_step w' b others)
  | lost h => exact .lost (h.imp (isLost_step · b) (isLost_step · b))
  | alike h same =>
      cases b with
      | own t =>
          have turns := Client.turns_of_alike sound.apart.order sound'.apart.order sound.lined
            sound'.lined h t
          cases turns with
          | alike h' shows =>
              refine .alike h' ?_
              rw [shown_own, shown_own, same, shows]
          | refused refused =>
              obtain ⟨m, there, refuses⟩ := refused
              refine .refused ⟨m, ?_, refuses⟩
              rcases List.mem_append.mp there with mine | others
              · exact List.mem_append_left _ (List.mem_append_right _ mine)
              · exact List.mem_append_right _ (List.mem_append_right _ others)
          | lost lost => exact .lost lost
      | other m =>
          have permits := permits_iff h m
          simp only [step]
          by_cases may : w.client.Permits m
          · rw [if_pos may, if_pos (permits.mp may)]
            have look := Desk.step_alike sound.apart.order sound'.apart.order h.look m
            exact .alike ⟨look, h.begun, h.stage⟩ same
          · rw [if_neg may, if_neg fun may' => may (permits.mpr may')]
            exact .alike h same

/-- Two runs of programs that go on alike, from desks that look alike, while others do the same. -/
theorem pair_run {R : α → α → Prop} {p p' : Program (Timed LedgerStore) α} {d d' : Desk}
    (order : d.Orderly) (order' : d'.Orderly) (look : d.veiled = d'.veiled)
    (twin : p.Twin .timed R p') (beats : List Beat) : Pair R (run p d beats) (run p' d' beats) := by
  induction beats using List.reverseRecOn with
  | nil => exact .alike ⟨look, rfl, .running twin⟩ rfl
  | append_singleton beats b ih =>
      simp only [run, List.foldl_concat]
      exact pair_step (sound_run p order beats) (sound_run p' order' beats) ih b

/-- What a client has told and heard has led it to its end. -/
theorem leads_of_ended {p : Program (Timed LedgerStore) α} (sound : w.Sound p) {a : α}
    (ended : w.Ended a) : p.Leads w.log (.done a) := by
  cases sound.led with
  | stands at_ leads _ =>
      have rest : w.client.rest? = some (.done a) := by
        rw [Client.rest?, stage_of_ended ended]
      cases rest.symm.trans at_
      exact leads
  | left gone => cases (stage_of_ended ended).symm.trans gone

theorem not_isLost_of_ended {a : α} (ended : w.Ended a) : ¬ w.client.IsLost := by
  rintro (at_ | ⟨o, at_⟩)
  · cases (stage_of_ended ended).symm.trans at_
  · cases (stage_of_ended ended).symm.trans at_

/-- If both come to an end they have shown the same, or one was refused a change of a balance. -/
theorem shown_eq_or_refused {R : α → α → Prop} (h : Pair R w w') {a a' : α} (ended : w.Ended a)
    (ended' : w'.Ended a') :
    w.shown = w'.shown ∨ ∃ m ∈ w.log ++ w'.log, m.RefusesBalance := by
  cases h with
  | alike h same => exact .inl same
  | refused h => exact .inr h
  | lost h =>
      exact (h.elim (not_isLost_of_ended ended) (not_isLost_of_ended ended')).elim

end Scene
end DoubleEntry
