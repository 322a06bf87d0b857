import DoubleEntry.Proofs.Client.Coherence

/-!
Clients that wait. Each of them has a request at the store that waits with its ticket, and no two of
them have the same ticket.
-/

namespace DoubleEntry

namespace Client

variable {α : Type} {c c' : Client α} {d d' : Desk}

/-- The ticket that the client waits with. -/
def ticket? (c : Client α) : Option Nat :=
  match c.stage with
  | .waiting ticket _ _ => some ticket
  | .running _ | .dropped => none

theorem ticket?_eq_some {n : Nat} :
    c.ticket? = some n ↔ ∃ q next, c.stage = .waiting n q next := by
  constructor
  · intro waits
    simp only [ticket?] at waits
    split at waits
    · rename_i ticket q next at_
      cases waits
      exact ⟨q, next, at_⟩
    · cases waits
    · cases waits
  · rintro ⟨q, next, at_⟩
    simp only [ticket?, at_]

/-- The request that the client waits with is at the store. -/
def InLine (c : Client α) (d : Desk) : Prop :=
  ∀ ticket q next, c.stage = .waiting ticket q next →
    ∃ r reply, q.call? = some ⟨r, reply⟩ ∧ ⟨ticket, r⟩ ∈ d.waiting

theorem exists_pending (h : c.InLine d) {n : Nat} (waits : c.ticket? = some n) :
    ∃ p ∈ d.waiting, p.ticket = n := by
  obtain ⟨q, next, at_⟩ := ticket?_eq_some.mp waits
  obtain ⟨r, _, _, there⟩ := h n q next at_
  exact ⟨_, there, rfl⟩

/-- What somebody else waits with goes on waiting. -/
theorem mem_waiting_turned (h : Turned c d c' d') (alone : c.UsesAlone d) {p : Pending}
    (hp : p ∈ d.waiting) (other : c.ticket? ≠ some p.ticket) : p ∈ d'.waiting := by
  have apart : ∀ ticket q next, c.stage = .waiting ticket q next → p.ticket ≠ ticket := by
    intro ticket q next at_ same
    simp only [ticket?, at_, same, ne_eq, not_true_eq_false] at other
  have deserted : ∀ ticket q next, c.stage = .waiting ticket q next →
      p ∈ (d.desert ticket).waiting := by
    intro ticket q next at_
    simp only [Desk.desert]
    split
    · exact List.mem_filter.mpr ⟨hp, bne_iff_ne.mpr (apart ticket q next at_)⟩
    · exact hp
  cases h with
  | noted at_ => exact hp
  | idle at_ quiet => exact hp
  | answered at_ call owns done => exact (Desk.answered_submit? done).2 ▸ hp
  | queued at_ call owns done =>
      rw [(Desk.waiting_submit? done).2]
      exact List.mem_append_left _ hp
  | resumed at_ call done =>
      rw [(Desk.answered_resume? done).2]
      exact List.mem_filter.mpr ⟨hp, bne_iff_ne.mpr (apart _ _ _ at_)⟩
  | expired at_ call done =>
      rw [(Desk.answered_expire? done).2]
      exact List.mem_filter.mpr ⟨hp, bne_iff_ne.mpr (apart _ _ _ at_)⟩
  | stopped at_ quiet => exact deserted _ _ _ at_
  | dropped now at_ suspends => exact (Desk.abandonAll_eq now d (alone.of_running at_)).2 ▸ hp
  | halted now at_ => exact (Desk.abandonAll_eq now d (alone.of_running at_)).2 ▸ hp
  | deserted now at_ =>
      rw [(Desk.abandonAll_eq now _ (alone.of_waiting at_)).2]
      exact deserted _ _ _ at_

/-- Who waits after its turn has lined up in it, at the end. -/
theorem waiting_of_turned (h : Turned c d c' d') {ticket : Nat} {q : TimedRequest LedgerStore}
    {next : q.Reply → Program (Timed LedgerStore) α} (at_' : c'.stage = .waiting ticket q next) :
    ∃ r reply, q.call? = some ⟨r, reply⟩ ∧ d'.waiting = d.waiting ++ [⟨ticket, r⟩] := by
  cases h with
  | queued at_ call owns done =>
      cases at_'
      exact ⟨_, _, call, (Desk.waiting_submit? done).2⟩
  | noted at_ => cases at_'
  | idle at_ quiet => cases at_'
  | answered at_ call owns done => cases at_'
  | resumed at_ call done => cases at_'
  | expired at_ call done => cases at_'
  | stopped at_ quiet => cases at_'
  | dropped now at_ suspends => cases at_'
  | halted now at_ => cases at_'
  | deserted now at_ => cases at_'

end Client

namespace Traffic

variable {w : Traffic}

structure InLine (w : Traffic) : Prop where
  lined : ∀ x ∈ w.clients, x.2.InLine w.desk
  apart : ∀ (i j : Nat) (x y : AnyClient), i ≠ j → w.clients[i]? = some x → w.clients[j]? = some y →
    ∀ n, x.2.ticket? = some n → y.2.ticket? ≠ some n

theorem inLine_empty : InLine {} where
  lined _ h := by cases h
  apart _ _ _ _ _ h := by cases h

theorem inLine_spawn (h : w.InLine) {α : Type} (p : Program (Timed LedgerStore) α) :
    (w.step (.spawn p)).InLine where
  lined x hx := by
    cases List.mem_append.mp hx with
    | inl old => exact h.lined x old
    | inr new =>
        cases List.mem_singleton.mp new
        exact fun _ _ _ at_ => by cases at_
  apart i j x y ne hx hy n hn hn' := by
    cases getElem?_concat hx with
    | inr new =>
        cases new
        cases hn
    | inl old =>
        cases getElem?_concat hy with
        | inr new =>
            cases new
            cases hn'
        | inl old' => exact h.apart i j x y ne old old' n hn hn'

theorem inLine_turn (coherent : w.Coherent) (h : w.InLine) {i : Nat} {α : Type} {c c' : Client α}
    {d' : Desk} (hc : w.clients[i]? = some ⟨α, c⟩) (turned : Client.Turned c w.desk c' d') :
    InLine { desk := d', clients := w.clients.set i ⟨α, c'⟩ } where
  lined x hx ticket q next at_ := by
    cases mem_set_cases hx with
    | inl me =>
        cases me
        obtain ⟨r, reply, call, waiting⟩ := Client.waiting_of_turned turned at_
        refine ⟨r, reply, call, ?_⟩
        rw [waiting]
        exact List.mem_append_right _ (List.mem_singleton_self _)
    | inr other =>
        obtain ⟨j, ne, hj⟩ := other
        obtain ⟨r, reply, call, there⟩ := h.lined x (List.mem_of_getElem? hj) ticket q next at_
        have waits : x.2.ticket? = some ticket := by simp only [Client.ticket?, at_]
        refine ⟨r, reply, call, ?_⟩
        exact Client.mem_waiting_turned turned (usesAlone_of_coherent coherent hc) there
          (h.apart j i x ⟨α, c⟩ ne hj hc ticket waits)
  apart j k x y ne hx hy := by
    refine apart_set (R := fun x y : AnyClient => ∀ n, x.2.ticket? = some n → y.2.ticket? ≠ some n)
      ?_ h.apart ?_ ne hx hy
    · exact fun x y apart n hn hn' => apart n hn' hn
    · intro k y other hy n hn hn'
      obtain ⟨q, next, at_⟩ := Client.ticket?_eq_some.mp hn
      -- The ticket is new at the store, and those of others are there already.
      obtain ⟨r, _, _, waiting⟩ := Client.waiting_of_turned turned at_
      obtain ⟨p, hp, same⟩ := Client.exists_pending (h.lined y (List.mem_of_getElem? hy)) hn'
      have distinct := Desk.tickets_nodup (Client.orderly_turned turned coherent.order)
      rw [waiting, List.map_append] at distinct
      refine (List.nodup_append.mp distinct).2.2 p.ticket (List.mem_map_of_mem hp) n ?_ same
      exact List.mem_singleton_self n

theorem inLine_step (coherent : w.Coherent) (h : w.InLine) (choice : Choice) :
    (w.step choice).InLine := by
  cases choice with
  | spawn p => exact inLine_spawn h p
  | turn i t =>
      simp only [step]
      split
      · exact h
      · rename_i α c there
        split
        · exact h
        · rename_i c' d' turned
          exact inLine_turn coherent h there (Client.turned_of_turn turned)

theorem inLine_runFrom (coherent : w.Coherent) (h : w.InLine) (choices : List Choice) :
    (w.runFrom choices).InLine := by
  induction choices generalizing w with
  | nil => exact h
  | cons choice choices ih =>
      exact ih (coherent_step coherent choice) (inLine_step coherent h choice)

/-- Every client that waits is waited for at the store. -/
theorem inLine_run (choices : List Choice) : (run choices).InLine :=
  inLine_runFrom coherent_empty inLine_empty choices

end Traffic
end DoubleEntry
