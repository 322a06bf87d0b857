import DoubleEntry.Proofs.Client.Steps
import DoubleEntry.Proofs.Store.Guards

/-!
Programs that lock rows in ascending order. What a program may have locked is read off its requests:
a row that it asked for, in whatever way that was answered, until the session ends. A program climbs
if each row that it asks for is above all of these. So a client that runs it waits for a row above
all that its sessions have locked, and in the end has locked none.
-/

namespace DoubleEntry

namespace StoreRequest

/-- The rows that sessions may have locked after a request, with their sessions. -/
def grip (rows : List (SessionId × Int)) : StoreRequest → List (SessionId × Int)
  | .perform s (.addBalance a _) => rows ++ [(s, a)]
  | .abandon s => rows.filter (·.1 != s)
  | .begin | .query _ | .perform _ _ => rows

/-- A request in a session that was begun, and for a row above all that may be locked. -/
structure Climbs (history : List Deed) (rows : List (SessionId × Int)) (r : StoreRequest) :
    Prop where
  begun : ∀ s, r.session? = some s → .began s ∈ history
  above : ∀ a, r.row? = some a → ∀ p ∈ rows, p.2 < a

variable {rows : List (SessionId × Int)} {r : StoreRequest} {t : SessionId} {a : Int}

theorem subset_grip (goesOn : ∀ s, r ≠ .abandon s) : rows ⊆ r.grip rows := by
  cases r with
  | abandon s => exact absurd rfl (goesOn s)
  | begin => exact List.Subset.refl _
  | query q => exact List.Subset.refl _
  | perform s op =>
      cases op with
      | addBalance b delta => exact List.subset_append_left _ _
      | _ => exact List.Subset.refl _

theorem mem_of_grip (other : r.session? ≠ some t) (h : (t, a) ∈ r.grip rows) : (t, a) ∈ rows := by
  cases r with
  | begin => exact h
  | query q => exact h
  | abandon s => exact (List.mem_filter.mp h).1
  | perform s op =>
      cases op with
      | addBalance b delta =>
          cases List.mem_append.mp h with
          | inl old => exact old
          | inr new =>
              cases List.mem_singleton.mp new
              exact absurd rfl other
      | _ => exact h

end StoreRequest

namespace TimedRequest

/-- The same after the reply to a timed request. One that is stopped has asked for nothing. -/
def grip (rows : List (SessionId × Int)) :
    (q : TimedRequest LedgerStore) → q.Reply → List (SessionId × Int)
  | .free (.call r), _ => r.grip rows
  | .within _ (.call r), .ok _ => r.grip rows
  | _, _ => rows

variable {rows : List (SessionId × Int)} {q : TimedRequest LedgerStore}

theorem grip_call? {r : StoreRequest} {reply : r.Reply → q.Reply}
    (h : q.call? = some ⟨r, reply⟩) (answer : r.Reply) :
    q.grip rows (reply answer) = r.grip rows := by
  cases calls_of_call? h with
  | free r => rfl
  | within w r => rfl

/-- Without a deed no session has ended. -/
theorem subset_grip {reply : q.Reply} (quiet : q.deeds reply = []) : rows ⊆ q.grip rows reply := by
  have goesOn : ∀ (r : StoreRequest) (answer : r.Reply), (Deed.of? r answer).toList = [] →
      rows ⊆ r.grip rows := by
    intro r answer none
    refine StoreRequest.subset_grip fun s same => ?_
    subst same
    cases none
  cases q with
  | now => exact List.Subset.refl _
  | openWindow _ _ => exact List.Subset.refl _
  | free p =>
      cases p with
      | call r => exact goesOn r reply quiet
      | pause ms => exact List.Subset.refl _
  | within w p =>
      cases reply with
      | error stop => cases p <;> exact List.Subset.refl _
      | ok answer =>
          cases p with
          | call r => exact goesOn r answer quiet
          | pause ms => exact List.Subset.refl _

end TimedRequest

namespace Program

variable {α β : Type}

/-- Every request of the program climbs, for all replies, and something holds at its end. -/
def Climbs (post : List Deed → List (SessionId × Int) → α → Prop) (history : List Deed)
    (rows : List (SessionId × Int)) : Program (Timed LedgerStore) α → Prop
  | done a => post history rows a
  | halt _ => True
  | note _ next => Climbs post history rows next
  | ask q next =>
      (∀ r reply, q.call? = some ⟨r, reply⟩ → r.Climbs history rows) ∧
        ∀ reply, q.Fits reply →
          Climbs post (history ++ q.deeds reply) (q.grip rows reply) (next reply)

variable {history : List Deed} {rows : List (SessionId × Int)}
  {post : List Deed → List (SessionId × Int) → α → Prop}

theorem climbs_bind {p : Program (Timed LedgerStore) β} {f : β → Program (Timed LedgerStore) α}
    (h : p.Climbs (fun history rows b => (f b).Climbs post history rows) history rows) :
    (p.bind f).Climbs post history rows := by
  induction p generalizing history rows with
  | done b => exact h
  | halt o => trivial
  | note n next ih => exact ih h
  | ask q next ih => exact ⟨h.1, fun reply fits => ih reply (h.2 reply fits)⟩

theorem climbs_mono {post' : List Deed → List (SessionId × Int) → α → Prop}
    {p : Program (Timed LedgerStore) α} (weaker : ∀ h g a, post h g a → post' h g a)
    (h : p.Climbs post history rows) : p.Climbs post' history rows := by
  induction p generalizing history rows with
  | done a => exact weaker _ _ a h
  | halt o => trivial
  | note n next ih => exact ih h
  | ask q next ih => exact ⟨h.1, fun reply fits => ih reply (h.2 reply fits)⟩

/-- A program that asks in ascending order for the rows it locks, and gives all of them back. -/
def Climbing (p : Program (Timed LedgerStore) α) : Prop :=
  p.Climbs (fun _ rows _ => rows = []) [] []

end Program

namespace MemoryStore

variable {st : MemoryStore} {t : SessionId} {rows : List (SessionId × Int)}

/-- All that a session has locked is among the rows. -/
def GripsIn (st : MemoryStore) (t : SessionId) (rows : List (SessionId × Int)) : Prop :=
  ∀ g ∈ st.guardsOf t, (t, g.1) ∈ rows

theorem gripsIn_mono {more : List (SessionId × Int)} (sub : rows ⊆ more) (h : st.GripsIn t rows) :
    st.GripsIn t more :=
  fun g hg => sub (h g hg)

/-- What is asked for in one session is locked in no other. -/
theorem gripsIn_of_grip {r : StoreRequest} (other : r.session? ≠ some t)
    (h : st.GripsIn t (r.grip rows)) : st.GripsIn t rows :=
  fun g hg => StoreRequest.mem_of_grip other (h g hg)

theorem gripsIn_of_eq {st' : MemoryStore} (same : st'.guardsOf t = st.guardsOf t)
    (h : st.GripsIn t rows) : st'.GripsIn t rows :=
  fun g hg => h g (same ▸ hg)

theorem gripsIn_answer (h : st.GripsIn t rows) (now : Timestamp) (r : StoreRequest) :
    (st.answer now r).2.GripsIn t (r.grip rows) := by
  intro g hg
  by_cases ends : ∃ s, r = .abandon s
  · obtain ⟨s, rfl⟩ := ends
    change g ∈ (st.abandon s).guardsOf t at hg
    rw [guardsOf_abandon] at hg
    split at hg
    · cases hg
    · rename_i other
      exact List.mem_filter.mpr ⟨h g hg, bne_iff_ne.mpr other⟩
  · refine StoreRequest.subset_grip (fun s same => ends ⟨s, same⟩) ?_
    exact h g (guardsOf_answer_subset st now r t hg)

theorem gripsIn_answerLocked (h : st.GripsIn t rows) (now : Timestamp) {r : StoreRequest} {a : Int}
    (row : r.row? = some a) (n : Nat) : (st.answerLocked now r a n).2.GripsIn t (r.grip rows) := by
  cases r with
  | begin => cases row
  | abandon s => cases row
  | query q => exact gripsIn_answer h now (.query q)
  | perform s op =>
      cases op with
      | addBalance b delta =>
          cases row
          intro g hg
          have before : g ∈ (st.addGuard s a n).guardsOf t :=
            guardsOf_answer_subset (st.addGuard s a n) now (.perform s (.addBalance a delta)) t hg
          cases hs : st.session? s with
          | none =>
              rw [addGuard, hs] at before
              exact List.mem_append_left _ (h g before)
          | some x =>
              rw [guardsOf_addGuard hs] at before
              split at before
              · rename_i same
                cases List.mem_append.mp before with
                | inl old =>
                    rw [← guardsOf_of_session? hs, ← same] at old
                    exact List.mem_append_left _ (h g old)
                | inr new =>
                    cases List.mem_singleton.mp new
                    exact List.mem_append_right _ (List.mem_singleton.mpr (by rw [same]))
              · exact List.mem_append_left _ (h g before)
      | _ => cases row

end MemoryStore

namespace Desk

open MemoryStore

variable {d d' : Desk} {now : Timestamp} {r : StoreRequest} {ticket : Nat} {t : SessionId}
  {rows : List (SessionId × Int)}

theorem gripsIn_submit? {answer : r.Reply} (h : d.store.GripsIn t rows)
    (hr : d.submit? now r = some (.answered answer, d')) : d'.store.GripsIn t (r.grip rows) := by
  simp only [submit?] at hr
  split at hr
  · cases hr
  · split at hr
    · rename_i reply store answered
      cases hr
      simp only [MemoryStore.submit] at answered
      split at answered
      · cases answered
        exact gripsIn_answer h now r
      · rename_i a wanted
        split at answered
        · cases answered
          have asked : GripsIn { d.store with locks := (d.store.locks.request a).2 } t rows := h
          exact gripsIn_answerLocked asked now (wantedRow?_eq_some wanted).1 _
        · cases answered
    · cases hr

theorem guardsOf_submit? (hr : d.submit? now r = some (.waiting ticket, d')) (t : SessionId) :
    d'.store.guardsOf t = d.store.guardsOf t := by
  simp only [submit?] at hr
  split at hr
  · cases hr
  · split at hr
    · cases hr
    · rename_i waits
      cases hr
      simp only [MemoryStore.submit] at waits
      split at waits
      · cases waits
      · split at waits
        · cases waits
        · cases waits
          rfl

theorem gripsIn_resume? (order : d.Orderly) {answer : r.Reply} (h : d.store.GripsIn t rows)
    (hr : d.resume? now r ticket = some (answer, d')) : d'.store.GripsIn t (r.grip rows) := by
  simp only [resume?] at hr
  split at hr
  · rename_i ready
    cases hr
    obtain ⟨a, row⟩ := order.rows _ ready.1
    have account := awaitedRow_eq (orderly_waiting order ready.1)
    simp only [row, Option.getD_some] at account
    simp only [record, dismiss, resume, account]
    have claimed : GripsIn { d.store with locks := d.store.locks.claim ticket } t rows := h
    exact gripsIn_answerLocked claimed now row ticket
  · cases hr

theorem guardsOf_expire? {answer : r.Reply} (hr : d.expire? r ticket = some (answer, d'))
    (t : SessionId) : d'.store.guardsOf t = d.store.guardsOf t := by
  simp only [expire?] at hr
  split at hr
  · cases hr
    rfl
  · cases hr

theorem guardsOf_desert (d : Desk) (ticket : Nat) (t : SessionId) :
    (d.desert ticket).store.guardsOf t = d.store.guardsOf t := by
  simp only [desert]
  split <;> rfl

theorem guardsOf_abandonAll (now : Timestamp) {ss : List SessionId} (d : Desk)
    (free : ∀ p ∈ d.waiting, ∀ s ∈ ss, p.request.session? ≠ some s) :
    (d.abandonAll now ss).store.guardsOf t = if t ∈ ss then [] else d.store.guardsOf t := by
  induction ss generalizing d with
  | nil => rfl
  | cons s ss ih =>
      have first := step_abandon now d fun p hp => free p hp s List.mem_cons_self
      have rest := ih (d.step (.submit now (.abandon s))) (by
        rw [first]
        exact fun p hp u hu => free p hp u (List.mem_cons_of_mem s hu))
      have one : (d.step (.submit now (.abandon s))).store.guardsOf t =
          if t = s then [] else d.store.guardsOf t := by
        rw [first]
        exact guardsOf_abandon d.store s t
      rw [one] at rest
      refine rest.trans ?_
      by_cases mine : t = s <;> by_cases later : t ∈ ss <;> simp [mine, later]

end Desk

namespace Client

variable {α : Type} {c c' : Client α} {d d' : Desk} {rows : List (SessionId × Int)}
  {t : SessionId}

/-- The client climbs from here on, with these rows that it may have locked. -/
def Climbs (rows : List (SessionId × Int)) (c : Client α) : Prop :=
  match c.stage with
  | .running p => p.Climbs (fun _ rows _ => rows = []) c.deeds rows
  | .waiting _ q next => (Program.ask q next).Climbs (fun _ rows _ => rows = []) c.deeds rows
  | .dropped => rows = []

/-- What a turn makes of the rows that a client may have locked; those of others stay what they
were. -/
structure Grips (c : Client α) (d : Desk) (rows : List (SessionId × Int)) (c' : Client α)
    (d' : Desk) (rows' : List (SessionId × Int)) : Prop where
  climbs : c'.Climbs rows'
  own : ∀ t ∈ c'.begun, d.store.GripsIn t rows → d'.store.GripsIn t rows'
  others : ∀ t, t ∉ c.begun → ∀ more, d.store.GripsIn t more → d'.store.GripsIn t more

theorem grips_quiet {rows' : List (SessionId × Int)} (climbs : c'.Climbs rows')
    (sub : rows ⊆ rows') (same : ∀ t, d'.store.guardsOf t = d.store.guardsOf t) :
    Grips c d rows c' d' rows' where
  climbs := climbs
  own t _ h := MemoryStore.gripsIn_of_eq (same t) (MemoryStore.gripsIn_mono sub h)
  others t _ _ h := MemoryStore.gripsIn_of_eq (same t) h

theorem grips_asked {r : StoreRequest} (climbs : c'.Climbs (r.grip rows)) (owns : c.owns r = true)
    (does : ∀ t more, d.store.GripsIn t more → d'.store.GripsIn t (r.grip more)) :
    Grips c d rows c' d' (r.grip rows) where
  climbs := climbs
  own t _ h := does t rows h
  others t other more h :=
    MemoryStore.gripsIn_of_grip (fun same => other (mem_begun_of_owns owns same)) (does t more h)

theorem begun_leave (c : Client α) : c.leave.begun = c.begun := by
  have none : (c.begun.map .abandoned).filterMap Deed.begun? = [] := by
    rw [List.filterMap_map]
    exact List.filterMap_eq_nil_iff.mpr fun _ _ => rfl
  rw [(adds_leave c).begun_append, none, List.append_nil]

theorem grips_leave (d₀ : Desk) (now : Timestamp)
    (free : ∀ p ∈ d₀.waiting, ∀ s ∈ c.begun, p.request.session? ≠ some s)
    (same : ∀ t, d₀.store.guardsOf t = d.store.guardsOf t) :
    Grips c d rows c.leave (d₀.abandonAll now c.begun) [] where
  climbs := rfl
  own t ht _ g hg := by
    rw [begun_leave] at ht
    rw [Desk.guardsOf_abandonAll now d₀ free, if_pos ht] at hg
    cases hg
  others t other more h g hg := by
    rw [Desk.guardsOf_abandonAll now d₀ free, if_neg other, same] at hg
    exact h g hg

/-- A client that climbs goes on climbing in every turn. -/
theorem grips_turned (h : Turned c d c' d') (order : d.Orderly) (alone : c.UsesAlone d)
    (owned : ∀ ticket q next, c.stage = .waiting ticket q next → ∀ r reply,
      q.call? = some ⟨r, reply⟩ → c.owns r = true)
    (climbs : c.Climbs rows) : ∃ rows', Grips c d rows c' d' rows' := by
  cases h with
  | noted at_ =>
      simp only [Climbs, at_] at climbs
      exact ⟨rows, grips_quiet climbs (List.Subset.refl _) fun _ => rfl⟩
  | @idle q next reply at_ quiet =>
      simp only [Climbs, at_] at climbs
      have goesOn := climbs.2 reply quiet.2
      exact ⟨_, grips_quiet goesOn (TimedRequest.subset_grip quiet.1) fun _ => rfl⟩
  | @answered q next now r answer d' reply at_ call owns done =>
      simp only [Climbs, at_] at climbs
      have goesOn := climbs.2 _ (TimedRequest.fits_call? call (Desk.fits_submit? done))
      rw [TimedRequest.grip_call? call] at goesOn
      exact ⟨_, grips_asked goesOn owns fun t more h => Desk.gripsIn_submit? h done⟩
  | queued at_ call owns done =>
      simp only [Climbs, at_] at climbs
      exact ⟨rows, grips_quiet climbs (List.Subset.refl _) (Desk.guardsOf_submit? done)⟩
  | @resumed ticket q next now r answer d' reply at_ call done =>
      simp only [Climbs, at_] at climbs
      have goesOn := climbs.2 _ (TimedRequest.fits_call? call (Desk.fits_resume? done))
      rw [TimedRequest.grip_call? call] at goesOn
      have owns := owned _ _ _ at_ _ _ call
      exact ⟨_, grips_asked goesOn owns fun t more h => Desk.gripsIn_resume? order h done⟩
  | @expired ticket q next r answer d' reply at_ call done =>
      simp only [Climbs, at_] at climbs
      have goesOn := climbs.2 _ (TimedRequest.fits_call? call (Desk.fits_expire? done))
      rw [TimedRequest.grip_call? call] at goesOn
      -- What waits has a row to wait for, and so it ends no session.
      have waits : ∀ s, r ≠ .abandon s := by
        rintro s rfl
        simp only [Desk.expire?] at done
        split at done
        · rename_i late
          obtain ⟨a, row⟩ := order.rows _ late.1
          cases row
        · cases done
      exact ⟨_, grips_quiet goesOn (StoreRequest.subset_grip waits) (Desk.guardsOf_expire? done)⟩
  | @stopped ticket q next reply at_ quiet =>
      simp only [Climbs, at_] at climbs
      have goesOn := climbs.2 reply quiet.2
      exact ⟨_, grips_quiet goesOn (TimedRequest.subset_grip quiet.1)
        (Desk.guardsOf_desert d ticket)⟩
  | dropped now at_ suspends =>
      exact ⟨[], grips_leave d now (alone.of_running at_) fun _ => rfl⟩
  | halted now at_ => exact ⟨[], grips_leave d now (alone.of_running at_) fun _ => rfl⟩
  | deserted now at_ =>
      exact ⟨[], grips_leave _ now (alone.of_waiting at_) (Desk.guardsOf_desert d _)⟩

end Client

namespace Traffic

variable {w : Traffic}

/-- Each client climbs, and with it whatever its sessions have locked. -/
def Climbs (w : Traffic) : Prop :=
  ∀ x ∈ w.clients, ∃ rows, x.2.Climbs rows ∧ ∀ t ∈ x.2.begun, w.desk.store.GripsIn t rows

theorem guardsOf_of_late (order : w.desk.Orderly) {s : SessionId}
    (late : (Books.replay w.desk.deeds).nextSession ≤ s) : w.desk.store.guardsOf s = [] := by
  have next : w.desk.store.nextSession ≤ s := by
    have same : w.desk.store.nextSession = (Books.replay w.desk.deeds).nextSession :=
      congrArg Books.nextSession order.books
    rwa [same]
  simp only [MemoryStore.guardsOf]
  cases hs : w.desk.store.session? s with
  | none => rfl
  | some x =>
      have early := order.store.fresh _ (MemoryStore.mem_of_session? hs)
      exact absurd early (Nat.not_lt.mpr next)

theorem climbs_turn (h : w.Coherent) (climbs : w.Climbs) {i : Nat} {α : Type} {c c' : Client α}
    {d' : Desk} (hc : w.clients[i]? = some ⟨α, c⟩) (turned : Client.Turned c w.desk c' d') :
    Climbs { desk := d', clients := w.clients.set i ⟨α, c'⟩ } := by
  have mem := List.mem_of_getElem? hc
  obtain ⟨rows, before, grips⟩ := climbs ⟨α, c⟩ mem
  obtain ⟨rows', after⟩ := Client.grips_turned turned h.order (usesAlone_of_coherent h hc)
    (fun ticket q next at_ r reply call => h.asked ⟨α, c⟩ mem ticket q next at_ r reply call)
    before
  obtain ⟨ds, adds, all⟩ := adds_of_turned h hc turned
  intro x hx
  cases mem_set_cases hx with
  | inl me =>
      cases me
      refine ⟨rows', after.climbs, fun t ht => after.own t ht ?_⟩
      cases adds.begun_cases ht with
      | inl old => exact grips t old
      | inr single =>
          -- The session begins in this turn, so that before it nobody knew it.
          have lawful := (Client.orderly_turned turned h.order).lawful
          rw [all, single] at lawful
          have late := Nat.le_of_eq (Books.lawful_snoc lawful).2.symm
          intro g hg
          rw [guardsOf_of_late h.order late] at hg
          cases hg
  | inr other =>
      obtain ⟨j, ne, hj⟩ := other
      obtain ⟨rows, climbs, grips⟩ := climbs x (List.mem_of_getElem? hj)
      refine ⟨rows, climbs, fun t ht => after.others t (fun mine => ?_) rows (grips t ht)⟩
      exact h.apart i j ⟨α, c⟩ x (Ne.symm ne) hc hj t mine ht

theorem climbs_step (h : w.Coherent) (climbs : w.Climbs) {choice : Choice}
    (starts : ∀ {α : Type} (p : Program (Timed LedgerStore) α), choice = .spawn p → p.Climbing) :
    (w.step choice).Climbs := by
  cases choice with
  | spawn p =>
      intro x hx
      cases List.mem_append.mp hx with
      | inl old => exact climbs x old
      | inr new =>
          cases List.mem_singleton.mp new
          exact ⟨[], starts p rfl, fun t ht => by cases ht⟩
  | turn i t =>
      cases step_turn w i t with
      | inl same =>
          rw [same]
          exact climbs
      | inr took =>
          obtain ⟨α, c, c', hc, turned, clients⟩ := took
          have after := climbs_turn h climbs hc turned
          rw [← clients] at after
          exact after

/-- While only climbing programs are started, all clients climb. -/
theorem climbs_runFrom (h : w.Coherent) (climbs : w.Climbs) {choices : List Choice}
    (starts : ∀ {α : Type} (p : Program (Timed LedgerStore) α), .spawn p ∈ choices → p.Climbing) :
    (w.runFrom choices).Climbs := by
  induction choices generalizing w with
  | nil => exact climbs
  | cons choice choices ih =>
      refine ih (coherent_step h choice) ?_ fun p hp => starts p (List.mem_cons_of_mem _ hp)
      exact climbs_step h climbs fun p same => starts p (same ▸ List.mem_cons_self)

/-- Clients that have come to their ends climb, if no session is open that could lock a row. -/
theorem climbs_of_over (order : w.desk.Orderly)
    (finished : ∀ x ∈ w.clients, x.2.stage.isOver = true)
    (closed : ∀ s, w.desk.store.openSession? s = none) : w.Climbs := by
  intro x hx
  refine ⟨[], ?_, fun t _ g hg => ?_⟩
  · have isOver := finished x hx
    cases at_ : x.2.stage with
    | dropped => simp only [Client.Climbs, at_]
    | waiting ticket q next =>
        rw [at_] at isOver
        cases isOver
    | running p =>
        simp only [Client.Climbs, at_]
        cases p with
        | done a => rfl
        | halt o => trivial
        | _ =>
            rw [at_] at isOver
            cases isOver
  · cases hs : w.desk.store.session? t with
    | none =>
        rw [MemoryStore.guardsOf, hs] at hg
        cases hg
    | some y =>
        have ended : y.finished = true := by
          cases still : y.finished with
          | true => rfl
          | false => cases (closed t).symm.trans (MemoryStore.openSession?_eq_some.mpr ⟨hs, still⟩)
        have cleared : y = { finished := true } :=
          (order.store.tidy _ (MemoryStore.mem_of_session? hs)).cleared ended
        rw [MemoryStore.guardsOf_of_session? hs, cleared] at hg
        cases hg

theorem climbs_run {choices : List Choice}
    (starts : ∀ {α : Type} (p : Program (Timed LedgerStore) α), .spawn p ∈ choices → p.Climbing) :
    (run choices).Climbs :=
  climbs_runFrom coherent_empty (fun x hx => by cases hx) starts

end Traffic
end DoubleEntry
