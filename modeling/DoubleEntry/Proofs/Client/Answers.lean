import DoubleEntry.Proofs.Client.Trace

/-!
What a store in memory never refuses, whatever its other clients do: to begin a session, and to roll
back one that is still worked in. A session is worked in from its begin to its commit, its rollback
or its end, and only its own client can bring these about.
-/

namespace DoubleEntry

/-- After the deed nothing more is done in the session. -/
def Deed.Ends (s : SessionId) : Deed → Prop
  | committed t | rolledBack t | abandoned t => t = s
  | _ => False

theorem Deed.session?_of_ends {s : SessionId} {d : Deed} (h : d.Ends s) : d.session? = some s := by
  cases d <;> first | exact congrArg some h | exact h.elim

/-- The session was begun, and has not ended. -/
def Working (s : SessionId) (ds : List Deed) : Prop :=
  .began s ∈ ds ∧ ∀ d ∈ ds, ¬ d.Ends s

namespace Books

variable {b : Books} {ds : List Deed} {d : Deed} {s : SessionId}

theorem isSome_drafts_after (open_ : (b.drafts s).isSome = true) (goesOn : ¬ d.Ends s) :
    ((b.after d).drafts s).isSome = true := by
  have set : ∀ t draft, (t = s → draft.isSome = true) →
      ((b.setDraft t draft).drafts s).isSome = true := by
    intro t draft kept
    simp only [setDraft]
    split
    · rename_i same
      exact kept same.symm
    · exact open_
  have map : ∀ t f, ((b.mapDraft t f).drafts s).isSome = true := by
    refine fun t f => set t _ fun same => ?_
    rw [same, Option.isSome_map]
    exact open_
  cases d with
  | began t => exact set t _ fun _ => rfl
  | drewTransaction t row => exact map t _
  | drewEntry t row => exact map t _
  | changedBalance t delta row => exact map t _
  | committed t =>
      simp only [after]
      split
      · exact set t none fun same => absurd same goesOn
      · exact open_
  | rolledBack t => exact set t none fun same => absurd same goesOn
  | abandoned t => exact set t none fun same => absurd same goesOn
  | opened account => exact open_
  | deleted a => exact open_

/-- A session that is worked in is open. -/
theorem isSome_drafts_of_working (working : Working s ds) :
    ((replay ds).drafts s).isSome = true := by
  induction ds using List.reverseRecOn with
  | nil => cases working.1
  | append_singleton ds d ih =>
      have ⟨begun, goesOn⟩ := working
      rw [replay_snoc]
      cases List.mem_append.mp begun with
      | inl old =>
          have still : Working s ds := ⟨old, fun e he => goesOn e (List.mem_append_left _ he)⟩
          exact isSome_drafts_after (ih still) (goesOn d (by simp))
      | inr new =>
          cases List.mem_singleton.mp new
          simp [after, setDraft]

end Books

/-- The store gives a session that is new, and undoes what is done in one that is worked in. -/
structure Moment.Granted (history : List Deed) (m : Moment) : Prop where
  begins {answer : StoreRequest.begin.Reply} (h : m.answer? = some ⟨.begin, answer⟩) :
    ∃ s, answer = .ok s ∧ ∀ d ∈ history, d.session? ≠ some s
  undoes {s : SessionId} {answer : (StoreRequest.perform s .rollback).Reply}
    (h : m.answer? = some ⟨.perform s .rollback, answer⟩) (working : Working s history) :
    answer = .ok ()

/-- The same of each of the moments that follow some deeds. -/
def Granted (history : List Deed) : List Moment → Prop
  | [] => True
  | m :: ms => m.Granted history ∧ Granted (history ++ m.deeds) ms

theorem granted_append {history : List Deed} {ms ns : List Moment} :
    Granted history (ms ++ ns) ↔
      Granted history ms ∧ Granted (history ++ ms.flatMap Moment.deeds) ns := by
  induction ms generalizing history with
  | nil => simp [Granted]
  | cons m ms ih =>
      simp only [List.cons_append, Granted, ih, List.flatMap_cons, and_assoc, List.append_assoc]

namespace Traffic

variable {w : Traffic} {i : Nat}

/-- What was done in a session, its client has done. -/
theorem mem_deeds_iff (h : w.Coherent) {α : Type} {c : Client α} (hc : ⟨α, c⟩ ∈ w.clients)
    {s : SessionId} (begun : s ∈ c.begun) {d : Deed} (mine : d.isOf s = true) :
    d ∈ w.desk.deeds ↔ d ∈ c.deeds := by
  have both := congrArg (d ∈ ·) (h.same ⟨α, c⟩ hc s begun)
  simpa [mine] using both

theorem working_of_client (h : w.Coherent) {α : Type} {c : Client α} (hc : ⟨α, c⟩ ∈ w.clients)
    {s : SessionId} (working : Working s c.deeds) : Working s w.desk.deeds := by
  have begun : s ∈ c.begun := List.mem_filterMap.mpr ⟨_, working.1, rfl⟩
  refine ⟨(mem_deeds_iff h hc begun (beq_self_eq_true _)).mpr working.1, fun d hd ends => ?_⟩
  have mine : d.isOf s = true := beq_iff_eq.mpr (Deed.session?_of_ends ends)
  exact working.2 d ((mem_deeds_iff h hc begun mine).mp hd) ends

theorem granted_moment {α : Type} {c : Client α} (h : w.Coherent)
    (hc : w.clients[i]? = some ⟨α, c⟩) {choice : Choice} {m : Moment}
    (at_ : w.moment? i choice = some m) : m.Granted c.deeds where
  begins heard := by
    obtain ⟨now, answer⟩ := (replies_of_moment? at_ heard).2.answer h.order rfl
    refine ⟨_, answer, fun d hd known => ?_⟩
    have mem := List.mem_of_getElem? hc
    have early := h.early _ mem _ (h.owned _ mem d hd _ known)
    rw [← h.order.books] at early
    exact Nat.lt_irrefl _ early
  undoes {s answer} heard working := by
    obtain ⟨now, answer⟩ := (replies_of_moment? at_ heard).2.answer h.order rfl
    have known := working_of_client h (List.mem_of_getElem? hc) working
    have draft := Books.isSome_drafts_of_working known
    rw [← h.order.books] at draft
    obtain ⟨y, hy⟩ := Option.isSome_iff_exists.mp draft
    obtain ⟨x, open_, _⟩ := MemoryStore.openSession?_of_drafts hy
    rw [answer]
    simp only [MemoryStore.answer, MemoryStore.perform, open_]

theorem granted_run (choices : List Choice) (i : Nat) : Granted [] (moments {} i choices) := by
  induction choices using List.reverseRecOn with
  | nil => trivial
  | append_singleton choices choice ih =>
      rw [moments_append, granted_append]
      refine ⟨ih, ?_⟩
      change Granted _ (((run choices).moment? i choice).toList ++ [])
      rw [List.append_nil, List.nil_append]
      cases at_ : (run choices).moment? i choice with
      | none => trivial
      | some m =>
          obtain ⟨α, c, there, stands⟩ := stands_of_moment? at_
          have deeds := Client.deeds_of_led (led_run there) stands
          exact ⟨deeds ▸ granted_moment (coherent_run choices) there at_, trivial⟩

end Traffic
end DoubleEntry
