import DoubleEntry.Proofs.Store.Desk
import DoubleEntry.Proofs.Store.Slots

/-!
What every critical section of a store keeps is kept by every move, and so holds of every store in
use. The locks change by the sections of the lock table alone, whatever is answered.
-/

namespace DoubleEntry

namespace MemoryStore

/-- A property of stores that every critical section keeps. -/
structure Kept (P : MemoryStore → Prop) : Prop where
  answer : ∀ {st : MemoryStore}, P st → ∀ now r, P (st.answer now r).2
  addGuard : ∀ {st : MemoryStore}, P st → ∀ s a n, P (st.addGuard s a n)
  request : ∀ {st : MemoryStore}, P st → ∀ a, P { st with locks := (st.locks.request a).2 }
  claim : ∀ {st : MemoryStore}, P st → ∀ n, st.isGranted n = true →
    P { st with locks := st.locks.claim n }
  discard : ∀ {st : MemoryStore}, P st → ∀ n, P { st with locks := st.locks.discard n }
  prune : ∀ {st : MemoryStore}, P st → ∀ a, P { st with locks := st.locks.prune a }

variable {P : MemoryStore → Prop} {st : MemoryStore}

namespace Kept

theorem release (k : Kept P) (h : P st) (a : Int) (n : Nat) :
    P { st with locks := st.locks.release a n } :=
  k.prune (k.discard h n) a

theorem answerLocked (k : Kept P) (h : P st) (now : Timestamp) (r : StoreRequest) (a : Int)
    (n : Nat) : P (st.answerLocked now r a n).2 := by
  cases r with
  | perform s op => exact k.answer (k.addGuard h s a n) now (.perform s op)
  | begin => exact k.release (k.answer h now .begin) a n
  | abandon s => exact k.release (k.answer h now (.abandon s)) a n
  | query q => exact k.release (k.answer h now (.query q)) a n

theorem submit (k : Kept P) (h : P st) (now : Timestamp) (r : StoreRequest) :
    P (st.submit now r).2 := by
  simp only [MemoryStore.submit]
  split
  · exact k.answer h now r
  · rename_i a _
    have requested := k.request h a
    split
    · exact k.answerLocked requested now r a _
    · exact requested

theorem resume (k : Kept P) (h : P st) (now : Timestamp) (r : StoreRequest) {n : Nat}
    (granted : st.isGranted n = true) : P (st.resume now r n).2 :=
  k.answerLocked (k.claim h n granted) now r _ n

theorem expire (k : Kept P) (h : P st) (r : StoreRequest) (n : Nat) : P (st.expire r n).2 :=
  k.release h _ n

section Desk

variable {d : Desk} {r : StoreRequest}

theorem submit? (k : Kept P) (h : P d.store) {now : Timestamp}
    {result : Submission Nat r.Reply × Desk} (hr : d.submit? now r = some result) :
    P result.2.store := by
  simp only [Desk.submit?] at hr
  split at hr
  · cases hr
  · have after := k.submit h now r
    split at hr <;> rename_i answered <;> rw [answered] at after <;> cases hr <;> exact after

theorem resume? (k : Kept P) (h : P d.store) {now : Timestamp} {n : Nat}
    {result : r.Reply × Desk} (hr : d.resume? now r n = some result) : P result.2.store := by
  simp only [Desk.resume?] at hr
  split at hr
  · rename_i ready
    cases hr
    exact k.resume h now r ready.2
  · cases hr

theorem expire? (k : Kept P) (h : P d.store) {n : Nat} {result : r.Reply × Desk}
    (hr : d.expire? r n = some result) : P result.2.store := by
  simp only [Desk.expire?] at hr
  split at hr
  · cases hr
    exact k.expire h r n
  · cases hr

theorem desert (k : Kept P) (h : P d.store) (n : Nat) : P (d.desert n).store := by
  simp only [Desk.desert]
  split
  · exact k.discard h n
  · exact h

theorem getD {α : Type} (h : P d.store) {result : Option (α × Desk)}
    (hr : ∀ r, result = some r → P r.2.store) : P ((result.map (·.2)).getD d).store := by
  cases result with
  | none => exact h
  | some r => exact hr r rfl

theorem step (k : Kept P) (h : P d.store) (move : Move) : P (d.step move).store := by
  cases move with
  | submit now r => exact getD h fun _ hr => k.submit? h hr
  | resume now n =>
      simp only [Desk.step]
      split
      · exact getD h fun _ hr => k.resume? h hr
      · exact h
  | expire n =>
      simp only [Desk.step]
      split
      · exact getD h fun _ hr => k.expire? h hr
      · exact h
  | desert n => exact k.desert h n

theorem foldl (k : Kept P) (h : P d.store) (moves : List Move) :
    P (moves.foldl Desk.step d).store := by
  induction moves generalizing d with
  | nil => exact h
  | cons move moves ih => exact ih (k.step h move)

/-- What holds of an empty store and is kept holds of every store in use. -/
theorem run (k : Kept P) (empty : P {}) (moves : List Move) : P (Desk.run moves).store :=
  k.foldl empty moves

end Desk

end Kept

/-- An answer gives locks back that sessions have kept, and does nothing else to the locks. -/
theorem locks_answer (st : MemoryStore) (now : Timestamp) (r : StoreRequest) :
    ∃ gs, gs ⊆ st.guards ∧ (st.answer now r).2.locks = releaseAll gs st.locks := by
  have own : ∀ {s x}, st.session? s = some x → x.guards ⊆ st.guards := by
    intro s x hs g hg
    exact List.mem_flatMap.mpr ⟨(s, x), mem_of_session? hs, hg⟩
  have none : ∃ gs, gs ⊆ st.guards ∧ st.locks = releaseAll gs st.locks :=
    ⟨[], List.nil_subset _, rfl⟩
  cases r with
  | begin => exact none
  | abandon s =>
      simp only [answer, abandon]
      split
      · rename_i x hs
        exact ⟨x.guards, own hs, rfl⟩
      · exact none
  | perform s op =>
      simp only [answer, perform]
      split
      · exact none
      · rename_i x hx
        have kept := own (openSession?_eq_some.mp hx).1
        cases op <;> dsimp only
        case insertTransaction new =>
          simp only [insertTransaction]
          split <;> exact none
        case insertEntry a amount =>
          simp only [insertEntry]
          split <;> exact none
        case addBalance a delta =>
          simp only [addBalance]
          split
          · exact ⟨_, List.Subset.trans (List.filter_subset_self x.guards) kept, rfl⟩
          · split <;> exact none
        case commit =>
          simp only [commit]
          split
          · exact ⟨x.guards, kept, rfl⟩
          · exact none
        case rollback => exact ⟨x.guards, kept, rfl⟩
  | query q =>
      simp only [answer, query]
      cases q <;> dsimp only
      case createAccount new => split <;> exact none
      case deleteAccount a => split <;> exact none
      all_goals exact none

theorem locks_addGuard (st : MemoryStore) (s : SessionId) (a : Int) (n : Nat) :
    (st.addGuard s a n).locks = st.locks := by
  simp only [addGuard]
  split <;> rfl

/-- What the sections of the lock table keep, every store keeps of its locks. -/
theorem kept_locks {Q : LockTable → Prop}
    (request : ∀ {t : LockTable}, Q t → ∀ a, Q (t.request a).2)
    (claim : ∀ {t : LockTable}, Q t → ∀ n, t.standing? n = some .granted → Q (t.claim n))
    (discard : ∀ {t : LockTable}, Q t → ∀ n, Q (t.discard n))
    (prune : ∀ {t : LockTable}, Q t → ∀ a, Q (t.prune a)) : Kept fun st => Q st.locks where
  answer {st} h now r := by
    obtain ⟨gs, _, given⟩ := locks_answer st now r
    rw [given]
    exact List.foldlRecOn gs _ h fun t ht g _ => prune (discard ht g.2) g.1
  addGuard {st} h s a n := by
    rw [locks_addGuard]
    exact h
  request h a := request h a
  claim h n granted := claim h n (by simpa [isGranted] using granted)
  discard h n := discard h n
  prune h a := prune h a

end MemoryStore

open LockTable in
/-- The locks of a store in use are only changed section by section. -/
theorem Desk.reachable_locks (moves : List Move) : (run moves).store.locks.Reachable :=
  (MemoryStore.kept_locks reachable_request (fun h _ => reachable_claim h) reachable_discard
    reachable_prune).run .empty moves

end DoubleEntry
