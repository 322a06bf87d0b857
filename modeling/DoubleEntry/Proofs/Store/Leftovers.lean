import DoubleEntry.Proofs.Store.Serve

/-!
Slots that nobody uses. Between two critical sections a slot is in the table because somebody holds
its lock or waits for it, or is about to prune it, unless the lock had been granted to a client that
was dropped before he took it: nobody prunes for him, and his slot stays until the lock of the
account is given back another time.
-/

namespace DoubleEntry

namespace Desk

open MemoryStore

variable {d : Desk} {S : Int → Prop}

/-- A client gives up after it has been granted the lock of the account, and before it took it. -/
def LosesGrant (d : Desk) (m : Move) (a : Int) : Prop :=
  ∃ n, m = .desert n ∧ d.store.isGranted n = true ∧ d.store.awaitedRow n = a

def Stranded (moves : List Move) (a : Int) : Prop :=
  ∃ before m after, moves = before ++ m :: after ∧ (run before).LosesGrant m a

theorem used_step (h : d.Orderly) (served : d.store.locks.Served) (used : d.store.locks.Used S)
    (m : Move) : (d.step m).store.locks.Used fun a => S a ∨ d.LosesGrant m a := by
  have same : d.store.locks.Used fun a => S a ∨ d.LosesGrant m a :=
    LockTable.used_mono used fun a exempt => .inl exempt
  -- The row that a pending request waits for, as the store knows it.
  have waiting : ∀ p ∈ d.waiting, ∃ a waits, p.request.row? = some a ∧
      d.store.Orderly [] ((a, p.ticket) :: waits) := by
    intro p hp
    obtain ⟨a, row⟩ := h.rows p hp
    have order := orderly_waiting h hp
    rw [Pending.key, row] at order
    exact ⟨a, _, row, order⟩
  have getD : ∀ {α : Type} {result : Option (α × Desk)},
      (∀ r, result = some r → r.2.store.locks.Used fun a => S a ∨ d.LosesGrant m a) →
      ((result.map (·.2)).getD d).store.locks.Used fun a => S a ∨ d.LosesGrant m a := by
    intro α result hr
    cases result with
    | none => exact same
    | some r => exact hr r rfl
  cases m with
  | submit now r =>
      refine getD fun result hr => ?_
      have after := used_submit h.store same now r
      simp only [submit?] at hr
      split at hr
      · cases hr
      · split at hr <;> rename_i answered <;> rw [answered] at after <;> cases hr <;> exact after
  | resume now n =>
      simp only [step]
      split
      · rename_i p found
        refine getD fun result hr => ?_
        simp only [resume?] at hr
        split at hr
        · rename_i ready
          cases hr
          obtain ⟨a, _, row, order⟩ := waiting _ ready.1
          exact used_resume order same now row (h.still ⟨n, p.request⟩ ready.1) ready.2
        · cases hr
      · exact same
  | expire n =>
      simp only [step]
      split
      · rename_i p found
        refine getD fun result hr => ?_
        simp only [expire?] at hr
        split at hr
        · rename_i late
          cases hr
          obtain ⟨a, _, row, order⟩ := waiting _ late.1
          exact used_expire order same p.request
        · cases hr
      · exact same
  | desert n =>
      simp only [step, desert]
      split
      · rename_i there
        obtain ⟨p, hp, eq⟩ := List.any_eq_true.mp there
        cases eq_of_beq eq
        obtain ⟨a, _, row, order⟩ := waiting p hp
        exact LockTable.used_mono (used_desert order served used) fun b exempt =>
          exempt.imp_right fun granted => ⟨p.ticket, rfl, granted⟩
      · exact same

theorem used_run (moves : List Move) : (run moves).store.locks.Used (Stranded moves) := by
  induction moves using List.reverseRecOn with
  | nil => exact LockTable.used_empty _
  | append_singleton moves m ih =>
      have served := (kept_served.run ⟨LockTable.sound_empty, LockTable.served_empty⟩ moves).2
      rw [run_concat]
      refine LockTable.used_mono (used_step (orderly_run moves) served ih m) fun a exempt => ?_
      rcases exempt with ⟨before, lost, after, rfl, granted⟩ | now
      · exact ⟨before, lost, after ++ [m], by simp, granted⟩
      · exact ⟨moves, m, [], rfl, now⟩

open MemoryStore in
/-- A ticket on a slot is held by a session that is open, or belongs to a request that waits. -/
theorem in_use (moves : List Move) :
    ∀ p ∈ (run moves).store.locks.slots,
      (run moves).store.IsLocked p.1 ∨
        (∃ w ∈ (run moves).waiting, w.request.row? = some p.1) ∨ Stranded moves p.1 := by
  have order := orderly_run moves
  intro p hp
  rcases used_run moves p hp with ⟨k, hk, same⟩ | stranded
  · have all := LockTable.held_append_awaited.mem_iff.mpr (List.mem_map_of_mem hk)
    rcases List.mem_append.mp all with held | awaited
    · have guarded := order.store.held.mem_iff.mp held
      exact .inl ((isLocked_iff order.store).mpr (List.mem_map.mpr ⟨_, guarded, same⟩))
    · obtain ⟨w, hw, key⟩ := List.mem_map.mp (order.store.awaited.mem_iff.mp awaited)
      obtain ⟨a, row⟩ := order.rows w hw
      have account : a = k.account := by
        have first := congrArg Prod.fst key
        rwa [Pending.key, row] at first
      exact .inr (.inl ⟨w, hw, by rw [row, account, same]⟩)
  · exact .inr (.inr stranded)

end Desk

namespace LockTable

theorem size_eq_zero {t : LockTable} (h : ∀ p ∈ t.slots, False) : t.size = 0 :=
  List.length_eq_zero_iff.mpr (List.eq_nil_iff_forall_not_mem.mpr h)

end LockTable

open MemoryStore in
/-- A slot is in the table only while somebody holds its lock, waits for it or is about to prune it,
or if it was left behind by a client that was dropped after it had been granted the lock. The same
holds between the requests of a store in use, where the locks are held by sessions that are open.
So the table is empty when nobody is left, and no such client was dropped. -/
theorem slots_in_use (sections : List Section) (moves : List Move) :
    ((∀ p ∈ (Upkeep.run sections).locks.slots,
        (∃ k ∈ (Upkeep.run sections).locks.tickets, k.account = p.1) ∨
          p.1 ∈ (Upkeep.run sections).due ∨ p.1 ∈ (Upkeep.run sections).stranded) ∧
      ((Upkeep.run sections).locks.tickets = [] → (Upkeep.run sections).due = [] →
        (Upkeep.run sections).stranded = [] → (Upkeep.run sections).locks.size = 0)) ∧
    (∀ p ∈ (Desk.run moves).store.locks.slots,
        (Desk.run moves).store.IsLocked p.1 ∨
          (∃ w ∈ (Desk.run moves).waiting, w.request.row? = some p.1) ∨
          Desk.Stranded moves p.1) ∧
      ((∀ s, (Desk.run moves).store.openSession? s = none) → (Desk.run moves).waiting = [] →
        (∀ a, ¬ Desk.Stranded moves a) → (Desk.run moves).store.locks.size = 0) := by
  constructor
  · have used := (Upkeep.kept_run sections).used
    refine ⟨used, fun tickets due stranded => LockTable.size_eq_zero fun p hp => ?_⟩
    rcases used p hp with ⟨k, hk, _⟩ | left | left
    · rw [tickets] at hk
      cases hk
    · rw [due] at left
      cases left
    · rw [stranded] at left
      cases left
  · have used := Desk.in_use moves
    refine ⟨used, fun closed still none => LockTable.size_eq_zero fun p hp => ?_⟩
    rcases used p hp with ⟨s, x, hx, _⟩ | ⟨w, hw, _⟩ | stranded
    · rw [closed s] at hx
      cases hx
    · rw [still] at hw
      cases hw
    · exact none p.1 stranded

/-- The second of two clients gives up in line, and the first one gives the lock back. -/
def givenUp : List Section :=
  [.attach 1, .acquire 0, .attach 1, .acquire 1, .expire 1, .prune 1, .release 0, .prune 1]

/-- The same where requests are served, up to the point at which the second session gives up. -/
def servedInLine : List Move :=
  let now := Timestamp.ofMillis 0
  [.submit now (.query (.createAccount ⟨"ada", "USD", .whole 100⟩)),
    .submit now .begin, .submit now .begin,
    .submit now (.perform 0 (.addBalance 1 (.whole 5))),
    .submit now (.perform 1 (.addBalance 1 (.whole 7))), .expire 1]

def servedToTheEnd : List Move :=
  let now := Timestamp.ofMillis 0
  servedInLine ++ [.submit now (.perform 0 .commit), .submit now (.abandon 0),
    .submit now (.abandon 1)]

theorem slots_in_use_given_up :
    ((1, 0) ∈ (Upkeep.run (givenUp.take 6)).locks.slots ∧
      ((∃ k ∈ (Upkeep.run (givenUp.take 6)).locks.tickets, k.account = 1) ∨
        1 ∈ (Upkeep.run (givenUp.take 6)).due ∨ 1 ∈ (Upkeep.run (givenUp.take 6)).stranded)) ∧
    ((Upkeep.run givenUp).locks.tickets = [] ∧ (Upkeep.run givenUp).due = [] ∧
      (Upkeep.run givenUp).stranded = [] ∧ (Upkeep.run givenUp).locks.size = 0) ∧
    ((1, 0) ∈ (Desk.run servedInLine).store.locks.slots ∧
      ((Desk.run servedInLine).store.IsLocked 1 ∨
        (∃ w ∈ (Desk.run servedInLine).waiting, w.request.row? = some 1) ∨
        Desk.Stranded servedInLine 1)) ∧
    (∀ s, (Desk.run servedToTheEnd).store.openSession? s = none) ∧
    (Desk.run servedToTheEnd).waiting = [] ∧ (∀ a, ¬ Desk.Stranded servedToTheEnd a) ∧
    (Desk.run servedToTheEnd).store.locks.size = 0 := by
  have closed : ∀ s, (Desk.run servedToTheEnd).store.openSession? s = none := by
    have none : (Desk.run servedToTheEnd).store.sessions = [] := by decide
    intro s
    rw [MemoryStore.openSession?, MemoryStore.session?, none]
    rfl
  have kept : ∀ a, ¬ Desk.Stranded servedToTheEnd a := by
    rintro a ⟨before, m, after, split, n, rfl, _⟩
    have mem : Move.desert n ∈ servedToTheEnd := split ▸ List.mem_append_right _ List.mem_cons_self
    simp [servedToTheEnd, servedInLine] at mem
  obtain ⟨inLine, served⟩ := slots_in_use (givenUp.take 6) servedInLine
  obtain ⟨atEnd, servedAtEnd⟩ := slots_in_use givenUp servedToTheEnd
  exact ⟨⟨by decide, inLine.1 (1, 0) (by decide)⟩,
    ⟨by decide, by decide, by decide, atEnd.2 (by decide) (by decide) (by decide)⟩,
    ⟨by decide, served.1 (1, 0) (by decide)⟩,
    closed, by decide, kept, servedAtEnd.2 closed (by decide) kept⟩

/-- The second of two clients is granted the lock by the first, and dropped before it takes it. -/
def droppedWithGrant : List Section :=
  [.attach 1, .acquire 0, .attach 1, .acquire 1, .release 0, .prune 1, .desert 1]

def servedAndDropped : List Move :=
  let now := Timestamp.ofMillis 0
  [.submit now (.query (.createAccount ⟨"ada", "USD", .whole 100⟩)),
    .submit now .begin, .submit now .begin,
    .submit now (.perform 0 (.addBalance 1 (.whole 5))),
    .submit now (.perform 1 (.addBalance 1 (.whole 7))),
    .submit now (.perform 0 .commit), .desert 1, .submit now (.perform 1 .rollback),
    .submit now (.abandon 0), .submit now (.abandon 1)]

/-- Nobody is left, and a slot is. -/
theorem slot_left_behind :
    ((Upkeep.run droppedWithGrant).locks.tickets = [] ∧ (Upkeep.run droppedWithGrant).due = [] ∧
      (Upkeep.run droppedWithGrant).locks.size = 1) ∧
    (Desk.run servedAndDropped).store.sessions = [] ∧ (Desk.run servedAndDropped).waiting = [] ∧
      (Desk.run servedAndDropped).store.locks.size = 1 := by
  decide

end DoubleEntry
