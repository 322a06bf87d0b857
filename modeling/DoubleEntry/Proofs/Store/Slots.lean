import DoubleEntry.Proofs.Store.Locks

/-!
Slots that come and go. A slot is removed once the table has the only reference to its lock, and is
made anew for whoever asks next, while others look it up, wait on it, give up or hand it over. Here
these critical sections are taken one by one, in any order. Of a lock nothing is assumed but that no
two tickets own it at once, and of a reference only that it is counted while its ticket is there.
-/

namespace DoubleEntry

namespace LockTable

open Ticket

variable {t : LockTable}

/-- The references to the lock of a slot: that of the table, and one for each ticket. -/
def references (t : LockTable) (slot : Nat) : Nat :=
  t.slots.countP (·.2 == slot) + t.tickets.countP (·.slot == slot)

/-- What critical sections lead to, one after another, whoever enters them. -/
inductive Reachable : LockTable → Prop where
  | empty : Reachable {}
  /-- The slot of an account is looked up or made, and gets a ticket. -/
  | attached {t : LockTable} (h : Reachable t) (a : Int) : Reachable (t.attach a)
  /-- Locks are taken, lined up for, granted and given up in any way. -/
  | settled {t : LockTable} {ks : List Ticket} (h : Reachable t)
      (same : ks.map place = t.tickets.map place)
      (exclusive : ks.Pairwise fun k l => ¬ Clash k l) : Reachable { t with tickets := ks }
  /-- A ticket is thrown away, whether it owned its lock, waited for it or did neither. -/
  | dropped {t : LockTable} (h : Reachable t) (n : Nat) :
      Reachable { t with tickets := t.tickets.filter (·.number != n) }
  /-- A slot whose lock is referred to by the table alone is removed. -/
  | pruned {t : LockTable} {a : Int} {slot : Nat} (h : Reachable t)
      (found : t.slot? a = some slot) (sole : t.references slot = 1) :
      Reachable { t with slots := t.slots.filter (·.1 != a) }

theorem mem_slots_of_slot? {a : Int} {slot : Nat} (h : t.slot? a = some slot) :
    (a, slot) ∈ t.slots := by
  obtain ⟨before, after, split, _⟩ := List.lookup_eq_some_iff.mp h
  rw [split]
  exact List.mem_append_right before List.mem_cons_self

theorem slots_attach (t : LockTable) (a : Int) :
    (t.attach a).slots = t.slots ∨
      t.slot? a = none ∧ (t.attach a).slots = t.slots ++ [(a, t.nextSlot)] := by
  simp only [attach]
  cases hs : t.slot? a with
  | some slot => exact .inl rfl
  | none => exact .inr ⟨rfl, rfl⟩

theorem keys_attach (keys : (t.slots.map (·.1)).Nodup) (a : Int) :
    ((t.attach a).slots.map (·.1)).Nodup := by
  rcases slots_attach t a with same | ⟨new, grown⟩
  · rwa [same]
  · rw [grown, List.map_append, List.map_cons, List.map_nil]
    refine List.nodup_append.mpr ⟨keys, List.nodup_singleton _, ?_⟩
    intro b hb c hc
    obtain ⟨p, hp, rfl⟩ := List.mem_map.mp hb
    rw [List.mem_singleton.mp hc]
    exact fun same => bne_iff_ne.mp (List.lookup_eq_none_iff.mp new p hp) same.symm

/-- The table itself refers to the lock of a slot once. -/
theorem countP_slots (h : t.Sound) (keys : (t.slots.map (·.1)).Nodup) {a : Int} {slot : Nat}
    (found : t.slot? a = some slot) : t.slots.countP (·.2 == slot) = 1 := by
  have split := perm_cons_filter_ne (fun p : Int × Nat => p.1) keys (mem_slots_of_slot? found)
  rw [split.countP_eq, List.countP_cons, if_pos (beq_self_eq_true slot)]
  refine congrArg (· + 1) (List.countP_eq_zero.mpr fun p hp same => ?_)
  have ⟨mem, other⟩ := List.mem_filter.mp hp
  have there : t.slot? p.1 = some slot := by
    rw [← eq_of_beq same]
    exact lookup_of_mem keys mem
  exact bne_iff_ne.mp other (h.slot_inj there found)

theorem references_eq_one_iff (h : t.Sound) (keys : (t.slots.map (·.1)).Nodup) {a : Int}
    {slot : Nat} (found : t.slot? a = some slot) :
    t.references slot = 1 ↔ ∀ k ∈ t.tickets, k.slot ≠ slot := by
  have none : t.tickets.countP (·.slot == slot) = 0 ↔ ∀ k ∈ t.tickets, k.slot ≠ slot := by
    simp only [List.countP_eq_zero, beq_iff_eq, ne_eq]
  rw [references, countP_slots h keys found, ← none]
  omega

/-- A slot is removed exactly if the table has the only reference to its lock. -/
theorem prune_eq (h : t.Sound) (keys : (t.slots.map (·.1)).Nodup) {a : Int} {slot : Nat}
    (found : t.slot? a = some slot) :
    t.prune a = if t.references slot = 1 then { t with slots := t.slots.filter (·.1 != a) }
      else t := by
  simp only [prune, found, references_eq_one_iff h keys found, List.any_eq_true, beq_iff_eq]
  by_cases used : ∃ k ∈ t.tickets, k.slot = slot
  · rw [if_pos used, if_neg fun free => used.elim fun k hk => free k hk.1 hk.2]
  · rw [if_neg used, if_pos fun k hk same => used ⟨k, hk, same⟩]

/-- Every critical section keeps the table sound and its keys distinct. -/
theorem sound_of_reachable (h : t.Reachable) : t.Sound ∧ (t.slots.map (·.1)).Nodup := by
  induction h with
  | empty => exact ⟨sound_empty, List.nodup_nil⟩
  | attached h a ih => exact ⟨(attach_cases ih.1 a).1, keys_attach ih.2 a⟩
  | settled h same exclusive ih =>
      refine ⟨sound_of_sublist ih.1 ?_ exclusive, ih.2⟩
      rw [same]
  | dropped h n ih =>
      exact ⟨sound_of_sublist ih.1 (List.filter_sublist.map place) (ih.1.exclusive.filter _), ih.2⟩
  | @pruned t a slot h found sole ih =>
      have pruned := prune_eq ih.1 ih.2 found
      rw [if_pos sole] at pruned
      exact ⟨pruned ▸ sound_prune ih.1 a, ih.2.sublist (List.filter_sublist.map _)⟩

theorem reachable_acquire (h : t.Reachable) (n : Nat) : (t.acquire n).Reachable := by
  have exclusive := (sound_acquire (sound_of_reachable h).1 n).exclusive
  simp only [acquire] at exclusive ⊢
  split at exclusive
  · exact h.settled (map_place_setStanding n _ _) exclusive
  · exact h

theorem reachable_request (h : t.Reachable) (a : Int) : (t.request a).2.Reachable :=
  reachable_acquire (h.attached a) t.nextTicket

theorem reachable_claim (h : t.Reachable) {n : Nat} (granted : t.standing? n = some .granted) :
    (t.claim n).Reachable := by
  obtain ⟨k, found, standing⟩ := Option.map_eq_some_iff.mp granted
  obtain ⟨mem, rfl⟩ := mem_of_ticket? found
  have sound := sound_claim (sound_of_reachable h).1 mem (by rw [standing]; rfl)
  exact h.settled (map_place_setStanding _ _ _) sound.exclusive

theorem reachable_discard (h : t.Reachable) (n : Nat) : (t.discard n).Reachable := by
  have exclusive := (sound_discard (sound_of_reachable h).1 n).exclusive
  simp only [discard] at exclusive ⊢
  cases found : t.ticket? n with
  | none => exact h
  | some k =>
      simp only [found] at exclusive ⊢
      by_cases owns : k.standing.owns = true
      · rw [if_pos owns] at exclusive ⊢
        exact (h.dropped n).settled (map_place_handOver _ _) exclusive
      · rw [if_neg owns]
        exact h.dropped n

theorem reachable_prune (h : t.Reachable) (a : Int) : (t.prune a).Reachable := by
  have ⟨sound, keys⟩ := sound_of_reachable h
  cases found : t.slot? a with
  | none =>
      simp only [prune, found]
      exact h
  | some slot =>
      rw [prune_eq sound keys found]
      split
      · rename_i sole
        exact h.pruned found sole
      · exact h

theorem reachable_release (h : t.Reachable) (a : Int) (n : Nat) : (t.release a n).Reachable :=
  reachable_prune (reachable_discard h n) a

/-- However slots are removed and made anew, the lock of an account's row has one owner at most, and
whoever holds it or waits for it does so on the slot that is in the table. -/
theorem row_has_one_owner (h : t.Reachable) :
    (∀ a, t.tickets.countP (fun k => k.account == a && k.standing.owns) ≤ 1) ∧
      ∀ k ∈ t.tickets, t.slot? k.account = some k.slot := by
  have sound := (sound_of_reachable h).1
  refine ⟨fun a => ?_, sound.on_slot⟩
  rw [List.countP_eq_length_filter]
  have apart := sound.exclusive.filter fun k => k.account == a && k.standing.owns
  cases hf : t.tickets.filter (fun k => k.account == a && k.standing.owns) with
  | nil => exact Nat.zero_le 1
  | cons k ks =>
      cases ks with
      | nil => exact Nat.le_refl 1
      | cons l ks =>
          -- Both would be on the one slot of the account, and own its lock at once.
          have owner : ∀ m ∈ [k, l], t.slot? a = some m.slot ∧ m.standing.owns = true := by
            intro m hm
            have mem : m ∈ t.tickets.filter fun k => k.account == a && k.standing.owns := by
              rw [hf]
              exact (List.mem_append_left ks hm : m ∈ [k, l] ++ ks)
            have ⟨there, owns⟩ := List.mem_filter.mp mem
            have ⟨account, owns⟩ := Bool.and_eq_true_iff.mp owns
            exact ⟨eq_of_beq account ▸ sound.on_slot m there, owns⟩
          have ⟨slotK, ownsK⟩ := owner k List.mem_cons_self
          have ⟨slotL, ownsL⟩ := owner l (List.mem_cons_of_mem k (List.mem_singleton_self l))
          rw [hf] at apart
          have no := (List.pairwise_cons.mp apart).1 l List.mem_cons_self
          exact absurd ⟨Option.some.inj (slotK.symm.trans slotL), ownsK, ownsL⟩ no

/-- A waiter is handed the lock, the slot is removed after it, and then made anew for two more. -/
def remade : LockTable :=
  let queued := ((({} : LockTable).request 7).2.request 7).2
  ((((queued.release 7 0).claim 1).release 7 1).request 7).2.request 7 |>.2

theorem reachable_remade : remade.Reachable := by
  have queued := reachable_request (reachable_request .empty 7) 7
  have handed := reachable_claim (reachable_release queued 7 0) (n := 1) (by decide)
  exact reachable_request (reachable_request (reachable_release handed 7 1) 7) 7

theorem row_has_one_owner_remade :
    remade.Reachable ∧ remade.slots = [(7, 1)] ∧
    remade.tickets.map (·.standing) = [.holding, .waiting] ∧
    remade.tickets.countP (fun k => k.account == 7 && k.standing.owns) ≤ 1 ∧
    ∀ k ∈ remade.tickets, remade.slot? k.account = some k.slot :=
  ⟨reachable_remade, by decide, by decide, (row_has_one_owner reachable_remade).1 7,
    (row_has_one_owner reachable_remade).2⟩

end LockTable
end DoubleEntry
