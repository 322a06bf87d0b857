import DoubleEntry.Proofs.Store.Kept

/-!
Nobody waits for nothing. A lock that is given back goes at once to somebody who waits for it, so
that a lock which is waited for has an owner: a session that guards the row, or somebody else whose
request has been granted the lock and is about to be answered.
-/

namespace DoubleEntry

namespace LockTable

open Ticket

variable {t : LockTable}

structure Served (t : LockTable) : Prop where
  inLine : ∀ k ∈ t.tickets, k.standing ≠ .attached
  owner : ∀ k ∈ t.tickets, k.standing.owns = false →
    ∃ l ∈ t.tickets, l.slot = k.slot ∧ l.standing.owns = true

theorem served_empty : Served {} where
  inLine _ h := by cases h
  owner _ h := by cases h

theorem served_request (h : t.Sound) (served : t.Served) (a : Int) : (t.request a).2.Served := by
  obtain ⟨slot, s, tickets, standing⟩ := tickets_request h a
  have sound := sound_request h a
  have mine : (⟨t.nextTicket, a, slot, s⟩ : Ticket) ∈ (t.request a).2.tickets := by
    rw [tickets]
    exact List.mem_append_right _ (List.mem_singleton_self _)
  have older : ∀ k ∈ t.tickets, k ∈ (t.request a).2.tickets := by
    intro k hk
    rw [tickets]
    exact List.mem_append_left _ hk
  refine ⟨fun k hk => ?_, fun k hk waits => ?_⟩
  · rw [tickets] at hk
    rcases List.mem_append.mp hk with old | new
    · exact served.inLine k old
    · rw [List.mem_singleton.mp new]
      rcases standing with rfl | ⟨rfl, _⟩ <;> exact fun no => by cases no
  · rw [tickets] at hk
    rcases List.mem_append.mp hk with old | new
    · obtain ⟨l, hl, same, owns⟩ := served.owner k old waits
      exact ⟨l, older l hl, same, owns⟩
    · cases List.mem_singleton.mp new
      rcases standing with rfl | ⟨_, l, hl, account, owns⟩
      · cases waits
      · -- The owner is on the slot of the account, as the new ticket is.
        have slots := sound.on_slot l (older l hl)
        rw [account, sound.on_slot _ mine] at slots
        exact ⟨l, older l hl, (Option.some.inj slots).symm, owns⟩

/-- Whoever is in line waits for somebody who owns the lock. -/
def Attended (t : LockTable) : Prop :=
  ∀ k ∈ t.tickets, k.standing = .waiting →
    ∃ l ∈ t.tickets, l.slot = k.slot ∧ l.standing.owns = true

theorem attended_of_served (h : t.Served) : t.Attended := by
  intro k hk waits
  exact h.owner k hk (by rw [waits]; rfl)

theorem served_of_attended (inLine : ∀ k ∈ t.tickets, k.standing ≠ .attached)
    (h : t.Attended) : t.Served where
  inLine := inLine
  owner k hk waits := by
    cases hs : k.standing with
    | waiting => exact h k hk hs
    | attached => exact absurd hs (inLine k hk)
    | granted | holding =>
        rw [hs] at waits
        cases waits

/-- A ticket that changes its standing remains the owner that others wait for. -/
theorem attended_setStanding {n : Nat} {s : Standing} (h : t.Attended)
    (keeps : ∀ k ∈ t.tickets, k.number = n → k.standing.owns = true → s.owns = true)
    (mine : ∀ k ∈ t.tickets, k.number = n → s = .waiting →
      ∃ l ∈ t.tickets, l.slot = k.slot ∧ l.standing.owns = true) :
    Attended { t with tickets := setStanding n s t.tickets } := by
  let f : Ticket → Ticket := fun k => if k.number = n then { k with standing := s } else k
  have slot : ∀ k, (f k).slot = k.slot := by
    intro k
    simp only [f]
    split <;> rfl
  have owns : ∀ k ∈ t.tickets, k.standing.owns = true → (f k).standing.owns = true := by
    intro k hk before
    simp only [f]
    split
    · rename_i number
      exact keeps k hk number before
    · exact before
  intro k hk waits
  obtain ⟨l, hl, rfl⟩ := List.mem_map.mp hk
  have attended : ∃ m ∈ t.tickets, m.slot = l.slot ∧ m.standing.owns = true := by
    by_cases number : l.number = n
    · rw [if_pos number] at waits
      exact mine l hl number waits
    · rw [if_neg number] at waits
      exact h l hl waits
  obtain ⟨m, hm, same, before⟩ := attended
  exact ⟨f m, List.mem_map_of_mem hm, (slot m).trans (same.trans (slot l).symm), owns m hm before⟩

theorem attended_claim (h : t.Attended) (n : Nat) : (t.claim n).Attended :=
  attended_setStanding h (fun _ _ _ _ => rfl) fun _ _ _ waits => by cases waits

theorem served_claim (served : t.Served) (n : Nat) : (t.claim n).Served := by
  refine served_of_attended (fun k hk => ?_) (attended_claim (attended_of_served served) n)
  obtain ⟨l, hl, rfl⟩ := List.mem_map.mp hk
  split
  · exact fun no => by cases no
  · exact served.inLine l hl

theorem mem_handOver_of_owns {slot : Nat} {ks : List Ticket} {l : Ticket} (h : l ∈ ks)
    (owns : l.standing.owns = true) : l ∈ handOver slot ks := by
  induction ks with
  | nil => cases h
  | cons k ks ih =>
      simp only [handOver]
      split
      · rename_i waits
        rcases List.mem_cons.mp h with rfl | later
        · rw [waits.2] at owns
          cases owns
        · exact List.mem_cons_of_mem _ later
      · rcases List.mem_cons.mp h with rfl | later
        · exact List.mem_cons_self
        · exact List.mem_cons_of_mem k (ih later)

theorem exists_owner_handOver {slot : Nat} {ks : List Ticket} {k : Ticket} (h : k ∈ ks)
    (on : k.slot = slot) (waits : k.standing = .waiting) :
    ∃ l ∈ handOver slot ks, l.slot = slot ∧ l.standing.owns = true := by
  induction ks with
  | nil => cases h
  | cons k' ks ih =>
      simp only [handOver]
      split
      · rename_i first
        exact ⟨_, List.mem_cons_self, first.1, rfl⟩
      · rename_i other
        rcases List.mem_cons.mp h with rfl | later
        · exact absurd ⟨on, waits⟩ other
        · obtain ⟨l, hl, found⟩ := ih later
          exact ⟨l, List.mem_cons_of_mem k' hl, found⟩

theorem attended_discard (h : t.Sound) (attended : t.Attended) (n : Nat) :
    (t.discard n).Attended := by
  simp only [discard]
  cases found : t.ticket? n with
  | none => exact attended
  | some gone =>
      obtain ⟨mem, rfl⟩ := mem_of_ticket? found
      have rest : ∀ k ∈ t.tickets.filter (·.number != gone.number), k ∈ t.tickets :=
        fun k hk => (List.mem_filter.mp hk).1
      have stays : ∀ l ∈ t.tickets, l.number ≠ gone.number →
          l ∈ t.tickets.filter (·.number != gone.number) :=
        fun l hl other => List.mem_filter.mpr ⟨hl, bne_iff_ne.mpr other⟩
      have eq_gone : ∀ l ∈ t.tickets, l.number = gone.number → l = gone := by
        intro l hl same
        have mine := ticket?_of_mem h hl
        rw [same, found] at mine
        exact (Option.some.inj mine).symm
      dsimp only
      by_cases owned : gone.standing.owns = true
      · rw [if_pos owned]
        intro k hk waits
        rcases mem_handOver hk with old | ⟨_, granted⟩
        · by_cases on : k.slot = gone.slot
          · -- Who waits on this slot has an owner after it: the first of them gets the lock.
            rw [on]
            exact exists_owner_handOver old on waits
          · -- The owner on any other slot is another ticket, and stays.
            obtain ⟨l, hl, same, owns⟩ := attended k (rest k old) waits
            have other : l.number ≠ gone.number := by
              intro eq
              rw [eq_gone l hl eq] at same
              exact on same.symm
            exact ⟨l, mem_handOver_of_owns (stays l hl other) owns, same, owns⟩
        · rw [granted] at waits
          cases waits
      · rw [if_neg owned]
        intro k hk waits
        obtain ⟨l, hl, same, owns⟩ := attended k (rest k hk) waits
        refine ⟨l, stays l hl fun eq => ?_, same, owns⟩
        rw [eq_gone l hl eq] at owns
        exact owned owns

theorem served_discard (h : t.Sound) (served : t.Served) (n : Nat) : (t.discard n).Served := by
  refine served_of_attended (fun k hk => ?_) (attended_discard h (attended_of_served served) n)
  simp only [discard] at hk
  split at hk
  · split at hk
    · rcases mem_handOver hk with old | ⟨_, granted⟩
      · exact served.inLine k (List.mem_filter.mp old).1
      · rw [granted]
        decide
    · exact served.inLine k (List.mem_filter.mp hk).1
  · exact served.inLine k hk

theorem attended_prune (h : t.Attended) (a : Int) : (t.prune a).Attended := by
  intro k hk waits
  rw [tickets_prune] at hk ⊢
  exact h k hk waits

theorem served_prune (served : t.Served) (a : Int) : (t.prune a).Served :=
  served_of_attended (fun k hk => served.inLine k (tickets_prune t a ▸ hk))
    (attended_prune (attended_of_served served) a)

end LockTable

namespace MemoryStore

open LockTable

theorem kept_served : Kept fun st => st.locks.Sound ∧ st.locks.Served :=
  kept_locks (Q := fun t => t.Sound ∧ t.Served)
    (fun h a => ⟨sound_request h.1 a, served_request h.1 h.2 a⟩)
    (fun h n granted => by
      obtain ⟨k, found, standing⟩ := Option.map_eq_some_iff.mp granted
      obtain ⟨mem, rfl⟩ := mem_of_ticket? found
      exact ⟨sound_claim h.1 mem (by rw [standing]; rfl), served_claim h.2 _⟩)
    (fun h n => ⟨sound_discard h.1 n, served_discard h.1 h.2 n⟩)
    (fun h a => ⟨sound_prune h.1 a, served_prune h.2 a⟩)

variable {st : MemoryStore} {waits : List (Int × Nat)}

theorem isGranted_iff (h : st.locks.Sound) {k : Ticket} (hk : k ∈ st.locks.tickets) :
    st.isGranted k.number = true ↔ k.standing = .granted := by
  rw [isGranted, standing?_of_mem h hk]
  simp

/-- The row of a ticket that has not been granted its lock is guarded by a session, or another
ticket has been granted the lock. -/
theorem owner_of_awaited (h : st.Orderly [] waits) (served : st.locks.Served) {a : Int} {n : Nat}
    (hn : (a, n) ∈ waits) (waiting : st.isGranted n = false) :
    (∃ g ∈ st.guards, g.1 = a) ∨ ∃ m, (a, m) ∈ waits ∧ st.isGranted m = true := by
  obtain ⟨k, hk, notHolding, same⟩ := mem_awaited.mp (h.awaited.mem_iff.mpr hn)
  cases same
  have notOwns : k.standing.owns = false := by
    have notGranted : k.standing ≠ .granted := fun granted => by
      rw [(isGranted_iff h.sound hk).mpr granted] at waiting
      cases waiting
    cases hs : k.standing <;> simp_all [Standing.owns]
  obtain ⟨l, hl, slot, owns⟩ := served.owner k hk notOwns
  have account : l.account = k.account := by
    refine h.sound.slot_inj (h.sound.on_slot l hl) ?_
    rw [slot]
    exact h.sound.on_slot k hk
  cases hs : l.standing with
  | holding =>
      have held := h.held.mem_iff.mp (mem_held.mpr ⟨l, hl, hs, rfl⟩)
      exact .inl ⟨l.key, held, account⟩
  | granted =>
      have awaited := h.awaited.mem_iff.mp
        (mem_awaited.mpr ⟨l, hl, (by rw [hs]; exact fun no => by cases no), rfl⟩)
      refine .inr ⟨l.number, ?_, (isGranted_iff h.sound hl).mpr hs⟩
      rwa [Ticket.key, account] at awaited
  | attached =>
      rw [hs] at owns
      cases owns
  | waiting =>
      rw [hs] at owns
      cases owns

end MemoryStore
end DoubleEntry
