import DoubleEntry.Proofs.Store.Queue

/-!
The upkeep of slots. Whoever gives a lock back, or has waited too long for one, prunes the slot
afterwards, in a critical section of its own; whoever is dropped while he waits does not. So a slot
is left in the table with nobody on it if the lock had been handed to somebody who was dropped
before he took it, and in no other way.
-/

namespace DoubleEntry

namespace LockTable

open Ticket

variable {t : LockTable} {S S' : Int → Prop}

/-- Every slot has a ticket on it, but for those of some accounts. -/
def Used (t : LockTable) (S : Int → Prop) : Prop :=
  ∀ p ∈ t.slots, (∃ k ∈ t.tickets, k.account = p.1) ∨ S p.1

theorem used_empty (S : Int → Prop) : Used {} S := fun _ h => by cases h

theorem used_mono (h : t.Used S) (sub : ∀ a, S a → S' a) : t.Used S' :=
  fun p hp => (h p hp).imp_right (sub p.1)

theorem used_attach (h : t.Used S) (a : Int) : (t.attach a).Used S := by
  have older : ∀ k ∈ t.tickets, k ∈ (t.attach a).tickets := by
    intro k hk
    simp only [attach]
    split <;> exact List.mem_append_left _ hk
  have mine : ∃ k ∈ (t.attach a).tickets, k.account = a := by
    simp only [attach]
    split <;> exact ⟨_, List.mem_append_right _ (List.mem_singleton_self _), rfl⟩
  have old : ∀ p ∈ t.slots, (∃ k ∈ (t.attach a).tickets, k.account = p.1) ∨ S p.1 := by
    intro p hp
    refine (h p hp).imp_left ?_
    rintro ⟨k, hk, same⟩
    exact ⟨k, older k hk, same⟩
  intro p hp
  rcases slots_attach t a with same | ⟨_, grown⟩
  · exact old p (same ▸ hp)
  · rw [grown] at hp
    rcases List.mem_append.mp hp with there | new
    · exact old p there
    · rw [List.mem_singleton.mp new]
      exact .inl mine

/-- Tickets that change their standing stay where they are. -/
theorem used_setStanding (h : t.Used S) (n : Nat) (s : Standing) :
    Used { t with tickets := setStanding n s t.tickets } S := by
  intro p hp
  refine (h p hp).imp_left fun ⟨k, hk, same⟩ => ?_
  have there : place k ∈ (setStanding n s t.tickets).map place := by
    rw [map_place_setStanding]
    exact List.mem_map_of_mem hk
  obtain ⟨l, hl, placed⟩ := List.mem_map.mp there
  exact ⟨l, hl, (congrArg (·.2.1) placed).trans same⟩

theorem used_acquire (h : t.Used S) (n : Nat) : (t.acquire n).Used S := by
  simp only [acquire]
  split
  · exact used_setStanding h n _
  · exact h

theorem used_request (h : t.Used S) (a : Int) : (t.request a).2.Used S :=
  used_acquire (used_attach h a) t.nextTicket

theorem slots_discard (t : LockTable) (n : Nat) : (t.discard n).slots = t.slots := by
  simp only [discard]
  split <;> rfl

/-- Who throws a ticket away leaves the others where they are. -/
theorem map_place_discard (t : LockTable) (n : Nat) :
    (t.discard n).tickets.map place = (t.tickets.map place).filter (·.1 != n) := by
  have rest : (t.tickets.map place).filter (·.1 != n) =
      (t.tickets.filter (·.number != n)).map place := by
    rw [List.filter_map]
    rfl
  rw [rest]
  simp only [discard]
  cases found : t.ticket? n with
  | none =>
      refine congrArg (List.map place) (List.filter_eq_self.mpr fun k hk => ?_).symm
      simpa using List.find?_eq_none.mp found k hk
  | some k =>
      dsimp only
      split
      · exact map_place_handOver _ _
      · rfl

theorem mem_discard {n : Nat} {k : Ticket} (hk : k ∈ t.tickets) (other : k.number ≠ n) :
    ∃ l ∈ (t.discard n).tickets, l.account = k.account := by
  have there : place k ∈ (t.discard n).tickets.map place := by
    rw [map_place_discard]
    exact List.mem_filter.mpr ⟨List.mem_map_of_mem hk, bne_iff_ne.mpr other⟩
  obtain ⟨l, hl, same⟩ := List.mem_map.mp there
  exact ⟨l, hl, congrArg (·.2.1) same⟩

theorem of_mem_discard {n : Nat} {l : Ticket} (hl : l ∈ (t.discard n).tickets) :
    ∃ k ∈ t.tickets, place k = place l := by
  have there : place l ∈ (t.discard n).tickets.map place := List.mem_map_of_mem hl
  rw [map_place_discard] at there
  exact List.mem_map.mp (List.mem_filter.mp there).1

/-- The slot of a ticket that is thrown away may be left without one. -/
theorem used_discard (h : t.Used S) (n : Nat) :
    (t.discard n).Used fun a => S a ∨ ∃ k ∈ t.tickets, k.number = n ∧ k.account = a := by
  intro p hp
  rw [slots_discard] at hp
  rcases h p hp with ⟨k, hk, same⟩ | exempt
  · by_cases mine : k.number = n
    · exact .inr (.inr ⟨k, hk, mine, same⟩)
    · obtain ⟨l, hl, eq⟩ := mem_discard hk mine
      exact .inl ⟨l, hl, eq.trans same⟩
  · exact .inr (.inl exempt)

/-- Behind a ticket in line there is that of the owner, on the same slot. -/
theorem used_discard_of_waiting (sound : t.Sound) (attended : t.Attended) (h : t.Used S)
    {k : Ticket} (hk : k ∈ t.tickets) (waits : k.standing = .waiting) :
    (t.discard k.number).Used S := by
  obtain ⟨l, hl, slot, owns⟩ := attended k hk waits
  have account : l.account = k.account := by
    refine sound.slot_inj (sound.on_slot l hl) ?_
    rw [slot]
    exact sound.on_slot k hk
  have eq_k : ∀ m ∈ t.tickets, m.number = k.number → m = k := by
    intro m hm same
    have mine := ticket?_of_mem sound hm
    rw [same, ticket?_of_mem sound hk] at mine
    exact (Option.some.inj mine).symm
  have other : l.number ≠ k.number := by
    intro same
    rw [eq_k l hl same, waits] at owns
    cases owns
  intro p hp
  rcases used_discard h k.number p hp with ticket | exempt | ⟨m, hm, number, same⟩
  · exact .inl ticket
  · exact .inr exempt
  · obtain ⟨l', hl', eq⟩ := mem_discard hl other
    rw [eq_k m hm number] at same
    exact .inl ⟨l', hl', (eq.trans account).trans same⟩

/-- A slot that is pruned and stays has a ticket on it. -/
theorem used_prune (sound : t.Sound) (h : t.Used S) (a : Int) :
    (t.prune a).Used fun b => S b ∧ b ≠ a := by
  have kept : ∀ p ∈ t.slots, p.1 ≠ a →
      (∃ k ∈ (t.prune a).tickets, k.account = p.1) ∨ S p.1 ∧ p.1 ≠ a := by
    intro p hp other
    rw [tickets_prune]
    exact (h p hp).imp_right fun exempt => ⟨exempt, other⟩
  intro p hp
  by_cases other : p.1 = a
  · simp only [prune] at hp ⊢
    cases found : t.slot? a with
    | none =>
        -- No slot is one of the account, or it would have been found.
        rw [found] at hp
        exact absurd other.symm (bne_iff_ne.mp (List.lookup_eq_none_iff.mp found p hp))
    | some slot =>
        rw [found] at hp
        dsimp only at hp ⊢
        split at hp
        · rename_i used
          obtain ⟨k, hk, on⟩ := List.any_eq_true.mp used
          rw [if_pos used]
          refine .inl ⟨k, hk, other ▸ sound.slot_inj (sound.on_slot k hk) ?_⟩
          rw [found, eq_of_beq on]
        · exact absurd other (bne_iff_ne.mp (List.mem_filter.mp hp).2)
  · have there : p ∈ t.slots := by
      simp only [prune] at hp
      split at hp
      · split at hp
        · exact hp
        · exact (List.mem_filter.mp hp).1
      · exact hp
    exact kept p there other

/-- A lock that is given back takes its slot along, if nobody else is on it. -/
theorem used_release (sound : t.Sound) (h : t.Used S) {a : Int} {n : Nat}
    (mine : ∀ k ∈ t.tickets, k.number = n → k.account = a) : (t.release a n).Used S := by
  refine used_mono (used_prune (sound_discard sound n) (used_discard h n) a) ?_
  rintro b ⟨exempt | ⟨k, hk, number, rfl⟩, other⟩
  · exact exempt
  · exact absurd (mine k hk number) other

theorem used_releaseAll {gs : List (Int × Nat)} (sound : t.Sound) (h : t.Used S)
    (mine : ∀ g ∈ gs, ∀ k ∈ t.tickets, k.number = g.2 → k.account = g.1) :
    (MemoryStore.releaseAll gs t).Used S := by
  induction gs generalizing t with
  | nil => exact h
  | cons g gs ih =>
      have first := used_release sound h (mine g List.mem_cons_self)
      refine ih (sound_release sound g.1 g.2) first fun g' hg' l hl number => ?_
      change l ∈ ((t.discard g.2).prune g.1).tickets at hl
      rw [tickets_prune] at hl
      obtain ⟨k, hk, same⟩ := of_mem_discard hl
      have ⟨eqNumber, eqAccount⟩ : k.number = l.number ∧ k.account = l.account :=
        ⟨congrArg (·.1) same, congrArg (·.2.1) same⟩
      rw [← eqAccount]
      exact mine g' (List.mem_cons_of_mem g hg') k hk (eqNumber.trans number)

theorem account_of_held (h : t.Sound) {g : Int × Nat} (hg : g ∈ t.held ++ t.awaited) {k : Ticket}
    (hk : k ∈ t.tickets) (number : k.number = g.2) : k.account = g.1 := by
  obtain ⟨l, hl, rfl⟩ := List.mem_map.mp (held_append_awaited.mem_iff.mp hg)
  have found := ticket?_of_mem h hl
  rw [show l.number = k.number from number.symm, ticket?_of_mem h hk] at found
  cases found
  rfl

theorem attended_attach (h : t.Attended) (a : Int) : (t.attach a).Attended := by
  have tickets : ∃ k : Ticket, k.standing = .attached ∧
      (t.attach a).tickets = t.tickets ++ [k] := by
    simp only [attach]
    split <;> exact ⟨_, rfl, rfl⟩
  obtain ⟨new, standing, tickets⟩ := tickets
  intro k hk waits
  rw [tickets] at hk ⊢
  rcases List.mem_append.mp hk with old | last
  · obtain ⟨l, hl, found⟩ := h k old waits
    exact ⟨l, List.mem_append_left _ hl, found⟩
  · rw [List.mem_singleton.mp last, standing] at waits
    cases waits

/-- Who takes a lock that is not free gets in line behind its owner. -/
theorem attended_acquire (sound : t.Sound) (h : t.Attended) {n : Nat}
    (standing : t.standing? n = some .attached) : (t.acquire n).Attended := by
  obtain ⟨k, found, attached⟩ := Option.map_eq_some_iff.mp standing
  obtain ⟨mem, rfl⟩ := mem_of_ticket? found
  have eq_k : ∀ l ∈ t.tickets, l.number = k.number → l = k := by
    intro l hl same
    have mine := ticket?_of_mem sound hl
    rw [same, found] at mine
    exact (Option.some.inj mine).symm
  simp only [acquire, found]
  refine attended_setStanding h (fun l hl same owns => ?_) fun l hl same waits => ?_
  · rw [eq_k l hl same, attached] at owns
    cases owns
  · rw [eq_k l hl same]
    split at waits
    · rename_i taken
      obtain ⟨m, hm, both⟩ := List.any_eq_true.mp taken
      obtain ⟨on, owns⟩ := Bool.and_eq_true_iff.mp both
      exact ⟨m, hm, eq_of_beq on, owns⟩
    · cases waits

end LockTable

namespace MemoryStore

variable {st : MemoryStore} {loose waits : List (Int × Nat)} {S : Int → Prop}

theorem used_answer (h : st.Orderly loose waits) (used : st.locks.Used S) (now : Timestamp)
    (r : StoreRequest) : (st.answer now r).2.locks.Used S := by
  obtain ⟨gs, sub, given⟩ := locks_answer st now r
  rw [given]
  refine LockTable.used_releaseAll h.sound used fun g hg k hk number => ?_
  refine LockTable.account_of_held h.sound (List.mem_append_left _ ?_) hk number
  exact h.held.mem_iff.mpr (List.mem_append_right _ (sub hg))

theorem used_answerLocked {a : Int} {n : Nat} (h : st.Orderly [(a, n)] waits)
    (used : st.locks.Used S) (now : Timestamp) {r : StoreRequest} (row : r.row? = some a)
    (still : ∀ s, r.session? = some s → ∃ x, st.openSession? s = some x) :
    (st.answerLocked now r a n).2.locks.Used S := by
  cases r with
  | begin => cases row
  | abandon s => cases row
  | perform s op =>
      obtain ⟨x, hx⟩ := still s rfl
      have ⟨hs, notFinished⟩ := openSession?_eq_some.mp hx
      refine used_answer (orderly_addGuard h hs notFinished) ?_ now (.perform s op)
      rw [locks_addGuard]
      exact used
  | query q =>
      have after := orderly_query h now q
      refine LockTable.used_release after.sound (used_answer h used now (.query q)) ?_
      intro k hk number
      have held := after.held.mem_iff.mpr List.mem_cons_self
      exact LockTable.account_of_held after.sound (List.mem_append_left _ held) hk number

/-- A request that is answered, or gets in line, leaves no slot behind. -/
theorem used_submit (h : st.Orderly [] waits) (used : st.locks.Used S) (now : Timestamp)
    (r : StoreRequest) : (st.submit now r).2.locks.Used S := by
  simp only [submit]
  cases wanted : st.wantedRow? r with
  | none => exact used_answer h used now r
  | some a =>
      obtain ⟨row, still⟩ := wantedRow?_eq_some wanted
      have requested := LockTable.used_request used a
      have number : (st.locks.request a).1 = st.locks.nextTicket := rfl
      rcases orderly_request h a with ⟨standing, order⟩ | ⟨standing, order⟩
      · simp only [number, standing, if_true]
        exact used_answerLocked order requested now row still
      · simp only [number, standing]
        exact requested

theorem used_resume {a : Int} {n : Nat} (h : st.Orderly [] ((a, n) :: waits))
    (used : st.locks.Used S) (now : Timestamp) {r : StoreRequest} (row : r.row? = some a)
    (still : ∀ s, r.session? = some s → ∃ x, st.openSession? s = some x)
    (granted : st.isGranted n = true) : (st.resume now r n).2.locks.Used S := by
  simp only [resume, awaitedRow_eq h]
  exact used_answerLocked (orderly_claim h granted) (LockTable.used_setStanding used n _) now row
    still

theorem used_expire {a : Int} {n : Nat} (h : st.Orderly [] ((a, n) :: waits))
    (used : st.locks.Used S) (r : StoreRequest) : (st.expire r n).2.locks.Used S := by
  refine LockTable.used_release h.sound used fun k hk number => ?_
  rw [awaitedRow_eq h]
  exact LockTable.account_of_held h.sound
    (List.mem_append_right _ (h.awaited.mem_iff.mpr List.mem_cons_self)) hk number

/-- Only a lock that was granted to the client that is gone leaves its slot behind. -/
theorem used_desert {a : Int} {n : Nat} (h : st.Orderly [] ((a, n) :: waits))
    (served : st.locks.Served) (used : st.locks.Used S) :
    (st.desert n).locks.Used fun b => S b ∨ st.isGranted n = true ∧ st.awaitedRow n = b := by
  obtain ⟨k, hk, notHolding, same⟩ :=
    LockTable.mem_awaited.mp (h.awaited.mem_iff.mpr List.mem_cons_self)
  have number : k.number = n := congrArg Prod.snd same
  subst number
  cases hs : k.standing with
  | waiting =>
      exact LockTable.used_mono (LockTable.used_discard_of_waiting h.sound
        (LockTable.attended_of_served served) used hk hs) fun b exempt => .inl exempt
  | granted =>
      refine LockTable.used_mono (LockTable.used_discard used k.number) fun b exempt => ?_
      refine exempt.imp_right fun ⟨l, hl, same, account⟩ => ⟨(isGranted_iff h.sound hk).mpr hs, ?_⟩
      rw [awaitedRow_eq h, ← account]
      exact (LockTable.account_of_held h.sound
        (List.mem_append_right _ (h.awaited.mem_iff.mpr List.mem_cons_self)) hl same).symm
  | attached => exact absurd hs (served.inLine k hk)
  | holding => exact absurd hs notHolding

end MemoryStore

/-- A lock table, and what is still to be done about its slots. -/
structure Upkeep where
  locks : LockTable := {}
  /-- Accounts whose lock somebody has let go of, and whose slot he is about to prune. -/
  due : List Int := []
  /-- Accounts whose lock was free for somebody who was dropped, and whose slot was not pruned
  since. -/
  stranded : List Int := []
  deriving DecidableEq

/-- The critical sections, each of them entered by a client on its own. -/
inductive Section where
  /-- Looks up or makes the slot of an account, and takes a ticket on it. -/
  | attach (a : Int)
  /-- Takes the lock, or gets in line for it. -/
  | acquire (n : Nat)
  /-- Becomes aware of a lock that was granted. -/
  | claim (n : Nat)
  /-- Gives the lock back. -/
  | release (n : Nat)
  /-- Has waited too long. -/
  | expire (n : Nat)
  /-- Is dropped while he waits. -/
  | desert (n : Nat)
  /-- Prunes the slot of a lock that was let go of. -/
  | prune (a : Int)

namespace Upkeep

/-- A ticket is thrown away by somebody who will prune its slot. -/
def leave (u : Upkeep) (k : Ticket) : Upkeep :=
  { u with locks := u.locks.discard k.number, due := k.account :: u.due }

/-- A ticket is thrown away for somebody who is gone. -/
def lose (u : Upkeep) (k : Ticket) : Upkeep :=
  { u with
    locks := u.locks.discard k.number
    stranded := if k.standing = .waiting then u.stranded else k.account :: u.stranded }

/-- A critical section. One that cannot be entered changes nothing. -/
def step (u : Upkeep) : Section → Upkeep
  | .attach a => { u with locks := u.locks.attach a }
  | .acquire n =>
      if u.locks.standing? n = some .attached then { u with locks := u.locks.acquire n } else u
  | .claim n =>
      if u.locks.standing? n = some .granted then { u with locks := u.locks.claim n } else u
  | .release n =>
      match u.locks.ticket? n with
      | some k => if k.standing = .holding then u.leave k else u
      | none => u
  | .expire n =>
      match u.locks.ticket? n with
      | some k => if k.standing = .holding then u else u.leave k
      | none => u
  | .desert n =>
      match u.locks.ticket? n with
      | some k => if k.standing = .holding then u else u.lose k
      | none => u
  | .prune a =>
      if a ∈ u.due then
        { locks := u.locks.prune a, due := u.due.erase a, stranded := u.stranded.filter (· != a) }
      else u

def run (sections : List Section) : Upkeep := sections.foldl step {}

/-- What every critical section keeps. -/
structure Kept (u : Upkeep) : Prop where
  sound : u.locks.Sound
  attended : u.locks.Attended
  used : u.locks.Used fun a => a ∈ u.due ∨ a ∈ u.stranded

theorem kept_empty : Kept {} where
  sound := LockTable.sound_empty
  attended _ h := by cases h
  used := LockTable.used_empty _

variable {u : Upkeep}

theorem kept_leave (h : u.Kept) {k : Ticket} (hk : u.locks.ticket? k.number = some k) :
    (u.leave k).Kept where
  sound := LockTable.sound_discard h.sound _
  attended := LockTable.attended_discard h.sound h.attended _
  used := by
    refine LockTable.used_mono (LockTable.used_discard h.used k.number) fun a exempt => ?_
    rcases exempt with (due | stranded) | ⟨l, hl, number, rfl⟩
    · exact .inl (List.mem_cons_of_mem _ due)
    · exact .inr stranded
    · have mine := LockTable.ticket?_of_mem h.sound hl
      rw [number, hk] at mine
      cases mine
      exact .inl List.mem_cons_self

theorem kept_lose (h : u.Kept) {k : Ticket} (hk : u.locks.ticket? k.number = some k) :
    (u.lose k).Kept where
  sound := LockTable.sound_discard h.sound _
  attended := LockTable.attended_discard h.sound h.attended _
  used := by
    simp only [lose]
    split
    · rename_i waits
      exact LockTable.used_discard_of_waiting h.sound h.attended h.used
        (LockTable.mem_of_ticket? hk).1 waits
    · refine LockTable.used_mono (LockTable.used_discard h.used k.number) fun a exempt => ?_
      rcases exempt with (due | stranded) | ⟨l, hl, number, rfl⟩
      · exact .inl due
      · exact .inr (List.mem_cons_of_mem _ stranded)
      · have mine := LockTable.ticket?_of_mem h.sound hl
        rw [number, hk] at mine
        cases mine
        exact .inr List.mem_cons_self

theorem kept_step (h : u.Kept) (x : Section) : (u.step x).Kept := by
  have known : ∀ {n k}, u.locks.ticket? n = some k → u.locks.ticket? k.number = some k := by
    intro n k found
    rwa [(LockTable.mem_of_ticket? found).2]
  cases x with
  | attach a =>
      exact ⟨(LockTable.attach_cases h.sound a).1, LockTable.attended_attach h.attended a,
        LockTable.used_attach h.used a⟩
  | acquire n =>
      simp only [step]
      split
      · rename_i attached
        exact ⟨LockTable.sound_acquire h.sound n,
          LockTable.attended_acquire h.sound h.attended attached, LockTable.used_acquire h.used n⟩
      · exact h
  | claim n =>
      simp only [step]
      split
      · rename_i granted
        obtain ⟨k, found, standing⟩ := Option.map_eq_some_iff.mp granted
        obtain ⟨mem, rfl⟩ := LockTable.mem_of_ticket? found
        exact ⟨LockTable.sound_claim h.sound mem (by rw [standing]; rfl),
          LockTable.attended_claim h.attended _, LockTable.used_setStanding h.used _ _⟩
      · exact h
  | release n =>
      simp only [step]
      split
      · rename_i k found
        split
        · exact kept_leave h (known found)
        · exact h
      · exact h
  | expire n =>
      simp only [step]
      split
      · rename_i k found
        split
        · exact h
        · exact kept_leave h (known found)
      · exact h
  | desert n =>
      simp only [step]
      split
      · rename_i k found
        split
        · exact h
        · exact kept_lose h (known found)
      · exact h
  | prune a =>
      simp only [step]
      split
      · refine ⟨LockTable.sound_prune h.sound a, LockTable.attended_prune h.attended a, ?_⟩
        refine LockTable.used_mono (LockTable.used_prune h.sound h.used a) ?_
        rintro b ⟨due | stranded, other⟩
        · exact .inl ((List.mem_erase_of_ne other).mpr due)
        · exact .inr (List.mem_filter.mpr ⟨stranded, bne_iff_ne.mpr other⟩)
      · exact h

theorem kept_run (sections : List Section) : (run sections).Kept :=
  List.foldlRecOn sections _ kept_empty fun _ h x _ => kept_step h x

end Upkeep
end DoubleEntry
