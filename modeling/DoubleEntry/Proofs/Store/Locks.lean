import DoubleEntry.Store.LockTable
import Mathlib.Data.List.Nodup
import Mathlib.Data.List.Perm.Basic

/-!
Mutual exclusion of row locks. A slot belongs to one account and every ticket is on the slot that is
in the table, so that an account has one owner at most, however often its slot was removed and
created again. The tickets that hold a lock and those that are still waited with are read off as
two lists, and every step of the lock table is described by what it does to them.
-/

namespace DoubleEntry

/-- In a list with distinct keys, taking out a key takes out one element. -/
theorem perm_cons_filter_ne {α β : Type} [DecidableEq β] (key : α → β) {xs : List α} {x : α}
    (distinct : (xs.map key).Nodup) (hx : x ∈ xs) :
    xs.Perm (x :: xs.filter fun y => key y != key x) := by
  induction xs with
  | nil => cases hx
  | cons y ys ih =>
      have ⟨first, rest⟩ := List.nodup_cons.mp distinct
      rcases List.mem_cons.mp hx with rfl | later
      · have others : ys.filter (fun z => key z != key x) = ys := by
          refine List.filter_eq_self.mpr fun z hz => bne_iff_ne.mpr fun same => ?_
          exact first (List.mem_map.mpr ⟨z, hz, same⟩)
        rw [List.filter_cons_of_neg (by simp), others]
      · have other : key y ≠ key x := by
          intro same
          exact first (List.mem_map.mpr ⟨x, later, same.symm⟩)
        rw [List.filter_cons_of_pos (by simpa using other)]
        exact ((ih rest later).cons y).trans (List.Perm.swap x y _)

/-- The same for a list that is known up to its order. -/
theorem perm_filter_ne_of_perm_cons {α β : Type} [DecidableEq β] (key : α → β)
    {xs rest : List α} {x : α} (distinct : (xs.map key).Nodup) (h : xs.Perm (x :: rest)) :
    (xs.filter fun y => key y != key x).Perm rest := by
  have taken := perm_cons_filter_ne key distinct (h.mem_iff.mpr List.mem_cons_self)
  exact (List.perm_cons x).mp (taken.symm.trans h)

/-- Looking up in an association list without one of the keys. -/
theorem lookup_filter_ne {α β : Type} [DecidableEq α] (a b : α) (xs : List (α × β)) :
    (xs.filter (·.1 != a)).lookup b = if b = a then none else xs.lookup b := by
  induction xs with
  | nil => simp
  | cons x xs ih =>
      by_cases hx : x.1 = a
      · rw [List.filter_cons_of_neg (by simpa using hx), ih, List.lookup_cons]
        by_cases hb : b = a
        · rw [if_pos hb, if_pos hb]
        · rw [if_neg hb, if_neg hb, beq_false_of_ne (hx ▸ hb)]
      · rw [List.filter_cons_of_pos (by simpa using hx), List.lookup_cons, ih, List.lookup_cons]
        by_cases hb : b = x.1
        · have other : b ≠ a := fun same => hx (hb.symm.trans same)
          rw [if_neg other, if_neg other]
        · rw [beq_false_of_ne hb]

/-- With distinct keys, looking up finds whatever is there. -/
theorem lookup_of_mem {α β : Type} [DecidableEq α] {xs : List (α × β)} {a : α} {b : β}
    (distinct : (xs.map (·.1)).Nodup) (h : (a, b) ∈ xs) : xs.lookup a = some b := by
  induction xs with
  | nil => cases h
  | cons p xs ih =>
      have ⟨first, rest⟩ := List.nodup_cons.mp distinct
      rw [List.lookup_cons]
      rcases List.mem_cons.mp h with rfl | later
      · rw [beq_self_eq_true]
      · have other : a ≠ p.1 := by
          intro same
          exact first (List.mem_map.mpr ⟨(a, b), later, same⟩)
        rw [beq_false_of_ne other]
        exact ih rest later

namespace Ticket

/-- The account and the number of a ticket. -/
def key (k : Ticket) : Int × Nat := (k.account, k.number)

/-- What no step changes of a ticket. -/
def place (k : Ticket) : Nat × Int × Nat := (k.number, k.account, k.slot)

/-- The lock of one slot belongs to two tickets. -/
def Clash (k l : Ticket) : Prop :=
  k.slot = l.slot ∧ k.standing.owns = true ∧ l.standing.owns = true

theorem Clash.symm {k l : Ticket} (h : Clash k l) : Clash l k := ⟨h.1.symm, h.2.2, h.2.1⟩

end Ticket

namespace LockTable

open Ticket

/-- What every step of the lock table keeps. -/
structure Sound (t : LockTable) : Prop where
  slot_inj : ∀ {a b slot}, t.slot? a = some slot → t.slot? b = some slot → a = b
  slot_lt : ∀ {a slot}, t.slot? a = some slot → slot < t.nextSlot
  number_nodup : (t.tickets.map (·.number)).Nodup
  number_lt : ∀ k ∈ t.tickets, k.number < t.nextTicket
  on_slot : ∀ k ∈ t.tickets, t.slot? k.account = some k.slot
  exclusive : t.tickets.Pairwise fun k l => ¬ Clash k l

theorem sound_empty : Sound {} where
  slot_inj h := by cases h
  slot_lt h := by cases h
  number_nodup := List.nodup_nil
  number_lt _ h := by cases h
  on_slot _ h := by cases h
  exclusive := List.Pairwise.nil

def held (t : LockTable) : List (Int × Nat) :=
  (t.tickets.filter (·.standing == .holding)).map key

/-- The tickets that are still waited with, those with a grant among them. -/
def awaited (t : LockTable) : List (Int × Nat) :=
  (t.tickets.filter (·.standing != .holding)).map key

theorem ticket?_of_mem {t : LockTable} (h : t.Sound) {k : Ticket} (hk : k ∈ t.tickets) :
    t.ticket? k.number = some k := by
  have distinct := h.number_nodup
  simp only [ticket?]
  generalize t.tickets = ks at hk distinct
  induction ks with
  | nil => cases hk
  | cons l ks ih =>
      have ⟨first, rest⟩ := List.nodup_cons.mp distinct
      rcases List.mem_cons.mp hk with rfl | later
      · simp
      · have other : l.number ≠ k.number := by
          intro same
          exact first (List.mem_map.mpr ⟨k, later, same.symm⟩)
        rw [List.find?_cons_of_neg (by simpa using other)]
        exact ih later rest

theorem mem_of_ticket? {t : LockTable} {n : Nat} {k : Ticket} (h : t.ticket? n = some k) :
    k ∈ t.tickets ∧ k.number = n :=
  ⟨List.mem_of_find?_eq_some h, by simpa using List.find?_some h⟩

theorem perm_tickets {t : LockTable} (h : t.Sound) {k : Ticket} (hk : k ∈ t.tickets) :
    t.tickets.Perm (k :: t.tickets.filter (·.number != k.number)) :=
  perm_cons_filter_ne (·.number) h.number_nodup hk

theorem number_ne_of_mem_filter {ks : List Ticket} {n : Nat} {l : Ticket}
    (hl : l ∈ ks.filter (·.number != n)) : l.number ≠ n := by
  simpa using (List.mem_filter.mp hl).2

theorem setStanding_of_ne {n : Nat} (s : Standing) {ks : List Ticket}
    (h : ∀ l ∈ ks, l.number ≠ n) : setStanding n s ks = ks :=
  calc
    setStanding n s ks = ks.map id := List.map_congr_left fun l hl => if_neg (h l hl)
    _ = ks := List.map_id ks

/-- The tickets after one of them has changed its standing. -/
theorem perm_setStanding {t : LockTable} (h : t.Sound) {k : Ticket} (hk : k ∈ t.tickets)
    (s : Standing) : (setStanding k.number s t.tickets).Perm
      ({ k with standing := s } :: t.tickets.filter (·.number != k.number)) := by
  have changed := (perm_tickets h hk).map fun l =>
    if l.number = k.number then { l with standing := s } else l
  rw [List.map_cons, if_pos rfl] at changed
  have others : setStanding k.number s (t.tickets.filter (·.number != k.number)) =
      t.tickets.filter (·.number != k.number) :=
    setStanding_of_ne s fun l hl => number_ne_of_mem_filter hl
  simp only [setStanding] at others
  rw [others] at changed
  exact changed

theorem map_place_setStanding (n : Nat) (s : Standing) (ks : List Ticket) :
    (setStanding n s ks).map place = ks.map place := by
  simp only [setStanding]
  rw [List.map_map]
  apply List.map_congr_left
  intro k _
  by_cases h : k.number = n <;> simp [place, h]

theorem map_place_handOver (slot : Nat) (ks : List Ticket) :
    (handOver slot ks).map place = ks.map place := by
  induction ks with
  | nil => rfl
  | cons k ks ih =>
      simp only [handOver]
      split
      · rfl
      · rw [List.map_cons, List.map_cons, ih]

/-- A table stays sound when tickets are only thrown away or change their standing, as long as no
lock comes to belong to two of them. -/
theorem sound_of_sublist {t : LockTable} (h : t.Sound) {ks : List Ticket}
    (sub : (ks.map place).Sublist (t.tickets.map place))
    (exclusive : ks.Pairwise fun k l => ¬ Clash k l) : Sound { t with tickets := ks } := by
  have origin : ∀ k ∈ ks, ∃ l ∈ t.tickets, place l = place k := by
    intro k hk
    exact List.mem_map.mp (sub.subset (List.mem_map_of_mem hk))
  refine ⟨h.slot_inj, h.slot_lt, ?_, ?_, ?_, exclusive⟩
  · have numbers := sub.map (fun p => p.1)
    rw [List.map_map, List.map_map] at numbers
    exact List.Nodup.sublist numbers h.number_nodup
  · intro k hk
    obtain ⟨l, hl, same⟩ := origin k hk
    have := h.number_lt l hl
    simp only [place, Prod.mk.injEq] at same
    rwa [same.1] at this
  · intro k hk
    obtain ⟨l, hl, same⟩ := origin k hk
    have := h.on_slot l hl
    simp only [place, Prod.mk.injEq] at same
    rwa [same.2.1, same.2.2] at this

theorem sound_setStanding {t : LockTable} (h : t.Sound) {k : Ticket} (hk : k ∈ t.tickets)
    {s : Standing} (free : s.owns = true → ∀ l ∈ t.tickets, l.number ≠ k.number →
      l.slot = k.slot → l.standing.owns = false) :
    Sound { t with tickets := setStanding k.number s t.tickets } := by
  refine sound_of_sublist h (by rw [map_place_setStanding]) ?_
  refine (List.Perm.pairwise_iff (fun no clash => no clash.symm) (perm_setStanding h hk s)).mpr ?_
  refine List.pairwise_cons.mpr ⟨?_, h.exclusive.filter _⟩
  intro l hl clash
  have lost := free clash.2.1 l (List.mem_filter.mp hl).1 (number_ne_of_mem_filter hl) clash.1.symm
  exact Bool.false_ne_true (lost.symm.trans clash.2.2)

/-- Nobody else owns a lock that a ticket owns. -/
theorem not_owns_of_owns {t : LockTable} (h : t.Sound) {k l : Ticket} (hk : k ∈ t.tickets)
    (hl : l ∈ t.tickets) (ne : l.number ≠ k.number) (same : l.slot = k.slot)
    (owns : k.standing.owns = true) : l.standing.owns = false := by
  have apart := (List.Perm.pairwise_iff (fun no clash => no (Clash.symm clash))
    (perm_tickets h hk)).mp h.exclusive
  have rest : l ∈ t.tickets.filter (·.number != k.number) :=
    List.mem_filter.mpr ⟨hl, bne_iff_ne.mpr ne⟩
  have no := (List.pairwise_cons.mp apart).1 l rest
  cases hs : l.standing.owns with
  | false => rfl
  | true => exact absurd ⟨same.symm, owns, hs⟩ no

theorem slot?_addSlot {t : LockTable} {a : Int} (none : t.slot? a = none) (b : Int) :
    slot? { t with slots := t.slots ++ [(a, t.nextSlot)], nextSlot := t.nextSlot + 1 } b =
      if b = a then some t.nextSlot else t.slot? b := by
  simp only [slot?, List.lookup_append] at none ⊢
  by_cases h : b = a
  · subst h
    simp [none]
  · have missing : [(a, t.nextSlot)].lookup b = Option.none := by
      rw [List.lookup_cons, beq_false_of_ne h]
      rfl
    rw [missing, if_neg h, Option.or_none]

theorem sound_addSlot {t : LockTable} (h : t.Sound) {a : Int} (none : t.slot? a = none) :
    Sound { t with slots := t.slots ++ [(a, t.nextSlot)], nextSlot := t.nextSlot + 1 } := by
  refine ⟨?_, ?_, h.number_nodup, h.number_lt, ?_, h.exclusive⟩
  · intro b c slot hb hc
    rw [slot?_addSlot none] at hb hc
    split at hb <;> split at hc
    · rename_i eb ec
      rw [eb, ec]
    · cases hb
      exact absurd (h.slot_lt hc) (Nat.lt_irrefl _)
    · cases hc
      exact absurd (h.slot_lt hb) (Nat.lt_irrefl _)
    · exact h.slot_inj hb hc
  · intro b slot hb
    rw [slot?_addSlot none] at hb
    split at hb
    · cases hb
      exact Nat.lt_succ_self _
    · exact Nat.lt_succ_of_lt (h.slot_lt hb)
  · intro k hk
    rw [slot?_addSlot none, if_neg, h.on_slot k hk]
    intro same
    have := h.on_slot k hk
    rw [same, none] at this
    cases this

theorem sound_attachTo {t : LockTable} (h : t.Sound) {a : Int} {slot : Nat}
    (hs : t.slot? a = some slot) : (t.attachTo a slot).Sound := by
  have older : ∀ k ∈ t.tickets, k.number ≠ t.nextTicket := by
    intro k hk
    exact Nat.ne_of_lt (h.number_lt k hk)
  refine ⟨h.slot_inj, h.slot_lt, ?_, ?_, ?_, ?_⟩
  · simp only [attachTo, List.map_append, List.map_cons, List.map_nil]
    refine List.nodup_append.mpr ⟨h.number_nodup, List.nodup_singleton _, ?_⟩
    intro n hn m hm
    obtain ⟨k, hk, rfl⟩ := List.mem_map.mp hn
    rw [List.mem_singleton.mp hm]
    exact older k hk
  · intro k hk
    simp only [attachTo, List.mem_append, List.mem_singleton] at hk ⊢
    rcases hk with old | rfl
    · exact Nat.lt_succ_of_lt (h.number_lt k old)
    · exact Nat.lt_succ_self _
  · intro k hk
    simp only [attachTo, List.mem_append, List.mem_singleton] at hk
    rcases hk with old | rfl
    · exact h.on_slot k old
    · exact hs
  · refine List.pairwise_append.mpr ⟨h.exclusive, List.pairwise_singleton _ _, ?_⟩
    intro k _ l hl clash
    rw [List.mem_singleton.mp hl] at clash
    exact Bool.false_ne_true clash.2.2

/-- The ticket that is taken on an account's row, its slot being found or made. -/
theorem attach_cases {t : LockTable} (h : t.Sound) (a : Int) :
    (t.attach a).Sound ∧ (t.attach a).nextTicket = t.nextTicket + 1 ∧
      ∃ slot, (t.attach a).tickets = t.tickets ++ [⟨t.nextTicket, a, slot, .attached⟩] := by
  simp only [attach]
  cases hs : t.slot? a with
  | some slot => exact ⟨sound_attachTo h hs, rfl, slot, rfl⟩
  | none =>
      refine ⟨sound_attachTo (sound_addSlot h hs) ?_, rfl, t.nextSlot, rfl⟩
      rw [slot?_addSlot hs, if_pos rfl]

theorem isTaken_eq_false {t : LockTable} {slot : Nat} (h : t.isTaken slot = false) {l : Ticket}
    (hl : l ∈ t.tickets) (same : l.slot = slot) : l.standing.owns = false := by
  have := List.any_eq_false.mp h l hl
  simpa [same] using this

theorem sound_acquire {t : LockTable} (h : t.Sound) (n : Nat) : (t.acquire n).Sound := by
  simp only [acquire]
  cases hk : t.ticket? n with
  | none => exact h
  | some k =>
      obtain ⟨mem, rfl⟩ := mem_of_ticket? hk
      refine sound_setStanding h mem ?_
      intro owns l hl _ same
      cases taken : t.isTaken k.slot with
      | false => exact isTaken_eq_false taken hl same
      | true =>
          rw [taken] at owns
          exact absurd owns (by decide)

theorem sound_request {t : LockTable} (h : t.Sound) (a : Int) : (t.request a).2.Sound :=
  sound_acquire (attach_cases h a).1 t.nextTicket

theorem sound_claim {t : LockTable} (h : t.Sound) {k : Ticket} (hk : k ∈ t.tickets)
    (owns : k.standing.owns = true) : (t.claim k.number).Sound := by
  refine sound_setStanding h hk ?_
  intro _ l hl ne same
  exact not_owns_of_owns h hk hl ne same owns

/-- A request adds one ticket. It holds the lock, or waits because somebody owns it. -/
theorem tickets_request {t : LockTable} (h : t.Sound) (a : Int) :
    ∃ slot s, (t.request a).2.tickets = t.tickets ++ [⟨t.nextTicket, a, slot, s⟩] ∧
      (s = .holding ∨ s = .waiting ∧ ∃ l ∈ t.tickets, l.account = a ∧ l.standing.owns = true) := by
  obtain ⟨sound, _, slot, tickets⟩ := attach_cases h a
  let k : Ticket := ⟨t.nextTicket, a, slot, .attached⟩
  have mem : k ∈ (t.attach a).tickets := by
    rw [tickets]
    exact List.mem_append_right _ (List.mem_singleton_self k)
  have found : (t.attach a).ticket? t.nextTicket = some k := ticket?_of_mem sound mem
  have others : ∀ s, setStanding t.nextTicket s t.tickets = t.tickets := by
    intro s
    refine setStanding_of_ne s fun l hl => ?_
    exact Nat.ne_of_lt (h.number_lt l hl)
  refine ⟨slot, if (t.attach a).isTaken slot then .waiting else .holding, ?_, ?_⟩
  · simp only [request, acquire, found, tickets, setStanding, List.map_append, List.map_cons,
      List.map_nil, if_true, k]
    simp only [setStanding] at others
    rw [others]
  · cases taken : (t.attach a).isTaken slot with
    | false => exact .inl (if_neg Bool.false_ne_true)
    | true =>
        refine .inr ⟨if_pos rfl, ?_⟩
        obtain ⟨l, hl, hs⟩ := List.any_eq_true.mp taken
        have ⟨same, owns⟩ : l.slot = slot ∧ l.standing.owns = true := by simpa using hs
        have account : l.account = a := by
          refine sound.slot_inj (sound.on_slot l hl) ?_
          rw [same]
          exact sound.on_slot k mem
        rw [tickets] at hl
        rcases List.mem_append.mp hl with old | new
        · exact ⟨l, old, account, owns⟩
        · rw [List.mem_singleton.mp new] at owns
          exact absurd owns Bool.false_ne_true

theorem standing?_of_mem {t : LockTable} (h : t.Sound) {k : Ticket} (hk : k ∈ t.tickets) :
    t.standing? k.number = some k.standing := by
  rw [standing?, ticket?_of_mem h hk]
  rfl

theorem mem_held {t : LockTable} {p : Int × Nat} :
    p ∈ t.held ↔ ∃ k ∈ t.tickets, k.standing = .holding ∧ k.key = p := by
  simp [held, and_assoc]

theorem mem_awaited {t : LockTable} {p : Int × Nat} :
    p ∈ t.awaited ↔ ∃ k ∈ t.tickets, k.standing ≠ .holding ∧ k.key = p := by
  simp [awaited, and_assoc]

/-- What a request does to the tickets that hold and to those that wait. -/
theorem request_cases {t : LockTable} (h : t.Sound) (a : Int) :
    ((t.request a).2.standing? t.nextTicket = some .holding ∧
      (t.request a).2.held = t.held ++ [(a, t.nextTicket)] ∧
      (t.request a).2.awaited = t.awaited) ∨
    ((t.request a).2.standing? t.nextTicket = some .waiting ∧
      (t.request a).2.held = t.held ∧
      (t.request a).2.awaited = t.awaited ++ [(a, t.nextTicket)] ∧
      ∃ l ∈ t.tickets, l.account = a ∧ l.standing.owns = true) := by
  obtain ⟨slot, s, tickets, hs⟩ := tickets_request h a
  have mem : (⟨t.nextTicket, a, slot, s⟩ : Ticket) ∈ (t.request a).2.tickets := by
    rw [tickets]
    exact List.mem_append_right _ (List.mem_singleton_self _)
  have standing := standing?_of_mem (sound_request h a) mem
  rcases hs with rfl | ⟨rfl, owner⟩
  · refine .inl ⟨standing, ?_, ?_⟩ <;> simp [held, awaited, tickets, key]
  · refine .inr ⟨standing, ?_, ?_, owner⟩ <;> simp [held, awaited, tickets, key]

/-- Nobody owns the lock of the account's row. -/
def IsFree (t : LockTable) (a : Int) : Prop :=
  ∀ k ∈ t.tickets, k.account = a → k.standing.owns = false

/-- A lock that nobody owns is given at once. -/
theorem holding_of_isFree {t : LockTable} (h : t.Sound) {a : Int} (free : t.IsFree a) :
    (t.request a).2.standing? t.nextTicket = some .holding := by
  rcases request_cases h a with ⟨holding, _⟩ | ⟨_, _, _, k, hk, same, owns⟩
  · exact holding
  · rw [free k hk same] at owns
    cases owns

theorem isFree_request {t : LockTable} (h : t.Sound) {a b : Int} (free : t.IsFree b)
    (apart : a ≠ b) : (t.request a).2.IsFree b := by
  obtain ⟨slot, s, tickets, _⟩ := tickets_request h a
  intro k hk same
  rw [tickets] at hk
  rcases List.mem_append.mp hk with old | new
  · exact free k old same
  · rw [List.mem_singleton.mp new] at same
    exact absurd same apart

theorem held_nodup {t : LockTable} (h : t.Sound) : (t.held.map (·.1)).Nodup := by
  simp only [held, List.Nodup]
  rw [List.map_map, List.pairwise_map]
  have alone := h.exclusive.filter (·.standing == .holding)
  refine alone.imp_of_mem ?_
  intro k l hk hl no same
  have ⟨memk, holdk⟩ := List.mem_filter.mp hk
  have ⟨meml, holdl⟩ := List.mem_filter.mp hl
  have sk := h.on_slot k memk
  have sl := h.on_slot l meml
  change k.account = l.account at same
  rw [same, sl] at sk
  refine no ⟨(Option.some.inj sk).symm, ?_, ?_⟩
  · rw [eq_of_beq holdk]
    rfl
  · rw [eq_of_beq holdl]
    rfl

theorem held_append_awaited {t : LockTable} :
    (t.held ++ t.awaited).Perm (t.tickets.map key) := by
  have parts := (List.filter_append_perm (·.standing == .holding) t.tickets).map key
  rwa [List.map_append] at parts

theorem numbers_nodup {t : LockTable} (h : t.Sound) :
    ((t.held ++ t.awaited).map (·.2)).Nodup := by
  have all : ((t.held ++ t.awaited).map (·.2)).Perm ((t.tickets.map key).map (·.2)) :=
    held_append_awaited.map (·.2)
  rw [List.map_map] at all
  exact all.nodup_iff.mpr h.number_nodup

/-- A ticket that becomes aware of its lock moves from the waiting ones to the holding ones. -/
theorem claim_perm {t : LockTable} (h : t.Sound) {k : Ticket} (hk : k ∈ t.tickets)
    (before : k.standing ≠ .holding) :
    (t.claim k.number).held.Perm (k.key :: t.held) ∧
      t.awaited.Perm (k.key :: (t.claim k.number).awaited) := by
  have now := perm_setStanding h hk .holding
  have then_ := perm_tickets h hk
  have heldNow := (now.filter (·.standing == .holding)).map key
  have heldThen := (then_.filter (·.standing == .holding)).map key
  have awaitedNow := (now.filter (·.standing != .holding)).map key
  have awaitedThen := (then_.filter (·.standing != .holding)).map key
  rw [List.filter_cons_of_pos (by simp), List.map_cons] at heldNow
  rw [List.filter_cons_of_neg (by simpa using before)] at heldThen
  rw [List.filter_cons_of_neg (by simp)] at awaitedNow
  rw [List.filter_cons_of_pos (by simpa using before), List.map_cons] at awaitedThen
  exact ⟨heldNow.trans (heldThen.symm.cons k.key), awaitedThen.trans (awaitedNow.symm.cons k.key)⟩

theorem filter_holding_handOver (slot : Nat) (ks : List Ticket) :
    (handOver slot ks).filter (·.standing == .holding) = ks.filter (·.standing == .holding) := by
  induction ks with
  | nil => rfl
  | cons k ks ih =>
      simp only [handOver]
      split
      · rename_i waits
        rw [List.filter_cons_of_neg (by simp), List.filter_cons_of_neg (by simp [waits.2])]
      · rw [List.filter_cons, List.filter_cons, ih]

theorem map_key_handOver (slot : Nat) (ks : List Ticket) :
    ((handOver slot ks).filter (·.standing != .holding)).map key =
      (ks.filter (·.standing != .holding)).map key := by
  induction ks with
  | nil => rfl
  | cons k ks ih =>
      simp only [handOver]
      split
      · rename_i waits
        rw [List.filter_cons_of_pos (by simp), List.filter_cons_of_pos (by simp [waits.2])]
        rfl
      · rw [List.filter_cons, List.filter_cons]
        split
        · rw [List.map_cons, List.map_cons, ih]
        · exact ih

theorem mem_handOver {slot : Nat} {ks : List Ticket} {l : Ticket} (h : l ∈ handOver slot ks) :
    l ∈ ks ∨ l.slot = slot ∧ l.standing = .granted := by
  induction ks with
  | nil => cases h
  | cons k ks ih =>
      simp only [handOver] at h
      split at h
      · rename_i waits
        rcases List.mem_cons.mp h with rfl | later
        · exact .inr ⟨waits.1, rfl⟩
        · exact .inl (List.mem_cons_of_mem k later)
      · rcases List.mem_cons.mp h with rfl | later
        · exact .inl List.mem_cons_self
        · exact (ih later).imp_left (List.mem_cons_of_mem k)

/-- The lock of a slot that nobody owns is handed to one ticket at most. -/
theorem exclusive_handOver {slot : Nat} {ks : List Ticket}
    (free : ∀ l ∈ ks, l.slot = slot → l.standing.owns = false)
    (h : ks.Pairwise fun k l => ¬ Clash k l) :
    (handOver slot ks).Pairwise fun k l => ¬ Clash k l := by
  induction ks with
  | nil => exact List.Pairwise.nil
  | cons k ks ih =>
      have ⟨first, rest⟩ := List.pairwise_cons.mp h
      have freeRest : ∀ l ∈ ks, l.slot = slot → l.standing.owns = false := by
        intro l hl
        exact free l (List.mem_cons_of_mem k hl)
      simp only [handOver]
      split
      · rename_i waits
        refine List.pairwise_cons.mpr ⟨?_, rest⟩
        intro l hl clash
        have lost := freeRest l hl (clash.1.symm.trans waits.1)
        exact Bool.false_ne_true (lost.symm.trans clash.2.2)
      · refine List.pairwise_cons.mpr ⟨?_, ih freeRest rest⟩
        intro l hl clash
        rcases mem_handOver hl with old | ⟨onSlot, _⟩
        · exact first l old clash
        · have lost := free k List.mem_cons_self (clash.1.trans onSlot)
          exact Bool.false_ne_true (lost.symm.trans clash.2.1)

theorem sound_discard {t : LockTable} (h : t.Sound) (n : Nat) : (t.discard n).Sound := by
  simp only [discard]
  cases hk : t.ticket? n with
  | none => exact h
  | some k =>
      obtain ⟨mem, rfl⟩ := mem_of_ticket? hk
      have rest : (t.tickets.filter (·.number != k.number)).Pairwise fun k l => ¬ Clash k l :=
        h.exclusive.filter _
      have sub : ((t.tickets.filter (·.number != k.number)).map place).Sublist
          (t.tickets.map place) := List.filter_sublist.map place
      refine sound_of_sublist h ?_ ?_
      · split
        · rwa [map_place_handOver]
        · exact sub
      · split
        · rename_i owns
          refine exclusive_handOver ?_ rest
          intro l hl same
          have ⟨old, _⟩ := List.mem_filter.mp hl
          exact not_owns_of_owns h mem old (number_ne_of_mem_filter hl) same owns
        · exact rest

theorem map_key_filter (p : Ticket → Bool) (n : Nat) (ks : List Ticket) :
    ((ks.filter (·.number != n)).filter p).map key =
      ((ks.filter p).map key).filter (·.2 != n) := by
  rw [List.filter_map, List.filter_filter, List.filter_filter]
  congr 2
  funext k
  exact Bool.and_comm _ _

theorem held_discard {t : LockTable} (n : Nat) :
    (t.discard n).held = t.held.filter (·.2 != n) := by
  simp only [discard, held]
  rw [← map_key_filter]
  cases hk : t.ticket? n with
  | none =>
      have all : t.tickets.filter (·.number != n) = t.tickets := by
        refine List.filter_eq_self.mpr fun k mem => ?_
        simpa using List.find?_eq_none.mp hk k mem
      rw [all]
  | some k =>
      dsimp only
      split
      · rw [filter_holding_handOver]
      · rfl

theorem awaited_discard {t : LockTable} (n : Nat) :
    (t.discard n).awaited = t.awaited.filter (·.2 != n) := by
  simp only [discard, awaited]
  rw [← map_key_filter]
  cases hk : t.ticket? n with
  | none =>
      have all : t.tickets.filter (·.number != n) = t.tickets := by
        refine List.filter_eq_self.mpr fun k mem => ?_
        simpa using List.find?_eq_none.mp hk k mem
      rw [all]
  | some k =>
      dsimp only
      split
      · rw [map_key_handOver]
      · rfl

theorem tickets_prune (t : LockTable) (a : Int) : (t.prune a).tickets = t.tickets := by
  simp only [prune]
  split
  · split <;> rfl
  · rfl

/-- A slot that is removed has no ticket on it. -/
theorem sound_prune {t : LockTable} (h : t.Sound) (a : Int) : (t.prune a).Sound := by
  simp only [prune]
  cases hs : t.slot? a with
  | none => exact h
  | some slot =>
      dsimp only
      split
      · exact h
      · rename_i empty
        have kept : ∀ b, slot? { t with slots := t.slots.filter (·.1 != a) } b =
            if b = a then none else t.slot? b := by
          intro b
          exact lookup_filter_ne a b t.slots
        refine ⟨?_, ?_, h.number_nodup, h.number_lt, ?_, h.exclusive⟩
        · intro b c s hb hc
          rw [kept] at hb hc
          split at hb <;> split at hc
          all_goals first | cases hb | cases hc | exact h.slot_inj hb hc
        · intro b s hb
          rw [kept] at hb
          split at hb
          · cases hb
          · exact h.slot_lt hb
        · intro k hk
          rw [kept, if_neg, h.on_slot k hk]
          intro same
          have there := h.on_slot k hk
          rw [same, hs] at there
          exact empty (List.any_eq_true.mpr ⟨k, hk, by simpa using (Option.some.inj there).symm⟩)

theorem sound_release {t : LockTable} (h : t.Sound) (a : Int) (n : Nat) :
    (t.release a n).Sound :=
  sound_prune (sound_discard h n) a

theorem held_release (t : LockTable) (a : Int) (n : Nat) :
    (t.release a n).held = t.held.filter (·.2 != n) := by
  rw [← held_discard, release, held, tickets_prune, held]

theorem awaited_release (t : LockTable) (a : Int) (n : Nat) :
    (t.release a n).awaited = t.awaited.filter (·.2 != n) := by
  rw [← awaited_discard, release, awaited, tickets_prune, awaited]

end LockTable
end DoubleEntry
