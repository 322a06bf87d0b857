import DoubleEntry.Proofs.Store.Guards
import DoubleEntry.Proofs.Store.Upkeep
import Mathlib.Data.Set.Card

/-!
A store that serves one request after another. Nobody waits: a request for a row that another
session has locked is refused at once, as one that has waited too long. Between two requests the
slots in the table are then exactly the rows that open sessions have locked, and whatever a session
has staged is an account on such a row.
-/

namespace DoubleEntry

namespace LockTable

open Ticket

variable {t : LockTable}

/-- Each account has one slot, and each slot a ticket. -/
structure Tight (t : LockTable) : Prop where
  keys : (t.slots.map (·.1)).Nodup
  used : ∀ p ∈ t.slots, ∃ k ∈ t.tickets, k.account = p.1

theorem tight_empty : Tight {} where
  keys := List.nodup_nil
  used _ h := by cases h

theorem used_of_tight (tight : t.Tight) : t.Used fun _ => False :=
  fun p hp => .inl (tight.used p hp)

theorem tight_of_used (keys : (t.slots.map (·.1)).Nodup) (used : t.Used fun _ => False) :
    t.Tight where
  keys := keys
  used p hp := (used p hp).resolve_right id

theorem tight_request (tight : t.Tight) (a : Int) : (t.request a).2.Tight := by
  refine tight_of_used ?_ (used_request (used_of_tight tight) a)
  have slots : (t.request a).2.slots = (t.attach a).slots := by
    simp only [request, acquire]
    split <;> rfl
  exact slots ▸ keys_attach tight.keys a

/-- Slots only go when locks are given back. -/
theorem slots_release_sublist (t : LockTable) (a : Int) (n : Nat) :
    (t.release a n).slots.Sublist t.slots := by
  rw [← slots_discard t n]
  simp only [release, prune]
  split
  · split
    · exact List.Sublist.refl _
    · exact List.filter_sublist
  · exact List.Sublist.refl _

theorem slots_releaseAll_sublist (gs : List (Int × Nat)) (t : LockTable) :
    (MemoryStore.releaseAll gs t).slots.Sublist t.slots := by
  induction gs generalizing t with
  | nil => exact List.Sublist.refl _
  | cons g gs ih => exact (ih (t.release g.1 g.2)).trans (slots_release_sublist t g.1 g.2)

end LockTable

namespace MemoryStore

variable {st : MemoryStore} {loose waits : List (Int × Nat)}

/-- Serves a request at once. Where it would have to wait for a lock, it gives up. -/
def serve (now : Timestamp) (r : StoreRequest) (st : MemoryStore) : r.Reply × MemoryStore :=
  match st.submit now r with
  | (.answered reply, st) => (reply, st)
  | (.waiting ticket, st) => st.expire r ticket

def served (requests : List (Timestamp × StoreRequest)) : MemoryStore :=
  requests.foldl (fun st p => (st.serve p.1 p.2).2) {}

/-- An open session has locked the row of an account. -/
def IsLocked (st : MemoryStore) (a : Int) : Prop :=
  ∃ s x, st.openSession? s = some x ∧ x.holds a = true

/-- How locks, guards and staged accounts belong together. -/
structure Disciplined (st : MemoryStore) : Prop where
  apart : ∀ s t x y, s ≠ t → st.session? s = some x → st.session? t = some y →
    ∀ a, x.holds a = true → y.holds a = false
  slots : ∀ a, (st.locks.slot? a).isSome = true ↔ st.IsLocked a
  size : st.locks.size = {a | st.IsLocked a}.ncard
  idle : (∀ s, st.openSession? s = none) → st.locks.size = 0
  guarded : ∀ s x, st.session? s = some x → ∀ row ∈ x.accounts, x.holds row.id = true
  known : ∀ s x, st.session? s = some x → ∀ a, x.holds a = true → st.tables.hasAccount a = true
  /-- Of a staged account only the balance is the session's own. -/
  agrees : ∀ s x, st.session? s = some x → ∀ row ∈ x.accounts,
    ∃ c, Table.find? row.id st.tables.accounts = some c ∧ c.id = row.id ∧ c.owner = row.owner ∧
      c.currency = row.currency ∧ c.createdAt = row.createdAt
  cleared : ∀ s x, st.session? s = some x → x.finished = true →
    x.guards = [] ∧ x.accounts = [] ∧ x.entries = [] ∧ x.transactions = []

/-- What every request that is served keeps, also while some tickets are loose or waited with. -/
structure Serving (st : MemoryStore) (loose waits : List (Int × Nat)) : Prop where
  order : st.Orderly loose waits
  books : st.books.Sound
  known : st.Known
  tight : st.locks.Tight

theorem serving_empty : Serving {} [] [] where
  order := orderly_empty
  books := Books.sound_empty
  known := known_empty
  tight := LockTable.tight_empty

theorem slots_answer_sublist (st : MemoryStore) (now : Timestamp) (r : StoreRequest) :
    (st.answer now r).2.locks.slots.Sublist st.locks.slots := by
  obtain ⟨gs, _, given⟩ := locks_answer st now r
  rw [given]
  exact LockTable.slots_releaseAll_sublist gs st.locks

theorem tight_answer (h : st.Orderly loose waits) (tight : st.locks.Tight) (now : Timestamp)
    (r : StoreRequest) : (st.answer now r).2.locks.Tight :=
  LockTable.tight_of_used (tight.keys.sublist ((slots_answer_sublist st now r).map _))
    (used_answer h (LockTable.used_of_tight tight) now r)

theorem tight_answerLocked {a : Int} {n : Nat} (h : st.Orderly [(a, n)] waits)
    (tight : st.locks.Tight) (now : Timestamp) {r : StoreRequest} (row : r.row? = some a)
    (still : ∀ s, r.session? = some s → ∃ x, st.openSession? s = some x) :
    (st.answerLocked now r a n).2.locks.Tight := by
  refine LockTable.tight_of_used (tight.keys.sublist (List.Sublist.map _ ?_))
    (used_answerLocked h (LockTable.used_of_tight tight) now row still)
  cases r with
  | begin => cases row
  | abandon s => cases row
  | perform s op =>
      have kept := slots_answer_sublist (st.addGuard s a n) now (.perform s op)
      rwa [locks_addGuard] at kept
  | query q =>
      exact (LockTable.slots_release_sublist _ a n).trans
        (slots_answer_sublist st now (.query q))

theorem sound_of_turns {b b' : Books} {d : Option Deed} (sound : b.Sound) (turns : b.Turns d b') :
    b'.Sound := by
  cases d with
  | none => exact turns ▸ sound
  | some d => exact turns.2 ▸ Books.sound_after sound turns.1

theorem serving_answerLocked {a : Int} {n : Nat} (h : st.Serving [(a, n)] waits) (now : Timestamp)
    {r : StoreRequest} (row : r.row? = some a)
    (still : ∀ s, r.session? = some s → ∃ x, st.openSession? s = some x) :
    (st.answerLocked now r a n).2.Serving [] waits where
  order := orderly_answerLocked h.order now row still
  books := sound_of_turns h.books (books_answerLocked h.order now row still)
  known := known_answerLocked h.order h.books h.known now row still
  tight := tight_answerLocked h.order h.tight now row still

theorem serving_expire {a : Int} {n : Nat} (h : st.Serving [] [(a, n)]) (r : StoreRequest) :
    (st.expire r n).2.Serving [] [] where
  order := orderly_expire h.order r
  books := h.books
  known := h.known
  tight := LockTable.tight_of_used
    (h.tight.keys.sublist ((LockTable.slots_release_sublist st.locks _ n).map _))
    (used_expire h.order (LockTable.used_of_tight h.tight) r)

theorem serving_serve (h : st.Serving [] []) (now : Timestamp) (r : StoreRequest) :
    (st.serve now r).2.Serving [] [] := by
  simp only [serve, submit]
  cases wanted : st.wantedRow? r with
  | none =>
      have guarded := guarded_of_wantedRow? wanted
      have locked : ∀ a, r = .query (.deleteAccount a) → ∃ n, (a, n) ∈ ([] : List (Int × Nat)) := by
        rintro a rfl
        cases wanted
      exact ⟨orderly_answer h.order now r guarded,
        sound_of_turns h.books (books_answer h.order now r guarded locked),
        known_answer h.order h.books h.known now r guarded locked,
        tight_answer h.order h.tight now r⟩
  | some a =>
      obtain ⟨row, still⟩ := wantedRow?_eq_some wanted
      have tight := LockTable.tight_request h.tight a
      have number : (st.locks.request a).1 = st.locks.nextTicket := rfl
      rcases orderly_request h.order a with ⟨standing, order⟩ | ⟨standing, order⟩
      · simp only [number, standing, if_true]
        exact serving_answerLocked ⟨order, h.books, h.known, tight⟩ now row still
      · simp only [number, standing]
        exact serving_expire ⟨order, h.books, h.known, tight⟩ r

theorem serving_served (requests : List (Timestamp × StoreRequest)) :
    (served requests).Serving [] [] :=
  List.foldlRecOn (motive := fun st => Serving st [] []) requests _ serving_empty
    fun _ h p _ => serving_serve h p.1 p.2

theorem isLocked_iff (h : st.Orderly loose waits) {a : Int} :
    st.IsLocked a ↔ a ∈ st.guards.map (·.1) := by
  constructor
  · rintro ⟨s, x, hx, holds⟩
    obtain ⟨g, hg, same⟩ := List.any_eq_true.mp holds
    have hs := mem_of_session? (openSession?_eq_some.mp hx).1
    exact List.mem_map.mpr ⟨g, List.mem_flatMap.mpr ⟨_, hs, hg⟩, eq_of_beq same⟩
  · intro there
    obtain ⟨g, hg, rfl⟩ := List.mem_map.mp there
    obtain ⟨p, hp, hg⟩ := List.mem_flatMap.mp hg
    refine ⟨p.1, p.2, openSession?_eq_some.mpr ⟨session?_of_mem h.distinct hp, ?_⟩,
      List.any_eq_true.mpr ⟨g, hg, beq_self_eq_true g.1⟩⟩
    cases ended : p.2.finished with
    | false => rfl
    | true =>
        rw [(h.tidy p hp).cleared ended] at hg
        cases hg

/-- With nobody waiting, a slot is there for a locked row and for no other. -/
theorem mem_keys_iff (h : st.Serving [] []) {a : Int} :
    a ∈ st.locks.slots.map (·.1) ↔ st.IsLocked a := by
  rw [isLocked_iff h.order]
  constructor
  · intro there
    obtain ⟨p, hp, rfl⟩ := List.mem_map.mp there
    obtain ⟨k, hk, same⟩ := h.tight.used p hp
    exact List.mem_map.mpr ⟨_, mem_guards_of_ticket h.order hk, same⟩
  · intro there
    obtain ⟨g, hg, rfl⟩ := List.mem_map.mp there
    obtain ⟨k, hk, _, rfl⟩ := LockTable.mem_held.mp (h.order.held.mem_iff.mpr hg)
    have slot := LockTable.mem_slots_of_slot? (h.order.sound.on_slot k hk)
    exact List.mem_map.mpr ⟨_, slot, rfl⟩

theorem isSome_slot? {t : LockTable} {a : Int} :
    (t.slot? a).isSome = true ↔ a ∈ t.slots.map (·.1) := by
  rw [Option.isSome_iff_exists]
  constructor
  · rintro ⟨slot, found⟩
    exact List.mem_map.mpr ⟨_, LockTable.mem_slots_of_slot? found, rfl⟩
  · intro there
    obtain ⟨p, hp, rfl⟩ := List.mem_map.mp there
    cases found : t.slot? p.1 with
    | some slot => exact ⟨slot, rfl⟩
    | none => exact absurd rfl (bne_iff_ne.mp (List.lookup_eq_none_iff.mp found p hp))

/-- After any requests, each of them served at once, locks, guards and staged accounts belong
together. -/
theorem disciplined_served (requests : List (Timestamp × StoreRequest)) :
    (served requests).Disciplined := by
  have h := serving_served requests
  generalize served requests = st at h
  have distinct := h.order.distinct
  have size : st.locks.size = {a | st.IsLocked a}.ncard := by
    have keys : {a | st.IsLocked a} = ((st.locks.slots.map (·.1)).toFinset : Set Int) := by
      ext a
      rw [Set.mem_ofPred_eq, ← mem_keys_iff h, List.coe_toFinset, Set.mem_ofPred_eq]
    rw [keys, Set.ncard_coe_finset, List.toFinset_card_of_nodup h.tight.keys, List.length_map]
    rfl
  refine ⟨?_, fun a => isSome_slot?.trans (mem_keys_iff h), size, ?_, ?_, ?_, ?_, ?_⟩
  · intro s t x y ne hs ht a holds
    have other : (t, y) ∈ st.others s :=
      List.mem_filter.mpr ⟨mem_of_session? ht, bne_iff_ne.mpr (Ne.symm ne)⟩
    exact not_holds_of_holds h.order hs holds other
  · intro idle
    rw [size]
    refine (congrArg Set.ncard (Set.eq_empty_iff_forall_notMem.mpr ?_)).trans (Set.ncard_empty Int)
    rintro a ⟨s, x, hx, _⟩
    rw [idle s] at hx
    cases hx
  · exact fun s x hs => (h.order.tidy _ (mem_of_session? hs)).guarded
  · intro s x hs a holds
    obtain ⟨g, hg, same⟩ := List.any_eq_true.mp holds
    exact eq_of_beq same ▸ h.known s g (guardsOf_of_session? hs ▸ hg)
  · intro s x hs row hr
    -- A finished session has staged nothing; an open one has its drafts in the books.
    have still : x.finished = false := by
      cases ended : x.finished with
      | false => rfl
      | true =>
          have cleared : x = { finished := true } :=
            (h.order.tidy _ (mem_of_session? hs)).cleared ended
          rw [cleared] at hr
          cases hr
    have draft := drafts_of_open (openSession?_eq_some.mpr ⟨hs, still⟩)
    obtain ⟨_, c, hc, shape⟩ := h.books.drafted s _ draft row hr
    exact ⟨c, hc, by rw [shape], by rw [shape], by rw [shape], by rw [shape]⟩
  · intro s x hs ended
    have cleared : x = { finished := true } := (h.order.tidy _ (mem_of_session? hs)).cleared ended
    rw [cleared]
    exact ⟨rfl, rfl, rfl, rfl⟩

end MemoryStore
end DoubleEntry
