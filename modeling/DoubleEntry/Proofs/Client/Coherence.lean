import DoubleEntry.Proofs.Client.Traffic

/-!
What clients know of what they have done. A session belongs to the client that has begun it; what
was done in it is what its client has done there, in the same order, and nothing else; and whatever
waits at the store is waited for by a client.
-/

namespace DoubleEntry

namespace Deed

theorem session?_of? {r : StoreRequest} {reply : r.Reply} {d : Deed}
    (h : Deed.of? r reply = some d) :
    d.session? = r.session? ∨ ∃ s, d = .began s := by
  simp only [Deed.of?] at h
  split at h
  all_goals cases h
  case h_1 s => exact .inr ⟨s, rfl⟩
  all_goals exact .inl rfl

end Deed

namespace Desk

variable {d d' : Desk} {now : Timestamp} {r : StoreRequest}

theorem answered_submit? {answer : r.Reply} (h : d.submit? now r = some (.answered answer, d')) :
    d'.deeds = d.deeds ++ (Deed.of? r answer).toList ∧ d'.waiting = d.waiting := by
  simp only [submit?] at h
  split at h
  · cases h
  · split at h
    · cases h
      exact ⟨rfl, rfl⟩
    · cases h

theorem waiting_submit? {ticket : Nat} (h : d.submit? now r = some (.waiting ticket, d')) :
    d'.deeds = d.deeds ∧ d'.waiting = d.waiting ++ [⟨ticket, r⟩] := by
  simp only [submit?] at h
  split at h
  · cases h
  · split at h
    · cases h
    · cases h
      exact ⟨rfl, rfl⟩

theorem answered_resume? {ticket : Nat} {answer : r.Reply}
    (h : d.resume? now r ticket = some (answer, d')) :
    d'.deeds = d.deeds ++ (Deed.of? r answer).toList ∧
      d'.waiting = d.waiting.filter (·.ticket != ticket) := by
  simp only [resume?] at h
  split at h
  · cases h
    exact ⟨rfl, rfl⟩
  · cases h

theorem answered_expire? {ticket : Nat} {answer : r.Reply}
    (h : d.expire? r ticket = some (answer, d')) :
    d'.deeds = d.deeds ++ (Deed.of? r answer).toList ∧
      d'.waiting = d.waiting.filter (·.ticket != ticket) := by
  simp only [expire?] at h
  split at h
  · cases h
    exact ⟨rfl, rfl⟩
  · cases h

theorem deeds_desert (d : Desk) (ticket : Nat) : (d.desert ticket).deeds = d.deeds := by
  simp only [desert]
  split <;> rfl

theorem mem_desert {ticket : Nat} {p : Pending} (h : p ∈ (d.desert ticket).waiting) :
    p ∈ d.waiting ∧ p.ticket ≠ ticket := by
  simp only [desert] at h
  split at h
  · have other := (List.mem_filter.mp h).2
    exact ⟨List.mem_of_mem_filter h, bne_iff_ne.mp other⟩
  · rename_i absent
    refine ⟨h, fun same => absent ?_⟩
    exact List.any_eq_true.mpr ⟨p, h, beq_iff_eq.mpr same⟩

/-- A session that nothing waits for can be ended at once. -/
theorem step_abandon (now : Timestamp) {s : SessionId} (d : Desk)
    (free : ∀ p ∈ d.waiting, p.request.session? ≠ some s) :
    d.step (.submit now (.abandon s)) = d.record (.abandon s) () (d.store.abandon s) := by
  have idle : d.isBusy (.abandon s) = false := by
    refine List.any_eq_false.mpr fun p hp busy => free p hp ?_
    simpa [StoreRequest.session?] using busy
  simp only [step, submit?, idle]
  rfl

theorem abandonAll_eq (now : Timestamp) {ss : List SessionId} (d : Desk)
    (free : ∀ p ∈ d.waiting, ∀ s ∈ ss, p.request.session? ≠ some s) :
    (d.abandonAll now ss).deeds = d.deeds ++ ss.map .abandoned ∧
      (d.abandonAll now ss).waiting = d.waiting := by
  induction ss generalizing d with
  | nil =>
      refine ⟨?_, rfl⟩
      rw [List.map_nil, List.append_nil]
      rfl
  | cons s ss ih =>
      have first := step_abandon now d fun p hp => free p hp s List.mem_cons_self
      obtain ⟨deeds, waiting⟩ := ih (d.step (.submit now (.abandon s))) (by
        rw [first]
        exact fun p hp t ht => free p hp t (List.mem_cons_of_mem s ht))
      rw [first] at deeds waiting
      refine ⟨?_, ?_⟩
      · rw [List.map_cons, List.append_cons]
        simp only [abandonAll, List.foldl_cons, first] at deeds ⊢
        exact deeds
      · simp only [abandonAll, List.foldl_cons, first] at waiting ⊢
        exact waiting

theorem orderly_abandonAll (h : d.Orderly) (now : Timestamp) (ss : List SessionId) :
    (d.abandonAll now ss).Orderly := by
  induction ss generalizing d with
  | nil => exact h
  | cons s ss ih => exact ih (orderly_step h _)

end Desk

namespace Client

variable {α : Type} {c c' : Client α} {d d' : Desk}

/-- The client waits for the reply to a request that waits at the store. -/
def WaitsWith (c : Client α) (p : Pending) : Prop :=
  ∃ q next, ∃ reply : p.request.Reply → q.Reply, c.stage = .waiting p.ticket q next ∧
    q.call? = some ⟨p.request, reply⟩ ∧ c.owns p.request = true

theorem not_waitsWith_of_running {p : Program (Timed LedgerStore) α}
    (at_ : c.stage = .running p) (w : Pending) : ¬ c.WaitsWith w := by
  rintro ⟨_, _, _, waits, _⟩
  rw [at_] at waits
  cases waits

theorem not_waitsWith_of_ne {ticket : Nat} {q : TimedRequest LedgerStore}
    {next : q.Reply → Program (Timed LedgerStore) α} (at_ : c.stage = .waiting ticket q next)
    {w : Pending} (ne : w.ticket ≠ ticket) : ¬ c.WaitsWith w := by
  rintro ⟨_, _, _, waits, _⟩
  rw [at_] at waits
  cases waits
  exact ne rfl

/-- What waits for a session of the client waits for the client. -/
def UsesAlone (c : Client α) (d : Desk) : Prop :=
  ∀ p ∈ d.waiting, ∀ s ∈ c.begun, p.request.session? = some s → c.WaitsWith p

/-- Nothing waits for the sessions of a client that goes on. -/
theorem UsesAlone.of_running (alone : c.UsesAlone d) {p : Program (Timed LedgerStore) α}
    (at_ : c.stage = .running p) :
    ∀ p ∈ d.waiting, ∀ s ∈ c.begun, p.request.session? ≠ some s :=
  fun w hw s hs same => not_waitsWith_of_running at_ w (alone w hw s hs same)

theorem UsesAlone.of_waiting (alone : c.UsesAlone d) {ticket : Nat} {q : TimedRequest LedgerStore}
    {next : q.Reply → Program (Timed LedgerStore) α} (at_ : c.stage = .waiting ticket q next) :
    ∀ p ∈ (d.desert ticket).waiting, ∀ s ∈ c.begun, p.request.session? ≠ some s := by
  intro p hp s hs same
  have ⟨old, other⟩ := Desk.mem_desert hp
  exact not_waitsWith_of_ne at_ other (alone p old s hs same)

theorem mem_begun_of_owns {r : StoreRequest} (owns : c.owns r = true) {s : SessionId}
    (hs : r.session? = some s) : s ∈ c.begun := by
  simpa [owns, hs, Client.owns] using owns

theorem orderly_turned (h : Turned c d c' d') (order : d.Orderly) : d'.Orderly := by
  cases h with
  | noted at_ => exact order
  | idle at_ quiet => exact order
  | answered at_ call owns done => exact Desk.orderly_submit? order done
  | queued at_ call owns done => exact Desk.orderly_submit? order done
  | resumed at_ call done => exact Desk.orderly_resume? order done
  | expired at_ call done => exact Desk.orderly_expire? order done
  | stopped at_ quiet => exact Desk.orderly_desert order _
  | dropped now at_ suspends => exact Desk.orderly_abandonAll order now _
  | halted now at_ => exact Desk.orderly_abandonAll order now _
  | deserted now at_ => exact Desk.orderly_abandonAll (Desk.orderly_desert order _) now _

/-- What waits after a turn is waited for by the client, or was waited for by another before. -/
theorem waiting_turned (h : Turned c d c' d')
    (alone : c.UsesAlone d) {p : Pending} (hp : p ∈ d'.waiting) :
    c'.WaitsWith p ∨ p ∈ d.waiting ∧ ¬ c.WaitsWith p := by
  cases h with
  | noted at_ => exact .inr ⟨hp, not_waitsWith_of_running at_ p⟩
  | idle at_ quiet => exact .inr ⟨hp, not_waitsWith_of_running at_ p⟩
  | answered at_ call owns done =>
      rw [(Desk.answered_submit? done).2] at hp
      exact .inr ⟨hp, not_waitsWith_of_running at_ p⟩
  | queued at_ call owns done =>
      rw [(Desk.waiting_submit? done).2] at hp
      cases List.mem_append.mp hp with
      | inl old => exact .inr ⟨old, not_waitsWith_of_running at_ p⟩
      | inr new =>
          cases List.mem_singleton.mp new
          exact .inl ⟨_, _, _, rfl, call, owns⟩
  | resumed at_ call done =>
      rw [(Desk.answered_resume? done).2] at hp
      have ⟨old, other⟩ := List.mem_filter.mp hp
      exact .inr ⟨old, not_waitsWith_of_ne at_ (bne_iff_ne.mp other)⟩
  | expired at_ call done =>
      rw [(Desk.answered_expire? done).2] at hp
      have ⟨old, other⟩ := List.mem_filter.mp hp
      exact .inr ⟨old, not_waitsWith_of_ne at_ (bne_iff_ne.mp other)⟩
  | stopped at_ quiet =>
      have ⟨old, other⟩ := Desk.mem_desert hp
      exact .inr ⟨old, not_waitsWith_of_ne at_ other⟩
  | dropped now at_ suspends =>
      rw [(Desk.abandonAll_eq now d (alone.of_running at_)).2] at hp
      exact .inr ⟨hp, not_waitsWith_of_running at_ p⟩
  | halted now at_ =>
      rw [(Desk.abandonAll_eq now d (alone.of_running at_)).2] at hp
      exact .inr ⟨hp, not_waitsWith_of_running at_ p⟩
  | deserted now at_ =>
      rw [(Desk.abandonAll_eq now _ (alone.of_waiting at_)).2] at hp
      have ⟨old, other⟩ := Desk.mem_desert hp
      exact .inr ⟨old, not_waitsWith_of_ne at_ other⟩

/-- What a client adds to its deeds: some in sessions that it has begun, or the beginning of one.
Only the ends of sessions come together. -/
structure Adds (c : Client α) (ds : List Deed) (c' : Client α) : Prop where
  deeds : c'.deeds = c.deeds ++ ds
  own : ∀ e ∈ ds, ∀ s, e.session? = some s → s ∈ c.begun ∨ e = .began s ∧ ds = [e]
  single : ∀ e ∈ ds, ds = [e] ∨ ∃ s, e = .abandoned s

theorem adds_nothing (same : c'.deeds = c.deeds) : c.Adds [] c' where
  deeds := by rw [same, List.append_nil]
  own _ he := by cases he
  single _ he := by cases he

theorem adds_hear {q : TimedRequest LedgerStore} {next : q.Reply → Program (Timed LedgerStore) α}
    {r : StoreRequest} {reply : r.Reply → q.Reply} (call : q.call? = some ⟨r, reply⟩)
    (owns : c.owns r = true) (answer : r.Reply) :
    c.Adds (Deed.of? r answer).toList (c.hear q next (reply answer)) := by
  have single : ∀ e ∈ (Deed.of? r answer).toList, (Deed.of? r answer).toList = [e] := by
    intro e he
    rw [Option.mem_toList.mp he]
    rfl
  refine ⟨congrArg (c.deeds ++ ·) (TimedRequest.deeds_call? call answer), ?_,
    fun e he => .inl (single e he)⟩
  intro e he s hs
  cases Deed.session?_of? (Option.mem_toList.mp he) with
  | inl same => exact .inl (mem_begun_of_owns owns (same.symm.trans hs))
  | inr new =>
      obtain ⟨t, rfl⟩ := new
      cases hs
      exact .inr ⟨rfl, single _ he⟩

theorem adds_leave (c : Client α) : c.Adds (c.begun.map .abandoned) c.leave where
  deeds := rfl
  own e he s hs := by
    obtain ⟨t, ht, rfl⟩ := List.mem_map.mp he
    cases hs
    exact .inl ht
  single e he := by
    obtain ⟨t, _, rfl⟩ := List.mem_map.mp he
    exact .inr ⟨t, rfl⟩

/-- In a turn the client and the store note the same. -/
theorem adds_turned (h : Turned c d c' d')
    (alone : c.UsesAlone d)
    (owned : ∀ ticket q next, c.stage = .waiting ticket q next → ∀ r reply,
      q.call? = some ⟨r, reply⟩ → c.owns r = true) :
    ∃ ds, c.Adds ds c' ∧ d'.deeds = d.deeds ++ ds := by
  cases h with
  | noted at_ => exact ⟨[], adds_nothing rfl, (List.append_nil _).symm⟩
  | @idle q next reply at_ quiet =>
      refine ⟨[], adds_nothing ?_, (List.append_nil _).symm⟩
      simp only [hear, quiet.1, List.append_nil]
  | answered at_ call owns done =>
      exact ⟨_, adds_hear call owns _, (Desk.answered_submit? done).1⟩
  | queued at_ call owns done =>
      refine ⟨[], adds_nothing rfl, ?_⟩
      rw [(Desk.waiting_submit? done).1, List.append_nil]
  | resumed at_ call done =>
      exact ⟨_, adds_hear call (owned _ _ _ at_ _ _ call) _, (Desk.answered_resume? done).1⟩
  | expired at_ call done =>
      exact ⟨_, adds_hear call (owned _ _ _ at_ _ _ call) _, (Desk.answered_expire? done).1⟩
  | stopped at_ quiet =>
      refine ⟨[], adds_nothing ?_, ?_⟩
      · simp only [hear, quiet.1, List.append_nil]
      · rw [Desk.deeds_desert, List.append_nil]
  | dropped now at_ suspends =>
      exact ⟨_, adds_leave c, (Desk.abandonAll_eq now d (alone.of_running at_)).1⟩
  | halted now at_ => exact ⟨_, adds_leave c, (Desk.abandonAll_eq now d (alone.of_running at_)).1⟩
  | deserted now at_ =>
      refine ⟨_, adds_leave c, ?_⟩
      rw [(Desk.abandonAll_eq now _ (alone.of_waiting at_)).1, Desk.deeds_desert]

namespace Adds

variable {ds : List Deed} {s : SessionId}

theorem begun_append (h : c.Adds ds c') : c'.begun = c.begun ++ ds.filterMap Deed.begun? := by
  rw [begun, h.deeds, List.filterMap_append]
  rfl

theorem mem_begun (h : c.Adds ds c') (hs : s ∈ c.begun) : s ∈ c'.begun := by
  rw [h.begun_append]
  exact List.mem_append_left _ hs

theorem begun_cases (h : c.Adds ds c') (hs : s ∈ c'.begun) : s ∈ c.begun ∨ ds = [.began s] := by
  rw [h.begun_append] at hs
  cases List.mem_append.mp hs with
  | inl old => exact .inl old
  | inr now =>
      obtain ⟨e, he, same⟩ := List.mem_filterMap.mp now
      cases e <;> cases same
      cases h.own _ he s rfl with
      | inl old => exact .inl old
      | inr single => exact .inr single.2

theorem owned (h : c.Adds ds c')
    (before : ∀ e ∈ c.deeds, ∀ s, e.session? = some s → s ∈ c.begun) :
    ∀ e ∈ c'.deeds, ∀ s, e.session? = some s → s ∈ c'.begun := by
  intro e he s hs
  rw [h.deeds] at he
  cases List.mem_append.mp he with
  | inl old => exact h.mem_begun (before e old s hs)
  | inr now =>
      cases h.own e now s hs with
      | inl old => exact h.mem_begun old
      | inr single =>
          rw [h.begun_append, single.2, single.1]
          exact List.mem_append_right _ (List.mem_singleton_self s)

end Adds

theorem owned_turned (h : Turned c d c' d') (ticket : Nat) (q : TimedRequest LedgerStore)
    (next : q.Reply → Program (Timed LedgerStore) α) (at_' : c'.stage = .waiting ticket q next)
    (r : StoreRequest) (reply : r.Reply → q.Reply) (call : q.call? = some ⟨r, reply⟩) :
    c'.owns r = true := by
  cases h with
  | queued at_ call' owns done =>
      cases at_'
      rw [call'] at call
      cases call
      exact owns
  | noted at_ => cases at_'
  | idle at_ quiet => cases at_'
  | answered at_ call' owns done => cases at_'
  | resumed at_ call' done => cases at_'
  | expired at_ call' done => cases at_'
  | stopped at_ quiet => cases at_'
  | dropped now at_ suspends => cases at_'
  | halted now at_ => cases at_'
  | deserted now at_ => cases at_'

end Client

namespace Traffic

variable {w : Traffic}

/-- What clients know and what the store records agree. -/
structure Coherent (w : Traffic) : Prop where
  order : w.desk.Orderly
  early : ∀ x ∈ w.clients, ∀ s ∈ x.2.begun, s < (Books.replay w.desk.deeds).nextSession
  apart : ∀ (i j : Nat) (x y : AnyClient), i ≠ j → w.clients[i]? = some x → w.clients[j]? = some y →
    ∀ s ∈ x.2.begun, s ∉ y.2.begun
  owned : ∀ x ∈ w.clients, ∀ e ∈ x.2.deeds, ∀ s, e.session? = some s → s ∈ x.2.begun
  same : ∀ x ∈ w.clients, ∀ s ∈ x.2.begun,
    w.desk.deeds.filter (·.isOf s) = x.2.deeds.filter (·.isOf s)
  known : ∀ e ∈ w.desk.deeds, ∃ x ∈ w.clients, e ∈ x.2.deeds
  awaited : ∀ p ∈ w.desk.waiting, ∃ i : Nat, ∃ x : AnyClient, w.clients[i]? = some x ∧
    x.2.WaitsWith p
  asked : ∀ x ∈ w.clients, ∀ ticket q next, x.2.stage = .waiting ticket q next →
    ∀ r reply, q.call? = some ⟨r, reply⟩ → x.2.owns r = true

theorem coherent_empty : Coherent {} where
  order := Desk.orderly_empty
  early _ h := by cases h
  apart _ _ _ _ _ h := by cases h
  owned _ h := by cases h
  same _ h := by cases h
  known _ h := by cases h
  awaited _ h := by cases h
  asked _ h := by cases h

theorem getElem?_concat {α : Type _} {xs : List α} {x y : α} {i : Nat}
    (h : (xs ++ [x])[i]? = some y) : xs[i]? = some y ∨ y = x := by
  by_cases hi : i < xs.length
  · rw [List.getElem?_append_left hi] at h
    exact .inl h
  · rw [List.getElem?_append_right (Nat.le_of_not_lt hi)] at h
    cases hk : i - xs.length with
    | zero =>
        rw [hk] at h
        exact .inr (Option.some.inj h).symm
    | succ k =>
        rw [hk] at h
        cases h

theorem coherent_spawn (h : w.Coherent) {α : Type} (p : Program (Timed LedgerStore) α) :
    (w.step (.spawn p)).Coherent := by
  have members : ∀ x, x ∈ (w.step (.spawn p)).clients →
      x ∈ w.clients ∨ x = ⟨α, Client.start p⟩ := by
    intro x hx
    cases List.mem_append.mp hx with
    | inl old => exact .inl old
    | inr new => exact .inr (List.mem_singleton.mp new)
  refine ⟨h.order, ?_, ?_, ?_, ?_, ?_, ?_, ?_⟩
  · intro x hx s hs
    cases members x hx with
    | inl old => exact h.early x old s hs
    | inr new =>
        cases new
        cases hs
  · intro i j x y ne hx hy s hs hs'
    cases getElem?_concat hx with
    | inr new =>
        cases new
        cases hs
    | inl old =>
        cases getElem?_concat hy with
        | inr new =>
            cases new
            cases hs'
        | inl old' => exact h.apart i j x y ne old old' s hs hs'
  · intro x hx e he s hs
    cases members x hx with
    | inl old => exact h.owned x old e he s hs
    | inr new =>
        cases new
        cases he
  · intro x hx s hs
    cases members x hx with
    | inl old => exact h.same x old s hs
    | inr new =>
        cases new
        cases hs
  · intro e he
    obtain ⟨x, hx, there⟩ := h.known e he
    exact ⟨x, List.mem_append_left _ hx, there⟩
  · intro q hq
    obtain ⟨i, x, hx, waits⟩ := h.awaited q hq
    have hi : i < w.clients.length := (List.getElem?_eq_some_iff.mp hx).1
    refine ⟨i, x, ?_, waits⟩
    exact (List.getElem?_append_left hi).trans hx
  · intro x hx ticket q next at_ r reply call
    cases members x hx with
    | inl old => exact h.asked x old ticket q next at_ r reply call
    | inr new =>
        cases new
        cases at_

/-- What waits for a session waits for the client that has begun it. -/
theorem waitsWith_of_session (h : w.Coherent) {i : Nat} {x : AnyClient}
    (hx : w.clients[i]? = some x) {p : Pending} (hp : p ∈ w.desk.waiting) {s : SessionId}
    (hs : s ∈ x.2.begun) (same : p.request.session? = some s) : x.2.WaitsWith p := by
  obtain ⟨j, y, hy, waits⟩ := h.awaited p hp
  obtain ⟨q, next, reply, at_, call, owns⟩ := waits
  have mine := Client.mem_begun_of_owns owns same
  by_cases hij : i = j
  · subst hij
    rw [hx] at hy
    cases hy
    exact ⟨q, next, reply, at_, call, owns⟩
  · exact absurd mine (h.apart i j x y hij hx hy s hs)

theorem filter_isOf_of_late (h : w.Coherent) {s : SessionId}
    (late : (Books.replay w.desk.deeds).nextSession ≤ s) :
    w.desk.deeds.filter (·.isOf s) = [] ∧
      ∀ x ∈ w.clients, x.2.deeds.filter (·.isOf s) = [] := by
  have none : ∀ x ∈ w.clients, x.2.deeds.filter (·.isOf s) = [] := by
    intro x hx
    refine List.filter_eq_nil_iff.mpr fun e he mine => ?_
    have begun := h.owned x hx e he s (eq_of_beq mine)
    exact Nat.not_lt.mpr late (h.early x hx s begun)
  refine ⟨List.filter_eq_nil_iff.mpr fun e he mine => ?_, none⟩
  obtain ⟨x, hx, there⟩ := h.known e he
  exact List.filter_eq_nil_iff.mp (none x hx) e there mine

theorem usesAlone_of_coherent (h : w.Coherent) {i : Nat} {α : Type} {c : Client α}
    (hc : w.clients[i]? = some ⟨α, c⟩) : c.UsesAlone w.desk :=
  fun _ hp _ hs same => waitsWith_of_session h hc hp hs same

theorem adds_of_turned (h : w.Coherent) {i : Nat} {α : Type} {c c' : Client α} {d' : Desk}
    (hc : w.clients[i]? = some ⟨α, c⟩) (turned : Client.Turned c w.desk c' d') :
    ∃ ds, c.Adds ds c' ∧ d'.deeds = w.desk.deeds ++ ds :=
  Client.adds_turned turned (usesAlone_of_coherent h hc) fun ticket q next at_ r reply call =>
    h.asked ⟨α, c⟩ (List.mem_of_getElem? hc) ticket q next at_ r reply call

section List

variable {β : Type _} {xs : List β} {x y new : β} {i : Nat}

theorem getElem?_set_cases {j : Nat} (hx : (xs.set i new)[j]? = some x) :
    j = i ∧ x = new ∨ j ≠ i ∧ xs[j]? = some x := by
  by_cases same : i = j
  · subst same
    obtain ⟨_, rfl⟩ := List.getElem?_eq_some_iff.mp hx
    exact .inl ⟨rfl, List.getElem_set_self _⟩
  · rw [List.getElem?_set_ne same] at hx
    exact .inr ⟨Ne.symm same, hx⟩

theorem mem_set_cases (hx : x ∈ xs.set i new) : x = new ∨ ∃ j, j ≠ i ∧ xs[j]? = some x := by
  obtain ⟨j, hj⟩ := List.getElem?_of_mem hx
  cases getElem?_set_cases hj with
  | inl me => exact .inl me.2
  | inr other => exact .inr ⟨j, other⟩

/-- Members that are apart stay apart if a new one is apart from those it is put among. -/
theorem apart_set {R : β → β → Prop} (symmetric : ∀ x y, R x y → R y x)
    (old : ∀ (j k : Nat) (x y : β), j ≠ k → xs[j]? = some x → xs[k]? = some y → R x y)
    (meets : ∀ (k : Nat) (y : β), k ≠ i → xs[k]? = some y → R new y) {j k : Nat} (ne : j ≠ k)
    (hx : (xs.set i new)[j]? = some x) (hy : (xs.set i new)[k]? = some y) : R x y := by
  cases getElem?_set_cases hx with
  | inl mine =>
      cases getElem?_set_cases hy with
      | inl mine' => exact absurd (mine.1.trans mine'.1.symm) ne
      | inr other => exact mine.2 ▸ meets k y other.1 other.2
  | inr other =>
      cases getElem?_set_cases hy with
      | inl mine => exact mine.2 ▸ symmetric _ _ (meets j x other.1 other.2)
      | inr other' => exact old j k x y ne other.2 other'.2

end List

section Turn

variable {i : Nat} {α : Type} {c c' : Client α} {d' : Desk} {ds : List Deed} {s : SessionId}

/-- A session that begins has the next number, so that nobody knows it yet. -/
theorem not_begun_of_new (h : w.Coherent) (lawful : Books.Lawful (w.desk.deeds ++ [.began s]))
    {x : AnyClient} (hx : x ∈ w.clients) : s ∉ x.2.begun := by
  intro hs
  have new : s = (Books.replay w.desk.deeds).nextSession := (Books.lawful_snoc lawful).2
  exact Nat.lt_irrefl _ (new ▸ h.early x hx s hs)

theorem early_turn (h : w.Coherent) (hc : w.clients[i]? = some ⟨α, c⟩)
    (lawful : Books.Lawful (w.desk.deeds ++ ds)) (adds : c.Adds ds c') (hs : s ∈ c'.begun) :
    s < (Books.replay (w.desk.deeds ++ ds)).nextSession := by
  cases adds.begun_cases hs with
  | inl old =>
      exact Nat.lt_of_lt_of_le (h.early ⟨α, c⟩ (List.mem_of_getElem? hc) s old)
        (Books.nextSession_le_append lawful)
  | inr single =>
      subst single
      rw [Books.replay_snoc]
      exact Nat.lt_succ_self s

theorem apart_turn (h : w.Coherent) (hc : w.clients[i]? = some ⟨α, c⟩)
    (lawful : Books.Lawful (w.desk.deeds ++ ds)) (adds : c.Adds ds c') {j : Nat} {y : AnyClient}
    (ne : j ≠ i) (hy : w.clients[j]? = some y) (hs : s ∈ c'.begun) : s ∉ y.2.begun := by
  cases adds.begun_cases hs with
  | inl old => exact h.apart i j ⟨α, c⟩ y (Ne.symm ne) hc hy s old
  | inr single =>
      subst single
      exact not_begun_of_new h lawful (List.mem_of_getElem? hy)

theorem filter_isOf_of_other (h : w.Coherent) (hc : w.clients[i]? = some ⟨α, c⟩)
    (lawful : Books.Lawful (w.desk.deeds ++ ds)) (adds : c.Adds ds c') {j : Nat} {y : AnyClient}
    (ne : j ≠ i) (hy : w.clients[j]? = some y) (hs : s ∈ y.2.begun) :
    ds.filter (·.isOf s) = [] := by
  refine List.filter_eq_nil_iff.mpr fun e he isOf => ?_
  cases adds.own e he s (eq_of_beq isOf) with
  | inl own => exact h.apart j i y ⟨α, c⟩ ne hy hc s hs own
  | inr single =>
      cases single.1
      rw [single.2] at lawful
      exact not_begun_of_new h lawful (List.mem_of_getElem? hy) hs

theorem same_turn (h : w.Coherent) (hc : w.clients[i]? = some ⟨α, c⟩)
    (lawful : Books.Lawful (w.desk.deeds ++ ds)) (adds : c.Adds ds c') (hs : s ∈ c'.begun) :
    (w.desk.deeds ++ ds).filter (·.isOf s) = c'.deeds.filter (·.isOf s) := by
  have mem := List.mem_of_getElem? hc
  rw [adds.deeds, List.filter_append, List.filter_append]
  cases adds.begun_cases hs with
  | inl old => rw [h.same ⟨α, c⟩ mem s old]
  | inr single =>
      rw [single] at lawful
      have late := Nat.le_of_eq (Books.lawful_snoc lawful).2.symm
      obtain ⟨desk, clients⟩ := filter_isOf_of_late h late
      have none : c.deeds.filter (·.isOf s) = [] := clients ⟨α, c⟩ mem
      rw [desk, none]

theorem known_turn (h : w.Coherent) (hc : w.clients[i]? = some ⟨α, c⟩) (adds : c.Adds ds c')
    {e : Deed} (he : e ∈ w.desk.deeds ++ ds) : ∃ x ∈ w.clients.set i ⟨α, c'⟩, e ∈ x.2.deeds := by
  have hi : i < w.clients.length := (List.getElem?_eq_some_iff.mp hc).1
  have me : ∀ e ∈ c.deeds ++ ds, ∃ x ∈ w.clients.set i ⟨α, c'⟩, e ∈ x.2.deeds := by
    intro e he
    rw [← adds.deeds] at he
    exact ⟨⟨α, c'⟩, List.mem_set hi _, he⟩
  cases List.mem_append.mp he with
  | inr now => exact me e (List.mem_append_right _ now)
  | inl old =>
      obtain ⟨x, hx, there⟩ := h.known e old
      obtain ⟨j, hj⟩ := List.getElem?_of_mem hx
      by_cases same : i = j
      · subst same
        rw [hc] at hj
        cases hj
        exact me e (List.mem_append_left _ there)
      · rw [← List.getElem?_set_ne same] at hj
        exact ⟨x, List.mem_of_getElem? hj, there⟩

theorem awaited_turn (h : w.Coherent) (hc : w.clients[i]? = some ⟨α, c⟩)
    (turned : Client.Turned c w.desk c' d') {p : Pending} (hp : p ∈ d'.waiting) :
    ∃ (j : Nat) (x : AnyClient), (w.clients.set i ⟨α, c'⟩)[j]? = some x ∧ x.2.WaitsWith p := by
  have hi : i < w.clients.length := (List.getElem?_eq_some_iff.mp hc).1
  cases Client.waiting_turned turned (usesAlone_of_coherent h hc) hp with
  | inl me => exact ⟨i, ⟨α, c'⟩, List.getElem?_set_self hi, me⟩
  | inr other =>
      obtain ⟨j, y, hy, waits⟩ := h.awaited p other.1
      have ne : i ≠ j := by
        intro same
        subst same
        rw [hc] at hy
        cases hy
        exact other.2 waits
      exact ⟨j, y, (List.getElem?_set_ne ne).trans hy, waits⟩

theorem coherent_turn (h : w.Coherent) (hc : w.clients[i]? = some ⟨α, c⟩)
    (turned : Client.Turned c w.desk c' d') :
    Coherent { desk := d', clients := w.clients.set i ⟨α, c'⟩ } := by
  obtain ⟨ds, adds, all⟩ := adds_of_turned h hc turned
  have order := Client.orderly_turned turned h.order
  have lawful := order.lawful
  rw [all] at lawful
  have later := Books.nextSession_le_append lawful
  refine ⟨order, ?_, ?_, ?_, ?_, ?_, fun p hp => awaited_turn h hc turned hp, ?_⟩
  · intro x hx s hs
    rw [all]
    cases mem_set_cases hx with
    | inl me =>
        cases me
        exact early_turn h hc lawful adds hs
    | inr other =>
        obtain ⟨j, _, hj⟩ := other
        exact Nat.lt_of_lt_of_le (h.early x (List.mem_of_getElem? hj) s hs) later
  · intro j k x y ne hx hy
    refine apart_set (R := fun x y : AnyClient => ∀ s ∈ x.2.begun, s ∉ y.2.begun) ?_ h.apart ?_
      ne hx hy
    · exact fun x y apart s hs hs' => apart s hs' hs
    · exact fun k y other hy s hs => apart_turn h hc lawful adds other hy hs
  · intro x hx
    cases mem_set_cases hx with
    | inl me =>
        cases me
        exact adds.owned (h.owned ⟨α, c⟩ (List.mem_of_getElem? hc))
    | inr other =>
        obtain ⟨j, _, hj⟩ := other
        exact h.owned x (List.mem_of_getElem? hj)
  · intro x hx s hs
    rw [all]
    cases mem_set_cases hx with
    | inl me =>
        cases me
        exact same_turn h hc lawful adds hs
    | inr other =>
        obtain ⟨j, ne, hj⟩ := other
        rw [List.filter_append, filter_isOf_of_other h hc lawful adds ne hj hs, List.append_nil]
        exact h.same x (List.mem_of_getElem? hj) s hs
  · intro e he
    rw [all] at he
    exact known_turn h hc adds he
  · intro x hx ticket q next at_ r reply call
    cases mem_set_cases hx with
    | inl me =>
        cases me
        exact Client.owned_turned turned ticket q next at_ r reply call
    | inr other =>
        obtain ⟨j, _, hj⟩ := other
        exact h.asked x (List.mem_of_getElem? hj) ticket q next at_ r reply call

end Turn

theorem coherent_step (h : w.Coherent) (choice : Choice) : (w.step choice).Coherent := by
  cases choice with
  | spawn p => exact coherent_spawn h p
  | turn i t =>
      simp only [step]
      split
      · exact h
      · rename_i α c there
        split
        · exact h
        · rename_i c' d' turned
          exact coherent_turn h there (Client.turned_of_turn turned)

theorem coherent_runFrom (h : w.Coherent) (choices : List Choice) :
    (w.runFrom choices).Coherent := by
  induction choices generalizing w with
  | nil => exact h
  | cons choice choices ih => exact ih (coherent_step h choice)

theorem coherent_run (choices : List Choice) : (run choices).Coherent :=
  coherent_runFrom coherent_empty choices

end Traffic
end DoubleEntry
