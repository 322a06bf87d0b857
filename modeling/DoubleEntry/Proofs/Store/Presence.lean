import DoubleEntry.Proofs.Store.Desk

/-!
Which sessions a store still knows: those that were begun and have not been abandoned since. A
session that is not known has no locks and nothing staged.
-/

namespace DoubleEntry

/-- Whether a session is known after a deed. -/
def Deed.there (s : SessionId) (was : Bool) : Deed → Bool
  | began t => was || t == s
  | abandoned t => was && t != s
  | _ => was

/-- Whether a session is known after deeds. -/
def Books.present (ds : List Deed) (s : SessionId) : Bool := ds.foldl (Deed.there s) false

namespace Books

theorem present_append (ds es : List Deed) (s : SessionId) :
    present (ds ++ es) s = es.foldl (Deed.there s) (present ds s) := by
  simp [present]

/-- A session that is not known stays so unless it is begun. -/
theorem foldl_there_of_gone {s : SessionId} {ds : List Deed} (never : ∀ e ∈ ds, e ≠ .began s) :
    ds.foldl (Deed.there s) false = false := by
  induction ds with
  | nil => rfl
  | cons d ds ih =>
      have gone : Deed.there s false d = false := by
        cases d with
        | began t =>
            have other : t ≠ s := fun same => never _ List.mem_cons_self (same ▸ rfl)
            simpa [Deed.there] using other
        | _ => rfl
      rw [List.foldl_cons, gone]
      exact ih fun e he => never e (List.mem_cons_of_mem d he)

theorem foldl_there_of_abandoned {s : SessionId} {ds : List Deed} {was : Bool}
    (h : .abandoned s ∈ ds) (never : ∀ e ∈ ds, e ≠ .began s) :
    ds.foldl (Deed.there s) was = false := by
  induction ds generalizing was with
  | nil => cases h
  | cons d ds ih =>
      have later : ∀ e ∈ ds, e ≠ .began s := fun e he => never e (List.mem_cons_of_mem d he)
      rw [List.foldl_cons]
      cases List.mem_cons.mp h with
      | inl now =>
          have gone : Deed.there s was d = false := by simp [← now, Deed.there]
          rw [gone]
          exact foldl_there_of_gone later
      | inr after => exact ih after later

end Books

namespace MemoryStore

variable {st : MemoryStore} {loose waits : List (Int × Nat)} {s t : SessionId} {x : Session}

theorem isSome_setSession (st : MemoryStore) (s t : SessionId) (y : Session) :
    ((st.setSession s y).session? t).isSome = (st.session? t).isSome := by
  rw [session?_setSession]
  split <;> simp

theorem isSome_finish (st : MemoryStore) (s t : SessionId) (x : Session) :
    ((st.finish s x).session? t).isSome = (st.session? t).isSome :=
  isSome_setSession st s t _

theorem isSome_abandon (st : MemoryStore) (s t : SessionId) :
    ((st.abandon s).session? t).isSome = ((st.session? t).isSome && s != t) := by
  simp only [abandon]
  cases hs : st.session? s with
  | none =>
      by_cases same : s = t
      · subst same
        simp [hs]
      · simp [same]
  | some x =>
      have kept : ((st.finish s x).sessions.filter (·.1 != s)).lookup t =
          if t = s then none else (st.finish s x).session? t := lookup_filter_ne s t _
      simp only [session?] at kept ⊢
      rw [kept]
      by_cases same : t = s
      · simp [same]
      · have other : (s != t) = true := bne_iff_ne.mpr fun eq => same eq.symm
        rw [if_neg same, other, Bool.and_true]
        exact isSome_finish st s t x

theorem isSome_perform (now : Timestamp) (op : SessionRequest) :
    ((st.perform now s op).2.session? t).isSome = (st.session? t).isSome := by
  simp only [perform]
  split
  · rfl
  · cases op with
    | insertTransaction new =>
        simp only [insertTransaction]
        split
        · exact isSome_setSession st s t _
        · rfl
    | insertEntry a amount =>
        simp only [insertEntry]
        split
        · exact isSome_setSession st s t _
        · rfl
    | addBalance a delta =>
        simp only [addBalance]
        split
        · exact isSome_setSession st s t _
        · split
          · exact isSome_setSession st s t _
          · rfl
    | commit =>
        simp only [commit]
        split
        · exact isSome_finish _ s t _
        · rfl
    | rollback => exact isSome_finish st s t _

theorem of?_perform_there (s : SessionId) (op : SessionRequest)
    (reply : (StoreRequest.perform s op).Reply) (t : SessionId) (was : Bool) :
    (Deed.of? (.perform s op) reply).toList.foldl (Deed.there t) was = was := by
  cases reply with
  | error e => cases op <;> rfl
  | ok value =>
      cases op with
      | addBalance a delta => cases value <;> rfl
      | _ => rfl

theorem isSome_query (now : Timestamp) (q : Query) :
    ((st.query now q).2.session? t).isSome = (st.session? t).isSome := by
  simp only [query]
  cases q with
  | createAccount new =>
      dsimp only
      split <;> rfl
  | deleteAccount a =>
      dsimp only
      split <;> rfl
  | _ => rfl

theorem of?_query_there (q : Query) (reply : (StoreRequest.query q).Reply) (t : SessionId)
    (was : Bool) : (Deed.of? (.query q) reply).toList.foldl (Deed.there t) was = was := by
  cases reply with
  | error e => cases q <;> rfl
  | ok value =>
      cases q with
      | deleteAccount a => cases value <;> rfl
      | _ => rfl

/-- An answer changes which sessions are known as its deed says. -/
theorem isSome_answer (h : st.Orderly loose waits) (now : Timestamp) (r : StoreRequest)
    (t : SessionId) :
    ((st.answer now r).2.session? t).isSome =
      (Deed.of? r (st.answer now r).1).toList.foldl (Deed.there t) (st.session? t).isSome := by
  cases r with
  | begin =>
      change (st.begin.2.session? t).isSome = ((st.session? t).isSome || st.nextSession == t)
      rw [session?_begin h]
      by_cases same : t = st.nextSession
      · simp [same]
      · have other : st.nextSession ≠ t := fun eq => same eq.symm
        simp [same, other]
  | perform s op =>
      rw [of?_perform_there]
      exact isSome_perform now op
  | abandon s => exact isSome_abandon st s t
  | query q =>
      rw [of?_query_there]
      exact isSome_query now q

theorem isSome_answerLocked (h : st.Orderly loose waits) (now : Timestamp) (r : StoreRequest)
    (a : Int) (n : Nat) (t : SessionId) :
    ((st.answerLocked now r a n).2.session? t).isSome =
      (Deed.of? r (st.answerLocked now r a n).1).toList.foldl (Deed.there t)
        (st.session? t).isSome := by
  cases r with
  | perform s op =>
      rw [of?_perform_there]
      refine (isSome_perform now op).trans ?_
      simp only [addGuard]
      split
      · exact isSome_setSession st s t _
      · rfl
  | begin => exact isSome_answer h now .begin t
  | abandon s => exact isSome_answer h now (.abandon s) t
  | query q => exact isSome_answer h now (.query q) t

end MemoryStore

namespace Desk

variable {d d' : Desk} {now : Timestamp} {r : StoreRequest}

/-- The store knows the sessions that the deeds leave. -/
def Present (d : Desk) : Prop :=
  ∀ s, (d.store.session? s).isSome = Books.present d.deeds s

theorem present_record (h : d.Present) {reply : r.Reply} {store : MemoryStore}
    (same : ∀ t, (store.session? t).isSome =
      (Deed.of? r reply).toList.foldl (Deed.there t) (d.store.session? t).isSome) :
    (d.record r reply store).Present := by
  intro t
  change (store.session? t).isSome = Books.present (d.deeds ++ _) t
  rw [Books.present_append, ← h t]
  exact same t

theorem present_submit? (order : d.Orderly) (h : d.Present)
    {result : Submission Nat r.Reply × Desk} (hr : d.submit? now r = some result) :
    result.2.Present := by
  simp only [submit?, MemoryStore.submit] at hr
  split at hr
  · cases hr
  · cases wanted : d.store.wantedRow? r with
    | none =>
        simp only [wanted] at hr
        cases hr
        exact present_record h fun t => MemoryStore.isSome_answer order.store now r t
    | some a =>
        simp only [wanted] at hr
        cases MemoryStore.orderly_request order.store a with
        | inl holding =>
            have number : (d.store.locks.request a).1 = d.store.locks.nextTicket := rfl
            simp only [number, holding.1, if_true] at hr
            cases hr
            exact present_record h fun t =>
              MemoryStore.isSome_answerLocked holding.2 now r a _ t
        | inr waiting =>
            have number : (d.store.locks.request a).1 = d.store.locks.nextTicket := rfl
            simp only [number, waiting.1] at hr
            cases hr
            exact h

theorem present_resume? (order : d.Orderly) (h : d.Present) {ticket : Nat}
    {result : r.Reply × Desk} (hr : d.resume? now r ticket = some result) :
    result.2.Present := by
  simp only [resume?] at hr
  split at hr
  · rename_i ready
    cases hr
    have claimed := MemoryStore.orderly_claim (orderly_waiting order ready.1) ready.2
    exact present_record h fun t => MemoryStore.isSome_answerLocked claimed now r _ _ t
  · cases hr

theorem present_expire? (order : d.Orderly) (h : d.Present) {ticket : Nat}
    {result : r.Reply × Desk} (hr : d.expire? r ticket = some result) : result.2.Present := by
  simp only [expire?] at hr
  split at hr
  · rename_i late
    cases hr
    obtain ⟨a, row⟩ := order.rows _ late.1
    refine present_record h fun t => ?_
    rw [show Deed.of? r (d.store.expire r ticket).1 = none from of?_refusal row _]
    rfl
  · cases hr

theorem present_desert (h : d.Present) (ticket : Nat) : (d.desert ticket).Present := by
  simp only [desert]
  split <;> exact h

theorem present_abandonAll (order : d.Orderly) (h : d.Present) (now : Timestamp)
    (ss : List SessionId) :
    (ss.foldl (fun d s => d.step (.submit now (.abandon s))) d).Present := by
  induction ss generalizing d with
  | nil => exact h
  | cons s ss ih =>
      refine ih (orderly_step order _) ?_
      simp only [step]
      cases hr : d.submit? now (.abandon s) with
      | none => exact h
      | some result => exact present_submit? order h hr

end Desk
end DoubleEntry
