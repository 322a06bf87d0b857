import DoubleEntry.Proofs.Client.Answers
import DoubleEntry.Proofs.Client.Waits
import DoubleEntry.Proofs.Store.Deltas
import DoubleEntry.Proofs.Store.Refusals

/-!
What becomes of a program when its replies are as promised. A promise is about each moment, after
what the client has done so far. A program relies on it if it comes to no halt, and to an end of
which something is known, as long as the promise is kept. Where nothing cuts a client short, all
that it hears from the store are the store's own answers, and it is never without a turn that
carries it on unless it waits for others.
-/

namespace DoubleEntry

namespace Program

variable {α β : Type} {promise : List Deed → Moment → Prop} {history : List Deed}

/-- As long as all replies are as promised the program does not halt, and something holds at its
end. -/
def Relies (promise : List Deed → Moment → Prop) (post : List Deed → α → Prop)
    (history : List Deed) : Program (Timed LedgerStore) α → Prop
  | done a => post history a
  | halt _ => False
  | note _ next => Relies promise post history next
  | ask q next => ∀ reply, q.Fits reply → promise history (.heard q reply) →
      Relies promise post (history ++ q.deeds reply) (next reply)

variable {post post' : List Deed → α → Prop}

theorem relies_bind {p : Program (Timed LedgerStore) β} {f : β → Program (Timed LedgerStore) α}
    (h : p.Relies promise (fun history b => (f b).Relies promise post history) history) :
    (p.bind f).Relies promise post history := by
  induction p generalizing history with
  | done b => exact h
  | halt o => exact h
  | note n next ih => exact ih h
  | ask q next ih => exact fun reply fits kept => ih reply (h reply fits kept)

theorem relies_mono {p : Program (Timed LedgerStore) α}
    (weaker : ∀ history a, post history a → post' history a) (h : p.Relies promise post history) :
    p.Relies promise post' history := by
  induction p generalizing history with
  | done a => exact weaker _ a h
  | halt o => exact h
  | note n next ih => exact ih h
  | ask q next ih => exact fun reply fits kept => ih reply (h reply fits kept)

end Program

/-- A turn that cuts nothing short: no wait for a lock is given up, no deadline or cancellation
comes about, and nobody is dropped. -/
def Turn.IsPatient (cancelAt : Option Nat) : Turn → Prop
  | .think clock _ => ∀ limit ∈ cancelAt, clock < limit
  | .submit _ | .resume _ => True
  | .expire | .stop _ | .drop _ => False

instance (cancelAt : Option Nat) : DecidablePred (Turn.IsPatient cancelAt)
  | .think clock _ => inferInstanceAs (Decidable (∀ limit ∈ cancelAt, clock < limit))
  | .submit _ | .resume _ => isTrue trivial
  | .expire | .stop _ | .drop _ => isFalse id

theorem MemoryStore.reply_answerLocked {st : MemoryStore}
    (distinct : (st.sessions.map (·.1)).Nodup) (locks : LockTable) (now : Timestamp)
    (r : StoreRequest) (a : Int) (n : Nat) :
    (answerLocked now r a n { st with locks := locks }).1 = (st.answer now r).1 := by
  have same : ∀ st' : MemoryStore, st'.unlocked = st.unlocked →
      (st'.answer now r).1 = (st.answer now r).1 := by
    intro st' alike
    have first := (answer_unlocked st' now r).reply
    rw [alike] at first
    exact first.trans (answer_unlocked st now r).reply.symm
  cases r with
  | perform s op =>
      exact same _ (unlocked_addGuard { st with locks := locks } distinct s a n)
  | begin => exact same { st with locks := locks } rfl
  | abandon s => exact same { st with locks := locks } rfl
  | query q => exact same { st with locks := locks } rfl

namespace Desk

variable {d d' : Desk} {now : Timestamp} {r : StoreRequest} {reply : r.Reply}

/-- Whether or not a request had to wait, the store answers it from what it is then. -/
theorem Answers.reply_eq (order : d.Orderly) (h : d.Answers now r reply d') :
    reply = (d.store.answer now r).1 := by
  have distinct := order.store.distinct
  rcases h with submitted | ⟨ticket, resumed⟩
  · simp only [submit?, MemoryStore.submit] at submitted
    split at submitted
    · cases submitted
    · cases wanted : d.store.wantedRow? r with
      | none =>
          simp only [wanted] at submitted
          cases submitted
          rfl
      | some a =>
          simp only [wanted] at submitted
          split at submitted
          · rename_i answered
            split at answered
            · cases answered
              cases submitted
              exact MemoryStore.reply_answerLocked distinct _ now r a _
            · cases answered
          · cases submitted
  · simp only [resume?] at resumed
    split at resumed
    · cases resumed
      exact MemoryStore.reply_answerLocked distinct _ now r _ ticket
    · cases resumed

end Desk

/-- What is known of a moment that nothing cuts short. -/
structure Moment.IsPatient (cancelAt : Option Nat) (d : Desk) (m : Moment) : Prop where
  opens : ∀ timeout reply, m = .heard (.openWindow cancelAt timeout) reply → ∃ w, reply = .ok w
  goesOn : ∀ w p reply, m = .heard (.within w p) reply → ∃ answer, reply = .ok answer
  answered : ∀ r answer, m.answer? = some ⟨r, answer⟩ → ∃ now d', d.Answers now r answer d'

namespace Moment

variable {q : TimedRequest LedgerStore} {cancelAt : Option Nat} {d d' : Desk}

theorem isPatient_call? {r : StoreRequest} {reply : r.Reply → q.Reply}
    (call : q.call? = some ⟨r, reply⟩) {answer : r.Reply} {now : Timestamp}
    (answers : d.Answers now r answer d') : (heard q (reply answer)).IsPatient cancelAt d where
  opens timeout reply' same := by
    cases same
    cases call
  goesOn w p reply' same := by
    cases same
    cases p <;> cases call
    exact ⟨answer, rfl⟩
  answered r' answer' same := by
    rw [answer?_call? call] at same
    cases same
    exact ⟨now, d', answers⟩

theorem isPatient_idle? {clock number : Nat} {reply : q.Reply}
    (idle : q.idle? clock number = some reply) (early : ∀ limit ∈ cancelAt, clock < limit) :
    (heard q reply).IsPatient cancelAt d where
  opens timeout reply' same := by
    cases same
    simp only [TimedRequest.idle?] at idle
    split at idle
    · rename_i reached
      cases cancelAt with
      | none => cases reached
      | some limit => exact absurd (early limit rfl) (Nat.not_lt.mpr (of_decide_eq_true reached))
    · cases idle
      exact ⟨_, rfl⟩
  goesOn w p reply' same := by
    cases same
    cases p <;> cases idle
    exact ⟨_, rfl⟩
  answered r answer heard := by
    rw [answer?_idle? idle] at heard
    cases heard

end Moment

namespace Client

variable {α : Type} {c c' : Client α} {d d' : Desk} {t : Turn} {cancelAt : Option Nat}

/-- How a turn that cuts nothing short takes a client on. -/
inductive Advances (cancelAt : Option Nat) (c : Client α) (d : Desk) : Client α → Prop where
  | told {n next} (at_ : c.rest? = some (.note n next)) :
      Advances cancelAt c d { c with stage := .running next }
  | heard {q next reply} (at_ : c.rest? = some (.ask q next)) (fits : q.Fits reply)
      (patient : (Moment.heard q reply).IsPatient cancelAt d) :
      Advances cancelAt c d (c.hear q next reply)
  | queued {ticket q next} (at_ : c.rest? = some (.ask q next)) :
      Advances cancelAt c d { c with stage := .waiting ticket q next }

theorem advances_of_turn (patient : t.IsPatient cancelAt) (h : c.turn d t = some (c', d')) :
    Advances cancelAt c d c' := by
  simp only [turn] at h
  split at h
  · rename_i p at_
    have rest : c.rest? = some p := by simp only [rest?, at_]
    cases p with
    | done a => cases t <;> cases h
    | halt o =>
        cases t <;> cases h
        exact patient.elim
    | note n next =>
        cases t <;> cases h
        exact .told rest
    | ask q next =>
        cases t with
        | think clock number =>
            obtain ⟨reply, idle, same⟩ := Option.map_eq_some_iff.mp h
            cases same
            exact .heard rest (TimedRequest.quiet_idle? idle).2
              (Moment.isPatient_idle? idle patient)
        | submit now =>
            simp only [turnRunning] at h
            split at h
            · cases h
            · rename_i r reply call
              split at h
              · split at h
                · rename_i done
                  cases h
                  exact .heard rest (TimedRequest.fits_call? call (Desk.fits_submit? done))
                    (Moment.isPatient_call? call (.inl done))
                · cases h
                  exact .queued rest
                · cases h
              · cases h
        | drop now => exact patient.elim
        | stop s => exact patient.elim
        | resume now => cases h
        | expire => cases h
  · rename_i ticket q next at_
    have rest : c.rest? = some (.ask q next) := by simp only [rest?, at_]
    cases t with
    | resume now =>
        simp only [turnWaiting] at h
        split at h
        · cases h
        · rename_i r reply call
          obtain ⟨⟨answer, desk⟩, done, same⟩ := Option.map_eq_some_iff.mp h
          cases same
          exact .heard rest (TimedRequest.fits_call? call (Desk.fits_resume? done))
            (Moment.isPatient_call? call (.inr ⟨ticket, done⟩))
    | expire => exact patient.elim
    | stop s => exact patient.elim
    | drop now => exact patient.elim
    | think clock number => cases h
    | submit now => cases h
  · cases h

/-- From where the client stands it relies on the promise. -/
def Relies (promise : List Deed → Moment → Prop) (post : List Deed → α → Prop) (c : Client α) :
    Prop :=
  ∃ p, c.rest? = some p ∧ p.Relies promise post c.deeds

variable {promise : List Deed → Moment → Prop} {post : List Deed → α → Prop}

theorem relies_advances (h : Advances cancelAt c d c') (relies : c.Relies promise post)
    (kept : ∀ m : Moment, m.IsPatient cancelAt d → promise c.deeds m) :
    c'.Relies promise post := by
  obtain ⟨p, stands, relies⟩ := relies
  cases h with
  | told at_ =>
      cases stands.symm.trans at_
      exact ⟨_, rfl, relies⟩
  | heard at_ fits patient =>
      cases stands.symm.trans at_
      exact ⟨_, rfl, relies _ fits (kept _ patient)⟩
  | queued at_ =>
      cases stands.symm.trans at_
      exact ⟨_, rfl, relies⟩

/-- A client that relies on a promise and is over has come to an end of which something is known. -/
theorem post_of_over (relies : c.Relies promise post) (isOver : c.stage.isOver = true) :
    ∃ a, c.stage = .running (.done a) ∧ post c.deeds a := by
  obtain ⟨p, stands, relies⟩ := relies
  cases at_ : c.stage with
  | dropped =>
      simp only [rest?, at_] at stands
      cases stands
  | waiting ticket q next =>
      rw [at_] at isOver
      cases isOver
  | running p' =>
      simp only [rest?, at_] at stands
      cases stands
      cases p with
      | done a => exact ⟨a, rfl, relies⟩
      | _ =>
          rw [at_] at isOver
          cases isOver

/-- A client that can go on, and has not halted, can do so without anything being cut short. -/
theorem exists_patient_turn (goesOn : c.CanGoOn d) (relies : c.Relies promise post)
    (open_ : cancelAt ≠ some 0) :
    ∃ t : Turn, t.IsPatient cancelAt ∧ (c.turn d t).isSome = true := by
  obtain ⟨t, carries, able⟩ := goesOn
  cases t with
  | submit now => exact ⟨.submit now, trivial, able⟩
  | resume now => exact ⟨.resume now, trivial, able⟩
  | expire => exact carries.elim
  | stop s => exact carries.elim
  | drop now =>
      obtain ⟨o, at_⟩ := carries
      obtain ⟨p, stands, relies⟩ := relies
      simp only [rest?, at_] at stands
      cases stands
      exact relies.elim
  | think clock number =>
      refine ⟨.think 0 0, fun limit there => ?_, ?_⟩
      · refine Nat.pos_of_ne_zero fun zero => open_ ?_
        rw [← zero]
        exact there
      · simp only [turn] at able ⊢
        split at able
        · rename_i p at_
          cases p with
          | done a => cases able
          | halt o => cases able
          | note n next => rfl
          | ask q next =>
              simp only [turnRunning, Option.isSome_map] at able ⊢
              cases q with
              | free p => cases p <;> first | rfl | cases able
              | within w p => cases p <;> first | rfl | cases able
              | now => rfl
              | openWindow cancelAt timeout =>
                  simp only [TimedRequest.idle?]
                  split <;> rfl
        · cases able
        · cases able

/-- A client that has come to its end takes no more turns. -/
theorem turn_of_over (isOver : c.stage.isOver = true) : c.turn d t = none := by
  cases at_ : c.stage with
  | dropped => simp only [turn, at_]
  | waiting ticket q next =>
      rw [at_] at isOver
      cases isOver
  | running p =>
      cases p with
      | done a =>
          simp only [turn, at_]
          cases t <;> rfl
      | _ =>
          rw [at_] at isOver
          cases isOver

theorem going_of_canGoOn (goesOn : c.CanGoOn d) : c.stage.isOver = false := by
  obtain ⟨t, _, able⟩ := goesOn
  cases isOver : c.stage.isOver with
  | false => rfl
  | true =>
      rw [turn_of_over isOver] at able
      cases able

end Client

namespace Traffic

variable {w : Traffic} {i : Nat} {α : Type} {c : Client α} {cancelAt : Option Nat}
  {promise : List Deed → Moment → Prop} {post : List Deed → α → Prop}

/-- A client goes on relying on a promise, whoever takes the turn, while none of its own is cut
short. -/
theorem relies_step (hc : w.clients[i]? = some ⟨α, c⟩) (relies : c.Relies promise post)
    {choice : Choice} (patient : ∀ t, choice = .turn i t → t.IsPatient cancelAt)
    (kept : ∀ m : Moment, m.IsPatient cancelAt w.desk → promise c.deeds m) :
    ∃ c' : Client α, (w.step choice).clients[i]? = some ⟨α, c'⟩ ∧ c'.Relies promise post := by
  have hi : i < w.clients.length := (List.getElem?_eq_some_iff.mp hc).1
  cases choice with
  | spawn p => exact ⟨c, (List.getElem?_append_left hi).trans hc, relies⟩
  | turn j t =>
      simp only [step]
      split
      · exact ⟨c, hc, relies⟩
      · rename_i β k there
        split
        · exact ⟨c, hc, relies⟩
        · rename_i k' d' turned
          by_cases same : j = i
          · subst same
            cases hc.symm.trans there
            refine ⟨k', List.getElem?_set_self hi, ?_⟩
            have advances := Client.advances_of_turn (patient t rfl) turned
            exact Client.relies_advances advances relies kept
          · exact ⟨c, (List.getElem?_set_ne same).trans hc, relies⟩

end Traffic
end DoubleEntry
