import DoubleEntry.Proofs.Client.Conduct
import DoubleEntry.Proofs.Store.Desk

/-!
Any number of clients over one store. Each runs a program and takes turns in any order. Time is not
counted: a clock may show anything, a limit that a stretch has may be reached at any of its
requests, a lock that is waited for may be refused at any time, and a client may be dropped wherever
it can be suspended. A client uses only sessions that it has begun itself.
-/

namespace DoubleEntry

/-- A stretch can be stopped in this way. -/
def Window.allows (w : Window) : Stop → Bool
  | .cancelled => w.cancelAt.isSome
  | .deadline => w.deadline.isSome

namespace TimedRequest

/-- The reply to a request that asks the store for nothing. -/
def idle? (clock number : Nat) : (q : TimedRequest LedgerStore) → Option q.Reply
  | .now => some clock
  | .openWindow cancelAt timeout =>
      if cancelAt.any (· ≤ clock) then some (.error .cancelled)
      else some (.ok ⟨number, cancelAt, timeout.map (clock + ·)⟩)
  | .free (.pause _) => some ()
  | .within _ (.pause _) => some (.ok ())
  | .free (.call _) | .within _ (.call _) => none

/-- The reply to a request whose stretch is stopped. -/
def stop? (s : Stop) : (q : TimedRequest LedgerStore) → Option q.Reply
  | .within w _ => if w.allows s then some (.error s) else none
  | .now | .openWindow _ _ | .free _ => none

end TimedRequest

/-- Where a client stands. -/
inductive Stage (α : Type) where
  | running (p : Program (Timed LedgerStore) α)
  | waiting (ticket : Nat) (q : TimedRequest LedgerStore)
      (next : q.Reply → Program (Timed LedgerStore) α)
  | dropped

/-- A client that has come to its end. -/
def Stage.isOver {α : Type} : Stage α → Bool
  | running (.done _) | dropped => true
  | _ => false

/-- A program, how far it has come, and what it has done on its way. -/
structure Client (α : Type) where
  program : Program (Timed LedgerStore) α
  stage : Stage α
  deeds : List Deed

/-- What a client does in its turn. -/
inductive Turn where
  /-- Goes on without the store; a clock shows an instant, and a window gets a number. -/
  | think (clock number : Nat)
  | submit (now : Timestamp)
  | resume (now : Timestamp)
  | expire
  | stop (s : Stop)
  | drop (now : Timestamp)

def Deed.begun? : Deed → Option SessionId
  | began s => some s
  | _ => none

namespace Client

variable {α : Type}

def start (p : Program (Timed LedgerStore) α) : Client α := ⟨p, .running p, []⟩

def begun (c : Client α) : List SessionId := c.deeds.filterMap Deed.begun?

/-- The client may make a request. -/
def owns (c : Client α) (r : StoreRequest) : Bool := r.session?.all (c.begun.contains ·)

/-- The client after the reply to a request. -/
def hear (c : Client α) (q : TimedRequest LedgerStore)
    (next : q.Reply → Program (Timed LedgerStore) α) (reply : q.Reply) : Client α :=
  { c with stage := .running (next reply), deeds := c.deeds ++ q.deeds reply }

/-- The client once it is gone, all of its sessions ended. -/
def leave (c : Client α) : Client α :=
  { c with stage := .dropped, deeds := c.deeds ++ c.begun.map .abandoned }

end Client

def Desk.abandonAll (d : Desk) (now : Timestamp) (ss : List SessionId) : Desk :=
  ss.foldl (fun d s => d.step (.submit now (.abandon s))) d

namespace Client

variable {α : Type}

/-- A client at a program, in a turn that does not answer a request it waits for. -/
def turnRunning (c : Client α) (d : Desk) :
    Program (Timed LedgerStore) α → Turn → Option (Client α × Desk)
  | .note _ next, .think _ _ => some ({ c with stage := .running next }, d)
  | .ask q next, .think clock number =>
      (q.idle? clock number).map fun reply => (c.hear q next reply, d)
  | .ask q next, .submit now =>
      match q.call? with
      | none => none
      | some ⟨r, reply⟩ =>
          if c.owns r then
            match d.submit? now r with
            | some (.answered answer, d) => some (c.hear q next (reply answer), d)
            | some (.waiting ticket, d) => some ({ c with stage := .waiting ticket q next }, d)
            | none => none
          else none
  | .ask q next, .stop s => (q.stop? s).map fun reply => (c.hear q next reply, d)
  | .ask q _, .drop now => if q.suspends then some (c.leave, d.abandonAll now c.begun) else none
  | .halt _, .drop now => some (c.leave, d.abandonAll now c.begun)
  | _, _ => none

def turnWaiting (c : Client α) (d : Desk) (ticket : Nat) (q : TimedRequest LedgerStore)
    (next : q.Reply → Program (Timed LedgerStore) α) : Turn → Option (Client α × Desk)
  | .resume now =>
      match q.call? with
      | none => none
      | some ⟨r, reply⟩ =>
          (d.resume? now r ticket).map fun answer => (c.hear q next (reply answer.1), answer.2)
  | .expire =>
      match q.call? with
      | none => none
      | some ⟨r, reply⟩ =>
          (d.expire? r ticket).map fun answer => (c.hear q next (reply answer.1), answer.2)
  | .stop s => (q.stop? s).map fun reply => (c.hear q next reply, d.desert ticket)
  | .drop now => some (c.leave, (d.desert ticket).abandonAll now c.begun)
  | _ => none

def turn (c : Client α) (d : Desk) (t : Turn) : Option (Client α × Desk) :=
  match c.stage with
  | .running p => c.turnRunning d p t
  | .waiting ticket q next => c.turnWaiting d ticket q next t
  | .dropped => none

end Client

/-- A client, whatever its program gives. -/
abbrev AnyClient : Type 1 := (α : Type) × Client α

/-- A store with the clients that use it. -/
structure Traffic where
  desk : Desk := {}
  clients : List AnyClient := []

/-- A new client, or a turn of one that is there. -/
inductive Choice where
  | spawn {α : Type} (p : Program (Timed LedgerStore) α)
  | turn (i : Nat) (t : Turn)

namespace Traffic

/-- A turn that a client cannot take changes nothing. -/
def step (w : Traffic) : Choice → Traffic
  | .spawn p => { w with clients := w.clients ++ [⟨_, Client.start p⟩] }
  | .turn i t =>
      match w.clients[i]? with
      | none => w
      | some ⟨α, c⟩ =>
          match c.turn w.desk t with
          | none => w
          | some (c, d) => { desk := d, clients := w.clients.set i ⟨α, c⟩ }

def runFrom (w : Traffic) (choices : List Choice) : Traffic := choices.foldl step w

def run (choices : List Choice) : Traffic := runFrom {} choices

end Traffic

namespace MemoryStore

variable {st : MemoryStore}

theorem fits_perform (now : Timestamp) (s : SessionId) (op : SessionRequest) (st : MemoryStore) :
    StoreRequest.Fits (.perform s op) (st.perform now s op).1 := by
  simp only [perform]
  split
  · cases op <;> trivial
  · cases op with
    | insertTransaction new =>
        simp only [insertTransaction]
        split
        · rename_i drawn
          obtain ⟨_, _, _, rfl, _⟩ := Tables.drawTransaction_eq_ok.mp drawn
          rfl
        · trivial
    | insertEntry a amount =>
        simp only [insertEntry]
        split
        · rename_i drawn
          obtain ⟨_, _, rfl, _⟩ := Tables.drawEntry_eq_ok.mp drawn
          exact ⟨rfl, rfl⟩
        · trivial
    | addBalance a delta =>
        simp only [addBalance]
        split
        · trivial
        · rename_i found
          split
          · rename_i changed
            exact (id_of_changed changed).trans (id_of_current? found)
          · trivial
    | commit => trivial
    | rollback => trivial

theorem fits_answer (now : Timestamp) (r : StoreRequest) (st : MemoryStore) :
    r.Fits (st.answer now r).1 := by
  cases r with
  | perform s op => exact fits_perform now s op st
  | begin => trivial
  | abandon s => trivial
  | query q => trivial

theorem fits_answerLocked (now : Timestamp) (r : StoreRequest) (a : Int) (n : Nat)
    (st : MemoryStore) : r.Fits (st.answerLocked now r a n).1 := by
  cases r with
  | perform s op => exact fits_answer now (.perform s op) _
  | begin => trivial
  | abandon s => trivial
  | query q => trivial

end MemoryStore

namespace Desk

variable {d d' : Desk} {now : Timestamp} {r : StoreRequest} {answer : r.Reply} {ticket : Nat}

theorem fits_submit? (h : d.submit? now r = some (.answered answer, d')) : r.Fits answer := by
  simp only [submit?] at h
  split at h
  · cases h
  · split at h
    · rename_i reply store answered
      cases h
      simp only [MemoryStore.submit] at answered
      split at answered
      · cases answered
        exact MemoryStore.fits_answer now r _
      · split at answered
        · cases answered
          exact MemoryStore.fits_answerLocked now r _ _ _
        · cases answered
    · cases h

theorem fits_resume? (h : d.resume? now r ticket = some (answer, d')) : r.Fits answer := by
  simp only [resume?] at h
  split at h
  · cases h
    exact MemoryStore.fits_answerLocked now r _ _ _
  · cases h

theorem fits_refusal (r : StoreRequest) (e : LedgerError) : r.Fits (r.refusal e) := by
  cases r with
  | perform s op => cases op <;> trivial
  | begin => trivial
  | abandon s => trivial
  | query q => trivial

theorem fits_expire? (h : d.expire? r ticket = some (answer, d')) : r.Fits answer := by
  simp only [expire?] at h
  split at h
  · cases h
    exact fits_refusal r _
  · cases h

end Desk

namespace TimedRequest

variable {q : TimedRequest LedgerStore} {r : StoreRequest} {reply : r.Reply → q.Reply}

theorem fits_call? (h : q.call? = some ⟨r, reply⟩) {answer : r.Reply} (fits : r.Fits answer) :
    q.Fits (reply answer) := by
  cases calls_of_call? h with
  | free r => exact fits
  | within w r => exact fits

theorem deeds_call? (h : q.call? = some ⟨r, reply⟩) (answer : r.Reply) :
    q.deeds (reply answer) = (Deed.of? r answer).toList := by
  cases calls_of_call? h with
  | free r => rfl
  | within w r => rfl

theorem quiet_idle? {clock number : Nat} {answer : q.Reply}
    (h : q.idle? clock number = some answer) : q.deeds answer = [] ∧ q.Fits answer := by
  cases q with
  | free p => cases p <;> cases h; exact ⟨rfl, trivial⟩
  | within w p => cases p <;> cases h; exact ⟨rfl, trivial⟩
  | now => exact ⟨rfl, trivial⟩
  | openWindow cancelAt timeout =>
      simp only [idle?] at h
      split at h
      · cases h
        exact ⟨rfl, trivial⟩
      · rename_i later
        cases h
        refine ⟨rfl, fun same => later ?_⟩
        simp [same]

theorem quiet_stop? {s : Stop} {answer : q.Reply} (h : q.stop? s = some answer) :
    q.deeds answer = [] ∧ q.Fits answer := by
  cases q with
  | within w p =>
      simp only [stop?] at h
      split at h
      · cases h
        cases p <;> exact ⟨rfl, trivial⟩
      · cases h
  | free p => cases h
  | now => cases h
  | openWindow _ _ => cases h

end TimedRequest

namespace Client

variable {α : Type}

/-- All that a turn can do. -/
inductive Turned (c : Client α) (d : Desk) : Client α → Desk → Prop where
  | noted {n next} (at_ : c.stage = .running (.note n next)) :
      Turned c d { c with stage := .running next } d
  | idle {q next} {reply : q.Reply} (at_ : c.stage = .running (.ask q next))
      (quiet : q.deeds reply = [] ∧ q.Fits reply) : Turned c d (c.hear q next reply) d
  | answered {q next now r answer d'} {reply : r.Reply → q.Reply}
      (at_ : c.stage = .running (.ask q next)) (call : q.call? = some ⟨r, reply⟩)
      (owns : c.owns r = true) (done : d.submit? now r = some (.answered answer, d')) :
      Turned c d (c.hear q next (reply answer)) d'
  | queued {q next now r ticket d'} {reply : r.Reply → q.Reply}
      (at_ : c.stage = .running (.ask q next)) (call : q.call? = some ⟨r, reply⟩)
      (owns : c.owns r = true) (done : d.submit? now r = some (.waiting ticket, d')) :
      Turned c d { c with stage := .waiting ticket q next } d'
  | resumed {ticket q next now r answer d'} {reply : r.Reply → q.Reply}
      (at_ : c.stage = .waiting ticket q next) (call : q.call? = some ⟨r, reply⟩)
      (done : d.resume? now r ticket = some (answer, d')) :
      Turned c d (c.hear q next (reply answer)) d'
  | expired {ticket q next r answer d'} {reply : r.Reply → q.Reply}
      (at_ : c.stage = .waiting ticket q next) (call : q.call? = some ⟨r, reply⟩)
      (done : d.expire? r ticket = some (answer, d')) :
      Turned c d (c.hear q next (reply answer)) d'
  | stopped {ticket q next} {reply : q.Reply} (at_ : c.stage = .waiting ticket q next)
      (quiet : q.deeds reply = [] ∧ q.Fits reply) :
      Turned c d (c.hear q next reply) (d.desert ticket)
  | dropped {q next} (now : Timestamp) (at_ : c.stage = .running (.ask q next))
      (suspends : q.suspends = true) : Turned c d c.leave (d.abandonAll now c.begun)
  | halted {o} (now : Timestamp) (at_ : c.stage = .running (.halt o)) :
      Turned c d c.leave (d.abandonAll now c.begun)
  | deserted {ticket q next} (now : Timestamp) (at_ : c.stage = .waiting ticket q next) :
      Turned c d c.leave ((d.desert ticket).abandonAll now c.begun)

theorem turned_of_turnRunning {c c' : Client α} {d d' : Desk} {t : Turn}
    {p : Program (Timed LedgerStore) α} (at_ : c.stage = .running p)
    (h : c.turnRunning d p t = some (c', d')) : Turned c d c' d' := by
  cases p with
  | done a => cases t <;> cases h
  | note n next =>
      cases t <;> cases h
      exact .noted at_
  | halt o =>
      cases t <;> cases h
      exact .halted _ at_
  | ask q next =>
      cases t with
      | think clock number =>
          obtain ⟨reply, idle, same⟩ := Option.map_eq_some_iff.mp h
          cases same
          exact .idle at_ (TimedRequest.quiet_idle? idle)
      | submit now =>
          simp only [turnRunning] at h
          split at h
          · cases h
          · rename_i r reply call
            split at h
            · rename_i owns
              split at h
              · rename_i done
                cases h
                exact .answered at_ call owns done
              · rename_i done
                cases h
                exact .queued at_ call owns done
              · cases h
            · cases h
      | stop s =>
          obtain ⟨reply, stop, same⟩ := Option.map_eq_some_iff.mp h
          cases same
          exact .idle at_ (TimedRequest.quiet_stop? stop)
      | drop now =>
          simp only [turnRunning] at h
          split at h
          · rename_i suspends
            cases h
            exact .dropped now at_ suspends
          · cases h
      | resume now => cases h
      | expire => cases h

theorem turned_of_turnWaiting {c c' : Client α} {d d' : Desk} {t : Turn} {ticket : Nat}
    {q : TimedRequest LedgerStore} {next : q.Reply → Program (Timed LedgerStore) α}
    (at_ : c.stage = .waiting ticket q next)
    (h : c.turnWaiting d ticket q next t = some (c', d')) : Turned c d c' d' := by
  cases t with
  | resume now =>
      simp only [turnWaiting] at h
      split at h
      · cases h
      · rename_i r reply call
        obtain ⟨⟨answer, desk⟩, done, same⟩ := Option.map_eq_some_iff.mp h
        cases same
        exact .resumed at_ call done
  | expire =>
      simp only [turnWaiting] at h
      split at h
      · cases h
      · rename_i r reply call
        obtain ⟨⟨answer, desk⟩, done, same⟩ := Option.map_eq_some_iff.mp h
        cases same
        exact .expired at_ call done
  | stop s =>
      obtain ⟨reply, stop, same⟩ := Option.map_eq_some_iff.mp h
      cases same
      exact .stopped at_ (TimedRequest.quiet_stop? stop)
  | drop now =>
      cases h
      exact .deserted now at_
  | think clock number => cases h
  | submit now => cases h

theorem turned_of_turn {c c' : Client α} {d d' : Desk} {t : Turn}
    (h : c.turn d t = some (c', d')) : Turned c d c' d' := by
  simp only [turn] at h
  split at h
  · rename_i p at_
    exact turned_of_turnRunning at_ h
  · rename_i ticket q next at_
    exact turned_of_turnWaiting at_ h
  · cases h

/-- The client keeps to a conduct, wherever it stands. -/
def Follows (k : Conduct α) (c : Client α) : Prop :=
  match c.stage with
  | .running p => p.Follows k c.deeds
  | .waiting _ q next => q.suspends = true ∧ (Program.ask q next).Follows k c.deeds
  | .dropped => ∃ history, k.always history ∧ k.mayDrop history ∧
      c.deeds = history ++ (history.filterMap Deed.begun?).map .abandoned

theorem follows_start {k : Conduct α} {p : Program (Timed LedgerStore) α} (h : p.Follows k []) :
    (start p).Follows k := h

theorem suspends_of_waiting {d d' : Desk} {now : Timestamp} {r : StoreRequest} {ticket : Nat}
    (h : d.submit? now r = some (.waiting ticket, d')) : r.suspends = true := by
  simp only [Desk.submit?] at h
  split at h
  · cases h
  · split at h
    · cases h
    · rename_i waits
      simp only [MemoryStore.submit] at waits
      split at waits
      · cases waits
      · rename_i a wanted
        have row := (MemoryStore.wantedRow?_eq_some wanted).1
        cases r with
        | perform s op => cases op <;> first | rfl | cases row
        | begin => cases row
        | abandon s => cases row
        | query q => rfl

theorem suspends_call? {q : TimedRequest LedgerStore} {r : StoreRequest}
    {reply : r.Reply → q.Reply} (h : q.call? = some ⟨r, reply⟩) : q.suspends = r.suspends := by
  cases TimedRequest.calls_of_call? h with
  | free r => rfl
  | within w r => rfl

/-- A client that follows a conduct goes on following it in every turn. -/
theorem follows_turned {k : Conduct α} {c c' : Client α} {d d' : Desk}
    (h : Turned c d c' d') (follows : c.Follows k) : c'.Follows k := by
  cases h with
  | noted at_ =>
      simp only [Follows, at_] at follows
      exact follows
  | idle at_ quiet =>
      simp only [Follows, at_] at follows
      exact follows.2.2 _ quiet.2
  | answered at_ call owns done =>
      simp only [Follows, at_] at follows
      exact follows.2.2 _ (TimedRequest.fits_call? call (Desk.fits_submit? done))
  | queued at_ call owns done =>
      simp only [Follows, at_] at follows ⊢
      exact ⟨(suspends_call? call).trans (suspends_of_waiting done), follows⟩
  | resumed at_ call done =>
      simp only [Follows, at_] at follows
      exact follows.2.2.2 _ (TimedRequest.fits_call? call (Desk.fits_resume? done))
  | expired at_ call done =>
      simp only [Follows, at_] at follows
      exact follows.2.2.2 _ (TimedRequest.fits_call? call (Desk.fits_expire? done))
  | stopped at_ quiet =>
      simp only [Follows, at_] at follows
      exact follows.2.2.2 _ quiet.2
  | dropped now at_ suspends =>
      simp only [Follows, at_] at follows
      exact ⟨c.deeds, follows.1, follows.2.1 suspends, rfl⟩
  | halted now at_ =>
      simp only [Follows, at_] at follows
      exact ⟨c.deeds, follows.1, follows.2, rfl⟩
  | deserted now at_ =>
      simp only [Follows, at_] at follows
      exact ⟨c.deeds, follows.2.1, follows.2.2.1 follows.1, rfl⟩

theorem program_turned {c c' : Client α} {d d' : Desk} (h : Turned c d c' d') :
    c'.program = c.program := by
  cases h <;> rfl

end Client

namespace Traffic

/-- A client keeps to every conduct that its program follows. -/
def Conducted (x : AnyClient) : Prop :=
  ∀ k : Conduct x.1, x.2.program.Follows k [] → x.2.Follows k

theorem conducted_step {w : Traffic} (h : ∀ x ∈ w.clients, Conducted x) (choice : Choice) :
    ∀ x ∈ (w.step choice).clients, Conducted x := by
  cases choice with
  | spawn p =>
      intro x hx
      cases List.mem_append.mp hx with
      | inl old => exact h x old
      | inr new =>
          cases List.mem_singleton.mp new
          exact fun k follows => Client.follows_start follows
  | turn i t =>
      simp only [step]
      split
      · exact h
      · rename_i α c there
        split
        · exact h
        · rename_i c' d' turned
          have moved := Client.turned_of_turn turned
          intro x hx
          cases List.mem_or_eq_of_mem_set hx with
          | inl old => exact h x old
          | inr new =>
              cases new
              intro k follows
              have before := h ⟨α, c⟩ (List.mem_of_getElem? there)
              refine Client.follows_turned moved (before k ?_)
              exact Client.program_turned moved ▸ follows

theorem conducted_runFrom {w : Traffic} (h : ∀ x ∈ w.clients, Conducted x)
    (choices : List Choice) : ∀ x ∈ (w.runFrom choices).clients, Conducted x := by
  induction choices generalizing w with
  | nil => exact h
  | cons choice choices ih => exact ih (conducted_step h choice)

theorem conducted_run (choices : List Choice) : ∀ x ∈ (run choices).clients, Conducted x := by
  refine conducted_runFrom ?_ choices
  intro x hx
  cases hx

end Traffic
end DoubleEntry
