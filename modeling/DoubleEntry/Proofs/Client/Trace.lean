import DoubleEntry.Proofs.Client.Steps
import DoubleEntry.Proofs.Store.Isolation

/-!
What a client tells and hears on its way. Its moments are the notes that it makes and the replies
that it is given, in their order. They lead its program from the beginning to where it stands, and
all that it has done it has done in them, but for the ends of its sessions when it was dropped.
-/

namespace DoubleEntry

inductive Moment where
  | told (n : Note)
  | heard (q : TimedRequest LedgerStore) (reply : q.Reply)

namespace Moment

/-- The request to the store and its reply, in a moment that has one. -/
def answer? : Moment → Option ((r : StoreRequest) × r.Reply)
  | heard (.free (.call r)) reply => some ⟨r, reply⟩
  | heard (.within _ (.call r)) (.ok reply) => some ⟨r, reply⟩
  | _ => none

def deeds : Moment → List Deed
  | told _ => []
  | heard q reply => q.deeds reply

def counted? : Moment → Option Measurement
  | told (.counted m) => some m
  | _ => none

variable {q : TimedRequest LedgerStore} {r : StoreRequest} {reply : r.Reply → q.Reply}

theorem answer?_call? (h : q.call? = some ⟨r, reply⟩) (answer : r.Reply) :
    (heard q (reply answer)).answer? = some ⟨r, answer⟩ := by
  cases TimedRequest.calls_of_call? h with
  | free r => rfl
  | within w r => rfl

theorem answer?_idle? {clock number : Nat} {answer : q.Reply}
    (h : q.idle? clock number = some answer) : (heard q answer).answer? = none := by
  cases q with
  | free p => cases p <;> first | rfl | cases h
  | within w p => cases p <;> first | rfl | cases h
  | now => rfl
  | openWindow _ _ => rfl

theorem answer?_stop? {s : Stop} {answer : q.Reply} (h : q.stop? s = some answer) :
    (heard q answer).answer? = none := by
  cases q with
  | within w p =>
      simp only [TimedRequest.stop?] at h
      split at h
      · cases h
        cases p <;> rfl
      · cases h
  | free p => cases h
  | now => rfl
  | openWindow _ _ => rfl

end Moment

namespace Program

variable {α β : Type}

/-- A program comes to another one through these moments. -/
inductive Leads : Program (Timed LedgerStore) α → List Moment → Program (Timed LedgerStore) α →
    Prop where
  | here (p : Program (Timed LedgerStore) α) : Leads p [] p
  | told {n next ms p} (rest : Leads next ms p) : Leads (note n next) (.told n :: ms) p
  | heard {q next reply ms p} (fits : q.Fits reply) (rest : Leads (next reply) ms p) :
      Leads (ask q next) (.heard q reply :: ms) p

variable {p p' p'' : Program (Timed LedgerStore) α} {ms ns : List Moment}

theorem leads_append (first : p.Leads ms p') (rest : p'.Leads ns p'') :
    p.Leads (ms ++ ns) p'' := by
  induction first with
  | here p => exact rest
  | told first ih => exact .told (ih rest)
  | heard fits first ih => exact .heard fits (ih rest)

/-- A program that goes on after a part is in that part still, or has come to its end. -/
theorem leads_bind {p : Program (Timed LedgerStore) β} {f : β → Program (Timed LedgerStore) α}
    {x : Program (Timed LedgerStore) α} (h : (p.bind f).Leads ms x) :
    (∃ p', p.Leads ms p' ∧ x = p'.bind f) ∨
      ∃ first rest b, ms = first ++ rest ∧ p.Leads first (done b) ∧ (f b).Leads rest x := by
  induction p generalizing ms with
  | done b => exact .inr ⟨[], ms, b, rfl, .here _, h⟩
  | halt o =>
      cases h
      exact .inl ⟨_, .here _, rfl⟩
  | note n next ih =>
      cases h with
      | here _ => exact .inl ⟨_, .here _, rfl⟩
      | told h =>
          rcases ih h with ⟨p', first, same⟩ | ⟨first, rest, b, rfl, led, goes⟩
          · exact .inl ⟨p', .told first, same⟩
          · exact .inr ⟨_, rest, b, rfl, .told led, goes⟩
  | ask q next ih =>
      cases h with
      | here _ => exact .inl ⟨_, .here _, rfl⟩
      | heard fits h =>
          rcases ih _ h with ⟨p', first, same⟩ | ⟨first, rest, b, rfl, led, goes⟩
          · exact .inl ⟨p', .heard fits first, same⟩
          · exact .inr ⟨_, rest, b, rfl, .heard fits led, goes⟩

/-- A program that has come to its end has come to the end of each of its parts. -/
theorem leads_bind_done {p : Program (Timed LedgerStore) β}
    {f : β → Program (Timed LedgerStore) α} {a : α} (h : (p.bind f).Leads ms (done a)) :
    ∃ first rest b, ms = first ++ rest ∧ p.Leads first (done b) ∧ (f b).Leads rest (done a) := by
  rcases leads_bind h with ⟨p', led, same⟩ | found
  · cases p' with
    | done b => exact ⟨ms, [], b, (List.append_nil ms).symm, led, same ▸ .here _⟩
    | _ => cases same
  · exact found

end Program

namespace Desk

/-- The store gives an answer, in whatever way. -/
inductive Replies (d : Desk) (r : StoreRequest) (answer : r.Reply) (d' : Desk) : Prop where
  | submitted {now} (h : d.submit? now r = some (.answered answer, d'))
  | resumed {now ticket} (h : d.resume? now r ticket = some (answer, d'))
  | expired {ticket} (h : d.expire? r ticket = some (answer, d'))

variable {d d' : Desk}

/-- What needs no row is answered at once. -/
theorem Replies.at_once {r : StoreRequest} {answer : r.Reply} (order : d.Orderly)
    (row : r.row? = none) (h : d.Replies r answer d') :
    ∃ now, d.submit? now r = some (.answered answer, d') := by
  have still : ∀ ticket, ⟨ticket, r⟩ ∉ d.waiting := by
    intro ticket mem
    obtain ⟨a, some⟩ := order.rows _ mem
    cases row.symm.trans some
  cases h with
  | @submitted now h => exact ⟨now, h⟩
  | @resumed now ticket h =>
      simp only [resume?] at h
      split at h
      · rename_i there
        exact absurd there.1 (still ticket)
      · cases h
  | @expired ticket h =>
      simp only [expire?] at h
      split at h
      · rename_i there
        exact absurd there.1 (still ticket)
      · cases h

theorem Replies.answer {r : StoreRequest} {answer : r.Reply} (order : d.Orderly)
    (row : r.row? = none) (h : d.Replies r answer d') :
    ∃ now, answer = (d.store.answer now r).1 := by
  obtain ⟨now, done⟩ := h.at_once order row
  have free : d.store.wantedRow? r = none := by
    refine Option.eq_none_iff_forall_ne_some.mpr fun a wants => ?_
    cases row.symm.trans (MemoryStore.wantedRow?_eq_some wants).1
  simp only [submit?, MemoryStore.submit_of_unlocked free] at done
  split at done
  · cases done
  · cases done
    exact ⟨now, rfl⟩

/-- A query that only reads is answered from the tables, and changes nothing. -/
theorem Replies.of_reads {q : Query} {answer : (StoreRequest.query q).Reply} (order : d.Orderly)
    (reads : q.reads = true) (h : d.Replies (.query q) answer d') :
    d' = d ∧ ∃ now, answer = (d.store.query now q).1 := by
  have row : (StoreRequest.query q).row? = none := by
    cases q with
    | createAccount _ => cases reads
    | deleteAccount _ => cases reads
    | _ => rfl
  obtain ⟨now, done⟩ := h.at_once order row
  rw [submit?_of_reads reads now] at done
  cases done
  exact ⟨rfl, now, rfl⟩

end Desk

namespace Client

variable {α : Type}

/-- What a client tells or hears in a turn. -/
def moment? (c : Client α) (d : Desk) (t : Turn) : Option Moment :=
  match c.stage, t with
  | .running (.note n _), .think _ _ => some (.told n)
  | .running (.ask q _), .think clock number => (q.idle? clock number).map (.heard q)
  | .running (.ask q _), .submit now =>
      match q.call? with
      | none => none
      | some ⟨r, reply⟩ =>
          if c.owns r then
            match d.submit? now r with
            | some (.answered answer, _) => some (.heard q (reply answer))
            | _ => none
          else none
  | .running (.ask q _), .stop s => (q.stop? s).map (.heard q)
  | .waiting ticket q _, .resume now =>
      match q.call? with
      | none => none
      | some ⟨r, reply⟩ => (d.resume? now r ticket).map fun answer => .heard q (reply answer.1)
  | .waiting ticket q _, .expire =>
      match q.call? with
      | none => none
      | some ⟨r, reply⟩ => (d.expire? r ticket).map fun answer => .heard q (reply answer.1)
  | .waiting _ q _, .stop s => (q.stop? s).map (.heard q)
  | _, _ => none

/-- What is left of the program of a client. -/
def rest? (c : Client α) : Option (Program (Timed LedgerStore) α) :=
  match c.stage with
  | .running p => some p
  | .waiting _ q next => some (.ask q next)
  | .dropped => none

/-- How a turn takes a client through a moment, or through none. -/
inductive Passes (c : Client α) (d : Desk) : Option Moment → Client α → Desk → Prop where
  | told {n next} (at_ : c.rest? = some (.note n next)) :
      Passes c d (some (.told n)) { c with stage := .running next } d
  | idle {q next reply d'} (at_ : c.rest? = some (.ask q next))
      (quiet : q.deeds reply = [] ∧ q.Fits reply) (mute : (Moment.heard q reply).answer? = none)
      (deeds : d'.deeds = d.deeds) : Passes c d (some (.heard q reply)) (c.hear q next reply) d'
  | answered {q next r answer d'} {reply : r.Reply → q.Reply} (at_ : c.rest? = some (.ask q next))
      (call : q.call? = some ⟨r, reply⟩) (fits : r.Fits answer)
      (replies : d.Replies r answer d') :
      Passes c d (some (.heard q (reply answer))) (c.hear q next (reply answer)) d'
  | queued {ticket q next d'} (at_ : c.rest? = some (.ask q next)) (deeds : d'.deeds = d.deeds) :
      Passes c d none { c with stage := .waiting ticket q next } d'
  | left {p d'} (at_ : c.rest? = some p) : Passes c d none c.leave d'

theorem passes_of_turnRunning {c c' : Client α} {d d' : Desk} {t : Turn}
    {p : Program (Timed LedgerStore) α} (at_ : c.stage = .running p)
    (h : c.turnRunning d p t = some (c', d')) : Passes c d (c.moment? d t) c' d' := by
  have rest : c.rest? = some p := by simp only [rest?, at_]
  cases p with
  | done a => cases t <;> cases h
  | note n next =>
      cases t <;> cases h
      simp only [moment?, at_]
      exact .told rest
  | halt o =>
      cases t <;> cases h
      simp only [moment?, at_]
      exact .left rest
  | ask q next =>
      cases t with
      | think clock number =>
          obtain ⟨reply, idle, same⟩ := Option.map_eq_some_iff.mp h
          cases same
          simp only [moment?, at_, idle, Option.map_some]
          exact .idle rest (TimedRequest.quiet_idle? idle) (Moment.answer?_idle? idle) rfl
      | submit now =>
          simp only [turnRunning] at h
          split at h
          · cases h
          · rename_i r reply call
            split at h
            · rename_i owns
              split at h
              · rename_i done
                cases h
                simp only [moment?, at_, call, owns, if_true, done]
                exact .answered rest call (Desk.fits_submit? done) (.submitted done)
              · rename_i done
                cases h
                simp only [moment?, at_, call, owns, if_true, done]
                exact .queued rest (Desk.waiting_submit? done).1
              · cases h
            · cases h
      | stop s =>
          obtain ⟨reply, stop, same⟩ := Option.map_eq_some_iff.mp h
          cases same
          simp only [moment?, at_, stop, Option.map_some]
          exact .idle rest (TimedRequest.quiet_stop? stop) (Moment.answer?_stop? stop) rfl
      | drop now =>
          simp only [turnRunning] at h
          split at h
          · cases h
            simp only [moment?, at_]
            exact .left rest
          · cases h
      | resume now => cases h
      | expire => cases h

theorem passes_of_turnWaiting {c c' : Client α} {d d' : Desk} {t : Turn} {ticket : Nat}
    {q : TimedRequest LedgerStore} {next : q.Reply → Program (Timed LedgerStore) α}
    (at_ : c.stage = .waiting ticket q next)
    (h : c.turnWaiting d ticket q next t = some (c', d')) :
    Passes c d (c.moment? d t) c' d' := by
  have rest : c.rest? = some (.ask q next) := by simp only [rest?, at_]
  cases t with
  | resume now =>
      simp only [turnWaiting] at h
      split at h
      · cases h
      · rename_i r reply call
        obtain ⟨⟨answer, desk⟩, done, same⟩ := Option.map_eq_some_iff.mp h
        cases same
        simp only [moment?, at_, call, done, Option.map_some]
        exact .answered rest call (Desk.fits_resume? done) (.resumed done)
  | expire =>
      simp only [turnWaiting] at h
      split at h
      · cases h
      · rename_i r reply call
        obtain ⟨⟨answer, desk⟩, done, same⟩ := Option.map_eq_some_iff.mp h
        cases same
        simp only [moment?, at_, call, done, Option.map_some]
        exact .answered rest call (Desk.fits_expire? done) (.expired done)
  | stop s =>
      obtain ⟨reply, stop, same⟩ := Option.map_eq_some_iff.mp h
      cases same
      simp only [moment?, at_, stop, Option.map_some]
      exact .idle rest (TimedRequest.quiet_stop? stop) (Moment.answer?_stop? stop)
        (Desk.deeds_desert d ticket)
  | drop now =>
      cases h
      simp only [moment?, at_]
      exact .left rest
  | think clock number => cases h
  | submit now => cases h

theorem passes_of_turn {c c' : Client α} {d d' : Desk} {t : Turn}
    (h : c.turn d t = some (c', d')) : Passes c d (c.moment? d t) c' d' := by
  simp only [turn] at h
  split at h
  · rename_i p at_
    exact passes_of_turnRunning at_ h
  · rename_i ticket q next at_
    exact passes_of_turnWaiting at_ h
  · cases h

/-- A client with a moment stands somewhere. -/
theorem stands_of_passes {c c' : Client α} {d d' : Desk} {m : Moment}
    (h : Passes c d (some m) c' d') : c.stage ≠ .dropped := by
  intro dropped
  have gone : c.rest? = none := by simp only [rest?, dropped]
  cases h with
  | told at_ => cases gone.symm.trans at_
  | idle at_ => cases gone.symm.trans at_
  | answered at_ => cases gone.symm.trans at_

/-- The store gives the reply that is heard. -/
theorem replies_of_passes {c c' : Client α} {d d' : Desk} {m : Moment}
    (h : Passes c d (some m) c' d') {r : StoreRequest} {answer : r.Reply}
    (store : m.answer? = some ⟨r, answer⟩) : r.Fits answer ∧ d.Replies r answer d' := by
  cases h with
  | told at_ => cases store
  | idle at_ quiet mute => cases mute.symm.trans store
  | answered at_ call fits replies =>
      rw [Moment.answer?_call? call] at store
      cases store
      exact ⟨fits, replies⟩

/-- Where there is no turn, there is no moment. -/
theorem moment?_of_turn_none {c : Client α} {d : Desk} {t : Turn} (h : c.turn d t = none) :
    c.moment? d t = none := by
  cases at_ : c.stage with
  | dropped => simp only [moment?, at_]
  | running p =>
      simp only [turn, at_] at h
      cases p with
      | done a => simp only [moment?, at_]
      | halt o => simp only [moment?, at_]
      | note n next => cases t <;> first | (simp only [moment?, at_]; done) | cases h
      | ask q next =>
          cases t with
          | think clock number =>
              simp only [moment?, at_]
              exact Option.map_eq_none_iff.mpr (Option.map_eq_none_iff.mp h)
          | stop s =>
              simp only [moment?, at_]
              exact Option.map_eq_none_iff.mpr (Option.map_eq_none_iff.mp h)
          | submit now =>
              simp only [turnRunning] at h
              simp only [moment?, at_]
              split
              · rfl
              · rename_i r reply call
                simp only [call] at h
                split
                · rename_i owns
                  rw [if_pos owns] at h
                  split
                  · rename_i done
                    rw [done] at h
                    cases h
                  · rfl
                · rfl
          | _ => simp only [moment?, at_]
  | waiting ticket q next =>
      simp only [turn, at_] at h
      cases t with
      | stop s =>
          simp only [moment?, at_]
          exact Option.map_eq_none_iff.mpr (Option.map_eq_none_iff.mp h)
      | resume now =>
          simp only [turnWaiting] at h
          simp only [moment?, at_]
          split
          · rfl
          · rename_i r reply call
            simp only [call] at h
            exact Option.map_eq_none_iff.mpr (Option.map_eq_none_iff.mp h)
      | expire =>
          simp only [turnWaiting] at h
          simp only [moment?, at_]
          split
          · rfl
          · rename_i r reply call
            simp only [call] at h
            exact Option.map_eq_none_iff.mpr (Option.map_eq_none_iff.mp h)
      | _ => simp only [moment?, at_]

/-- What a client has come to from a program, through its moments. -/
inductive Led (p : Program (Timed LedgerStore) α) (ms : List Moment) (c : Client α) : Prop where
  | stands {p'} (at_ : c.rest? = some p') (leads : p.Leads ms p')
      (deeds : c.deeds = ms.flatMap Moment.deeds)
  | left {p'} (at_ : c.stage = .dropped) (leads : p.Leads ms p') (ends : List SessionId)
      (deeds : c.deeds = ms.flatMap Moment.deeds ++ ends.map .abandoned)

theorem led_start (p : Program (Timed LedgerStore) α) : (start p).Led p [] :=
  .stands rfl (.here p) rfl

/-- A client that was not dropped has done what it has done in its moments. -/
theorem deeds_of_led {c : Client α} {p : Program (Timed LedgerStore) α} {ms : List Moment}
    (led : c.Led p ms) (stands : c.stage ≠ .dropped) : c.deeds = ms.flatMap Moment.deeds := by
  cases led with
  | stands _ _ deeds => exact deeds
  | left gone => exact absurd gone stands

theorem led_passes {c c' : Client α} {d d' : Desk} {p : Program (Timed LedgerStore) α}
    {ms : List Moment} {m : Option Moment} (led : c.Led p ms) (h : Passes c d m c' d') :
    c'.Led p (ms ++ m.toList) := by
  cases led with
  | left at_ leads ends deeds =>
      have gone : c.rest? = none := by simp only [rest?, at_]
      cases h with
      | told there => cases gone.symm.trans there
      | idle there => cases gone.symm.trans there
      | answered there => cases gone.symm.trans there
      | queued there => cases gone.symm.trans there
      | left there => cases gone.symm.trans there
  | stands at_ leads deeds =>
      cases h with
      | told there =>
          cases at_.symm.trans there
          refine .stands rfl (Program.leads_append leads (.told (.here _))) ?_
          simpa [Moment.deeds] using deeds
      | @idle q next reply d' there quiet mute same =>
          cases at_.symm.trans there
          refine .stands rfl (Program.leads_append leads (.heard quiet.2 (.here _))) ?_
          simp [hear, Moment.deeds, deeds]
      | @answered q next r answer d' reply there call fits replies =>
          cases at_.symm.trans there
          refine .stands rfl (Program.leads_append leads
            (.heard (TimedRequest.fits_call? call fits) (.here _))) ?_
          simp [hear, Moment.deeds, deeds]
      | queued there same =>
          cases at_.symm.trans there
          refine .stands rfl ?_ ?_
          · simpa using leads
          · simpa using deeds
      | left there =>
          rw [Option.toList_none, List.append_nil]
          exact .left rfl leads c.begun (congrArg (· ++ _) deeds)

end Client

namespace Traffic

/-- What a client tells or hears in a step. -/
def moment? (w : Traffic) (i : Nat) : Choice → Option Moment
  | .spawn _ => none
  | .turn j t => if j = i then w.clients[i]?.bind fun x => x.2.moment? w.desk t else none

/-- The moments of a client in a run. -/
def moments (w : Traffic) (i : Nat) : List Choice → List Moment
  | [] => []
  | choice :: choices => (w.moment? i choice).toList ++ (w.step choice).moments i choices

variable {w : Traffic} {i : Nat} {α : Type}

theorem moments_append (w : Traffic) (i : Nat) (first second : List Choice) :
    w.moments i (first ++ second) =
      w.moments i first ++ (w.runFrom first).moments i second := by
  induction first generalizing w with
  | nil => rfl
  | cons choice first ih =>
      change (w.moment? i choice).toList ++ (w.step choice).moments i (first ++ second) = _
      rw [ih, ← List.append_assoc]
      rfl

/-- A moment was at some step. -/
theorem step_of_moment {m : Moment} {choices : List Choice} (hm : m ∈ w.moments i choices) :
    ∃ before choice after, choices = before ++ choice :: after ∧
      (w.runFrom before).moment? i choice = some m := by
  induction choices generalizing w with
  | nil => cases hm
  | cons choice choices ih =>
      cases List.mem_append.mp hm with
      | inl now => exact ⟨[], choice, choices, rfl, Option.mem_toList.mp now⟩
      | inr later =>
          obtain ⟨before, c, after, split, at_⟩ := ih later
          exact ⟨choice :: before, c, after, congrArg (choice :: ·) split, at_⟩

/-- A turn is not taken, or takes a client through what is its moment then. -/
theorem step_passes (w : Traffic) (i : Nat) (t : Turn) :
    w.step (.turn i t) = w ∧ w.moment? i (.turn i t) = none ∨
      ∃ (α : Type) (c c' : Client α), w.clients[i]? = some ⟨α, c⟩ ∧
        Client.Passes c w.desk (w.moment? i (.turn i t)) c' (w.step (.turn i t)).desk ∧
        (w.step (.turn i t)).clients = w.clients.set i ⟨α, c'⟩ := by
  simp only [step, moment?, if_true]
  split
  · rename_i absent
    exact .inl ⟨rfl, by rw [absent]; rfl⟩
  · rename_i α c there
    rw [there, Option.bind_some]
    split
    · rename_i still
      exact .inl ⟨rfl, Client.moment?_of_turn_none still⟩
    · rename_i c' d' turned
      exact .inr ⟨α, c, c', rfl, Client.passes_of_turn turned, rfl⟩

theorem passes_of_moment? {choice : Choice} {m : Moment} (h : w.moment? i choice = some m) :
    ∃ (α : Type) (c c' : Client α), w.clients[i]? = some ⟨α, c⟩ ∧
      Client.Passes c w.desk (some m) c' (w.step choice).desk := by
  cases choice with
  | spawn p => cases h
  | turn j t =>
      by_cases same : j = i
      · subst same
        cases step_passes w j t with
        | inl still => cases still.2.symm.trans h
        | inr took =>
            obtain ⟨α, c, c', there, passes, _⟩ := took
            exact ⟨α, c, c', there, h ▸ passes⟩
      · rw [moment?, if_neg same] at h
        cases h

/-- The store gives the reply that is heard in a step. -/
theorem replies_of_moment? {choice : Choice} {m : Moment} {r : StoreRequest} {answer : r.Reply}
    (h : w.moment? i choice = some m) (store : m.answer? = some ⟨r, answer⟩) :
    r.Fits answer ∧ w.desk.Replies r answer (w.step choice).desk := by
  obtain ⟨α, c, c', _, passes⟩ := passes_of_moment? h
  exact Client.replies_of_passes passes store

/-- A client that has a moment is there, and stands somewhere. -/
theorem stands_of_moment? {choice : Choice} {m : Moment} (h : w.moment? i choice = some m) :
    ∃ (α : Type) (c : Client α), w.clients[i]? = some ⟨α, c⟩ ∧ c.stage ≠ .dropped := by
  obtain ⟨α, c, c', there, passes⟩ := passes_of_moment? h
  exact ⟨α, c, there, Client.stands_of_passes passes⟩

theorem led_step {c : Client α} {p : Program (Timed LedgerStore) α} {ms : List Moment}
    (hc : w.clients[i]? = some ⟨α, c⟩) (led : c.Led p ms) (choice : Choice) :
    ∃ c' : Client α, (w.step choice).clients[i]? = some ⟨α, c'⟩ ∧
      c'.Led p (ms ++ (w.moment? i choice).toList) := by
  have hi : i < w.clients.length := (List.getElem?_eq_some_iff.mp hc).1
  have still : c.Led p (ms ++ none.toList) := by
    rw [Option.toList_none, List.append_nil]
    exact led
  cases choice with
  | spawn p => exact ⟨c, (List.getElem?_append_left hi).trans hc, still⟩
  | turn j t =>
      by_cases same : j = i
      · subst same
        cases step_passes w j t with
        | inl none =>
            rw [none.1, none.2]
            exact ⟨c, hc, still⟩
        | inr took =>
            obtain ⟨β, k, k', hk, passes, clients⟩ := took
            cases hc.symm.trans hk
            refine ⟨k', ?_, Client.led_passes led passes⟩
            rw [clients]
            exact List.getElem?_set_self hi
      · rw [show w.moment? i (.turn j t) = none from if_neg same]
        cases step_turn w j t with
        | inl none =>
            rw [none]
            exact ⟨c, hc, still⟩
        | inr took =>
            obtain ⟨β, k, k', _, _, clients⟩ := took
            refine ⟨c, ?_, still⟩
            rw [clients, List.getElem?_set_ne same]
            exact hc

theorem moment?_of_late (late : w.clients.length ≤ i) (choice : Choice) :
    w.moment? i choice = none := by
  cases choice with
  | spawn p => rfl
  | turn j t =>
      simp only [moment?]
      split
      · rw [List.getElem?_eq_none_iff.mpr late]
        rfl
      · rfl

theorem length_turn (w : Traffic) (j : Nat) (t : Turn) :
    (w.step (.turn j t)).clients.length = w.clients.length :=
  @length_of_turns [.turn j t] (by simp) w

theorem clients_length_step (w : Traffic) (choice : Choice) :
    w.clients.length ≤ (w.step choice).clients.length := by
  cases choice with
  | spawn p => exact Nat.le_of_lt (by simp [step])
  | turn j t => exact Nat.le_of_eq (length_turn w j t).symm

theorem clients_length_runFrom (w : Traffic) (choices : List Choice) :
    w.clients.length ≤ (w.runFrom choices).clients.length := by
  induction choices generalizing w with
  | nil => exact Nat.le_refl _
  | cons choice choices ih => exact Nat.le_trans (clients_length_step w choice) (ih _)

/-- The moments of all clients lead their programs to where they stand. -/
def AllLed (w : Traffic) (ms : Nat → List Moment) : Prop :=
  (∀ (i : Nat) (x : AnyClient), w.clients[i]? = some x → x.2.Led x.2.program (ms i)) ∧
    ∀ i, w.clients.length ≤ i → ms i = []

theorem allLed_step {ms : Nat → List Moment} (h : w.AllLed ms) (choice : Choice) :
    (w.step choice).AllLed fun i => ms i ++ (w.moment? i choice).toList := by
  have ⟨led, fresh⟩ := h
  refine ⟨fun i x hx => ?_, fun i late => ?_⟩
  · by_cases old : i < w.clients.length
    · obtain ⟨c', hc', led'⟩ := led_step (List.getElem?_eq_getElem old)
        (led i _ (List.getElem?_eq_getElem old)) choice
      cases hx.symm.trans hc'
      obtain ⟨c'', hc'', _, program⟩ := client_step (List.getElem?_eq_getElem old) choice
      cases hc'.symm.trans hc''
      rw [program]
      exact led'
    · have late := Nat.le_of_not_lt old
      simp only [fresh i late, moment?_of_late late]
      cases choice with
      | spawn p =>
          cases getElem?_concat hx with
          | inl before => exact absurd (List.getElem?_eq_some_iff.mp before).1 old
          | inr new =>
              subst new
              exact Client.led_start p
      | turn j t =>
          exact absurd (length_turn w j t ▸ (List.getElem?_eq_some_iff.mp hx).1) old
  · have before := Nat.le_trans (clients_length_step w choice) late
    simp only [fresh i before, moment?_of_late before]
    rfl

theorem allLed_runFrom {ms : Nat → List Moment} (h : w.AllLed ms) (choices : List Choice) :
    (w.runFrom choices).AllLed fun i => ms i ++ w.moments i choices := by
  induction choices generalizing w ms with
  | nil => simpa [moments, runFrom] using h
  | cons choice choices ih =>
      have later := ih (allLed_step h choice)
      simp only [List.append_assoc] at later
      exact later

theorem allLed_run (choices : List Choice) : (run choices).AllLed fun i => moments {} i choices :=
  allLed_runFrom (w := {}) ⟨fun _ _ no => (by cases no), fun _ _ => rfl⟩ choices

theorem led_run {choices : List Choice} {c : Client α}
    (hc : (run choices).clients[i]? = some ⟨α, c⟩) :
    c.Led c.program (moments {} i choices) :=
  (allLed_run choices).1 i _ hc

/-- A client has no moments before it is there. -/
theorem moments_of_spawn (before after : List Choice) (p : Program (Timed LedgerStore) α) :
    moments {} (run before).clients.length (before ++ .spawn p :: after) =
      ((run before).step (.spawn p)).moments (run before).clients.length after := by
  have none : moments {} (run before).clients.length before = [] :=
    (allLed_run before).2 _ (Nat.le_refl _)
  rw [moments_append, none]
  rfl

end Traffic
end DoubleEntry
