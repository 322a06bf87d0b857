import DoubleEntry.Proofs.Client.Tickets
import DoubleEntry.Proofs.Client.Reliance
import DoubleEntry.Proofs.Store.AmountIndependence

/-!
Two programs that do the same but for amounts. They ask alike, and as long as the replies tell the
same they go on alike and report the same to whoever reads logs from the level of information on.
Where one of them halts nothing is asked of the other any more.
-/

namespace DoubleEntry

/-- What a log shows that leaves out what is of use for debugging only. -/
def Note.shown? : Note → Option Note
  | event e => if e.level.detail ≤ LogLevel.info.detail then some (event e) else none
  | spanOpened s => some (spanOpened s)
  | spanClosed => some spanClosed
  | counted _ => none

/-- Which requests of an interface are alike, and which replies to such requests tell the same. -/
structure Likeness (I : Interface) where
  request : I.Request → I.Request → Prop
  reply : (r r' : I.Request) → I.Reply r → I.Reply r' → Prop

namespace Likeness

inductive PacedAlike : PacedRequest LedgerStore → PacedRequest LedgerStore → Prop where
  | call {r r' : StoreRequest} (h : r.Alike r') : PacedAlike (.call r) (.call r')
  | pause (ms : Nat) : PacedAlike (.pause ms) (.pause ms)

inductive PacedTold : (q q' : PacedRequest LedgerStore) → q.Reply → q'.Reply → Prop where
  | call {r r' : StoreRequest} {reply : r.Reply} {reply' : r'.Reply}
      (h : StoreRequest.Told r r' reply reply') : PacedTold (.call r) (.call r') reply reply'
  | pause (ms : Nat) : PacedTold (.pause ms) (.pause ms) () ()

def paced : Likeness (Paced LedgerStore) := ⟨PacedAlike, PacedTold⟩

inductive TimedAlike : TimedRequest LedgerStore → TimedRequest LedgerStore → Prop where
  | now : TimedAlike .now .now
  | openWindow (cancelAt timeout : Option Nat) :
      TimedAlike (.openWindow cancelAt timeout) (.openWindow cancelAt timeout)
  | free {q q' : PacedRequest LedgerStore} (h : PacedAlike q q') : TimedAlike (.free q) (.free q')
  | within (w : Window) {q q' : PacedRequest LedgerStore} (h : PacedAlike q q') :
      TimedAlike (.within w q) (.within w q')

inductive TimedTold : (q q' : TimedRequest LedgerStore) → q.Reply → q'.Reply → Prop where
  | now (clock : Nat) : TimedTold .now .now clock clock
  | openWindow {cancelAt timeout : Option Nat} (opened : Except Stop Window) :
      TimedTold (.openWindow cancelAt timeout) (.openWindow cancelAt timeout) opened opened
  | free {q q' : PacedRequest LedgerStore} {reply : q.Reply} {reply' : q'.Reply}
      (h : PacedTold q q' reply reply') : TimedTold (.free q) (.free q') reply reply'
  | within (w : Window) {q q' : PacedRequest LedgerStore} {reply : q.Reply} {reply' : q'.Reply}
      (h : PacedTold q q' reply reply') :
      TimedTold (.within w q) (.within w q') (.ok reply) (.ok reply')
  | stopped (w : Window) (q q' : PacedRequest LedgerStore) (s : Stop) :
      TimedTold (.within w q) (.within w q') (.error s) (.error s)

def timed : Likeness (Timed LedgerStore) := ⟨TimedAlike, TimedTold⟩

end Likeness

namespace Program

variable {I : Interface} {α β : Type} {L : Likeness I}

/-- Programs that go on alike. -/
inductive Twin (L : Likeness I) (R : α → α → Prop) : Program I α → Program I α → Prop where
  | done {a a' : α} (h : R a a') : Twin L R (done a) (done a')
  | haltLeft (o : Overflow) (p : Program I α) : Twin L R (halt o) p
  | haltRight (p : Program I α) (o : Overflow) : Twin L R p (halt o)
  | note {n n' : Note} {next next' : Program I α} (same : n.shown? = n'.shown?)
      (rest : Twin L R next next') : Twin L R (note n next) (note n' next')
  | ask {q q' : I.Request} {next : I.Reply q → Program I α} {next' : I.Reply q' → Program I α}
      (h : L.request q q')
      (rest : ∀ reply reply', L.reply q q' reply reply' → Twin L R (next reply) (next' reply')) :
      Twin L R (ask q next) (ask q' next')

variable {R : β → β → Prop} {Q : α → α → Prop}

theorem twin_bind {p p' : Program I β} {f f' : β → Program I α} (first : p.Twin L R p')
    (rest : ∀ b b', R b b' → (f b).Twin L Q (f' b')) : (p.bind f).Twin L Q (p'.bind f') := by
  induction first with
  | done h => exact rest _ _ h
  | haltLeft o p => exact .haltLeft o _
  | haltRight p o => exact .haltRight _ o
  | note same _ ih => exact .note same ih
  | ask h _ ih => exact .ask h ih

/-- Values that are related, or the same error. -/
inductive Results (R : β → β → Prop) : Except LedgerError β → Except LedgerError β → Prop where
  | ok {b b' : β} (h : R b b') : Results R (.ok b) (.ok b')
  | error (e : LedgerError) : Results R (.error e) (.error e)

/-- Actions go on alike with values that are related. -/
theorem twin_action {a a' : Action I β} {f f' : β → Action I α}
    (first : a.toProgram.Twin L (Results R) a'.toProgram)
    (rest : ∀ b b', R b b' → (f b).toProgram.Twin L (Results Q) (f' b').toProgram) :
    (a >>= f).toProgram.Twin L (Results Q) (a' >>= f').toProgram := by
  refine twin_bind first fun outcome outcome' related => ?_
  cases related with
  | ok h => exact rest _ _ h
  | error e => exact .done (.error e)

/-- A stretch, as it is in a window: it is stopped in both programs, or in neither. -/
inductive Stopped (R : β → β → Prop) : Except Stop β → Except Stop β → Prop where
  | ok {b b' : β} (h : R b b') : Stopped R (.ok b) (.ok b')
  | error (s : Stop) : Stopped R (.error s) (.error s)

theorem twin_within {p p' : Program (Paced LedgerStore) β} (h : p.Twin .paced R p')
    (w : Window) : (p.within w).Twin .timed (Stopped R) (p'.within w) := by
  induction h with
  | done h => exact .done (.ok h)
  | haltLeft o p => exact .haltLeft o _
  | haltRight p o => exact .haltRight _ o
  | note same _ ih => exact .note same ih
  | ask h _ ih =>
      simp only [within]
      refine Twin.ask (L := .timed) (Likeness.TimedAlike.within w h) fun reply reply' told => ?_
      cases told with
      | within _ told => exact ih _ _ told
      | stopped _ _ _ s => exact .done (.error s)

/-- A call outside of any window, and what follows it. -/
theorem twin_callFree {r r' : StoreRequest} (alike : r.Alike r')
    {f : r.Reply → Program (Timed LedgerStore) α} {f' : r'.Reply → Program (Timed LedgerStore) α}
    (rest : ∀ reply reply', StoreRequest.Told r r' reply reply' →
      (f reply).Twin .timed Q (f' reply')) :
    ((callFree (I := LedgerStore) r).bind f).Twin .timed Q
      ((callFree (I := LedgerStore) r').bind f') := by
  refine Twin.ask (L := .timed) (Likeness.TimedAlike.free (.call alike)) fun reply reply' told => ?_
  cases told with
  | free told =>
      cases told with
      | call told => exact rest _ _ told

/-- A request in a session, and what follows it unless it is refused. -/
theorem twin_ask {op op' : SessionRequest} (alike : op.Alike op') (s : SessionId)
    {f : op.Reply → Action (Paced LedgerStore) α} {f' : op'.Reply → Action (Paced LedgerStore) α}
    (rest : ∀ reply reply',
      StoreRequest.Told (.perform s op) (.perform s op') (.ok reply) (.ok reply') →
      (f reply).toProgram.Twin .paced (Results Q) (f' reply').toProgram) :
    (op.ask s >>= f).toProgram.Twin .paced (Results Q) (op'.ask s >>= f').toProgram := by
  refine Twin.ask (L := .paced) (Likeness.PacedAlike.call (.perform s alike))
    fun reply reply' told => ?_
  cases told with
  | call told =>
      rcases told.perform_cases with ⟨e, rfl, rfl⟩ | ⟨a, a', rfl, rfl⟩
      · exact .done (.error e)
      · exact rest a a' told

end Program

open Likeness

namespace StoreRequest

variable {r r' : StoreRequest} {reply : r.Reply} {reply' : r'.Reply}

theorem Alike.session?_eq (h : r.Alike r') : r.session? = r'.session? := by cases h <;> rfl

/-- A session is begun by both or by none. -/
theorem Told.begun?_eq (h : Told r r' reply reply') :
    (Deed.of? r reply).bind Deed.begun? = (Deed.of? r' reply').bind Deed.begun? := by
  cases h with
  | @refused s op op' e => cases op <;> cases op' <;> rfl
  | _ => rfl

end StoreRequest

namespace TimedRequest

variable {q q' : TimedRequest LedgerStore}

/-- Replies to two requests, or none to either, that tell the same. -/
def Both (reply : Option q.Reply) (reply' : Option q'.Reply) : Prop :=
  (reply = none ∧ reply' = none) ∨
    ∃ a a', reply = some a ∧ reply' = some a' ∧ TimedTold q q' a a'

theorem both_idle? (h : TimedAlike q q') (clock number : Nat) :
    Both (q.idle? clock number) (q'.idle? clock number) := by
  cases h with
  | now => exact .inr ⟨_, _, rfl, rfl, .now clock⟩
  | openWindow cancelAt timeout =>
      simp only [idle?]
      split
      · exact .inr ⟨_, _, rfl, rfl, .openWindow _⟩
      · exact .inr ⟨_, _, rfl, rfl, .openWindow _⟩
  | free h =>
      cases h with
      | call h => exact .inl ⟨rfl, rfl⟩
      | pause ms => exact .inr ⟨_, _, rfl, rfl, .free (.pause ms)⟩
  | within w h =>
      cases h with
      | call h => exact .inl ⟨rfl, rfl⟩
      | pause ms => exact .inr ⟨_, _, rfl, rfl, .within w (.pause ms)⟩

theorem both_stop? (h : TimedAlike q q') (s : Stop) : Both (q.stop? s) (q'.stop? s) := by
  cases h with
  | now => exact .inl ⟨rfl, rfl⟩
  | openWindow cancelAt timeout => exact .inl ⟨rfl, rfl⟩
  | free h => exact .inl ⟨rfl, rfl⟩
  | @within w p p' h =>
      simp only [stop?]
      split
      · exact .inr ⟨_, _, rfl, rfl, .stopped w p p' s⟩
      · exact .inl ⟨rfl, rfl⟩

theorem suspends_eq (h : TimedAlike q q') : q.suspends = q'.suspends := by
  have calls {r r' : StoreRequest} (h : r.Alike r') : r.suspends = r'.suspends := by
    cases h with
    | perform s h => cases h <;> rfl
    | _ => rfl
  cases h with
  | now => rfl
  | openWindow cancelAt timeout => rfl
  | free h =>
      cases h with
      | call h => exact calls h
      | pause ms => rfl
  | within w h =>
      cases h with
      | call h => exact calls h
      | pause ms => rfl

/-- Both call the store alike, or none of them calls it. -/
theorem call?_cases (h : TimedAlike q q') :
    (q.call? = none ∧ q'.call? = none) ∨
      ∃ r r', ∃ reply : r.Reply → q.Reply, ∃ reply' : r'.Reply → q'.Reply,
        q.call? = some ⟨r, reply⟩ ∧ q'.call? = some ⟨r', reply'⟩ ∧ r.Alike r' ∧
        ∀ a a', StoreRequest.Told r r' a a' → TimedTold q q' (reply a) (reply' a') := by
  cases h with
  | now => exact .inl ⟨rfl, rfl⟩
  | openWindow cancelAt timeout => exact .inl ⟨rfl, rfl⟩
  | free h =>
      cases h with
      | call h => exact .inr ⟨_, _, _, _, rfl, rfl, h, fun a a' told => .free (.call told)⟩
      | pause ms => exact .inl ⟨rfl, rfl⟩
  | within w h =>
      cases h with
      | call h => exact .inr ⟨_, _, _, _, rfl, rfl, h, fun a a' told => .within w (.call told)⟩
      | pause ms => exact .inl ⟨rfl, rfl⟩

theorem begun_told {reply : q.Reply} {reply' : q'.Reply} (h : TimedTold q q' reply reply') :
    (q.deeds reply).filterMap Deed.begun? = (q'.deeds reply').filterMap Deed.begun? := by
  have one {r : StoreRequest} (a : r.Reply) : (Deed.of? r a).toList.filterMap Deed.begun? =
      ((Deed.of? r a).bind Deed.begun?).toList := by
    cases Deed.of? r a with
    | none => rfl
    | some d => cases begun : d.begun? <;> simp [begun]
  cases h with
  | now clock => rfl
  | openWindow opened => rfl
  | stopped w q q' s => cases q <;> cases q' <;> rfl
  | free h =>
      cases h with
      | call h => simp only [deeds, one, h.begun?_eq]
      | pause ms => rfl
  | within w h =>
      cases h with
      | call h => simp only [deeds, one, h.begun?_eq]
      | pause ms => rfl

end TimedRequest

namespace Desk

variable {d d' : Desk} {r r' : StoreRequest} {ticket : Nat}

/-- Answers, or none to either, that tell the same or refuse a change of a balance, from desks that
look alike afterwards. -/
def Both (r r' : StoreRequest) (given : Option (r.Reply × Desk))
    (given' : Option (r'.Reply × Desk)) : Prop :=
  (given = none ∧ given' = none) ∨
    ∃ a a' d d', given = some (a, d) ∧ given' = some (a', d') ∧ d.veiled = d'.veiled ∧
      MemoryStore.ToldBut r r' a a'

theorem both_of_map {given : Option (r.Reply × Desk)} {given' : Option (r'.Reply × Desk)}
    (look : given.map (·.2.veiled) = given'.map (·.2.veiled))
    (told : ∀ a a' d d', given = some (a, d) → given' = some (a', d') →
      MemoryStore.ToldBut r r' a a') : Both r r' given given' := by
  cases given with
  | none =>
      cases given' with
      | none => exact .inl ⟨rfl, rfl⟩
      | some x' => cases look
  | some x =>
      cases given' with
      | none => cases look
      | some x' => exact .inr ⟨_, _, _, _, rfl, rfl, Option.some.inj look, told _ _ _ _ rfl rfl⟩

theorem told_answers (order : d.Orderly) (order' : d'.Orderly) (look : d.veiled = d'.veiled)
    (alike : r.Alike r') {now : Timestamp} {a : r.Reply} {a' : r'.Reply} {e e' : Desk}
    (given : d.Answers now r a e) (given' : d'.Answers now r' a' e') :
    MemoryStore.ToldBut r r' a a' := by
  rw [given.reply_eq order, given'.reply_eq order']
  exact MemoryStore.told_answer (congrArg Desk.store look) (rooted order) (rooted order') now alike

theorem both_resume? (order : d.Orderly) (order' : d'.Orderly) (look : d.veiled = d'.veiled)
    (alike : r.Alike r') (there : ⟨ticket, r⟩ ∈ d.waiting) (there' : ⟨ticket, r'⟩ ∈ d'.waiting)
    (now : Timestamp) : Both r r' (d.resume? now r ticket) (d'.resume? now r' ticket) :=
  both_of_map (resume?_alike order order' look alike.veiled_eq there there' now)
    fun _ _ _ _ given given' =>
      told_answers order order' look alike (.inr ⟨ticket, given⟩) (.inr ⟨ticket, given'⟩)

theorem told_refusal (alike : r.Alike r') (e : LedgerError) :
    StoreRequest.Told r r' (r.refusal e) (r'.refusal e) := by
  cases alike with
  | begin => exact .began _
  | perform s h => exact .refused e
  | abandon s => exact .abandoned s

/-- Both requests are given up in the same words, or none. -/
theorem both_expire? (look : d.veiled = d'.veiled)
    (alike : r.Alike r') (there : ⟨ticket, r⟩ ∈ d.waiting) (there' : ⟨ticket, r'⟩ ∈ d'.waiting) :
    Both r r' (d.expire? r ticket) (d'.expire? r' ticket) := by
  refine both_of_map (expire?_alike look alike.veiled_eq there there') ?_
  intro a a' e e' given given'
  have rows : d.store.awaitedRow ticket = d'.store.awaitedRow ticket := by
    have same : d.veiled.store.awaitedRow ticket = d'.veiled.store.awaitedRow ticket := by rw [look]
    exact same
  simp only [expire?, MemoryStore.expire, rows] at given given'
  split at given
  · split at given'
    · cases given
      cases given'
      exact .inl (told_refusal alike _)
    · cases given'
  · cases given

/-- A request is refused by both desks, answered by both, or waits at both. -/
theorem submit?_cases (order : d.Orderly) (order' : d'.Orderly) (look : d.veiled = d'.veiled)
    (alike : r.Alike r') (now : Timestamp) :
    (d.submit? now r = none ∧ d'.submit? now r' = none) ∨
      (∃ a a' e e', d.submit? now r = some (.answered a, e) ∧
        d'.submit? now r' = some (.answered a', e') ∧ e.veiled = e'.veiled ∧
        MemoryStore.ToldBut r r' a a') ∨
      ∃ n e e', d.submit? now r = some (.waiting n, e) ∧ d'.submit? now r' = some (.waiting n, e') ∧
        e.veiled = e'.veiled := by
  have taken := submit?_alike order order' look alike.veiled_eq now
  cases given : d.submit? now r with
  | none =>
      rw [given, Option.map_none, eq_comm, Option.map_eq_none_iff] at taken
      exact .inl ⟨rfl, taken⟩
  | some x =>
      rw [given, Option.map_some, eq_comm] at taken
      obtain ⟨x', given', same⟩ := Option.map_eq_some_iff.mp taken
      obtain ⟨reply, e⟩ := x
      obtain ⟨reply', e'⟩ := x'
      obtain ⟨ticket, after⟩ := Prod.mk.inj same
      refine .inr ?_
      cases reply with
      | answered a =>
          cases reply' with
          | answered a' =>
              refine .inl ⟨a, a', e, e', rfl, given', after.symm, ?_⟩
              exact told_answers order order' look alike (.inl given) (.inl given')
          | waiting n => cases ticket
      | waiting n =>
          cases reply' with
          | answered a' => cases ticket
          | waiting n' =>
              cases ticket
              exact .inr ⟨n, e, e', rfl, given', after.symm⟩

end Desk

namespace Moment

/-- What a log shows of a moment. -/
def shown? : Moment → Option Note
  | told n => n.shown?
  | heard _ _ => none

/-- A change of a balance is refused, for the balance. -/
def RefusesBalance (m : Moment) : Prop :=
  ∃ r answer, m.answer? = some ⟨r, answer⟩ ∧ StoreRequest.BalanceRefused r answer

end Moment

namespace Client

variable {α : Type} {R : α → α → Prop}

/-- Where clients stand that go on alike. -/
inductive StandAlike (R : α → α → Prop) : Stage α → Stage α → Prop where
  | running {p p' : Program (Timed LedgerStore) α} (h : p.Twin .timed R p') :
      StandAlike R (.running p) (.running p')
  | waiting (ticket : Nat) {q q' : TimedRequest LedgerStore}
      {next : q.Reply → Program (Timed LedgerStore) α}
      {next' : q'.Reply → Program (Timed LedgerStore) α} (h : TimedAlike q q')
      (rest : ∀ reply reply', TimedTold q q' reply reply' →
        (next reply).Twin .timed R (next' reply')) :
      StandAlike R (.waiting ticket q next) (.waiting ticket q' next')

/-- A client that comes to no end any more. -/
def IsLost (c : Client α) : Prop := c.stage = .dropped ∨ ∃ o, c.stage = .running (.halt o)

/-- Two clients, each at a desk of its own, between which no difference shows. -/
structure Alike (R : α → α → Prop) (c : Client α) (d : Desk) (c' : Client α) (d' : Desk) :
    Prop where
  look : d.veiled = d'.veiled
  begun : c.begun = c'.begun
  stage : StandAlike R c.stage c'.stage

/-- What becomes of two clients in the same turn: they go on alike and show the same, or one of them
is refused a change of a balance, or does not come to its end. -/
inductive Turns (R : α → α → Prop) (m m' : Option Moment) (x x' : Client α × Desk) : Prop where
  | alike (h : Alike R x.1 x.2 x'.1 x'.2) (same : m.bind Moment.shown? = m'.bind Moment.shown?)
  | refused (h : ∃ x ∈ m.toList ++ m'.toList, x.RefusesBalance)
  | lost (h : x.1.IsLost ∨ x'.1.IsLost)

variable {c c' : Client α} {d d' : Desk}

/-- The client and the desk after a turn, which may be none. -/
def after (c : Client α) (d : Desk) (t : Turn) : Client α × Desk := (c.turn d t).getD (c, d)

theorem alike_hear (look : d.veiled = d'.veiled) (begun : c.begun = c'.begun)
    {q q' : TimedRequest LedgerStore} {next : q.Reply → Program (Timed LedgerStore) α}
    {next' : q'.Reply → Program (Timed LedgerStore) α} {reply : q.Reply} {reply' : q'.Reply}
    (rest : ∀ reply reply', TimedTold q q' reply reply' →
      (next reply).Twin .timed R (next' reply')) (told : TimedTold q q' reply reply') :
    Alike R (c.hear q next reply) d (c'.hear q' next' reply') d' where
  look := look
  begun := by
    have new := TimedRequest.begun_told told
    simp only [Client.begun, hear, List.filterMap_append, new] at begun ⊢
    rw [begun]
  stage := .running (rest _ _ told)

theorem after_of_turn {t : Turn} {x : Client α × Desk} (h : c.turn d t = some x) :
    c.after d t = x := by
  rw [after, h, Option.getD_some]

/-- A turn that neither takes. -/
theorem turns_still (h : Alike R c d c' d') {t : Turn} (still : c.turn d t = none)
    (still' : c'.turn d' t = none) :
    Turns R (c.moment? d t) (c'.moment? d' t) (c.after d t) (c'.after d' t) := by
  rw [moment?_of_turn_none still, moment?_of_turn_none still', after, still, after, still']
  exact .alike h rfl

/-- A turn that takes a client past a note. -/
theorem turns_note (h : Alike R c d c' d') {n n' : Note}
    {next next' : Program (Timed LedgerStore) α} (at_ : c.stage = .running (.note n next))
    (at_' : c'.stage = .running (.note n' next')) (same : n.shown? = n'.shown?)
    (rest : next.Twin .timed R next') (t : Turn) :
    Turns R (c.moment? d t) (c'.moment? d' t) (c.after d t) (c'.after d' t) := by
  cases t with
  | think clock number =>
      have turn : c.turn d (.think clock number) = some ({ c with stage := .running next }, d) := by
        simp only [Client.turn, at_, turnRunning]
      have turn' : c'.turn d' (.think clock number) =
          some ({ c' with stage := .running next' }, d') := by
        simp only [Client.turn, at_', turnRunning]
      rw [after_of_turn turn, after_of_turn turn']
      refine .alike ⟨h.look, h.begun, .running rest⟩ ?_
      simp only [moment?, at_, at_', Option.bind_some, Moment.shown?, same]
  | _ =>
      refine turns_still h ?_ ?_
      · simp only [Client.turn, at_, turnRunning]
      · simp only [Client.turn, at_', turnRunning]

section Hears

variable {q q' : TimedRequest LedgerStore} {next : q.Reply → Program (Timed LedgerStore) α}
  {next' : q'.Reply → Program (Timed LedgerStore) α} {t : Turn}

/-- A turn in which both hear the same, or neither hears anything. -/
theorem turns_both (h : Alike R c d c' d') {left left' : Desk} (look : left.veiled = left'.veiled)
    (rest : ∀ reply reply', TimedTold q q' reply reply' →
      (next reply).Twin .timed R (next' reply'))
    {reply : Option q.Reply} {reply' : Option q'.Reply} (both : TimedRequest.Both reply reply')
    (turn : c.turn d t = reply.map fun a => (c.hear q next a, left))
    (turn' : c'.turn d' t = reply'.map fun a => (c'.hear q' next' a, left'))
    (moment : c.moment? d t = reply.map (.heard q))
    (moment' : c'.moment? d' t = reply'.map (.heard q')) :
    Turns R (c.moment? d t) (c'.moment? d' t) (c.after d t) (c'.after d' t) := by
  rcases both with ⟨rfl, rfl⟩ | ⟨a, a', rfl, rfl, told⟩
  · exact turns_still h turn turn'
  · rw [after_of_turn turn, after_of_turn turn', moment, moment']
    exact .alike (alike_hear look h.begun rest told) rfl

/-- A turn in which the store answers both. -/
theorem turns_answered (h : Alike R c d c' d') {r r' : StoreRequest} {reply : r.Reply → q.Reply}
    {reply' : r'.Reply → q'.Reply} (call : q.call? = some ⟨r, reply⟩)
    (call' : q'.call? = some ⟨r', reply'⟩)
    (tells : ∀ a a', StoreRequest.Told r r' a a' → TimedTold q q' (reply a) (reply' a'))
    (rest : ∀ reply reply', TimedTold q q' reply reply' →
      (next reply).Twin .timed R (next' reply'))
    {a : r.Reply} {a' : r'.Reply} {e e' : Desk} (look : e.veiled = e'.veiled)
    (told : MemoryStore.ToldBut r r' a a')
    (turn : c.turn d t = some (c.hear q next (reply a), e))
    (turn' : c'.turn d' t = some (c'.hear q' next' (reply' a'), e'))
    (moment : c.moment? d t = some (.heard q (reply a)))
    (moment' : c'.moment? d' t = some (.heard q' (reply' a'))) :
    Turns R (c.moment? d t) (c'.moment? d' t) (c.after d t) (c'.after d' t) := by
  rw [after_of_turn turn, after_of_turn turn', moment, moment']
  rcases told with told | refused | refused
  · exact .alike (alike_hear look h.begun rest (tells a a' told)) rfl
  · exact .refused ⟨_, List.mem_cons_self, r, a, Moment.answer?_call? call a, refused⟩
  · refine .refused ⟨_, List.mem_append_right _ List.mem_cons_self, r', a', ?_, refused⟩
    exact Moment.answer?_call? call' a'

/-- A turn in which both are answered at last, or none of them. -/
theorem turns_given (h : Alike R c d c' d') {r r' : StoreRequest} {reply : r.Reply → q.Reply}
    {reply' : r'.Reply → q'.Reply} (call : q.call? = some ⟨r, reply⟩)
    (call' : q'.call? = some ⟨r', reply'⟩)
    (tells : ∀ a a', StoreRequest.Told r r' a a' → TimedTold q q' (reply a) (reply' a'))
    (rest : ∀ reply reply', TimedTold q q' reply reply' →
      (next reply).Twin .timed R (next' reply'))
    {given : Option (r.Reply × Desk)} {given' : Option (r'.Reply × Desk)}
    (both : Desk.Both r r' given given')
    (turn : c.turn d t = given.map fun x => (c.hear q next (reply x.1), x.2))
    (turn' : c'.turn d' t = given'.map fun x => (c'.hear q' next' (reply' x.1), x.2))
    (moment : c.moment? d t = given.map fun x => .heard q (reply x.1))
    (moment' : c'.moment? d' t = given'.map fun x => .heard q' (reply' x.1)) :
    Turns R (c.moment? d t) (c'.moment? d' t) (c.after d t) (c'.after d' t) := by
  rcases both with ⟨rfl, rfl⟩ | ⟨a, a', e, e', rfl, rfl, look, told⟩
  · exact turns_still h turn turn'
  · exact turns_answered h call call' tells rest look told turn turn' moment moment'

/-- Two clients that ask alike submit what they ask. -/
theorem turns_submit (order : d.Orderly) (order' : d'.Orderly) (h : Alike R c d c' d')
    (asks : TimedAlike q q') (at_ : c.stage = .running (.ask q next))
    (at_' : c'.stage = .running (.ask q' next'))
    (rest : ∀ reply reply', TimedTold q q' reply reply' →
      (next reply).Twin .timed R (next' reply')) (now : Timestamp) :
    Turns R (c.moment? d (.submit now)) (c'.moment? d' (.submit now)) (c.after d (.submit now))
      (c'.after d' (.submit now)) := by
  rcases TimedRequest.call?_cases asks with ⟨call, call'⟩ |
    ⟨r, r', reply, reply', call, call', alike, tells⟩
  · refine turns_still h ?_ ?_
    · simp only [Client.turn, at_, turnRunning, call]
    · simp only [Client.turn, at_', turnRunning, call']
  · have owns : c.owns r = c'.owns r' := by
      simp only [Client.owns, h.begun, alike.session?_eq]
    cases owned : c'.owns r' with
    | false =>
        rw [owned] at owns
        refine turns_still h ?_ ?_
        · simp [Client.turn, at_, turnRunning, call, owns]
        · simp [Client.turn, at_', turnRunning, call', owned]
    | true =>
        rw [owned] at owns
        rcases Desk.submit?_cases order order' h.look alike now with ⟨given, given'⟩ |
          ⟨a, a', e, e', given, given', look, told⟩ | ⟨n, e, e', given, given', look⟩
        · refine turns_still h ?_ ?_
          · simp [Client.turn, at_, turnRunning, call, owns, given]
          · simp [Client.turn, at_', turnRunning, call', owned, given']
        · refine turns_answered h call call' tells rest look told ?_ ?_ ?_ ?_
          · simp [Client.turn, at_, turnRunning, call, owns, given]
          · simp [Client.turn, at_', turnRunning, call', owned, given']
          · simp [moment?, at_, call, owns, given]
          · simp [moment?, at_', call', owned, given']
        · have turn : c.turn d (.submit now) =
              some ({ c with stage := .waiting n q next }, e) := by
            simp [Client.turn, at_, turnRunning, call, owns, given]
          have turn' : c'.turn d' (.submit now) =
              some ({ c' with stage := .waiting n q' next' }, e') := by
            simp [Client.turn, at_', turnRunning, call', owned, given']
          rw [after_of_turn turn, after_of_turn turn']
          refine .alike ⟨look, h.begun, .waiting n asks rest⟩ ?_
          simp [moment?, at_, at_', call, call', owns, owned, given, given']

/-- A turn of two clients that ask alike. -/
theorem turns_ask (order : d.Orderly) (order' : d'.Orderly) (h : Alike R c d c' d')
    (asks : TimedAlike q q') (at_ : c.stage = .running (.ask q next))
    (at_' : c'.stage = .running (.ask q' next'))
    (rest : ∀ reply reply', TimedTold q q' reply reply' →
      (next reply).Twin .timed R (next' reply')) (t : Turn) :
    Turns R (c.moment? d t) (c'.moment? d' t) (c.after d t) (c'.after d' t) := by
  cases t with
  | think clock number =>
      refine turns_both h h.look rest (TimedRequest.both_idle? asks clock number) ?_ ?_ ?_ ?_
      all_goals simp only [Client.turn, moment?, at_, at_', turnRunning]
  | stop s =>
      refine turns_both h h.look rest (TimedRequest.both_stop? asks s) ?_ ?_ ?_ ?_
      all_goals simp only [Client.turn, moment?, at_, at_', turnRunning]
  | submit now => exact turns_submit order order' h asks at_ at_' rest now
  | drop now =>
      cases suspends : q'.suspends with
      | false =>
          refine turns_still h ?_ ?_
          · simp [Client.turn, at_, turnRunning, TimedRequest.suspends_eq asks, suspends]
          · simp [Client.turn, at_', turnRunning, suspends]
      | true =>
          refine .lost (.inl (.inl ?_))
          have suspends' := (TimedRequest.suspends_eq asks).trans suspends
          simp [after, Client.turn, at_, turnRunning, suspends', leave]
  | resume now =>
      refine turns_still h ?_ ?_
      · simp only [Client.turn, at_, turnRunning]
      · simp only [Client.turn, at_', turnRunning]
  | expire =>
      refine turns_still h ?_ ?_
      · simp only [Client.turn, at_, turnRunning]
      · simp only [Client.turn, at_', turnRunning]

/-- A turn of two clients that wait with the same ticket, for replies to what they ask alike. -/
theorem turns_waiting (order : d.Orderly) (order' : d'.Orderly) (lined : c.InLine d)
    (lined' : c'.InLine d') (h : Alike R c d c' d') (asks : TimedAlike q q') {ticket : Nat}
    (at_ : c.stage = .waiting ticket q next) (at_' : c'.stage = .waiting ticket q' next')
    (rest : ∀ reply reply', TimedTold q q' reply reply' →
      (next reply).Twin .timed R (next' reply')) (t : Turn) :
    Turns R (c.moment? d t) (c'.moment? d' t) (c.after d t) (c'.after d' t) := by
  obtain ⟨r, reply, call, there⟩ := lined ticket q next at_
  obtain ⟨r', reply', call', there'⟩ := lined' ticket q' next' at_'
  rcases TimedRequest.call?_cases asks with ⟨none_, _⟩ | ⟨_, _, _, _, known, known', alike, tells⟩
  · cases none_.symm.trans call
  · cases known.symm.trans call
    cases known'.symm.trans call'
    cases t with
    | resume now =>
        have both := Desk.both_resume? order order' h.look alike there there' now
        refine turns_given h call call' tells rest both ?_ ?_ ?_ ?_
        all_goals simp only [Client.turn, moment?, at_, at_', turnWaiting, call, call']
    | expire =>
        have both := Desk.both_expire? h.look alike there there'
        refine turns_given h call call' tells rest both ?_ ?_ ?_ ?_
        all_goals simp only [Client.turn, moment?, at_, at_', turnWaiting, call, call']
    | stop s =>
        have look : (d.desert ticket).veiled = (d'.desert ticket).veiled := by
          rw [Desk.veiled_desert, h.look, Desk.veiled_desert]
        refine turns_both h look rest (TimedRequest.both_stop? asks s) ?_ ?_ ?_ ?_
        all_goals simp only [Client.turn, moment?, at_, at_', turnWaiting]
    | drop now =>
        refine .lost (.inl (.inl ?_))
        simp [after, Client.turn, at_, turnWaiting, leave]
    | think clock number =>
        refine turns_still h ?_ ?_
        · simp only [Client.turn, at_, turnWaiting]
        · simp only [Client.turn, at_', turnWaiting]
    | submit now =>
        refine turns_still h ?_ ?_
        · simp only [Client.turn, at_, turnWaiting]
        · simp only [Client.turn, at_', turnWaiting]

end Hears

theorem isLost_after (lost : c.IsLost) (d : Desk) (t : Turn) : (c.after d t).1.IsLost := by
  rcases lost with at_ | ⟨o, at_⟩
  · refine .inl ?_
    simp [after, Client.turn, at_]
  · cases t with
    | drop now =>
        refine .inl ?_
        simp [after, Client.turn, at_, turnRunning, leave]
    | _ =>
        refine .inr ⟨o, ?_⟩
        simp [after, Client.turn, at_, turnRunning]

/-- Two clients between which no difference shows take the same turn. -/
theorem turns_of_alike (order : d.Orderly) (order' : d'.Orderly) (lined : c.InLine d)
    (lined' : c'.InLine d') (h : Alike R c d c' d') (t : Turn) :
    Turns R (c.moment? d t) (c'.moment? d' t) (c.after d t) (c'.after d' t) := by
  have stands := h.stage
  generalize at_ : c.stage = stage at stands
  generalize at_' : c'.stage = stage' at stands
  cases stands with
  | running twin =>
      cases twin with
      | done related =>
          refine turns_still h ?_ ?_
          · simp only [Client.turn, at_, turnRunning]
          · simp only [Client.turn, at_', turnRunning]
      | haltLeft o p => exact .lost (.inl (isLost_after (.inr ⟨o, at_⟩) d t))
      | haltRight p o => exact .lost (.inr (isLost_after (.inr ⟨o, at_'⟩) d' t))
      | note same rest => exact turns_note h at_ at_' same rest t
      | ask asks rest => exact turns_ask order order' h asks at_ at_' rest t
  | waiting ticket asks rest =>
      exact turns_waiting order order' lined lined' h asks at_ at_' rest t

end Client
end DoubleEntry
