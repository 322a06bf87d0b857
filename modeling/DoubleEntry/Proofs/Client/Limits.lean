import DoubleEntry.Proofs.Client.Answers
import DoubleEntry.Proofs.Client.Contract

/-!
What programs can tell and ask for at all. A limit is read off a program part by part, for all
replies, and whatever a client comes through keeps to the limit of its program.
-/

namespace DoubleEntry

def Note.Uncounted (n : Note) : Prop := ∀ m, n ≠ .counted m

theorem Note.uncounted_event (e : Event) : (Note.event e).Uncounted := fun _ no => by cases no

/-- Asks the store only for what is allowed. -/
def PacedRequest.Asks (P : StoreRequest → Prop) : PacedRequest LedgerStore → Prop
  | call r => P r
  | pause _ => True

def TimedRequest.Asks (P : StoreRequest → Prop) : TimedRequest LedgerStore → Prop
  | free r | within _ r => r.Asks P
  | now | openWindow _ _ => True

theorem PacedRequest.asks_mono {P P' : StoreRequest → Prop} (weaker : ∀ r, P r → P' r)
    {r : PacedRequest LedgerStore} (h : r.Asks P) : r.Asks P' := by
  cases r with
  | call r => exact weaker r h
  | pause ms => trivial

namespace Moment

variable {N : Note → Prop} {P : StoreRequest → Prop} {m : Moment}

def Limited (N : Note → Prop) (P : StoreRequest → Prop) : Moment → Prop
  | told n => N n
  | heard q _ => q.Asks P

theorem asked_of_limited (limited : m.Limited N P) {r : StoreRequest} {answer : r.Reply}
    (h : m.answer? = some ⟨r, answer⟩) : P r := by
  cases m with
  | told n => cases h
  | heard q reply =>
      cases q with
      | free p => cases p <;> cases h; exact limited
      | within w p => cases p <;> cases reply <;> cases h; exact limited
      | now => cases h
      | openWindow _ _ => cases h

/-- What is done in a moment is done by the store. -/
theorem exists_answer_of_mem {e : Deed} (he : e ∈ m.deeds) :
    ∃ r answer, m.answer? = some ⟨r, answer⟩ ∧ Deed.of? r answer = some e := by
  cases m with
  | told n => cases he
  | heard q reply =>
      cases q with
      | free p =>
          cases p with
          | call r => exact ⟨r, reply, rfl, Option.mem_toList.mp he⟩
          | pause ms => cases he
      | within w p =>
          cases reply with
          | error stop => cases p <;> cases he
          | ok answer =>
              cases p with
              | call r => exact ⟨r, answer, rfl, Option.mem_toList.mp he⟩
              | pause ms => cases he
      | now => cases he
      | openWindow _ _ => cases he

end Moment

/-- What is counted in some moments. -/
def measured (ms : List Moment) : List Measurement := ms.filterMap Moment.counted?

theorem measured_append (ms ns : List Moment) :
    measured (ms ++ ns) = measured ms ++ measured ns := List.filterMap_append

namespace Program

variable {I J : Interface} {α β : Type} {N N' : Note → Prop} {P P' : StoreRequest → Prop}

/-- All that a program can tell and ask is of some kind. -/
def Limited (told : Note → Prop) (asked : I.Request → Prop) : Program I α → Prop
  | done _ | halt _ => True
  | note n next => told n ∧ Limited told asked next
  | ask r next => asked r ∧ ∀ reply, Limited told asked (next reply)

theorem limited_bind {asked : I.Request → Prop} {p : Program I β} {f : β → Program I α}
    (first : p.Limited N asked) (rest : ∀ b, (f b).Limited N asked) :
    (p.bind f).Limited N asked := by
  induction p with
  | done b => exact rest b
  | halt o => trivial
  | note n next ih => exact ⟨first.1, ih first.2⟩
  | ask r next ih => exact ⟨first.1, fun reply => ih reply (first.2 reply)⟩

theorem limited_mono {asked asked' : I.Request → Prop} {p : Program I α}
    (notes : ∀ n, N n → N' n) (requests : ∀ r, asked r → asked' r) (h : p.Limited N asked) :
    p.Limited N' asked' := by
  induction p with
  | done b => trivial
  | halt o => trivial
  | note n next ih => exact ⟨notes n h.1, ih h.2⟩
  | ask r next ih => exact ⟨requests r h.1, fun reply => ih reply (h.2 reply)⟩

/-- An action goes on with a value only. -/
theorem limited_action {asked : I.Request → Prop} {a : Action I β} {f : β → Action I α}
    (first : a.toProgram.Limited N asked) (rest : ∀ b, (f b).toProgram.Limited N asked) :
    (a >>= f).toProgram.Limited N asked := by
  refine limited_bind first fun outcome => ?_
  cases outcome with
  | error e => trivial
  | ok b => exact rest b

theorem limited_within {p : Program (Paced LedgerStore) α}
    (h : p.Limited N (PacedRequest.Asks P)) (w : Window) :
    (p.within w).Limited N (TimedRequest.Asks P) := by
  induction p with
  | done a => trivial
  | halt o => trivial
  | note n next ih => exact ⟨h.1, ih h.2⟩
  | ask r next ih =>
      simp only [within, Limited]
      refine ⟨h.1, fun reply => ?_⟩
      cases reply with
      | error stop => trivial
      | ok answer => exact ih answer (h.2 answer)

theorem limited_timed {p : Program LedgerStore α} (h : p.Limited N P) :
    (timed p).Limited N (TimedRequest.Asks P) := by
  induction p with
  | done a => trivial
  | halt o => trivial
  | note n next ih => exact ⟨h.1, ih h.2⟩
  | ask r next ih => exact And.intro h.1 fun reply => ih reply (h.2 reply)

theorem limited_of_leads {p p' : Program (Timed LedgerStore) α} {ms : List Moment}
    (h : p.Limited N (TimedRequest.Asks P)) (leads : p.Leads ms p') :
    (∀ m ∈ ms, m.Limited N P) ∧ p'.Limited N (TimedRequest.Asks P) := by
  induction leads with
  | here p => exact ⟨fun m hm => (by cases hm), h⟩
  | told rest ih =>
      obtain ⟨all, last⟩ := ih h.2
      exact ⟨List.forall_mem_cons.mpr ⟨h.1, all⟩, last⟩
  | heard fits rest ih =>
      obtain ⟨all, last⟩ := ih (h.2 _)
      exact ⟨List.forall_mem_cons.mpr ⟨h.1, all⟩, last⟩

theorem measured_of_limited {p p' : Program (Timed LedgerStore) α} {ms : List Moment}
    (h : p.Limited Note.Uncounted (TimedRequest.Asks P)) (leads : p.Leads ms p') :
    measured ms = [] := by
  refine List.filterMap_eq_nil_iff.mpr fun m hm => ?_
  have limited := (limited_of_leads h leads).1 m hm
  cases m with
  | heard q reply => rfl
  | told n =>
      cases n with
      | counted c => exact absurd rfl (limited c)
      | _ => rfl

theorem interpret_bind (h : (r : I.Request) → Program J (I.Reply r)) (p : Program I β)
    (f : β → Program I α) :
    (p.bind f).interpret h = (p.interpret h).bind fun b => (f b).interpret h := by
  induction p with
  | done b => rfl
  | halt o => rfl
  | note n next ih => exact congrArg (note n) ih
  | ask r next ih =>
      simp only [bind, interpret, bind_assoc]
      exact congrArg _ (funext ih)

/-- An action that has come to a value has come to one in each of its parts. -/
theorem leads_action {a : Action LedgerStore β} {f : β → Action LedgerStore α} {ms : List Moment}
    {value : α} (h : (timed (a >>= f).toProgram).Leads ms (done (.ok value))) :
    ∃ first rest b, ms = first ++ rest ∧ (timed a.toProgram).Leads first (done (.ok b)) ∧
      (timed (f b).toProgram).Leads rest (done (.ok value)) := by
  have shape : timed (a >>= f).toProgram =
      (timed a.toProgram).bind fun outcome => timed (ExceptT.bindCont f outcome) :=
    interpret_bind _ _ _
  rw [shape] at h
  obtain ⟨first, rest, outcome, split, led, goes⟩ := leads_bind_done h
  cases outcome with
  | error e => cases goes
  | ok b => exact ⟨first, rest, b, split, led, goes⟩

end Program

namespace UnitOfWork

open Program

variable {α : Type} {P : StoreRequest → Prop}

/-- What a body may ask for that leaves its session to whoever has begun it. -/
def StaysIn (s : SessionId) : StoreRequest → Prop
  | .perform t (.insertTransaction _) | .perform t (.insertEntry _ _) => t = s
  | .perform t (.addBalance _ _) => t = s
  | _ => False

theorem not_ends_of_staysIn {s t : SessionId} {r : StoreRequest} {answer : r.Reply} {e : Deed}
    (stays : StaysIn s r) (does : Deed.of? r answer = some e) : ¬ e.Ends t := by
  simp only [Deed.of?] at does
  split at does <;> cases does <;> first | exact id | exact stays.elim

theorem limited_bounded {N : Note → Prop} (u : UnitOfWork) (cancelAt : Option Nat)
    {body : Program (Paced LedgerStore) (Except LedgerError α)}
    (works : body.Limited N (PacedRequest.Asks P)) :
    (u.bounded cancelAt body).Limited N (TimedRequest.Asks P) := by
  refine ⟨trivial, fun opened => ?_⟩
  cases opened with
  | error stop => trivial
  | ok window =>
      change Limited N _ ((body.within window).bind _)
      refine limited_bind (limited_within works window) fun outcome => ?_
      cases outcome <;> trivial

/-- A unit of work asks for a session, for what its body asks for, and for the session's end. -/
theorem limited_execute (u : UnitOfWork) (cancelAt : Option Nat)
    {body : SessionId → Program (Paced LedgerStore) (Except LedgerError α)} (begins : P .begin)
    (ends : ∀ s, P (.perform s .commit) ∧ P (.perform s .rollback) ∧ P (.abandon s))
    (works : ∀ s, (body s).Limited (fun _ => True) (PacedRequest.Asks P)) :
    (u.execute cancelAt body).Limited (fun _ => True) (TimedRequest.Asks P) := by
  refine ⟨begins, fun begun => ?_⟩
  cases begun with
  | error e => trivial
  | ok s =>
      change Limited _ _ ((u.bounded cancelAt (body s)).bind fun outcome => conclude s outcome)
      refine limited_bind (limited_bounded u cancelAt (works s)) fun outcome => ?_
      rw [conclude_eq]
      refine limited_bind ?_ fun result => ⟨(ends s).2.2, fun _ => trivial⟩
      cases outcome with
      | ok value =>
          refine ⟨(ends s).1, fun reply => ?_⟩
          cases reply with
          | ok _ => exact ⟨trivial, trivial⟩
          | error e => exact ⟨trivial, trivial, trivial⟩
      | error e =>
          refine ⟨trivial, (ends s).2.1, fun reply => ?_⟩
          cases reply <;> exact ⟨trivial, trivial⟩

end UnitOfWork
end DoubleEntry
