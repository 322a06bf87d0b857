import DoubleEntry.Proofs.Store.Deeds
import DoubleEntry.Timed

/-!
What can be said of a program by looking at the program alone. A conduct is a property of the deeds
that a program has done so far; a program follows it if the property holds wherever the program can
come to, for all replies that fit its requests, at every stop and at every point at which it can be
dropped. Programs are followed part by part.
-/

namespace DoubleEntry

/-- A reply speaks of what was asked for. -/
def StoreRequest.Fits : (r : StoreRequest) → r.Reply → Prop
  | .perform _ (.insertTransaction new), .ok t => t.toNewTransaction = new
  | .perform _ (.insertEntry a amount), .ok e => e.accountId = a ∧ e.amount = amount
  | .perform _ (.addBalance a _), .ok (some row) => row.id = a
  | _, _ => True

/-- A program may be dropped while it waits for the reply. -/
def StoreRequest.suspends : StoreRequest → Bool
  | .begin | .abandon _ | .perform _ .rollback => false
  | .perform _ _ | .query _ => true

namespace TimedRequest

/-- The request to the store in a timed one, and what a reply to it is there. -/
def call? : (q : TimedRequest LedgerStore) → Option ((r : StoreRequest) × (r.Reply → q.Reply))
  | .free (.call r) => some ⟨r, id⟩
  | .within _ (.call r) => some ⟨r, .ok⟩
  | .free (.pause _) | .within _ (.pause _) | .now | .openWindow _ _ => none

/-- A timed request hands one to the store, outside of all windows or inside of one. -/
inductive Calls : (q : TimedRequest LedgerStore) → (r : StoreRequest) → (r.Reply → q.Reply) → Prop
    where
  | free (r : StoreRequest) : Calls (.free (.call r)) r id
  | within (w : Window) (r : StoreRequest) : Calls (.within w (.call r)) r .ok

theorem calls_of_call? {q : TimedRequest LedgerStore} {r : StoreRequest}
    {reply : r.Reply → q.Reply} (h : q.call? = some ⟨r, reply⟩) : q.Calls r reply := by
  cases q with
  | free p =>
      cases p with
      | call r =>
          cases h
          exact .free r
      | pause ms => cases h
  | within w p =>
      cases p with
      | call r =>
          cases h
          exact .within w r
      | pause ms => cases h
  | now => cases h
  | openWindow cancelAt timeout => cases h

def Fits : (q : TimedRequest LedgerStore) → q.Reply → Prop
  | .free (.call r), reply => r.Fits reply
  | .within _ (.call r), .ok reply => r.Fits reply
  | .openWindow cancelAt _, .ok _ => cancelAt ≠ some 0
  | _, _ => True

/-- What the reply to a request says was done. -/
def deeds : (q : TimedRequest LedgerStore) → q.Reply → List Deed
  | .free (.call r), reply => (Deed.of? r reply).toList
  | .within _ (.call r), .ok reply => (Deed.of? r reply).toList
  | _, _ => []

def suspends : TimedRequest LedgerStore → Bool
  | .free (.call r) | .within _ (.call r) => r.suspends
  | .free (.pause _) | .within _ (.pause _) => true
  | .now | .openWindow _ _ => false

end TimedRequest

/-- What holds of the deeds of a program: always, where it may be dropped, and at its end. -/
structure Conduct (α : Type) where
  always : List Deed → Prop
  mayDrop : List Deed → Prop
  mayEnd : List Deed → α → Prop

namespace Conduct

variable {α β : Type}

def toEnd (k : Conduct α) (mayEnd : List Deed → β → Prop) : Conduct β :=
  { always := k.always, mayDrop := k.mayDrop, mayEnd := mayEnd }

end Conduct

namespace Program

variable {α β : Type} {k : Conduct α} {history : List Deed}

/-- The program keeps to a conduct, after the deeds that it has done. -/
def Follows (k : Conduct α) (history : List Deed) : Program (Timed LedgerStore) α → Prop
  | done a => k.always history ∧ k.mayEnd history a
  | halt _ => k.always history ∧ k.mayDrop history
  | note _ next => Follows k history next
  | ask q next =>
      k.always history ∧ (q.suspends = true → k.mayDrop history) ∧
        ∀ reply, q.Fits reply → Follows k (history ++ q.deeds reply) (next reply)

theorem follows_bind {f : β → Program (Timed LedgerStore) α} {p : Program (Timed LedgerStore) β}
    (h : p.Follows (k.toEnd fun history b => (f b).Follows k history) history) :
    (p.bind f).Follows k history := by
  induction p generalizing history with
  | done b => exact h.2
  | halt o => exact h
  | note n next ih => exact ih h
  | ask q next ih =>
      refine ⟨h.1, h.2.1, ?_⟩
      intro reply fits
      exact ih reply (h.2.2 reply fits)

theorem follows_mono {k' : Conduct α} {p : Program (Timed LedgerStore) α}
    (always : ∀ h, k.always h → k'.always h) (mayDrop : ∀ h, k.mayDrop h → k'.mayDrop h)
    (mayEnd : ∀ h a, k.always h → k.mayEnd h a → k'.mayEnd h a) (h : p.Follows k history) :
    p.Follows k' history := by
  induction p generalizing history with
  | done a => exact ⟨always _ h.1, mayEnd _ a h.1 h.2⟩
  | halt o => exact ⟨always _ h.1, mayDrop _ h.2⟩
  | note n next ih => exact ih h
  | ask q next ih =>
      refine ⟨always _ h.1, fun s => mayDrop _ (h.2.1 s), ?_⟩
      intro reply fits
      exact ih reply (h.2.2 reply fits)

/-- A program goes on after a part that follows a conduct of its own. -/
theorem follows_bind_of {k' : Conduct β} {p : Program (Timed LedgerStore) β}
    {f : β → Program (Timed LedgerStore) α} (first : p.Follows k' history)
    (always : ∀ h, k'.always h → k.always h) (mayDrop : ∀ h, k'.mayDrop h → k.mayDrop h)
    (rest : ∀ h b, k'.always h → k'.mayEnd h b → (f b).Follows k h) :
    (p.bind f).Follows k history :=
  follows_bind (follows_mono always mayDrop rest first)

theorem always_of_follows {p : Program (Timed LedgerStore) α} (h : p.Follows k history) :
    k.always history := by
  induction p with
  | done a => exact h.1
  | halt o => exact h.1
  | note n next ih => exact ih h
  | ask q next _ => exact h.1

end Program
end DoubleEntry
