import DoubleEntry.Program

/-!
Programs in time. Waiting takes time, and a stretch of a program can be given a window: an instant
at which it is cancelled and a deadline. A request inside the window is answered or stopped, and
once stopped nothing more of the stretch runs.
-/

namespace DoubleEntry

/-- Requests of another interface, and pauses. -/
inductive PacedRequest (I : Interface) : Type where
  | call (r : I.Request)
  | pause (ms : Nat)

/-- The reply to a call is that of the interface; a pause just ends. -/
@[reducible] def PacedRequest.Reply {I : Interface} : PacedRequest I → Type
  | call r => I.Reply r
  | pause _ => Unit

/-- An interface together with pauses. -/
@[reducible] def Paced (I : Interface) : Interface := ⟨PacedRequest I, PacedRequest.Reply⟩

/-- What ended a stretch before it was done. -/
inductive Stop where
  | cancelled
  | deadline
  deriving DecidableEq, Repr

/-- Instants, in milliseconds, at which a stretch is cancelled and at which its time is up. Windows
are numbered in the order in which they were opened. -/
structure Window where
  number : Nat
  cancelAt : Option Nat
  deadline : Option Nat
  deriving DecidableEq, Repr

inductive TimedRequest (I : Interface) : Type where
  | now
  /-- Opens a window that is cancelled at an instant, or after so many milliseconds is over. -/
  | openWindow (cancelAt timeout : Option Nat)
  | free (r : PacedRequest I)
  | within (w : Window) (r : PacedRequest I)

/-- Inside a window a request may be stopped; opening one is stopped if it is cancelled already. -/
@[reducible] def TimedRequest.Reply {I : Interface} : TimedRequest I → Type
  | now => Nat
  | openWindow _ _ => Except Stop Window
  | free r => r.Reply
  | within _ r => Except Stop r.Reply

/-- An interface together with pauses, a clock and windows. -/
@[reducible] def Timed (I : Interface) : Interface := ⟨TimedRequest I, TimedRequest.Reply⟩

namespace Program

variable {I J : Interface} {α : Type}

/-- Runs a program inside a window. -/
def within (w : Window) : Program (Paced I) α → Program (Timed I) (Except Stop α)
  | done a => done (.ok a)
  | halt o => halt o
  | note n next => note n (next.within w)
  | ask r next => ask (I := Timed I) (.within w r) fun
      | .ok reply => (next reply).within w
      | .error stop => done (.error stop)

/-- Runs a program outside of any window. -/
def untimed (p : Program (Paced I) α) : Program (Timed I) α :=
  p.interpret fun r => request (I := Timed I) (.free r)

/-- The request of an interface, among pauses. -/
def call (r : I.Request) : Program (Paced I) (I.Reply r) := request (I := Paced I) (.call r)

/-- The request of an interface, outside of any window. -/
def callFree (r : I.Request) : Program (Timed I) (I.Reply r) :=
  request (I := Timed I) (.free (.call r))

def pause (ms : Nat) : Program (Paced I) Unit := request (I := Paced I) (.pause ms)

def now : Program (Timed I) Nat := request (I := Timed I) .now

/-- Embeds a program that never waits on purpose. -/
def timed (p : Program I α) : Program (Timed I) α := p.interpret fun r => callFree r

/-- Answers each call by a program over another interface; pauses stay. -/
def interpretPaced (h : (r : I.Request) → Program (Paced J) (I.Reply r)) :
    (r : PacedRequest I) → Program (Paced J) r.Reply
  | .call r => h r
  | .pause ms => pause ms

/-- Answers each call by a program over another interface; the clock, windows and pauses stay, and
a call inside a window is answered inside it. -/
def interpretTimed (h : (r : I.Request) → Program (Paced J) (I.Reply r)) :
    (r : TimedRequest I) → Program (Timed J) r.Reply
  | .now => now
  | .openWindow cancelAt timeout => request (I := Timed J) (.openWindow cancelAt timeout)
  | .free r => (interpretPaced h r).untimed
  | .within w r => (interpretPaced h r).within w

end Program
end DoubleEntry
