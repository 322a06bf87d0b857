import DoubleEntry.Arithmetic
import DoubleEntry.Log.Event
import DoubleEntry.Metrics

/-!
Programs that talk to something outside of them: a store, a database, a clock. A program is a tree
of requests, and its behaviour is fixed by the replies alone, so that the same program can be run,
interleaved with others, or followed over all replies. Reports on the way are notes, which nothing
answers. A program whose arithmetic leaves its range halts where it is, and gives nothing.
-/

namespace DoubleEntry

/-- What a program reports: an event, the stretch that the events around it belong to, or a count.
-/
inductive Note where
  | event (e : Event)
  | spanOpened (s : Span)
  | spanClosed
  | counted (m : Measurement)
  deriving DecidableEq

/-- Requests, and the type of the reply to each. -/
structure Interface where
  Request : Type
  Reply : Request → Type

inductive Program (I : Interface) (α : Type) : Type where
  | done (value : α)
  | halt (o : Overflow)
  | note (n : Note) (next : Program I α)
  | ask (request : I.Request) (next : I.Reply request → Program I α)

namespace Program

variable {I J : Interface} {α β γ : Type}

def bind : Program I α → (α → Program I β) → Program I β
  | done a, f => f a
  | halt o, _ => halt o
  | note n next, f => note n (next.bind f)
  | ask r next, f => ask r fun reply => (next reply).bind f

instance : Monad (Program I) where
  pure := done
  bind := bind

/-- Asks one question and gives its reply. -/
def request (r : I.Request) : Program I (I.Reply r) := ask r done

def tell (n : Note) : Program I Unit := note n (done ())

def report (e : Event) : Program I Unit := tell (.event e)

def count (m : Measurement) : Program I Unit := tell (.counted m)

/-- Reports an event if there is one. -/
def reportAny : Option Event → Program I Unit
  | some e => report e
  | none => done ()

/-- Answers every request of a program by a program over another interface. -/
def interpret (h : (r : I.Request) → Program J (I.Reply r)) : Program I α → Program J α
  | done a => done a
  | halt o => halt o
  | note n next => note n (next.interpret h)
  | ask r next => (h r).bind fun reply => (next reply).interpret h

theorem bind_done (p : Program I α) : p.bind done = p := by
  induction p with
  | done a => rfl
  | halt o => rfl
  | note n next ih => simp [bind, ih]
  | ask r next ih => simp [bind, ih]

theorem bind_assoc (p : Program I α) (f : α → Program I β) (g : β → Program I γ) :
    (p.bind f).bind g = p.bind fun a => (f a).bind g := by
  induction p with
  | done a => rfl
  | halt o => rfl
  | note n next ih => simp [bind, ih]
  | ask r next ih => simp [bind, ih]

instance : LawfulMonad (Program I) :=
  LawfulMonad.mk' (Program I) bind_done (fun _ _ => rfl) bind_assoc

end Program

/-- A program that may end in an error of the ledger. -/
abbrev Action (I : Interface) (α : Type) : Type := ExceptT LedgerError (Program I) α

namespace Action

variable {I : Interface} {α : Type}

/-- Lifts a program that reports its error as a value. -/
def ofProgram (p : Program I (Except LedgerError α)) : Action I α := p

def toProgram (a : Action I α) : Program I (Except LedgerError α) := a

/-- Goes on with a result, and halts without one. -/
def ofChecked : Checked LedgerError α → Action I α
  | .ok result => ofProgram (.done result)
  | .error o => ofProgram (.halt o)

end Action

/-- Runs a program against a source that always replies. Also gives the notes, in their order. -/
def Program.answered {I : Interface} {σ α : Type} (reply : (r : I.Request) → σ → I.Reply r × σ) :
    Program I α → σ → Except Overflow α × List Note × σ
  | .done a, s => (.ok a, [], s)
  | .halt o, s => (.error o, [], s)
  | .note n next, s =>
      let (a, notes, s) := next.answered reply s
      (a, n :: notes, s)
  | .ask r next, s =>
      let (answer, s) := reply r s
      (next answer).answered reply s

/-- How far a program got: to its end, to where it halts, or to a request that has no reply yet. -/
inductive Progress (I : Interface) (α : Type) : Type where
  | finished (value : α)
  | halted (o : Overflow)
  | blocked (request : I.Request) (next : I.Reply request → Program I α)

/-- What becomes of a request: it is answered, its program must wait, or the program halts. -/
inductive Response (α : Type) : Type where
  | answer (reply : α)
  | wait
  | halt (o : Overflow)

def Response.map {α β : Type} (f : α → β) : Response α → Response β
  | answer reply => answer (f reply)
  | wait => wait
  | halt o => halt o

/-- Serves requests and takes notes over a state. -/
structure Server (I : Interface) (σ : Type) where
  note : Note → σ → σ
  serve : (r : I.Request) → σ → Response (I.Reply r) × σ

/-- Runs a program until it is done, halts, or must wait. -/
def Program.run {I : Interface} {σ α : Type} (server : Server I σ) :
    Program I α → σ → Progress I α × σ
  | .done a, s => (.finished a, s)
  | .halt o, s => (.halted o, s)
  | .note n next, s => next.run server (server.note n s)
  | .ask r next, s =>
      match server.serve r s with
      | (.answer reply, s) => (next reply).run server s
      | (.wait, s) => (.blocked r next, s)
      | (.halt o, s) => (.halted o, s)

end DoubleEntry
