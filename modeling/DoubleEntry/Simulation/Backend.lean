import DoubleEntry.Simulation.Step
import DoubleEntry.Store.Memory

/-!
Stores as a simulation sees them, and the store in memory as one of them.
-/

namespace DoubleEntry.Simulation

/-- What calls outside of the interface of stores give, if the store knows them. -/
abbrev AdminReply (σ : Type) : Type :=
  Option (Except Overflow (Except LedgerError Unit) × List Note × σ)

/-- A store. A request that needs a row lock waits with a ticket, and reading the answer to one may
halt the program that made it. -/
structure Backend where
  State : Type
  Ticket : Type
  submit : Timestamp → (r : StoreRequest) → State →
    Except Overflow (Submission Ticket r.Reply) × List Note × State
  isGranted : Ticket → State → Bool
  resume : Timestamp → (r : StoreRequest) → Ticket → State → r.Reply × State
  expire : (r : StoreRequest) → Ticket → State → r.Reply × State
  desert : Ticket → State → State
  /-- How many milliseconds a ticket waits at most. -/
  patience : State → Nat
  /-- The committed tables and the number of lock slots, if they are in sight. -/
  tables? : State → Option (Tables × Nat)
  healthCheck : State → AdminReply State
  migrate : List Sql.AppliedMigration → State → AdminReply State

/-- The store in memory, with the time that a row lock is waited for. -/
structure MemoryState where
  store : MemoryStore := {}
  lockTimeout : Nat := 5000

def memoryBackend : Backend where
  State := MemoryState
  Ticket := Nat
  submit now r st :=
    let (submission, store) := st.store.submit now r
    (.ok submission, [], { st with store := store })
  isGranted ticket st := st.store.isGranted ticket
  resume now r ticket st :=
    let (reply, store) := st.store.resume now r ticket
    (reply, { st with store := store })
  expire r ticket st :=
    let (reply, store) := st.store.expire r ticket
    (reply, { st with store := store })
  desert ticket st := { st with store := st.store.desert ticket }
  patience st := st.lockTimeout
  tables? st := some (st.store.tables, st.store.locks.size)
  healthCheck _ := none
  migrate _ _ := none

end DoubleEntry.Simulation
