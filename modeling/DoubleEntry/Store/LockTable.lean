/-!
Row locks. An account that is locked or waited for has a slot in the table, and everyone who holds
or waits has a ticket on that slot. A lock that is given back goes at once to the ticket that has
waited longest, and a slot may be removed only while no ticket is on it. The steps are those of the
critical sections: to take a ticket, to acquire, to discard a ticket, and to prune a slot.
-/

namespace DoubleEntry

/-- How far a ticket has come. -/
inductive Standing where
  /-- On the slot, but not yet in line. -/
  | attached
  | waiting
  /-- Given the lock, but not yet aware of it. -/
  | granted
  | holding
  deriving DecidableEq, Repr

/-- The lock belongs to a ticket of this standing. -/
def Standing.owns : Standing → Bool
  | granted | holding => true
  | attached | waiting => false

structure Ticket where
  number : Nat
  account : Int
  slot : Nat
  standing : Standing
  deriving DecidableEq, Repr

/-- The slots by account, and the tickets from the oldest to the newest. -/
structure LockTable where
  slots : List (Int × Nat) := []
  tickets : List Ticket := []
  nextSlot : Nat := 0
  nextTicket : Nat := 0
  deriving DecidableEq, Repr, Inhabited

namespace LockTable

def slot? (t : LockTable) (account : Int) : Option Nat := t.slots.lookup account

def ticket? (t : LockTable) (number : Nat) : Option Ticket :=
  t.tickets.find? (·.number == number)

/-- Somebody owns the lock of the slot. -/
def isTaken (t : LockTable) (slot : Nat) : Bool :=
  t.tickets.any fun k => k.slot == slot && k.standing.owns

def standing? (t : LockTable) (number : Nat) : Option Standing :=
  (t.ticket? number).map (·.standing)

/-- Takes a ticket on a slot that is in the table. -/
def attachTo (t : LockTable) (account : Int) (slot : Nat) : LockTable :=
  { t with tickets := t.tickets ++ [⟨t.nextTicket, account, slot, .attached⟩],
           nextTicket := t.nextTicket + 1 }

/-- Looks up the slot of an account, or creates it, and takes the next ticket on it. -/
def attach (t : LockTable) (account : Int) : LockTable :=
  match t.slot? account with
  | some slot => t.attachTo account slot
  | none =>
      { t with slots := t.slots ++ [(account, t.nextSlot)], nextSlot := t.nextSlot + 1 }.attachTo
        account t.nextSlot

def setStanding (number : Nat) (s : Standing) (tickets : List Ticket) : List Ticket :=
  tickets.map fun k => if k.number = number then { k with standing := s } else k

/-- Takes a lock that is free, and lines up for one that is not. -/
def acquire (t : LockTable) (number : Nat) : LockTable :=
  match t.ticket? number with
  | some k =>
      let s := if t.isTaken k.slot then Standing.waiting else Standing.holding
      { t with tickets := setStanding number s t.tickets }
  | none => t

/-- Becomes aware of a lock that was granted. -/
def claim (t : LockTable) (number : Nat) : LockTable :=
  { t with tickets := setStanding number .holding t.tickets }

/-- Grants the lock of a slot to the ticket that has waited longest. -/
def handOver (slot : Nat) : List Ticket → List Ticket
  | [] => []
  | k :: ks =>
      if k.slot = slot ∧ k.standing = .waiting then { k with standing := .granted } :: ks
      else k :: handOver slot ks

/-- Throws a ticket away. If it owned the lock, the lock is handed over. -/
def discard (t : LockTable) (number : Nat) : LockTable :=
  match t.ticket? number with
  | some k =>
      let rest := t.tickets.filter (·.number != number)
      { t with tickets := if k.standing.owns then handOver k.slot rest else rest }
  | none => t

/-- Removes the slot of an account if no ticket is on it. -/
def prune (t : LockTable) (account : Int) : LockTable :=
  match t.slot? account with
  | some slot =>
      if t.tickets.any (·.slot == slot) then t
      else { t with slots := t.slots.filter (·.1 != account) }
  | none => t

/-- Takes a ticket and tries to acquire with it. -/
def request (t : LockTable) (account : Int) : Nat × LockTable :=
  (t.nextTicket, (t.attach account).acquire t.nextTicket)

/-- Gives a lock back, or gives up waiting for it, and removes the slot if it is the last. -/
def release (t : LockTable) (account : Int) (number : Nat) : LockTable :=
  (t.discard number).prune account

/-- Slots in the table. -/
def size (t : LockTable) : Nat := t.slots.length

end LockTable
end DoubleEntry
