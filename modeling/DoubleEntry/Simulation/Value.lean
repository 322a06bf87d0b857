import DoubleEntry.Error.Basic
import DoubleEntry.Ledger.Transfer
import DoubleEntry.Program

/-!
What the steps of a simulation give: records of the ledger, and outcomes in place of values where a
step can fail.
-/

namespace DoubleEntry.Simulation

/-- What is wrong with the description of a step. -/
inductive InputFault where
  /-- A field is missing or has the wrong type. -/
  | field (name : String)
  | decimal
  deriving DecidableEq, Repr

mutual

inductive Value where
  | nothing
  | flag (b : Bool)
  | amount (d : Decimal)
  | account (a : Account)
  | entry (e : Entry)
  | transaction (t : Transaction)
  | transfer (r : TransferResult)
  | list (items : List Value)
  /-- The outcomes of the steps of a unit of work. -/
  | outcomes (items : List Outcome)
  /-- The outcome of a call with a hook, and how often the hook was called. -/
  | hooked (outcome : Outcome) (calls : Nat)
  /-- How many steps went well and how many did not, and the last outcome. -/
  | tally (succeeded failed : Nat) (last : Option Outcome)
  /-- All committed rows, and whether the entries balance. -/
  | dump (accounts : List Account) (entries : List Entry) (transactions : List Transaction)
      (balanced : Bool)

inductive Outcome where
  | ok (value : Value)
  | error (e : LedgerError)
  | overflow (o : Overflow)
  | input (f : InputFault)
  /-- The step waits for something that never comes. -/
  | stalled

end

namespace Value

def ofOption {α : Type} (f : α → Value) : Option α → Value
  | some a => f a
  | none => nothing

def ofPair {α : Type} (f : α → Value) (pair : α × α) : Value := list [f pair.1, f pair.2]

def ofList {α : Type} (f : α → Value) (items : List α) : Value := list (items.map f)

end Value

namespace Outcome

def ofResult {α : Type} (f : α → Value) : Except LedgerError α → Outcome
  | .ok a => ok (f a)
  | .error e => error e

def isOk : Outcome → Bool
  | ok _ => true
  | _ => false

end Outcome

def accountHasText (a : Account) : Bool := decide a.balance.HasText

def entryHasText (e : Entry) : Bool := decide e.amount.HasText

def transactionHasText (t : Transaction) : Bool :=
  decide t.amount.HasText && decide t.fee.HasText

def transferHasText (r : TransferResult) : Bool :=
  transactionHasText r.transaction && entryHasText r.fromEntry && entryHasText r.toEntry &&
    accountHasText r.fromAccount && accountHasText r.toAccount

mutual

/-- Every number in a value can be shown. -/
def Value.hasText : Value → Bool
  | .nothing | .flag _ => true
  | .amount d => decide d.HasText
  | .account a => accountHasText a
  | .entry e => entryHasText e
  | .transaction t => transactionHasText t
  | .transfer r => transferHasText r
  | .list items => valuesHaveText items
  | .outcomes items => outcomesHaveText items
  | .hooked outcome _ => outcome.hasText
  | .tally _ _ last =>
      match last with
      | some outcome => outcome.hasText
      | none => true
  | .dump accounts entries transactions _ =>
      accounts.all accountHasText && entries.all entryHasText &&
        transactions.all transactionHasText

def valuesHaveText : List Value → Bool
  | [] => true
  | v :: vs => v.hasText && valuesHaveText vs

def Outcome.hasText : Outcome → Bool
  | .ok value => value.hasText
  | _ => true

def outcomesHaveText : List Outcome → Bool
  | [] => true
  | o :: os => o.hasText && outcomesHaveText os

end

/-- Gives an outcome that can be shown, and halts with any other. -/
def Outcome.shown {I : Interface} (o : Outcome) : Program I Outcome :=
  if o.hasText then pure o else .halt .decimalText
end DoubleEntry.Simulation
