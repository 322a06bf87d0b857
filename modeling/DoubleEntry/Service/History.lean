import DoubleEntry.Decimal.Sum
import DoubleEntry.Service.Account

/-!
Reading the ledger's history: single records, pages of them, and the sum of all entries of an
account, which is read in batches.
-/

namespace DoubleEntry.History

def entry (id : Int) : Action LedgerStore Entry := do
  match ← (Query.entry id).ask with
  | some e => pure e
  | none => throw (.notFound (.entry id))

def transaction (id : Int) : Action LedgerStore Transaction := do
  match ← (Query.transaction id).ask with
  | some t => pure t
  | none => throw (.notFound (.transaction id))

/-- The entries of an account, oldest first. -/
def entries (accountId : Int) (p : Page) : Action LedgerStore (List Entry) :=
  p.list fun limit offset => (Query.entries accountId limit offset).ask

/-- The transactions with an account on either side, oldest first. -/
def transactions (accountId : Int) (p : Page) : Action LedgerStore (List Transaction) :=
  p.list fun limit offset => (Query.transactions accountId limit offset).ask

/-- Entries that are read at once. -/
def batchSize : Int := 500

/-- Adds amounts to a total, from left to right. -/
def addAll (total : Decimal) (es : List Entry) : Option Decimal :=
  es.foldlM (fun total e => total.add? e.amount) total

/-- Less of the integer range is left after a batch. -/
theorem shorter_of_isInt64 {offset : Int} (h : IsInt64 (offset + batchSize)) :
    (maxInt64 - (offset + batchSize)).toNat < (maxInt64 - offset).toNat := by
  simp only [IsInt64, maxInt64, batchSize] at h ⊢
  omega

/-- Sums the entries from `offset` on. A short batch is the last. -/
def netFrom (accountId : Int) (total : Decimal) (offset : Int) : Action LedgerStore Decimal := do
  let batch ← (Query.entries accountId batchSize offset).ask
  match addAll total batch with
  | none => throw (.internal (.entrySumOverflow accountId))
  | some total =>
      if (batch.length : Int) < batchSize then pure total
      else if h : IsInt64 (offset + batchSize) then
        have := shorter_of_isInt64 h
        netFrom accountId total (offset + batchSize)
      else Action.ofProgram (.halt .addition)
termination_by (maxInt64 - offset).toNat

/-- The sum of all entries of an account. Opening balances have no entries, so this is by how much
the balance has changed since. -/
def netEntrySum (accountId : Int) : Action LedgerStore Decimal :=
  netFrom accountId Decimal.zero 0

end DoubleEntry.History
