import DoubleEntry.Service.History

/-!
A store that knows only one listing of entries and answers slices of it. It records what it is
asked, and may fail at one offset.
-/

namespace DoubleEntry.Simulation

/-- One call for a slice: the account, the limit and the offset. -/
structure SliceCall where
  accountId : Int
  limit : Int
  offset : Int
  deriving DecidableEq, Repr

structure FixedEntries where
  amounts : List Decimal
  failAt : Option Int

namespace FixedEntries

def slice (f : FixedEntries) (accountId limit offset : Int) : List Entry :=
  ((f.amounts.drop offset.toNat).take limit.toNat).map fun amount =>
    { id := 0, accountId := accountId, amount := amount, createdAt := ⟨0, 0⟩ }

def failure : LedgerError := .store (.text "stub failure")

/-- The newest call comes first in the record. -/
def server (f : FixedEntries) : Server LedgerStore (List SliceCall) where
  note _ calls := calls
  serve
    | .query (.entries accountId limit offset), calls =>
        let reply := if f.failAt = some offset then .error failure
          else .ok (f.slice accountId limit offset)
        (.answer reply, ⟨accountId, limit, offset⟩ :: calls)
    | r, calls => (.answer (r.refusal failure), calls)

/-- How far the net sum over the listing gets, and the calls that it takes. -/
def netSum (f : FixedEntries) (accountId : Int) :
    Progress LedgerStore (Except LedgerError Decimal) × List SliceCall :=
  let (progress, calls) := (History.netEntrySum accountId).toProgram.run f.server []
  (progress, calls.reverse)

end FixedEntries
end DoubleEntry.Simulation
