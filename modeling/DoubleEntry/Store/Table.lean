import DoubleEntry.Ledger.Transfer

/-!
Tables: rows in ascending order of their ids, one row for each id.
-/

namespace DoubleEntry

/-- Rows that carry an id. -/
class HasId (α : Type) where
  id : α → Int

instance : HasId Account := ⟨Account.id⟩

instance : HasId Entry := ⟨Entry.id⟩

instance : HasId Transaction := ⟨Transaction.id⟩

namespace Table

variable {α : Type} [HasId α]

def find? (id : Int) (rows : List α) : Option α := rows.find? (HasId.id · == id)

def contains (id : Int) (rows : List α) : Bool := rows.any (HasId.id · == id)

/-- Puts a row in its place; a row with the same id gives way. -/
def insert (row : α) : List α → List α
  | [] => [row]
  | r :: rows =>
      if HasId.id row < HasId.id r then row :: r :: rows
      else if HasId.id row = HasId.id r then row :: rows
      else r :: insert row rows

def erase (id : Int) (rows : List α) : List α := rows.filter (HasId.id · != id)

/-- The rows after `offset`, at most `limit` of them. Negative numbers count as zero. -/
def page (limit offset : Int) (rows : List α) : List α :=
  (rows.drop offset.toNat).take limit.toNat

end Table
end DoubleEntry
