import DoubleEntry.Arithmetic

/-!
Pages of a listing, counted from one.
-/

namespace DoubleEntry

structure Page where
  pageId : Int
  pageSize : Int
  deriving DecidableEq, Repr

namespace Page

def minSize : Int := 5

def maxSize : Int := 10

def default : Page := ⟨1, maxSize⟩

def limit (p : Page) : Int := p.pageSize

/-- How many rows lie before the page. -/
def offset (p : Page) : Except Overflow Int := do checkedMul (← checkedSub p.pageId 1) p.pageSize

/-- A field outside of its range. -/
structure Violation where
  field : String
  value : Int
  deriving DecidableEq, Repr

def violations (p : Page) : List Violation :=
  (if p.pageId < 1 then [⟨"page_id", p.pageId⟩] else []) ++
    (if p.pageSize < minSize ∨ maxSize < p.pageSize then [⟨"page_size", p.pageSize⟩] else [])

def IsValid (p : Page) : Prop := 1 ≤ p.pageId ∧ minSize ≤ p.pageSize ∧ p.pageSize ≤ maxSize

instance (p : Page) : Decidable p.IsValid := inferInstanceAs (Decidable (_ ∧ _))

theorem violations_eq_nil_iff (p : Page) : p.violations = [] ↔ p.IsValid := by
  by_cases h : p.pageId < 1 <;> by_cases h' : p.pageSize < minSize ∨ maxSize < p.pageSize <;>
    simp [violations, IsValid, h, h'] <;> omega

end Page
end DoubleEntry
