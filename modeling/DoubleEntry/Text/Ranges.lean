/-!
Sets of characters, given by ranges of code points.
-/

namespace DoubleEntry.Text

/-- The first and the last code point of each range. -/
abbrev CodeRanges : Type := List (Nat × Nat)

def CodeRanges.contains (rs : CodeRanges) (c : Char) : Bool :=
  rs.any fun (first, last) => first ≤ c.toNat && c.toNat ≤ last

theorem CodeRanges.contains_iff (rs : CodeRanges) (c : Char) :
    rs.contains c = true ↔ ∃ r ∈ rs, r.1 ≤ c.toNat ∧ c.toNat ≤ r.2 := by
  simp [contains]

end DoubleEntry.Text
