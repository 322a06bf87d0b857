import DoubleEntry.Proofs.Decimal.Rounding

/-!
What a column of amounts keeps. Whether it keeps a decimal depends on the value alone, however many
zeros the representation ends in and whatever its sign is. Two values of a column have an exact sum:
the digits that the addition may have to leave out are zeros.
-/

namespace DoubleEntry

/-- A column has room for the numbers of hundred-millionths that have no more than twenty digits. -/
theorem hasRoom_iff {v : ℚ} : HasRoom v ↔ ∃ k : ℤ, |k| < 10 ^ 20 ∧ v = k / 10 ^ 8 := by
  constructor
  · intro room
    obtain ⟨k, rfl⟩ := room.1
    have digits := Decimal.natAbs_lt_of_hasRoom room
    exact ⟨k, abs_lt.mpr ⟨by omega, by omega⟩, rfl⟩
  · rintro ⟨k, digits, rfl⟩
    refine ⟨⟨k, rfl⟩, ?_⟩
    have magnitude : |(k : ℚ)| < 10 ^ 20 := by exact_mod_cast digits
    rw [abs_div, abs_of_pos (show (0 : ℚ) < 10 ^ 8 by positivity), div_lt_iff₀ (by positivity)]
    linarith

namespace Decimal

/-- Representations of one value are kept alike. -/
theorem fitsColumn_congr {a b : Decimal} (same : a.value = b.value) :
    a.FitsColumn ↔ b.FitsColumn := by
  rw [fitsColumn_iff_hasRoom, fitsColumn_iff_hasRoom, same]

theorem fitsColumn_neg_iff (d : Decimal) : (-d).FitsColumn ↔ d.FitsColumn := by
  rw [fitsColumn_iff, fitsColumn_iff, units_neg, Int.natAbs_neg]

/-- A column keeps the decimals whose value is a number of hundred-millionths below 10²⁰ in
magnitude, in all their representations and with either sign, and the addition of any two of them
gives exactly their sum. -/
theorem column_keeps_values (a b : Decimal) :
    (a.FitsColumn ↔ ∃ k : ℤ, |k| < 10 ^ 20 ∧ a.value = k / 10 ^ 8) ∧
      (a.value = b.value → (a.FitsColumn ↔ b.FitsColumn)) ∧
      ((-a).FitsColumn ↔ a.FitsColumn) ∧
      (a.FitsColumn → b.FitsColumn → ∃ c, a.add? b = some c ∧ c.value = a.value + b.value) := by
  refine ⟨(fitsColumn_iff_hasRoom a).trans hasRoom_iff, fitsColumn_congr, fitsColumn_neg_iff a, ?_⟩
  intro ha hb
  obtain ⟨c, found, exactly⟩ := exists_add?_of_fitsColumn ha hb
  refine ⟨c, found, ?_⟩
  rw [value_eq_units, value_eq_units, value_eq_units, exactly, Int.cast_add, add_div]

/-- The sum of these two is shortened: with 28 digits after the point it has more than 96 bits. -/
theorem column_keeps_values_shortened :
    let most : Decimal := ⟨false, 99999999999999999999, 8, by decide, by decide⟩
    let least : Decimal := ⟨false, 100000000000000000000, 28, by decide, by decide⟩
    most.FitsColumn ∧ least.FitsColumn ∧ ¬ most.FitsAt 28 ∧
      ∃ c, most.add? least = some c ∧ c.value = most.value + least.value := by
  intro most least
  have high : most.FitsColumn := by decide
  have low : least.FitsColumn := by decide
  exact ⟨high, low, by decide, (column_keeps_values most least).2.2.2 high low⟩

end Decimal
end DoubleEntry
