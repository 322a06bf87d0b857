import DoubleEntry.Time.Calendar

/-!
Days and dates determine each other. A day of an era is told by its century, the group of four years
in that century, the year of that group, and the day of that year; only the last century has a day
more.
-/

namespace DoubleEntry.Date

/-- A day of an era of 400 years, which is a day of one of its years. -/
structure EraDay (day century group year dayOfYear : Int) : Prop where
  shape : day = 36524 * century + (1461 * group + (365 * year + dayOfYear))
  centuries : 0 ≤ century ∧ century ≤ 3
  groups : 0 ≤ group ∧ group ≤ 24
  years : 0 ≤ year ∧ year ≤ 3
  days : 0 ≤ dayOfYear ∧ dayOfYear ≤ 365
  /-- The leap day is the last of the fourth year, but not of the first three centuries. -/
  leap : dayOfYear = 365 → year = 3 ∧ (group = 24 → century = 3)

theorem exists_eraDay {day : Int} (low : 0 ≤ day) (high : day < 146097) :
    ∃ century group year dayOfYear, EraDay day century group year dayOfYear := by
  obtain ⟨century, rest, hc, he⟩ : ∃ century rest : Int, (0 ≤ century ∧ century ≤ 3) ∧
      day = 36524 * century + rest ∧ 0 ≤ rest ∧ (rest < 36524 ∨ century = 3 ∧ rest = 36524) := by
    by_cases last : day = 146096
    · exact ⟨3, 36524, by omega⟩
    · exact ⟨day / 36524, day % 36524, by omega⟩
  obtain ⟨year, dayOfYear, hy, hd⟩ : ∃ year dayOfYear : Int, (0 ≤ year ∧ year ≤ 3) ∧
      rest % 1461 = 365 * year + dayOfYear ∧ 0 ≤ dayOfYear ∧
      (dayOfYear < 365 ∨ year = 3 ∧ dayOfYear = 365) := by
    by_cases last : rest % 1461 = 1460
    · exact ⟨3, 365, by omega⟩
    · exact ⟨rest % 1461 / 365, rest % 1461 % 365, by omega⟩
  exact ⟨century, rest / 1461, year, dayOfYear, by omega, hc, by omega, hy, by omega, by omega⟩

theorem EraDay.years_found {day century group year dayOfYear : Int}
    (h : EraDay day century group year dayOfYear) :
    let yearOfEra := 100 * century + 4 * group + year
    (0 ≤ yearOfEra ∧ yearOfEra < 400) ∧ yearOfEra / 4 = 25 * century + group ∧
      yearOfEra / 100 = century := by
  obtain ⟨_, hc, hg, hy, _, _⟩ := h
  simp only
  omega

/-- The formulas of the calendar find the year of an era and the day of that year. -/
theorem EraDay.found {day century group year dayOfYear : Int}
    (h : EraDay day century group year dayOfYear) :
    let yearOfEra := (day - day / 1460 + day / 36524 - day / 146096) / 365
    yearOfEra = 100 * century + 4 * group + year ∧
      day - (365 * yearOfEra + yearOfEra / 4 - yearOfEra / 100) = dayOfYear := by
  have ⟨shape, hc, hg, hy, hd, leap⟩ := h
  have centuries : day / 36524 - day / 146096 = century := by
    by_cases last : day = 146096
    · omega
    · have inside : day / 146096 = 0 := by omega
      have bound : 1461 * group + (365 * year + dayOfYear) < 36524 := by omega
      omega
  have groups : day / 1460 = 25 * century + group ∨
      day / 1460 = 25 * century + group + 1 ∧ 1 ≤ dayOfYear := by
    omega
  have found : (day - day / 1460 + day / 36524 - day / 146096) / 365 =
      100 * century + 4 * group + year := by
    omega
  refine ⟨found, ?_⟩
  have ⟨_, fourths, hundredths⟩ := h.years_found
  rw [found, fourths, hundredths]
  omega

/-- The months of a year from March on, and the days that lie before each of them. -/
theorem month_found {dayOfYear month : Int} (low : 0 ≤ dayOfYear) (high : dayOfYear ≤ 365)
    (h : month = (5 * dayOfYear + 2) / 153) :
    0 ≤ month ∧ month ≤ 11 ∧ 1 ≤ dayOfYear - (153 * month + 2) / 5 + 1 := by
  omega

/-- The date of a day of an era, which begins on 1 March. -/
theorem ofDays_of_eraDay {n century group year dayOfYear : Int}
    (h : EraDay ((n + 719468) % 146097) century group year dayOfYear) :
    let month := (5 * dayOfYear + 2) / 153
    let fromJanuary := if month < 10 then month + 3 else month - 9
    let years := 100 * century + 4 * group + year + (n + 719468) / 146097 * 400
    ofDays n = ⟨if fromJanuary ≤ 2 then years + 1 else years, fromJanuary.toNat,
      (dayOfYear - (153 * month + 2) / 5 + 1).toNat⟩ := by
  obtain ⟨years, rest⟩ := h.found
  simp only [ofDays]
  rw [rest, years]

/-- The day that the date of a day lies on is that day. -/
theorem toDays_ofDays (n : Int) : (ofDays n).toDays = n := by
  obtain ⟨century, group, year, dayOfYear, h⟩ :=
    exists_eraDay (Int.emod_nonneg (n + 719468) (by decide)) (Int.emod_lt_of_pos _ (by decide))
  have ⟨within, fourths, hundredths⟩ := h.years_found
  have shape := h.shape
  rw [ofDays_of_eraDay h]
  generalize hm : (5 * dayOfYear + 2) / 153 = month
  have ⟨low, high, first⟩ := month_found h.days.1 h.days.2 hm.symm
  generalize hy : 100 * century + 4 * group + year = y at within fourths hundredths
  -- The year that begins in March and the month counted from March are found again.
  have back : ∀ (fromJanuary : Int) (years : Int),
      fromJanuary = (if month < 10 then month + 3 else month - 9) →
      (if fromJanuary.toNat ≤ 2 then (if fromJanuary ≤ 2 then years + 1 else years) - 1
        else if fromJanuary ≤ 2 then years + 1 else years) = years ∧
      ((fromJanuary.toNat : Int) + 9) % 12 = month := by
    intro fromJanuary years shape
    split at shape <;> constructor <;> (try split) <;> omega
  have ⟨years, months⟩ := back _ (y + (n + 719468) / 146097 * 400) rfl
  simp only [toDays, years, months]
  have eras : (y + (n + 719468) / 146097 * 400) / 400 = (n + 719468) / 146097 := by omega
  have rest : (y + (n + 719468) / 146097 * 400) % 400 = y := by omega
  rw [eras, rest, fourths, hundredths]
  omega

theorem EraDay.isLeapYear_of_last {day century group year dayOfYear : Int}
    (h : EraDay day century group year dayOfYear) (last : dayOfYear = 365) (era : Int) :
    isLeapYear (100 * century + 4 * group + year + era * 400 + 1) = true := by
  obtain ⟨_, hc, hg, hy, _, leap⟩ := h
  simp only [isLeapYear, Bool.and_eq_true, Bool.or_eq_true, beq_iff_eq, bne_iff_ne]
  omega

theorem isValid_ofDays (n : Int) : (ofDays n).IsValid := by
  obtain ⟨century, group, year, dayOfYear, h⟩ :=
    exists_eraDay (Int.emod_nonneg (n + 719468) (by decide)) (Int.emod_lt_of_pos _ (by decide))
  have days := h.days
  have leap := fun last => h.isLeapYear_of_last last ((n + 719468) / 146097)
  rw [ofDays_of_eraDay h]
  generalize hm : (5 * dayOfYear + 2) / 153 = month
  generalize 100 * century + 4 * group + year + (n + 719468) / 146097 * 400 = years at leap
  have ⟨low, high, first⟩ := month_found days.1 days.2 hm.symm
  by_cases february : month = 11
  · have length :
        (dayOfYear - 337 + 1).toNat ≤ if isLeapYear (years + 1) = true then 29 else 28 := by
      split
      · omega
      · rename_i common
        have early : dayOfYear ≠ 365 := fun last => common (leap last)
        omega
    subst february
    refine ⟨(by decide : 1 ≤ 2), (by decide : 2 ≤ 12), ?_, length⟩
    change 1 ≤ (dayOfYear - 337 + 1).toNat
    omega
  · have months : month = 0 ∨ month = 1 ∨ month = 2 ∨ month = 3 ∨ month = 4 ∨ month = 5 ∨
        month = 6 ∨ month = 7 ∨ month = 8 ∨ month = 9 ∨ month = 10 := by omega
    rcases months with rfl | rfl | rfl | rfl | rfl | rfl | rfl | rfl | rfl | rfl | rfl <;>
      simp [IsValid, daysInMonth] <;> omega

end DoubleEntry.Date
