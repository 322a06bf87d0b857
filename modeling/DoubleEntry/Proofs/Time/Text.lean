import DoubleEntry.Proofs.Text.Digits
import DoubleEntry.Proofs.Time.Calendar
import DoubleEntry.Time.Reader
import Mathlib.Data.Option.Basic

/-!
Instants that are written and read again. Every instant that a reader can give comes back to the
nanosecond, leap seconds and years of more than four digits included.
-/

namespace DoubleEntry

open Text

/-- An instant that a text can stand for. Only the last second of a minute may be a leap second. -/
structure Timestamp.IsInstant (t : Timestamp) : Prop where
  year : Timestamp.Reader.InRange (Date.ofDays (t.seconds / 86400)).year
  nanos : t.nanos < 1000000000 ∨ t.seconds % 60 = 59 ∧ t.nanos < 2000000000

namespace Timestamp.Reader

variable {c : Char} {cs rest : List Char} {n w : Nat}

theorem trimStart_of_isDigit (h : isDigit c = true) : trimStart (c :: cs) = c :: cs := by
  have visible : isBlank c = false := isBlank_of_isDigit h
  exact List.dropWhile_cons_of_neg (by simp [visible])

theorem trimStart_run (ne : cs ≠ []) (h : ∀ c ∈ cs, isDigit c = true) :
    trimStart (cs ++ rest) = cs ++ rest := by
  obtain ⟨c, cs, rfl⟩ := List.exists_cons_of_ne_nil ne
  exact trimStart_of_isDigit (h c List.mem_cons_self)

/-- A number that fills its width is read as it is written. -/
theorem number?_padded (hw : 0 < w) (h : n < pow10 w) (stops : Stops isDigit rest) :
    number? w (padded w n ++ rest) = some (n, rest) := by
  have run : (padded w n ++ rest).takeWhile isDigit = padded w n :=
    takeWhile_run isDigit_of_mem_padded stops
  have whole : (padded w n).take w = padded w n :=
    List.take_of_length_le (Nat.le_of_eq (length_padded_of_lt h hw))
  have some_ : (padded w n).isEmpty = false := List.isEmpty_eq_false_iff.mpr (padded_ne_nil w n)
  simp only [number?, trimStart_run (padded_ne_nil w n) isDigit_of_mem_padded, run, whole, some_,
    ofDigits_padded, List.drop_left, Bool.false_eq_true, if_false]

theorem signed?_padded (sign : Int) (n : Nat) (stops : Stops isDigit rest) :
    year?.signed? sign (padded 4 n ++ rest) = some (sign * n, rest) := by
  have run : (padded 4 n ++ rest).takeWhile isDigit = padded 4 n :=
    takeWhile_run isDigit_of_mem_padded stops
  have some_ : (padded 4 n).isEmpty = false := List.isEmpty_eq_false_iff.mpr (padded_ne_nil 4 n)
  simp only [year?.signed?, run, some_, ofDigits_padded, List.drop_left, Bool.false_eq_true,
    if_false]

theorem year?_of_isDigit (h : isDigit c = true) :
    year? (c :: cs) = (number? 4 (c :: cs)).map fun (n, cs) => ((n : Int), cs) := by
  simp only [year?, trimStart_of_isDigit h]
  split
  · rename_i same
    cases same
    cases h
  · rename_i same
    cases same
    cases h
  · rfl

theorem year?_yearChars (year : Int) (stops : Stops isDigit rest) :
    year? (yearChars year ++ rest) = some (year, rest) := by
  simp only [yearChars]
  split
  · rename_i short
    obtain ⟨c, cs, first⟩ := List.exists_cons_of_ne_nil (padded_ne_nil 4 year.natAbs)
    have digit : isDigit c = true := isDigit_of_mem_padded c (first ▸ List.mem_cons_self)
    have small : year.natAbs < pow10 4 := by
      change year.natAbs < 10000
      omega
    rw [first, List.cons_append, year?_of_isDigit digit, ← List.cons_append, ← first,
      number?_padded (by decide) small stops]
    simp only [Option.map_some]
    congr 2
    omega
  · split
    · rename_i negative
      have value : -1 * (year.natAbs : Int) = year := by omega
      exact (signed?_padded (-1) year.natAbs stops).trans (by rw [value])
    · rename_i positive
      have value : 1 * (year.natAbs : Int) = year := by omega
      exact (signed?_padded 1 year.natAbs stops).trans (by rw [value])

theorem mark?_self (mark : Char) (visible : isBlank mark = false) :
    mark? mark (mark :: cs) = some cs := by
  have start : trimStart (mark :: cs) = mark :: cs :=
    List.dropWhile_cons_of_neg (by simp [visible])
  simp only [mark?, start, if_true]

/-- A fraction of three, six or nine digits. -/
theorem nanos?_padded {width : Nat} (hw : 0 < width) (short : width ≤ 9) (h : n < pow10 width)
    (stops : Stops isDigit rest) :
    nanos? ('.' :: padded width n ++ rest) = some (n * pow10 (9 - width), rest) := by
  have run : (padded width n ++ rest).takeWhile isDigit = padded width n :=
    takeWhile_run isDigit_of_mem_padded stops
  have length := length_padded_of_lt h hw
  have whole : (padded width n).take 9 = padded width n :=
    List.take_of_length_le (length.symm ▸ short)
  have some_ : (padded width n).isEmpty = false :=
    List.isEmpty_eq_false_iff.mpr (padded_ne_nil width n)
  have dropped : (padded width n ++ rest).drop width = rest := List.drop_left' length
  simp only [nanos?, List.cons_append, run, whole, some_, ofDigits_padded, length, dropped,
    Bool.false_eq_true, if_false]

theorem nanos?_fractionChars (h : n < 1000000000) :
    nanos? (fractionChars n ++ ['Z']) = some (n, ['Z']) := by
  have stops : Stops isDigit ['Z'] := stops_cons rfl
  simp only [fractionChars]
  split
  · rename_i zero
    rw [zero]
    rfl
  · split
    · rename_i millis
      have value : n / 1000000 * pow10 (9 - 3) = n := by
        change n / 1000000 * 1000000 = n
        omega
      rw [nanos?_padded (by decide) (by decide) (show n / 1000000 < 1000 by omega) stops, value]
    · split
      · rename_i micros
        have value : n / 1000 * pow10 (9 - 6) = n := by
          change n / 1000 * 1000 = n
          omega
        rw [nanos?_padded (by decide) (by decide) (show n / 1000 < 1000000 by omega) stops, value]
      · rw [nanos?_padded (by decide) (by decide) h stops]
        exact congrArg some (Prod.ext (Nat.mul_one n) rfl)

theorem stops_fractionChars (n : Nat) : Stops isDigit (fractionChars n ++ ['Z']) := by
  simp only [fractionChars]
  split
  · exact stops_cons rfl
  · split
    · exact stops_cons rfl
    · split <;> exact stops_cons rfl

/-- The instant of a time of day in universal time. -/
theorem instant?_utc {date : Date} {hour minute second leap nanos : Nat} (year : InRange date.year)
    (valid : date.IsValid) (inRange : hour < 24 ∧ minute < 60 ∧ second < 60)
    (days : Date.ofDays date.toDays = date) (last : leap = 0 ∨ leap = 1 ∧ second = 59) :
    instant? date hour minute (second + leap) nanos 0 =
      some ⟨date.toDays * 86400 + (hour * 3600 + minute * 60 + second : Nat),
        nanos + leap * 1000000000⟩ := by
  have leapSecond : (if second + leap = 60 then 1 else 0) = leap := by
    split <;> omega
  have kept : hour * 3600 + minute * 60 + (second + leap - leap) =
      hour * 3600 + minute * 60 + second := by omega
  have day : (date.toDays * 86400 + (hour * 3600 + minute * 60 + second : Nat) - 0) / 86400 =
      date.toDays := by omega
  have times : hour < 24 ∧ minute < 60 ∧ second + leap ≤ 60 ∧ (-86400 : Int) < 0 ∧
      (0 : Int) < 86400 := by omega
  simp only [instant?, leapSecond, kept, day, days, guard, if_pos (And.intro year valid),
    if_pos times, if_pos year]
  rw [Int.sub_zero]
  rfl

/-- The instant of the parts that are written. -/
theorem instant?_self {t : Timestamp} (h : t.IsInstant) :
    let second := (t.seconds % 86400).toNat
    instant? (Date.ofDays (t.seconds / 86400)) (second / 3600) (second / 60 % 60)
      (second % 60 + t.nanos / 1000000000) (t.nanos % 1000000000) 0 = some t := by
  have back := Date.toDays_ofDays (t.seconds / 86400)
  have leap : t.nanos / 1000000000 = 0 ∨ t.nanos / 1000000000 = 1 ∧
      (t.seconds % 86400).toNat % 60 = 59 := by
    have := h.nanos
    omega
  simp only
  rw [instant?_utc h.year (Date.isValid_ofDays _) (by omega) (by rw [back]) leap, back]
  congr 2
  · omega
  · omega

theorem number?_two (h : n < 100) (stops : Stops isDigit rest) :
    number? 2 (padded 2 n ++ rest) = some (n, rest) := number?_padded (by decide) h stops

/-- What is written is read part by part. -/
theorem ofChars?_toChars {t : Timestamp} (h : t.IsInstant) : ofChars? t.toChars = some t := by
  have instant := instant?_self h
  have valid := Date.isValid_ofDays (t.seconds / 86400)
  have days : Date.daysInMonth (Date.ofDays (t.seconds / 86400)).year
      (Date.ofDays (t.seconds / 86400)).month ≤ 31 := by
    simp only [Date.daysInMonth]
    split
    · split <;> omega
    · split <;> omega
  have leap : t.nanos / 1000000000 ≤ 1 := by
    have := h.nanos
    omega
  simp only at instant
  rw [toChars]
  generalize Date.ofDays (t.seconds / 86400) = date at instant valid days ⊢
  generalize hs : (t.seconds % 86400).toNat = second at instant ⊢
  obtain ⟨_, month, _, day⟩ := valid
  have dash {cs : List Char} : Stops isDigit ('-' :: cs) := stops_cons rfl
  have letter {cs : List Char} : Stops isDigit ('T' :: cs) := stops_cons rfl
  have colon {cs : List Char} : Stops isDigit (':' :: cs) := stops_cons rfl
  have fraction := stops_fractionChars (t.nanos % 1000000000)
  simp only [List.append_assoc, List.cons_append]
  refine Option.bind_eq_some_iff.mpr ⟨_, year?_yearChars date.year dash, ?_⟩
  refine Option.bind_eq_some_iff.mpr ⟨_, mark?_self '-' (by decide), ?_⟩
  refine Option.bind_eq_some_iff.mpr ⟨_, number?_two (by omega) dash, ?_⟩
  refine Option.bind_eq_some_iff.mpr ⟨_, mark?_self '-' (by decide), ?_⟩
  refine Option.bind_eq_some_iff.mpr ⟨_, number?_two (by omega) letter, ?_⟩
  refine Option.bind_eq_some_iff.mpr ⟨_, rfl, ?_⟩
  refine Option.bind_eq_some_iff.mpr ⟨_, number?_two (by omega) colon, ?_⟩
  refine Option.bind_eq_some_iff.mpr ⟨_, mark?_self ':' (by decide), ?_⟩
  refine Option.bind_eq_some_iff.mpr ⟨_, number?_two (by omega) colon, ?_⟩
  refine Option.bind_eq_some_iff.mpr ⟨_, mark?_self ':' (by decide), ?_⟩
  refine Option.bind_eq_some_iff.mpr ⟨_, number?_two (by omega) fraction, ?_⟩
  refine Option.bind_eq_some_iff.mpr ⟨_, nanos?_fractionChars (by omega), ?_⟩
  exact instant

theorem lt_of_nanos? (h : nanos? cs = some (n, rest)) : n < 1000000000 := by
  simp only [nanos?] at h
  split at h
  · split at h
    · cases h
    · rename_i ds _
      cases h
      have short : ((List.takeWhile isDigit ds).take 9).length ≤ 9 := List.length_take_le _ _
      have digits : ∀ c ∈ (List.takeWhile isDigit ds).take 9, isDigit c = true :=
        fun c hc => List.all_eq_true.mp List.all_takeWhile c (List.mem_of_mem_take hc)
      generalize (List.takeWhile isDigit ds).take 9 = kept at short digits
      have width : pow10 kept.length * pow10 (9 - kept.length) = 1000000000 :=
        (Nat.pow_add 10 _ _).symm.trans (congrArg (10 ^ ·) (Nat.add_sub_cancel' short))
      rw [← width]
      exact Nat.mul_lt_mul_of_pos_right (ofDigits_lt digits) (pow10_pos _)
  · cases h
    decide

/-- An offset is of whole minutes. -/
theorem minutes_of_signedOffset? {sign offset : Int}
    (h : signedOffset? sign cs = some (offset, rest)) :
    offset % 60 = 0 := by
  obtain ⟨hours, _, h⟩ := Option.bind_eq_some_iff.mp h
  obtain ⟨minutes, _, h⟩ := Option.bind_eq_some_iff.mp h
  simp only at h
  split at h
  · cases h
    have whole : hours.1 * 3600 + minutes.1 * 60 = (hours.1 * 60 + minutes.1) * 60 := by omega
    rw [whole, Int.natCast_mul, ← Int.mul_assoc]
    exact Int.mul_emod_left _ _
  · cases h

theorem minutes_of_offset? {offset : Int} (h : offset? cs = some (offset, rest)) :
    offset % 60 = 0 := by
  simp only [offset?] at h
  split at h
  · cases h
    rfl
  · cases h
    rfl
  · exact minutes_of_signedOffset? h
  · exact minutes_of_signedOffset? h
  · exact minutes_of_signedOffset? h
  · split at h
    · cases h
      rfl
    · cases h
  · cases h

theorem isInstant_of_instant? {date : Date} {hour minute second nanos : Nat} {offset : Int}
    {t : Timestamp} (h : instant? date hour minute second nanos offset = some t)
    (small : nanos < 1000000000) (minutes : offset % 60 = 0) : t.IsInstant := by
  obtain ⟨_, _, h⟩ := Option.bind_eq_some_iff.mp h
  obtain ⟨_, times, h⟩ := Option.bind_eq_some_iff.mp h
  obtain ⟨_, year, made⟩ := Option.bind_eq_some_iff.mp h
  cases made
  refine ⟨(Option.guard_eq_some' _).mp year, ?_⟩
  have times := (Option.guard_eq_some' _).mp times
  by_cases leap : second = 60
  · subst leap
    refine .inr ⟨?_, ?_⟩
    · simp only [if_true]
      omega
    · simp only [if_true]
      omega
  · refine .inl ?_
    simp only [if_neg leap]
    omega

/-- What is read can be written and read again. -/
theorem isInstant_of_ofChars? {t : Timestamp} (h : ofChars? cs = some t) : t.IsInstant := by
  obtain ⟨year, _, h⟩ := Option.bind_eq_some_iff.mp h
  obtain ⟨_, _, h⟩ := Option.bind_eq_some_iff.mp h
  obtain ⟨month, _, h⟩ := Option.bind_eq_some_iff.mp h
  obtain ⟨_, _, h⟩ := Option.bind_eq_some_iff.mp h
  obtain ⟨day, _, h⟩ := Option.bind_eq_some_iff.mp h
  simp only [Option.bind_eq_bind, Option.bind_some, Option.bind_none] at h
  split at h
  case h_4 => cases h
  -- It does not matter which mark stands before the time of day.
  all_goals
    obtain ⟨hour, _, h⟩ := Option.bind_eq_some_iff.mp h
    obtain ⟨_, _, h⟩ := Option.bind_eq_some_iff.mp h
    obtain ⟨minute, _, h⟩ := Option.bind_eq_some_iff.mp h
    obtain ⟨_, _, h⟩ := Option.bind_eq_some_iff.mp h
    obtain ⟨second, _, h⟩ := Option.bind_eq_some_iff.mp h
    obtain ⟨nanos, fraction, h⟩ := Option.bind_eq_some_iff.mp h
    obtain ⟨offset, zone, h⟩ := Option.bind_eq_some_iff.mp h
    obtain ⟨_, _, instant⟩ := Option.bind_eq_some_iff.mp h
    exact isInstant_of_instant? instant (lt_of_nanos? fraction) (minutes_of_offset? zone)

end Reader

/-- Every instant that a text can stand for is read again as it is written. -/
theorem ofText?_toText {t : Timestamp} (h : t.IsInstant) : ofText? t.toText = some t := by
  rw [ofText?, toText, String.toList_ofList]
  exact Reader.ofChars?_toChars h

theorem isInstant_of_ofText? {s : String} {t : Timestamp} (h : ofText? s = some t) : t.IsInstant :=
  Reader.isInstant_of_ofChars? h

end Timestamp
end DoubleEntry
