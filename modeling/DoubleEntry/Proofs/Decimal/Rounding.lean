import DoubleEntry.Proofs.Decimal.Value
import Mathlib.Tactic.IntervalCases
import Mathlib.Tactic.Ring

/-!
Sums that lose digits. A sum that needs more than 96 bits is shortened to the most digits that fit,
and nothing tells it from an exact one. It is exact wherever a decimal of no more than 28 digits
after the point has the value. Below 10¹² it is off by no more than half a unit of the sixteenth
digit after the point, it does not come down to that bound from above, and a balance that the sum
takes below zero stays below it.
-/

namespace DoubleEntry.Decimal

/-- Some decimal has this value, with no more digits after the point than roundings keep. -/
def IsExact (v : ℚ) : Prop := ∃ d : Decimal, d.scale ≤ roundingScale ∧ d.value = v

/-- Eight digits after the point, and a mantissa of 96 bits. -/
theorem isExact_of_natAbs_lt {k : ℤ} (fits : k.natAbs < pow2 96) : IsExact (k / 10 ^ 8) := by
  refine ⟨⟨decide (k < 0), k.natAbs, 8, fits, by decide⟩, (by decide : 8 ≤ roundingScale), ?_⟩
  simp only [value, Nat.cast_natAbs, Int.cast_abs]
  congr 1
  by_cases negative : k < 0
  · rw [if_pos (decide_eq_true negative), abs_of_neg (Int.cast_lt_zero.mpr negative), neg_neg]
  · rw [if_neg (by simpa using negative), abs_of_nonneg (Int.cast_nonneg (not_lt.mp negative))]

theorem natAbs_lt_of_hasRoom {k : ℤ} (h : HasRoom (k / 10 ^ 8)) : k.natAbs < 10 ^ 20 := by
  have magnitude : |(k : ℚ)| < 10 ^ 20 := by
    have small := h.2
    rw [abs_div, abs_of_pos (show (0 : ℚ) < 10 ^ 8 by positivity),
      div_lt_iff₀ (by positivity)] at small
    linarith
  rw [← Int.cast_abs, ← Nat.cast_natAbs] at magnitude
  exact_mod_cast magnitude

/-- What a column of amounts has room for needs no rounding. -/
theorem isExact_of_hasRoom {v : ℚ} (h : HasRoom v) : IsExact v := by
  obtain ⟨k, rfl⟩ := h.1
  exact isExact_of_natAbs_lt (Nat.lt_trans (natAbs_lt_of_hasRoom h) (by decide))

theorem div_le_roundHalfEven (n d : ℕ) : n / d ≤ roundHalfEven n d := by
  simp only [roundHalfEven]
  split_ifs <;> omega

theorem roundHalfEven_near (n : ℕ) {d : ℕ} (hd : 0 < d) :
    |(roundHalfEven n d : ℚ) - n / d| ≤ 1 / 2 := by
  have positive : (0 : ℚ) < d := Nat.cast_pos.mpr hd
  have split : (n : ℚ) / d = (n / d : ℕ) + (n % d : ℕ) / d := by
    have parts : ((d * (n / d) + n % d : ℕ) : ℚ) = n := congrArg Nat.cast (Nat.div_add_mod n d)
    push_cast at parts
    rw [← parts, add_div, mul_div_cancel_left₀ _ positive.ne']
  have low : (0 : ℚ) ≤ (n % d : ℕ) / d := by positivity
  have high : ((n % d : ℕ) : ℚ) / d ≤ 1 :=
    (div_le_one positive).mpr (Nat.cast_le.mpr (Nat.mod_lt n hd).le)
  have below : 2 * (n % d) ≤ d → ((n % d : ℕ) : ℚ) / d ≤ 1 / 2 := by
    intro h
    rw [div_le_div_iff₀ positive two_pos, one_mul, mul_comm]
    exact_mod_cast h
  have above : d ≤ 2 * (n % d) → (1 : ℚ) / 2 ≤ (n % d : ℕ) / d := by
    intro h
    rw [div_le_div_iff₀ two_pos positive, one_mul, mul_comm]
    exact_mod_cast h
  rw [split, abs_le]
  simp only [roundHalfEven]
  split_ifs with less more even
  · have := below less.le
    constructor <;> linarith
  · have := above more.le
    push_cast
    constructor <;> linarith
  · have := below (by omega)
    constructor <;> linarith
  · have := above (by omega)
    push_cast
    constructor <;> linarith

/-- A search from above ends at the first place that succeeds. -/
theorem findSome?_range_reverse_eq_some {α : Type} {f : ℕ → Option α} {n : ℕ} {a : α}
    (h : (List.range (n + 1)).reverse.findSome? f = some a) :
    ∃ k, k ≤ n ∧ f k = some a ∧ ∀ j, k < j → j ≤ n → f j = none := by
  induction n with
  | zero =>
      refine ⟨0, le_rfl, by simpa using h, fun j above below => ?_⟩
      omega
  | succ n ih =>
      rw [List.range_succ, List.reverse_append, List.reverse_singleton, List.singleton_append,
        List.findSome?_cons] at h
      cases top : f (n + 1) with
      | some b =>
          rw [top] at h
          exact ⟨n + 1, le_rfl, top.trans h, fun j above below => by omega⟩
      | none =>
          rw [top] at h
          obtain ⟨k, hk, found, rest⟩ := ih h
          refine ⟨k, by omega, found, fun j above below => ?_⟩
          rcases Nat.lt_or_ge n j with last | earlier
          · rw [show j = n + 1 by omega]
            exact top
          · exact rest j above earlier

theorem ofParts?_eq_some {negative : Bool} {mantissa scale : ℕ} {d : Decimal}
    (h : ofParts? negative mantissa scale = some d) :
    d.negative = negative ∧ d.mantissa = mantissa ∧ d.scale = scale := by
  simp only [ofParts?] at h
  split at h
  · cases h
    exact ⟨rfl, rfl, rfl⟩
  · cases h

/-- A magnitude is rounded once, to the most digits that fit. -/
theorem fitted_eq_some {negative : Bool} {magnitude scale bound : ℕ} {d : Decimal}
    (hs : scale ≤ 56) (h : fitted negative magnitude scale bound = some d) :
    d.negative = negative ∧ d.scale ≤ min scale bound ∧
      d.mantissa = roundHalfEven magnitude (pow10 (scale - d.scale)) ∧
      ∀ t, d.scale < t → t ≤ min scale bound →
        pow2 96 ≤ roundHalfEven magnitude (pow10 (scale - t)) := by
  obtain ⟨k, hk, found, rest⟩ := findSome?_range_reverse_eq_some h
  obtain ⟨sign, mantissa, rfl⟩ := ofParts?_eq_some found
  refine ⟨sign, hk, mantissa, fun t above below => ?_⟩
  have none := rest t above below
  simp only [ofParts?] at none
  split at none
  · cases none
  · omega

theorem value_eq_mantissaAt (d : Decimal) {s : ℕ} (h : d.scale ≤ s) (hs : s ≤ 56) :
    d.value = d.mantissaAt s / 10 ^ s := by
  have widened : (10 : ℚ) ^ 56 = 10 ^ s * 10 ^ (56 - s) := by
    rw [← pow_add, Nat.add_sub_cancel' hs]
  rw [value_eq_units, ← mantissaAt_mul_eq_units d h hs, Int.cast_mul, Int.cast_natCast,
    cast_pow10, widened]
  exact mul_div_mul_right _ _ (pow_ne_zero _ (by norm_num))

theorem abs_value (d : Decimal) : |d.value| = d.mantissa / 10 ^ d.scale := by
  have magnitude : |if d.negative then -(d.mantissa : ℚ) else d.mantissa| = d.mantissa := by
    split
    · rw [abs_neg, Nat.abs_cast]
    · exact Nat.abs_cast _
  rw [value, abs_div, magnitude, abs_of_pos (by positivity)]

theorem value_eq_zero_iff (d : Decimal) : d.value = 0 ↔ d.isZero = true := by
  rw [value_eq_units, ← units_eq_zero_iff, div_eq_zero_iff, Int.cast_eq_zero]
  exact or_iff_left (by positivity)

/-- The exact sum of two decimals, its digits counted at the larger of their scales. -/
structure SumOf (a b : Decimal) (scale : ℕ) (sum : ℤ) : Prop where
  left : a.scale ≤ scale
  right : b.scale ≤ scale
  scale_le : scale ≤ 56
  mantissa : sum = a.mantissaAt scale + b.mantissaAt scale

variable {a b c : Decimal} {scale : ℕ} {sum : ℤ}

theorem sumOf_max (a b : Decimal) :
    SumOf a b (max a.scale b.scale)
      (a.mantissaAt (max a.scale b.scale) + b.mantissaAt (max a.scale b.scale)) where
  left := le_max_left _ _
  right := le_max_right _ _
  scale_le := max_le a.scale_le b.scale_le
  mantissa := rfl

theorem SumOf.value_eq (h : SumOf a b scale sum) : a.value + b.value = sum / 10 ^ scale := by
  rw [value_eq_mantissaAt a h.left h.scale_le, value_eq_mantissaAt b h.right h.scale_le,
    h.mantissa, Int.cast_add, add_div]

/-- A sum of two numbers other than zero is fitted into 96 bits. -/
theorem add?_of_nonzero (ha : a.isZero = false) (hb : b.isZero = false) :
    ∃ scale sum, SumOf a b scale sum ∧ (scale = a.scale ∨ scale = b.scale) ∧
      a.add? b = fitted (decide (sum < 0)) sum.natAbs scale (sumScale a b scale) := by
  refine ⟨_, _, sumOf_max a b, ?_, ?_⟩
  · rcases le_total a.scale b.scale with le | le
    · exact .inr (max_eq_right le)
    · exact .inl (max_eq_left le)
  · simp only [add?, ha, hb, Bool.false_eq_true, if_false]

theorem sumScale_cases (a b : Decimal) (scale : ℕ) :
    sumScale a b scale = scale ∨
      sumScale a b scale = 28 ∧ ¬ (a.FitsAt scale ∧ b.FitsAt scale) := by
  rw [sumScale]
  split
  · exact .inl rfl
  · rename_i tooLong
    exact .inr ⟨rfl, tooLong⟩

/-- Adding zero rounds nothing. -/
theorem add?_of_zero (h : a.isZero = true ∨ b.isZero = true) :
    ∃ c, a.add? b = some c ∧ c.value = a.value + b.value := by
  by_cases za : a.isZero = true
  · refine ⟨b, by simp only [add?, za, if_true], ?_⟩
    rw [(value_eq_zero_iff a).mpr za, zero_add]
  · have zb := h.resolve_left za
    refine ⟨a, by simp only [add?, za, zb, if_true]; rfl, ?_⟩
    rw [(value_eq_zero_iff b).mpr zb, add_zero]

/-- A sum that some decimal of 28 digits after the point has is exact. -/
theorem exists_add?_of_isExact (h : IsExact (a.value + b.value)) :
    ∃ c, a.add? b = some c ∧ c.value = a.value + b.value := by
  by_cases zero : a.isZero = true ∨ b.isZero = true
  · exact add?_of_zero zero
  obtain ⟨ha, hb⟩ := not_or.mp zero
  obtain ⟨scale, sum, exactly, _, added⟩ :=
    add?_of_nonzero (Bool.eq_false_iff.mpr ha) (Bool.eq_false_iff.mpr hb)
  obtain ⟨d, hd, same⟩ := h
  -- Both sides written over a common power of ten.
  have digits : sum.natAbs * 10 ^ d.scale = d.mantissa * 10 ^ scale := by
    have equal : |(sum : ℚ)| / 10 ^ scale = d.mantissa / 10 ^ d.scale := by
      rw [← abs_value, same, exactly.value_eq, abs_div, abs_of_pos (show (0 : ℚ) < 10 ^ scale by
        positivity)]
    rw [div_eq_div_iff (by positivity) (by positivity), ← Int.cast_abs, ← Nat.cast_natAbs] at equal
    exact_mod_cast equal
  have bound : min d.scale scale ≤ min scale (sumScale a b scale) := by
    simp only [sumScale]
    split <;> omega
  obtain ⟨zeros, small⟩ : pow10 (scale - min d.scale scale) ∣ sum.natAbs ∧
      sum.natAbs / pow10 (scale - min d.scale scale) < pow2 96 := by
    rcases Nat.le_total d.scale scale with le | ge
    · have shape : sum.natAbs = pow10 (scale - d.scale) * d.mantissa := by
        refine Nat.eq_of_mul_eq_mul_right (Nat.pow_pos (n := d.scale) (show 0 < 10 by decide)) ?_
        rw [digits, mul_comm (pow10 _), mul_assoc]
        exact congrArg (d.mantissa * ·)
          ((congrArg (10 ^ ·) (Nat.sub_add_cancel le).symm).trans (Nat.pow_add 10 _ _))
      rw [Nat.min_eq_left le, shape, Nat.mul_div_cancel_left _ (pow10_pos _)]
      exact ⟨Nat.dvd_mul_right _ _, d.mantissa_lt⟩
    · rw [Nat.min_eq_right ge, Nat.sub_self, pow10_zero, Nat.div_one]
      refine ⟨Nat.one_dvd _, Nat.lt_of_le_of_lt ?_ d.mantissa_lt⟩
      refine Nat.le_of_mul_le_mul_right (c := 10 ^ scale) ?_ (Nat.pow_pos (by decide))
      rw [← digits]
      exact Nat.mul_le_mul_left _ (Nat.pow_le_pow_right (by decide) ge)
  obtain ⟨c, found, sign, hc, mantissa⟩ :=
    exists_fitted (decide (sum < 0)) exactly.scale_le bound zeros small
  refine ⟨c, added.trans found, ?_⟩
  rw [value_eq_mantissaAt c hc exactly.scale_le, mantissaAt_eq sign mantissa, exactly.value_eq]

/-- A decimal of the sum's sign is as far from the sum as their magnitudes are apart. -/
theorem abs_value_sub (sign : c.negative = decide (sum < 0)) (scale : ℕ) :
    |c.value - sum / 10 ^ scale| =
      |(c.mantissa : ℚ) / 10 ^ c.scale - sum.natAbs / 10 ^ scale| := by
  rw [value, sign, Nat.cast_natAbs, Int.cast_abs]
  by_cases negative : sum < 0
  · rw [if_pos (decide_eq_true negative), abs_of_neg (Int.cast_lt_zero.mpr negative), ← abs_neg]
    congr 1
    ring
  · rw [if_neg (by simpa using negative), abs_of_nonneg (Int.cast_nonneg (not_lt.mp negative))]

/-- A fitted sum is off by half a unit of its last digit at most. -/
theorem fitted_near (hs : scale ≤ 56) {bound : ℕ}
    (h : fitted (decide (sum < 0)) sum.natAbs scale bound = some c) :
    |c.value - sum / 10 ^ scale| ≤ 1 / 2 / 10 ^ c.scale := by
  obtain ⟨sign, le, mantissa, _⟩ := fitted_eq_some hs h
  have shortened : (sum.natAbs : ℚ) / 10 ^ scale =
      sum.natAbs / (pow10 (scale - c.scale) : ℕ) / 10 ^ c.scale := by
    rw [cast_pow10, div_div, ← pow_add, Nat.sub_add_cancel (by omega)]
  rw [abs_value_sub sign, shortened, ← sub_div, abs_div,
    abs_of_pos (show (0 : ℚ) < 10 ^ c.scale by positivity), mantissa]
  exact div_le_div_of_nonneg_right (roundHalfEven_near _ (pow10_pos _)) (by positivity)

/-- A sum has no more digits after the point than one of its operands. -/
theorem scale_le_of_add? (h : a.add? b = some c) : c.scale ≤ max a.scale b.scale := by
  by_cases za : a.isZero = true
  · simp only [add?, za, if_true] at h
    cases h
    exact le_max_right _ _
  by_cases zb : b.isZero = true
  · simp only [add?, za, zb, if_true] at h
    cases h
    exact le_max_left _ _
  obtain ⟨scale, sum, exactly, own, added⟩ :=
    add?_of_nonzero (Bool.eq_false_iff.mpr za) (Bool.eq_false_iff.mpr zb)
  obtain ⟨_, le, _⟩ := fitted_eq_some exactly.scale_le (added.symm.trans h)
  omega

/-- A sum of less than 10¹² keeps sixteen digits after the point, or all that it has. -/
theorem add?_near (h : a.add? b = some c) (small : |c.value| < 10 ^ 12) :
    |c.value - (a.value + b.value)| ≤ 5 / 10 ^ 17 := by
  by_cases zero : a.isZero = true ∨ b.isZero = true
  · obtain ⟨d, found, exactly⟩ := add?_of_zero zero
    cases h.symm.trans found
    rw [exactly, sub_self, abs_zero]
    positivity
  obtain ⟨ha, hb⟩ := not_or.mp zero
  obtain ⟨scale, sum, exactly, _, added⟩ :=
    add?_of_nonzero (Bool.eq_false_iff.mpr ha) (Bool.eq_false_iff.mpr hb)
  rw [added] at h
  have near := fitted_near exactly.scale_le h
  obtain ⟨sign, le, mantissa, rest⟩ := fitted_eq_some exactly.scale_le h
  rw [exactly.value_eq]
  rcases Nat.lt_or_ge c.scale 16 with few | enough
  · by_cases top : c.scale = scale
    · -- No digit is lost.
      rw [abs_value_sub sign, mantissa, top, Nat.sub_self, pow10_zero, roundHalfEven_one, sub_self,
        abs_zero]
      positivity
    · exfalso
      have higher : c.scale + 1 ≤ min scale (sumScale a b scale) := by
        rcases sumScale_cases a b scale with own | ⟨limit, _⟩ <;> omega
      have large := rest (c.scale + 1) (Nat.lt_succ_self _) higher
      have one := roundHalfEven_near sum.natAbs (pow10_pos (scale - (c.scale + 1)))
      have magnitude : |(sum : ℚ) / 10 ^ scale| * 10 ^ (c.scale + 1) =
          sum.natAbs / (pow10 (scale - (c.scale + 1)) : ℕ) := by
        have widened : (10 : ℚ) ^ scale = 10 ^ (scale - (c.scale + 1)) * 10 ^ (c.scale + 1) := by
          rw [← pow_add, Nat.sub_add_cancel (by omega)]
        rw [abs_div, abs_of_pos (show (0 : ℚ) < 10 ^ scale by positivity), cast_pow10,
          Nat.cast_natAbs, Int.cast_abs, widened, div_mul_eq_mul_div]
        exact mul_div_mul_right _ _ (by positivity)
      rw [← magnitude] at one
      have many : ((pow2 96 : ℕ) : ℚ) ≤
          roundHalfEven sum.natAbs (pow10 (scale - (c.scale + 1))) := Nat.cast_le.mpr large
      have power : (10 : ℚ) ^ (c.scale + 1) ≤ 10 ^ 16 :=
        pow_le_pow_right₀ (by norm_num) (by omega)
      have gap : |(sum : ℚ) / 10 ^ scale| < 10 ^ 12 + 1 := by
        have half : (1 : ℚ) / 2 / 10 ^ c.scale ≤ 1 / 2 :=
          div_le_self (by norm_num) (one_le_pow₀ (by norm_num))
        have triangle := abs_sub_abs_le_abs_sub ((sum : ℚ) / 10 ^ scale) c.value
        rw [abs_sub_comm] at triangle
        linarith
      have product : |(sum : ℚ) / 10 ^ scale| * 10 ^ (c.scale + 1) ≤ (10 ^ 12 + 1) * 10 ^ 16 :=
        mul_le_mul gap.le power (by positivity) (by positivity)
      have bits : ((pow2 96 : ℕ) : ℚ) = 79228162514264337593543950336 := by norm_num [pow2]
      have := (abs_le.mp one).2
      linarith
  · refine near.trans ?_
    have power : (10 : ℚ) ^ 16 ≤ 10 ^ c.scale := pow_le_pow_right₀ (by norm_num) enough
    calc (1 : ℚ) / 2 / 10 ^ c.scale
        ≤ 1 / 2 / 10 ^ 16 := div_le_div_of_nonneg_left (by norm_num) (by positivity) power
      _ = 5 / 10 ^ 17 := by norm_num

/-- Rounding does not bring a sum below 10¹². -/
theorem le_value_of_add? (h : a.add? b = some c) (large : 10 ^ 12 ≤ a.value + b.value) :
    10 ^ 12 ≤ c.value := by
  by_cases zero : a.isZero = true ∨ b.isZero = true
  · obtain ⟨d, found, exactly⟩ := add?_of_zero zero
    cases h.symm.trans found
    rwa [exactly]
  obtain ⟨ha, hb⟩ := not_or.mp zero
  obtain ⟨scale, sum, exactly, _, added⟩ :=
    add?_of_nonzero (Bool.eq_false_iff.mpr ha) (Bool.eq_false_iff.mpr hb)
  rw [added] at h
  obtain ⟨sign, le, mantissa, _⟩ := fitted_eq_some exactly.scale_le h
  rw [exactly.value_eq, le_div_iff₀ (by positivity)] at large
  have digits : 10 ^ 12 * 10 ^ scale ≤ sum := by exact_mod_cast large
  have positive : ¬ sum < 0 := not_lt.mpr (le_trans (by positivity) digits)
  have enough : 10 ^ 12 * 10 ^ c.scale ≤ c.mantissa := by
    rw [mantissa]
    refine le_trans ((Nat.le_div_iff_mul_le (pow10_pos _)).mpr ?_) (div_le_roundHalfEven _ _)
    have joined : 10 ^ 12 * 10 ^ c.scale * pow10 (scale - c.scale) = 10 ^ 12 * 10 ^ scale := by
      rw [mul_assoc]
      exact congrArg _ ((pow_add 10 _ _).symm.trans (congrArg (10 ^ ·) (by omega)))
    rw [joined]
    zify
    exact digits.trans (le_abs_self sum)
  rw [value, sign, if_neg (by simpa using positive), le_div_iff₀ (by positivity)]
  exact_mod_cast enough

/-- What is fitted to zero was no more than half a unit of the last digit it could have. -/
theorem two_mul_le_of_fitted {negative : Bool} {magnitude bound : ℕ} (hs : scale ≤ 56)
    (h : fitted negative magnitude scale bound = some c) (zero : c.mantissa = 0) :
    2 * magnitude ≤ pow10 (scale - min scale bound) := by
  obtain ⟨_, le, mantissa, rest⟩ := fitted_eq_some hs h
  have small {d : ℕ} (none : roundHalfEven magnitude d = 0) (hd : 0 < d) : 2 * magnitude ≤ d := by
    have less : magnitude < d :=
      Nat.lt_of_div_eq_zero hd (Nat.le_zero.mp (none ▸ div_le_roundHalfEven magnitude d))
    simp only [roundHalfEven, Nat.mod_eq_of_lt less] at none
    split_ifs at none <;> omega
  have half := small (mantissa.symm.trans zero) (pow10_pos _)
  rcases Nat.lt_or_ge c.scale (min scale bound) with lower | top
  · -- One digit more would have fitted.
    exfalso
    have large := rest (c.scale + 1) (Nat.lt_succ_self _) lower
    have tenth : pow10 (scale - c.scale) = 10 * pow10 (scale - (c.scale + 1)) := by
      rw [← pow10_succ]
      congr 1
      omega
    have upper : roundHalfEven magnitude (pow10 (scale - (c.scale + 1))) ≤
        magnitude / pow10 (scale - (c.scale + 1)) + 1 := by
      simp only [roundHalfEven]
      split_ifs <;> omega
    have five : magnitude / pow10 (scale - (c.scale + 1)) ≤ 5 :=
      Nat.div_le_of_le_mul (by omega)
    have bits : 6 < pow2 96 := by decide
    omega
  · rwa [Nat.le_antisymm le top] at half

/-- A number of 96 bits that ends in so many zeros is not close to one that needs more bits. -/
theorem pow10_lt_of_zeros (long : 28 < scale) (hs : scale ≤ 56) {k l r : ℤ}
    (zeros : l = k * 10 ^ (scale - 8)) (notNegative : 0 ≤ l) (fits : l.natAbs < pow2 96)
    (tooLong : pow2 96 ≤ r.natAbs) (negative : l + r < 0) :
    pow10 (scale - 28) < 2 * (l + r).natAbs := by
  have bits : pow2 96 = 79228162514264337593543950336 := by decide
  rw [bits] at fits tooLong
  interval_cases scale <;> norm_num [pow10] at zeros ⊢ <;> omega

/-- Two numbers with so many digits at the larger of their scales are not close to opposite, if
the first is one that a column has room for and the second is the larger in magnitude. -/
theorem pow10_lt_of_not_fitsAt (exactly : SumOf a b scale sum)
    (own : scale = a.scale ∨ scale = b.scale) (long : 28 < scale)
    (tooLong : ¬ (a.FitsAt scale ∧ b.FitsAt scale)) (notNegative : 0 ≤ a.value)
    (room : HasRoom a.value) (negative : sum < 0) :
    pow10 (scale - 28) < 2 * sum.natAbs := by
  have ownFits {d : Decimal} (own : scale = d.scale) : d.FitsAt scale := by
    rw [FitsAt, natAbs_mantissaAt, own, Nat.sub_self, pow10_zero, mul_one]
    exact d.mantissa_lt
  have left : 0 ≤ a.mantissaAt scale := by
    rw [value_eq_mantissaAt a exactly.left exactly.scale_le, le_div_iff₀ (by positivity),
      zero_mul] at notNegative
    exact_mod_cast notNegative
  have total := exactly.mantissa
  have unfit : ¬ ((a.mantissaAt scale).natAbs < pow2 96 ∧
      (b.mantissaAt scale).natAbs < pow2 96) := tooLong
  rcases own with mine | other
  · -- The first is a multiple of 10⁻⁸, so that its digits end in many zeros, unlike `2 ^ 96`.
    have fits : (a.mantissaAt scale).natAbs < pow2 96 := ownFits mine
    obtain ⟨⟨k, multiple⟩, _⟩ := room
    have zeros : a.mantissaAt scale = k * 10 ^ (scale - 8) := by
      have widened : (10 : ℚ) ^ scale = 10 ^ 8 * 10 ^ (scale - 8) := by
        rw [← pow_add, Nat.add_sub_cancel' (by omega)]
      rw [value_eq_mantissaAt a exactly.left exactly.scale_le, div_eq_div_iff (by positivity)
        (by positivity), widened, mul_left_comm, mul_comm] at multiple
      exact_mod_cast mul_left_cancel₀ (by positivity) multiple
    rw [total]
    exact pow10_lt_of_zeros long exactly.scale_le zeros left fits (by omega) (by omega)
  · have fits : (b.mantissaAt scale).natAbs < pow2 96 := ownFits other
    omega

/-- A balance that the sum takes below zero does not come back to zero by rounding. -/
theorem value_neg_of_add? (notNegative : 0 ≤ a.value) (room : HasRoom a.value)
    (h : a.add? b = some c) (below : a.value + b.value < 0) : c.value < 0 := by
  by_cases zero : a.isZero = true ∨ b.isZero = true
  · obtain ⟨d, found, exactly⟩ := add?_of_zero zero
    cases h.symm.trans found
    rwa [exactly]
  obtain ⟨ha, hb⟩ := not_or.mp zero
  obtain ⟨scale, sum, exactly, own, added⟩ :=
    add?_of_nonzero (Bool.eq_false_iff.mpr ha) (Bool.eq_false_iff.mpr hb)
  rw [added] at h
  have negative : sum < 0 := by
    rw [exactly.value_eq, div_lt_iff₀ (by positivity), zero_mul] at below
    exact_mod_cast below
  have digits : c.mantissa ≠ 0 := by
    intro none
    have half := two_mul_le_of_fitted exactly.scale_le h none
    have lossy : min scale (sumScale a b scale) ≠ scale := by
      intro top
      rw [top, Nat.sub_self, pow10_zero] at half
      omega
    rcases sumScale_cases a b scale with same | ⟨limit, tooLong⟩
    · exact lossy (by omega)
    · rw [limit] at half lossy
      have more := pow10_lt_of_not_fitsAt exactly own (by omega) tooLong notNegative room negative
      rw [Nat.min_eq_right (by omega)] at half
      omega
  rw [value, (fitted_eq_some exactly.scale_le h).1, if_pos (decide_eq_true negative),
    div_lt_iff₀ (by positivity), zero_mul, neg_lt_zero]
  exact Nat.cast_pos.mpr (Nat.pos_of_ne_zero digits)

end DoubleEntry.Decimal
