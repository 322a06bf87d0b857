import DoubleEntry.Decimal.Sum

/-!
Values that a column of amounts keeps. Such a value is a multiple of 10⁻⁸ below 10¹² in magnitude,
whatever representation it has, and a sum of two such values is exact: where the mantissa has to be
shortened, only zeros are lost.
-/

namespace DoubleEntry

theorem pow10_add (j k : Nat) : pow10 (j + k) = pow10 j * pow10 k := Nat.pow_add 10 j k

theorem pow10_dvd_pow10 {j k : Nat} (h : j ≤ k) : pow10 j ∣ pow10 k :=
  ⟨pow10 (k - j), by rw [← pow10_add, Nat.add_sub_cancel' h]⟩

namespace Decimal

/-- A whole number of 16 bits. -/
def whole (n : UInt16) : Decimal := ofSmall n.toNat (Nat.lt_trans n.toNat_lt (by decide))

/-- A mantissa can be written with `b` digits after the point if only zeros are left out. -/
theorem trimZeros_scale_le_iff (m s b : Nat) :
    (trimZeros m s).2 ≤ b ↔ pow10 (s - b) ∣ m := by
  induction s generalizing m with
  | zero => simp [trimZeros, pow10_zero]
  | succ s ih =>
      by_cases hm : m % 10 = 0
      · simp only [trimZeros, hm, if_true, ih]
        obtain ⟨q, rfl⟩ := Nat.dvd_of_mod_eq_zero hm
        rw [Nat.mul_div_cancel_left q (by decide)]
        by_cases hb : b ≤ s
        · rw [Nat.succ_sub hb, pow10_succ]
          exact (Nat.mul_dvd_mul_iff_left (by decide)).symm
        · rw [show s - b = 0 by omega, show s + 1 - b = 0 by omega, pow10_zero]
          simp
      · simp only [trimZeros, hm, if_false]
        by_cases hb : s + 1 ≤ b
        · rw [show s + 1 - b = 0 by omega, pow10_zero]
          simp [hb]
        · have ten : ¬ pow10 (s + 1 - b) ∣ m := by
            intro h
            rw [show s + 1 - b = (s - b) + 1 by omega, pow10_succ] at h
            exact hm (Nat.mod_eq_zero_of_dvd (Nat.dvd_trans ⟨_, rfl⟩ h))
          simp [hb, ten]

theorem natAbs_mantissaAt (d : Decimal) (scale : Nat) :
    (d.mantissaAt scale).natAbs = d.mantissa * pow10 (scale - d.scale) := by
  cases hn : d.negative <;> simp [mantissaAt, hn, Int.natAbs_mul]

theorem natAbs_units (d : Decimal) : d.units.natAbs = d.mantissa * pow10 (56 - d.scale) :=
  natAbs_mantissaAt d 56

theorem mantissaAt_mul_pow10 (d : Decimal) {scale : Nat} (h : d.scale ≤ scale) (more : Nat) :
    d.mantissaAt scale * pow10 more = d.mantissaAt (scale + more) := by
  have hp : pow10 (scale + more - d.scale) = pow10 (scale - d.scale) * pow10 more := by
    rw [← pow10_add]
    congr 1
    omega
  have magnitude : ((d.mantissa * pow10 (scale - d.scale) : Nat) : Int) * pow10 more =
      (d.mantissa * pow10 (scale + more - d.scale) : Nat) := by
    rw [hp, ← Nat.mul_assoc]
    exact (Int.natCast_mul _ _).symm
  cases hn : d.negative with
  | false =>
      simp only [mantissaAt, hn]
      exact magnitude
  | true =>
      simp only [mantissaAt, hn, if_true]
      rw [← magnitude]
      exact Int.neg_mul _ _

theorem mantissaAt_mul_eq_units (d : Decimal) {scale : Nat} (h : d.scale ≤ scale)
    (hs : scale ≤ 56) : d.mantissaAt scale * pow10 (56 - scale) = d.units := by
  rw [mantissaAt_mul_pow10 d h, Nat.add_sub_cancel' hs]
  rfl

/-- The column keeps the multiples of 10⁻⁸ below 10¹², in every representation. -/
theorem fitsColumn_iff (d : Decimal) :
    d.FitsColumn ↔ pow10 48 ∣ d.units.natAbs ∧ d.units.natAbs < pow10 68 := by
  have limit : d.abs < amountLimit ↔ d.units.natAbs < pow10 68 := by
    change d.abs.units < amountLimit.units ↔ _
    rw [units_abs, show amountLimit.units = (pow10 68 : Nat) by decide]
    omega
  have zeros : d.trimmedScale ≤ amountScale ↔ pow10 48 ∣ d.units.natAbs := by
    rw [trimmedScale, trimZeros_scale_le_iff, natAbs_units, amountScale]
    have hs := d.scale_le
    by_cases h8 : 8 ≤ d.scale
    · have hp : pow10 48 = pow10 (d.scale - 8) * pow10 (56 - d.scale) := by
        rw [← pow10_add]
        congr 1
        omega
      rw [hp]
      exact (Nat.mul_dvd_mul_iff_right (pow10_pos _)).symm
    · rw [show d.scale - 8 = 0 by omega, pow10_zero]
      have hd : pow10 48 ∣ pow10 (56 - d.scale) := pow10_dvd_pow10 (by omega)
      exact iff_of_true (Nat.one_dvd _) (Nat.dvd_mul_left_of_dvd hd _)
  simp only [FitsColumn]
  rw [limit, zeros]

theorem fitsColumn_neg {d : Decimal} (h : d.FitsColumn) : (-d).FitsColumn := by
  rw [fitsColumn_iff] at h ⊢
  rwa [units_neg, Int.natAbs_neg]

theorem roundHalfEven_of_dvd {n d : Nat} (hd : 0 < d) (h : d ∣ n) : roundHalfEven n d = n / d := by
  simp [roundHalfEven, Nat.mod_eq_zero_of_dvd h, hd]

/-- A search from above ends no lower than at a place that is known to succeed. -/
theorem findSome?_range_reverse {α : Type} (f : Nat → Option α) {t n : Nat} (hn : t ≤ n)
    (ht : (f t).isSome) :
    ∃ k a, t ≤ k ∧ k ≤ n ∧ f k = some a ∧ (List.range (n + 1)).reverse.findSome? f = some a := by
  induction n with
  | zero =>
      obtain rfl : t = 0 := by omega
      obtain ⟨a, ha⟩ := Option.isSome_iff_exists.mp ht
      exact ⟨0, a, Nat.le_refl 0, Nat.le_refl 0, ha, by simp [ha]⟩
  | succ n ih =>
      rw [List.range_succ, List.reverse_append, List.reverse_singleton, List.singleton_append,
        List.findSome?_cons]
      cases hf : f (n + 1) with
      | some a => exact ⟨n + 1, a, hn, Nat.le_refl _, hf, rfl⟩
      | none =>
          have lower : t ≤ n := by
            rcases Nat.lt_or_ge n t with above | below
            · obtain rfl : t = n + 1 := by omega
              rw [hf] at ht
              cases ht
            · exact below
          obtain ⟨k, a, hk, hkn, hfk, found⟩ := ih lower
          exact ⟨k, a, hk, by omega, hfk, found⟩

/-- If only zeros are lost at some scale, then no more is lost at the scale that is found. -/
theorem exists_fitted {magnitude scale bound target : Nat} (negative : Bool) (hs : scale ≤ 56)
    (ht : target ≤ min scale bound) (zeros : pow10 (scale - target) ∣ magnitude)
    (small : magnitude / pow10 (scale - target) < pow2 96) :
    ∃ d, fitted negative magnitude scale bound = some d ∧ d.negative = negative ∧
      d.scale ≤ scale ∧ d.mantissa * pow10 (scale - d.scale) = magnitude := by
  have exact_from {t : Nat} (hle : target ≤ t) : pow10 (scale - t) ∣ magnitude :=
    Nat.dvd_trans (pow10_dvd_pow10 (by omega)) zeros
  have start : (ofParts? negative (roundHalfEven magnitude (pow10 (scale - target)))
      target).isSome := by
    rw [roundHalfEven_of_dvd (pow10_pos _) zeros, ofParts?, dif_pos ⟨small, by omega⟩]
    rfl
  obtain ⟨k, d, hk, hkn, hd, found⟩ := findSome?_range_reverse
    (fun t => ofParts? negative (roundHalfEven magnitude (pow10 (scale - t))) t) ht start
  refine ⟨d, found, ?_⟩
  rw [roundHalfEven_of_dvd (pow10_pos _) (exact_from hk)] at hd
  simp only [ofParts?] at hd
  split at hd
  · cases hd
    exact ⟨rfl, by simp only; omega, Nat.div_mul_cancel (exact_from hk)⟩
  · cases hd

/-- A magnitude that the column could keep but for its size fits 96 bits once its last zeros are
left out. -/
theorem shortened_lt {magnitude scale : Nat} (hs : scale ≤ 56)
    (dvd : pow10 48 ∣ magnitude * pow10 (56 - scale))
    (lt : magnitude * pow10 (56 - scale) < 2 * pow10 68) :
    pow10 (scale - min scale 8) ∣ magnitude ∧
      magnitude / pow10 (scale - min scale 8) < pow2 96 := by
  have zeros : pow10 (scale - min scale 8) ∣ magnitude := by
    by_cases h8 : 8 ≤ scale
    · have hp : pow10 48 = pow10 (scale - min scale 8) * pow10 (56 - scale) := by
        rw [← pow10_add]
        congr 1
        omega
      rw [hp] at dvd
      exact (Nat.mul_dvd_mul_iff_right (pow10_pos _)).mp dvd
    · rw [show scale - min scale 8 = 0 by omega, pow10_zero]
      exact Nat.one_dvd _
  refine ⟨zeros, ?_⟩
  obtain ⟨q, rfl⟩ := zeros
  rw [Nat.mul_div_cancel_left q (pow10_pos _)]
  have bound : pow10 48 * q < pow10 48 * (2 * pow10 20) := by
    calc pow10 48 * q
        ≤ pow10 (scale - min scale 8 + (56 - scale)) * q :=
          Nat.mul_le_mul_right q (Nat.le_of_dvd (pow10_pos _) (pow10_dvd_pow10 (by omega)))
      _ = pow10 (scale - min scale 8) * q * pow10 (56 - scale) := by
          rw [pow10_add, Nat.mul_right_comm]
      _ < 2 * pow10 68 := lt
      _ = pow10 48 * (2 * pow10 20) := by decide
  exact Nat.lt_trans (Nat.lt_of_mul_lt_mul_left bound) (by decide)

theorem mantissaAt_eq {d : Decimal} {m : Int} {scale : Nat} (sign : d.negative = decide (m < 0))
    (magnitude : d.mantissa * pow10 (scale - d.scale) = m.natAbs) : d.mantissaAt scale = m := by
  simp only [mantissaAt]
  rw [sign, magnitude]
  by_cases hm : m < 0
  · simp only [hm, decide_true, if_true]
    omega
  · simp only [hm, decide_false, Bool.false_eq_true, if_false]
    omega

/-- The sum of two values of a column is exact, though it may be too large for the column. -/
theorem exists_add?_of_fitsColumn {a b : Decimal} (ha : a.FitsColumn) (hb : b.FitsColumn) :
    ∃ c, a.add? b = some c ∧ c.units = a.units + b.units := by
  simp only [add?]
  by_cases za : a.isZero = true
  · refine ⟨b, by rw [if_pos za], ?_⟩
    rw [(units_eq_zero_iff a).mpr za, Int.zero_add]
  by_cases zb : b.isZero = true
  · refine ⟨a, by rw [if_neg za, if_pos zb], ?_⟩
    rw [(units_eq_zero_iff b).mpr zb, Int.add_zero]
  rw [if_neg za, if_neg zb]
  have ⟨aDvd, aLt⟩ := (fitsColumn_iff a).mp ha
  have ⟨bDvd, bLt⟩ := (fitsColumn_iff b).mp hb
  have hs : max a.scale b.scale ≤ 56 := Nat.max_le.mpr ⟨a.scale_le, b.scale_le⟩
  have bound : min (max a.scale b.scale) 8 ≤
      min (max a.scale b.scale) (sumScale a b (max a.scale b.scale)) := by
    simp only [sumScale, roundingScale]
    split <;> omega
  have sum : (a.mantissaAt (max a.scale b.scale) + b.mantissaAt (max a.scale b.scale)) *
      pow10 (56 - max a.scale b.scale) = a.units + b.units := by
    rw [Int.add_mul, mantissaAt_mul_eq_units a (Nat.le_max_left _ _) hs,
      mantissaAt_mul_eq_units b (Nat.le_max_right _ _) hs]
  generalize max a.scale b.scale = scale at hs sum bound
  generalize a.mantissaAt scale + b.mantissaAt scale = m at sum
  -- The exact sum is `m` at this scale, and a multiple of 10⁻⁸.
  have magnitude : m.natAbs * pow10 (56 - scale) = (a.units + b.units).natAbs := by
    rw [← sum, Int.natAbs_mul, Int.natAbs_natCast]
  have dvd : pow10 48 ∣ m.natAbs * pow10 (56 - scale) := by
    rw [magnitude]
    exact Int.ofNat_dvd_left.mp (Int.dvd_add (Int.ofNat_dvd_left.mpr aDvd)
      (Int.ofNat_dvd_left.mpr bDvd))
  have lt : m.natAbs * pow10 (56 - scale) < 2 * pow10 68 := by
    rw [magnitude]
    omega
  have ⟨zeros, small⟩ := shortened_lt hs dvd lt
  obtain ⟨c, found, sign, hc, exact⟩ := exists_fitted (decide (m < 0)) hs bound zeros small
  refine ⟨c, found, ?_⟩
  rw [← mantissaAt_mul_eq_units c hc hs, mantissaAt_eq sign exact, sum]

end Decimal
end DoubleEntry
