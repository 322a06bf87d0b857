import DoubleEntry.Decimal.Text
import DoubleEntry.Proofs.Text.Digits

/-!
Decimals that are written and read again. Every digit comes back, trailing zeros included, and the
sign comes back unless the decimal is zero. What is read has at most 28 digits after the point, in
whatever form it is written.
-/

namespace DoubleEntry.Decimal

open Text

variable {d : Decimal} {negative : Bool} {mantissa scale : Nat} {cs : List Char}

@[simp] theorem unsignedZero_scale (d : Decimal) : d.unsignedZero.scale = d.scale := by
  rw [unsignedZero]
  split <;> rfl

theorem ofParts?_self (d : Decimal) : ofParts? d.negative d.mantissa d.scale = some d :=
  dif_pos ⟨d.mantissa_lt, d.scale_le⟩

theorem scale_of_ofParts? (h : ofParts? negative mantissa scale = some d) : d.scale = scale := by
  simp only [ofParts?] at h
  split at h
  · cases h
    rfl
  · cases h

/-- Digits that the mantissa and the scale hold are all taken. -/
theorem takeFraction_digits (hd : ∀ c ∈ cs, isDigit c = true)
    (small : extended mantissa cs < pow2 96) (short : scale + cs.length ≤ roundingScale) :
    takeFraction negative mantissa scale cs =
      ofParts? negative (extended mantissa cs) (scale + cs.length) := by
  induction cs generalizing mantissa scale with
  | nil => rfl
  | cons c cs ih =>
      have digit := hd c List.mem_cons_self
      have room : scale ≠ roundingScale := by
        rw [List.length_cons] at short
        omega
      have noGap : c ≠ '_' := by
        rintro rfl
        cases digit
      have fits : 10 * mantissa + digitValue c < pow2 96 :=
        Nat.lt_of_le_of_lt (le_extended _ cs) small
      have count : scale + (c :: cs).length = scale + 1 + cs.length := by
        rw [List.length_cons]
        omega
      rw [takeFraction, if_neg room, if_neg noGap, if_pos fits, count]
      exact ih (fun c hc => hd c (List.mem_cons_of_mem _ hc)) small (count ▸ short)

/-- The digits before the point. -/
def wholeChars (d : Decimal) : List Char :=
  let ds := padded (d.scale + 1) d.mantissa
  ds.take (ds.length - d.scale)

/-- The digits after the point. -/
def fractionChars (d : Decimal) : List Char :=
  let ds := padded (d.scale + 1) d.mantissa
  ds.drop (ds.length - d.scale)

theorem wholeChars_append (d : Decimal) :
    d.wholeChars ++ d.fractionChars = padded (d.scale + 1) d.mantissa := List.take_append_drop _ _

theorem scale_lt_length (d : Decimal) : d.scale < (padded (d.scale + 1) d.mantissa).length := by
  rw [length_padded]
  omega

theorem length_fractionChars (d : Decimal) : d.fractionChars.length = d.scale := by
  have := scale_lt_length d
  rw [fractionChars, List.length_drop]
  omega

theorem wholeChars_ne_nil (d : Decimal) : d.wholeChars ≠ [] := by
  have := scale_lt_length d
  intro none
  have length := congrArg List.length none
  rw [wholeChars, List.length_take, List.length_nil] at length
  omega

theorem isDigit_of_mem_wholeChars : ∀ c ∈ d.wholeChars, isDigit c = true :=
  fun c hc => isDigit_of_mem_padded c (List.mem_of_mem_take hc)

theorem isDigit_of_mem_fractionChars : ∀ c ∈ d.fractionChars, isDigit c = true :=
  fun c hc => isDigit_of_mem_padded c (List.mem_of_mem_drop hc)

theorem ne_point_of_isDigit {c : Char} (h : isDigit c = true) : (c != '.') = true := by
  refine bne_iff_ne.mpr ?_
  rintro rfl
  cases h

theorem splitSign_of_isDigit {c : Char} (h : isDigit c = true) :
    splitSign (c :: cs) = (false, c :: cs) := by
  simp only [splitSign]
  split
  · rename_i same
    cases same
    cases h
  · rename_i same
    cases same
    cases h
  · rfl

/-- The plain form of what is written. -/
theorem plainForm?_toChars (d : Decimal) :
    plainForm? d.toChars = some ⟨d.negative, d.wholeChars, d.fractionChars⟩ := by
  let point := if d.fractionChars.isEmpty then [] else '.' :: d.fractionChars
  obtain ⟨c, cs, first⟩ := List.exists_cons_of_ne_nil d.wholeChars_ne_nil
  have digit : isDigit c = true :=
    isDigit_of_mem_wholeChars c (first ▸ List.mem_cons_self)
  have shape : d.toChars = (if d.negative then ['-'] else []) ++ (d.wholeChars ++ point) := by
    rw [← List.append_assoc]
    rfl
  have sign : splitSign d.toChars = (d.negative, d.wholeChars ++ point) := by
    rw [shape]
    cases d.negative with
    | true => rfl
    | false =>
        rw [first]
        exact splitSign_of_isDigit digit
  have stops : Stops (· != '.') point := by
    simp only [point]
    split
    · exact stops_nil
    · exact stops_cons rfl
  have noPoint : ∀ c ∈ d.wholeChars, (c != '.') = true :=
    fun c hc => ne_point_of_isDigit (isDigit_of_mem_wholeChars c hc)
  have fraction : point.drop 1 = d.fractionChars := by
    simp only [point]
    split
    · rename_i empty
      exact (List.isEmpty_iff.mp empty).symm
    · rfl
  have head : (d.wholeChars ++ d.fractionChars).head?.any isDigit = true := by
    rw [first]
    exact digit
  have all : (d.wholeChars ++ d.fractionChars).all isDigitOrGap = true := by
    rw [wholeChars_append]
    refine List.all_eq_true.mpr fun c hc => ?_
    rw [isDigitOrGap, isDigit_of_mem_padded c hc, Bool.true_or]
  simp only [plainForm?, sign, takeWhile_run noPoint stops, dropWhile_run noPoint stops, fraction,
    head, all, Bool.and_self, if_true]

theorem ofPlain?_toChars (h : d.scale ≤ roundingScale) :
    ofPlain? d.toChars = some d.unsignedZero := by
  have whole : d.wholeChars.filter isDigit = d.wholeChars :=
    List.filter_eq_self.mpr isDigit_of_mem_wholeChars
  have mantissa : extended (ofDigits d.wholeChars) d.fractionChars = d.mantissa := by
    have digits := ofDigits_padded (d.scale + 1) d.mantissa
    rwa [← wholeChars_append, ofDigits, List.foldl_append] at digits
  have small : ofDigits d.wholeChars < pow2 96 :=
    Nat.lt_of_le_of_lt (mantissa ▸ le_extended _ _) d.mantissa_lt
  have taken : takeFraction d.negative (ofDigits d.wholeChars) 0 d.fractionChars = some d := by
    rw [takeFraction_digits isDigit_of_mem_fractionChars (mantissa ▸ d.mantissa_lt)
      (by rw [Nat.zero_add, length_fractionChars]; exact h), mantissa, length_fractionChars,
      Nat.zero_add, ofParts?_self]
  rw [ofPlain?, plainForm?_toChars]
  change ofPlainForm? _ = _
  simp only [ofPlainForm?, whole, if_pos small, taken, Option.map_some]

/-- What is written is read again with every digit of its scale. -/
theorem ofText?_toText (h : d.scale ≤ roundingScale) : ofText? d.toText = some d.unsignedZero := by
  rw [ofText?, toText, String.toList_ofList, ofChars?, ofPlain?_toChars h]
  rfl

theorem scale_of_roundedUp {up : Bool} (h : roundedUp negative up mantissa scale = some d) :
    d.scale ≤ scale := by
  simp only [roundedUp] at h
  generalize (if up = true then mantissa + 1 else mantissa) = m at h
  split at h
  · exact Nat.le_of_eq (scale_of_ofParts? h)
  · split at h
    · cases h
    · exact Nat.le_trans (Nat.le_of_eq (scale_of_ofParts? h)) (Nat.sub_le _ _)

theorem scale_of_takeFraction (short : scale ≤ roundingScale)
    (h : takeFraction negative mantissa scale cs = some d) : d.scale ≤ roundingScale := by
  induction cs generalizing mantissa scale with
  | nil => exact scale_of_ofParts? h ▸ short
  | cons c cs ih =>
      rw [takeFraction] at h
      split at h
      · exact Nat.le_trans (scale_of_roundedUp h) short
      · rename_i room
        split at h
        · exact ih short h
        · split at h
          · exact ih (Nat.lt_of_le_of_ne short room) h
          · exact Nat.le_trans (scale_of_roundedUp h) short

theorem scale_of_ofPlain? (h : ofPlain? cs = some d) : d.scale ≤ roundingScale := by
  obtain ⟨p, _, h⟩ := Option.bind_eq_some_iff.mp h
  simp only [ofPlainForm?] at h
  split at h
  · obtain ⟨taken, made, rfl⟩ := Option.map_eq_some_iff.mp h
    rw [unsignedZero_scale]
    exact scale_of_takeFraction (Nat.zero_le _) made
  · cases h

theorem le_of_exponent? {e : Nat} (h : exponent? cs = some e) : e ≤ roundingScale :=
  of_decide_eq_true (Option.filter_eq_some_iff.mp h).2

theorem scale_of_scaledDown {e : Nat} {base : Decimal} (short : e ≤ roundingScale)
    (h : base.scaledDown e = some d) : d.scale ≤ roundingScale := by
  rw [scaledDown] at h
  split at h
  · rename_i room
    exact scale_of_ofParts? h ▸ room
  · obtain ⟨rounded, shortened, made⟩ := Option.bind_eq_some_iff.mp h
    rw [scale_of_ofParts? made, scale_of_ofParts? shortened]
    omega

theorem scale_of_scaledUp {e : Nat} {base : Decimal} (short : base.scale ≤ roundingScale)
    (h : base.scaledUp e = some d) : d.scale ≤ roundingScale := by
  simp only [scaledUp] at h
  split at h
  · rw [scale_of_ofParts? h]
    omega
  · rw [scale_of_ofParts? h]
    exact Nat.zero_le _

theorem scale_of_ofExponentForm? (h : ofExponentForm? cs = some d) : d.scale ≤ roundingScale := by
  simp only [ofExponentForm?] at h
  split at h
  · cases h
  · obtain ⟨base, _, rest⟩ := Option.bind_eq_some_iff.mp h
    obtain ⟨e, he, made⟩ := Option.bind_eq_some_iff.mp rest
    exact scale_of_scaledDown (le_of_exponent? he) made
  · obtain ⟨base, plain, rest⟩ := Option.bind_eq_some_iff.mp h
    obtain ⟨e, _, made⟩ := Option.bind_eq_some_iff.mp rest
    exact scale_of_scaledUp (scale_of_ofPlain? plain) made

/-- Whatever form a decimal is read from, it can be written and read again. -/
theorem scale_of_ofText? {s : String} (h : ofText? s = some d) : d.scale ≤ roundingScale := by
  rw [ofText?, ofChars?] at h
  cases plain : ofPlain? s.toList with
  | some read =>
      rw [plain] at h
      cases h
      exact scale_of_ofPlain? plain
  | none =>
      rw [plain] at h
      exact scale_of_ofExponentForm? h

end DoubleEntry.Decimal
