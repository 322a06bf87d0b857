import DoubleEntry.Number
import DoubleEntry.Text.Blank
import DoubleEntry.Text.Digits
import Mathlib.Data.List.Induction

/-!
Runs of digits that are read back. A run ends where something else begins, and a number behind
zeros is the number still.
-/

namespace DoubleEntry.Text

/-- What follows a run does not go on with it. -/
def Stops (p : Char → Bool) (rest : List Char) : Prop := ∀ c ∈ rest.head?, p c = false

variable {p : Char → Bool} {cs rest : List Char} {n w k : Nat}

theorem stops_nil : Stops p [] := nofun

theorem stops_cons {c : Char} (h : p c = false) : Stops p (c :: rest) := by
  intro d same
  cases same
  exact h

theorem dropWhile_of_stops (h : Stops p rest) : rest.dropWhile p = rest := by
  cases rest with
  | nil => rfl
  | cons c rest => exact List.dropWhile_cons_of_neg (by simp [h c rfl])

/-- A run is split from what follows it. -/
theorem takeWhile_run (h : ∀ c ∈ cs, p c = true) (stops : Stops p rest) :
    (cs ++ rest).takeWhile p = cs := by
  rw [List.takeWhile_append_of_pos h]
  cases rest with
  | nil => exact List.append_nil cs
  | cons c rest =>
      rw [List.takeWhile_cons_of_neg (by simp [stops c rfl]), List.append_nil]

theorem dropWhile_run (h : ∀ c ∈ cs, p c = true) (stops : Stops p rest) :
    (cs ++ rest).dropWhile p = rest := by
  rw [List.dropWhile_append_of_pos h, dropWhile_of_stops stops]

theorem toNat_of_isDigit {c : Char} (h : isDigit c = true) : 48 ≤ c.toNat ∧ c.toNat ≤ 57 := by
  simp only [isDigit, Bool.and_eq_true, decide_eq_true_eq, Char.le_def] at h
  exact h

theorem digitValue_lt {c : Char} (h : isDigit c = true) : digitValue c < 10 := by
  have bounds := toNat_of_isDigit h
  change c.toNat - 48 < 10
  omega

theorem digitChar_digitValue {c : Char} (h : isDigit c = true) : digitChar (digitValue c) = c := by
  have bounds := toNat_of_isDigit h
  have code : 48 + (c.toNat - 48) = c.toNat := by omega
  exact (congrArg Char.ofNat code).trans (Char.ofNat_toNat c)

theorem isBlank_of_isDigit {c : Char} (h : isDigit c = true) : isBlank c = false := by
  have visible : ∀ d < 10, isBlank (digitChar d) = false := by decide
  exact digitChar_digitValue h ▸ visible _ (digitValue_lt h)

theorem isDigit_of_mem_digits : ∀ c ∈ digits n, isDigit c = true :=
  List.all_eq_true.mp (all_isDigit_digits n)

/-- No needless zeros stand before the digits of a number. -/
theorem head?_digits (h : 0 < n) : (digits n).head? ≠ some '0' := by
  fun_induction digits n with
  | case1 n small =>
      have first : ∀ d < 10, 0 < d → digitChar d ≠ '0' := by decide
      exact fun same => first n small h (Option.some_inj.mp same)
  | case2 n large ih =>
      rw [List.head?_append, List.head?_eq_some_head (digits_ne_nil _), Option.some_or,
        ← List.head?_eq_some_head]
      exact ih (by omega)

/-- What a run of digits adds to the number that stands before it. -/
def extended (n : Nat) (cs : List Char) : Nat := cs.foldl (fun n c => 10 * n + digitValue c) n

theorem le_extended (n : Nat) (cs : List Char) : n ≤ extended n cs := by
  induction cs generalizing n with
  | nil => exact Nat.le_refl n
  | cons c cs ih => exact Nat.le_trans (by omega) (ih (10 * n + digitValue c))

theorem ofDigits_replicate_zero (k : Nat) : ofDigits (List.replicate k '0') = 0 := by
  induction k with
  | zero => rfl
  | succ k ih =>
      rw [List.replicate_succ', ofDigits_append_singleton, ih]
      rfl

theorem ofDigits_padded (w n : Nat) : ofDigits (padded w n) = n := by
  rw [padded, ofDigits, List.foldl_append]
  exact (congrArg (extended · (digits n)) (ofDigits_replicate_zero _)).trans (ofDigits_digits n)

theorem isDigit_of_mem_padded : ∀ c ∈ padded w n, isDigit c = true := by
  intro c hc
  rcases List.mem_append.mp hc with zero | digit
  · rw [List.eq_of_mem_replicate zero]
    rfl
  · exact isDigit_of_mem_digits c digit

theorem padded_ne_nil (w n : Nat) : padded w n ≠ [] :=
  List.append_ne_nil_of_right_ne_nil _ (digits_ne_nil n)

theorem length_padded (w n : Nat) : (padded w n).length = max w (digits n).length := by
  rw [padded, List.length_append, List.length_replicate]
  omega

theorem length_digits_le (h : n < pow10 k) (hk : 0 < k) : (digits n).length ≤ k := by
  induction k generalizing n with
  | zero => cases hk
  | succ k ih =>
      rw [digits]
      split
      · exact Nat.succ_le_succ (Nat.zero_le k)
      · rename_i large
        rw [pow10_succ] at h
        have more : 0 < k := by
          refine Nat.pos_of_ne_zero fun zero => ?_
          rw [zero, pow10_zero] at h
          omega
        have shorter := ih (n := n / 10) (by omega) more
        simpa using shorter

theorem length_padded_of_lt (h : n < pow10 w) (hw : 0 < w) : (padded w n).length = w := by
  rw [length_padded]
  have := length_digits_le h hw
  omega

/-- A run of digits is below the power of ten that has one zero for each of them. -/
theorem ofDigits_lt (h : ∀ c ∈ cs, isDigit c = true) : ofDigits cs < pow10 cs.length := by
  induction cs using List.reverseRecOn with
  | nil => decide
  | append_singleton cs c ih =>
      have before := ih fun d hd => h d (List.mem_append_left [c] hd)
      have digit : digitValue c < 10 := digitValue_lt (h c (by simp))
      rw [ofDigits_append_singleton, List.length_append, List.length_singleton, pow10_succ]
      omega

end DoubleEntry.Text
