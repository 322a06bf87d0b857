import DoubleEntry.Number
import DoubleEntry.Text.Digits

/-!
Paths into a configuration. A key writes a path as a word, behind which further words stand after a
point each and positions between square brackets. A key that does not have this form is a path of
one step, the key itself.
-/

namespace DoubleEntry

/-- A step into a table by a name, or into a list by a position. A negative position counts from the
end. -/
inductive ConfigStep where
  | key (name : String)
  | index (position : Int)
  deriving DecidableEq, Repr

abbrev ConfigPath : Type := List ConfigStep

namespace ConfigPath

open Text

/-- The characters of the words in a path. -/
def isWordChar (c : Char) : Bool :=
  c.isAlphanum || c == ' ' || c == '_' || c == '-'

/-- A word, and what follows it. -/
def readWord? (cs : List Char) : Option (ConfigStep × List Char) :=
  let word := cs.takeWhile isWordChar
  if word.isEmpty then none else some (.key (String.ofList word), cs.dropWhile isWordChar)

/-- The blanks that may stand inside the brackets. -/
def skipGap (cs : List Char) : List Char := cs.dropWhile fun c => c == ' ' || c == '\t'

/-- A position of 64 bits from its digits and its sign. -/
def position? (negative : Bool) (ds : List Char) : Option Int :=
  ((natural? ds).map fun n => if negative then -(n : Int) else n).filter (IsInt64 ·)

/-- The digits of a position, up to the closing bracket. -/
def readDigits? (negative : Bool) (cs : List Char) : Option (ConfigStep × List Char) :=
  match position? negative (cs.takeWhile isDigit), skipGap (cs.dropWhile isDigit) with
  | some position, ']' :: rest => some (.index position, rest)
  | _, _ => none

/-- A position behind the opening bracket. -/
def readPosition? (cs : List Char) : Option (ConfigStep × List Char) :=
  match skipGap cs with
  | '-' :: cs => readDigits? true cs
  | cs => readDigits? false cs

/-- The next step of a path. -/
def readStep? : List Char → Option (ConfigStep × List Char)
  | '.' :: cs => readWord? cs
  | '[' :: cs => readPosition? cs
  | _ => none

theorem length_dropWhile_le (p : Char → Bool) (cs : List Char) :
    (cs.dropWhile p).length ≤ cs.length :=
  (List.dropWhile_suffix p).length_le

theorem length_of_readWord? {cs rest : List Char} {step : ConfigStep}
    (h : readWord? cs = some (step, rest)) : rest.length ≤ cs.length := by
  simp only [readWord?] at h
  split at h
  · exact absurd h (by simp)
  · obtain ⟨_, rfl⟩ := Prod.mk.inj (Option.some.inj h)
    exact length_dropWhile_le _ _

theorem length_of_readDigits? {negative : Bool} {cs rest : List Char} {step : ConfigStep}
    (h : readDigits? negative cs = some (step, rest)) : rest.length ≤ cs.length := by
  simp only [readDigits?] at h
  split at h
  next _ tail _ ht =>
    obtain ⟨_, rfl⟩ := Prod.mk.inj (Option.some.inj h)
    have h₁ : (skipGap (cs.dropWhile isDigit)).length ≤ _ := length_dropWhile_le _ _
    have h₂ := length_dropWhile_le isDigit cs
    rw [ht, List.length_cons] at h₁
    omega
  · exact absurd h (by simp)

theorem length_of_readPosition? {cs rest : List Char} {step : ConfigStep}
    (h : readPosition? cs = some (step, rest)) : rest.length ≤ cs.length := by
  have hgap : (skipGap cs).length ≤ cs.length := length_dropWhile_le _ _
  simp only [readPosition?] at h
  split at h
  next tail ht =>
    have := length_of_readDigits? h
    rw [ht, List.length_cons] at hgap
    omega
  · exact Nat.le_trans (length_of_readDigits? h) hgap

/-- A step takes at least one character. -/
theorem length_of_readStep? {cs rest : List Char} {step : ConfigStep}
    (h : readStep? cs = some (step, rest)) : rest.length < cs.length := by
  simp only [readStep?] at h
  split at h
  · exact Nat.lt_succ_of_le (length_of_readWord? h)
  · exact Nat.lt_succ_of_le (length_of_readPosition? h)
  · exact absurd h (by simp)

/-- The steps that make up a text behind its first word. -/
def readSteps? (cs : List Char) : Option ConfigPath :=
  if cs.isEmpty then some []
  else
    match h : readStep? cs with
    | none => none
    | some (step, rest) =>
        have := length_of_readStep? h
        (readSteps? rest).map (step :: ·)
termination_by cs.length

/-- The path that a key stands for. -/
def ofKey (key : String) : ConfigPath :=
  let path := do
    let (first, rest) ← readWord? key.toList
    some (first :: (← readSteps? rest))
  path.getD [.key key]

end ConfigPath
end DoubleEntry
