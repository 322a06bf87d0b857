import DoubleEntry.Json.Reader
import DoubleEntry.Json.Writer
import DoubleEntry.Proofs.Text.Digits

/-!
JSON values that are written and read again. Whatever stands in a string, it is read as it was; a
value that the format can express is read as it was written, up to the last digit of its numbers.
-/

namespace DoubleEntry

open Text

/-- A numeral as the grammar has it: no needless zeros before the point, and digits wherever there
is a mark before them. -/
structure Numeral.IsWritten (n : Numeral) : Prop where
  whole : ∀ c ∈ n.whole, isDigit c = true
  some_ : n.whole ≠ []
  noZeros : n.whole = ['0'] ∨ n.whole.head? ≠ some '0'
  fraction : ∀ ds ∈ n.fraction, ds ≠ [] ∧ ∀ c ∈ ds, isDigit c = true
  exponent : ∀ e ∈ n.exponent, e.2 ≠ [] ∧ ∀ c ∈ e.2, isDigit c = true

namespace Json

/-- A value that the format can express. -/
inductive HasText : Json → Prop
  | null : HasText .null
  | bool (b : Bool) : HasText (.bool b)
  | number {n : Numeral} (written : n.IsWritten) : HasText (.number n)
  | string (s : String) : HasText (.string s)
  | array {items : List Json} (all : ∀ v ∈ items, HasText v) : HasText (.array items)
  | object {members : List (String × Json)} (all : ∀ m ∈ members, HasText m.2) :
      HasText (.object members)

namespace Reader

variable {c : Char} {cs rest : List Char} {fuel : Nat}

/-- The piece of a string that a character is written as. -/
def pieceOf (c : Char) : Piece :=
  if c = '"' ∨ c = '\\' ∨ c = '\n' ∨ c = '\r' ∨ c = '\t' ∨ c = '\x08' ∨ c = '\x0c' then .char c
  else if c.toNat < 32 then .unit c.toNat
  else .char c

theorem hexValue?_hexDigit {n : Nat} (h : n < 16) : hexValue? (hexDigit n) = some n := by
  revert n
  decide

theorem escaped?_number (h : c.toNat < 65536) :
    escaped? ((escapeNumber c).drop 1 ++ rest) = some (.unit c.toNat, rest) := by
  have parts : ((c.toNat / 4096 % 16 * 16 + c.toNat / 256 % 16) * 16 + c.toNat / 16 % 16) * 16 +
      c.toNat % 16 = c.toNat := by omega
  simp only [escapeNumber, List.drop_succ_cons, List.drop_zero, List.cons_append, List.nil_append,
    escaped?]
  rw [hexValue?_hexDigit (Nat.mod_lt _ (by decide)), hexValue?_hexDigit (Nat.mod_lt _ (by decide)),
    hexValue?_hexDigit (Nat.mod_lt _ (by decide)), hexValue?_hexDigit (Nat.mod_lt _ (by decide))]
  exact congrArg (fun n => some (Piece.unit n, rest)) parts

theorem pieces?_escaped {body : List Char} {piece : Piece}
    (h : escaped? (body ++ cs) = some (piece, cs)) (fuel : Nat) :
    pieces? (fuel + 1) ('\\' :: body ++ cs) =
      (pieces? fuel cs).map fun p => (piece :: p.1, p.2) := by
  have other : '\\' ≠ '"' := by decide
  simp only [pieces?, List.cons_append, if_neg other, if_true, h]
  change (pieces? fuel cs >>= fun p => some (piece :: p.1, p.2)) = _
  cases pieces? fuel cs <;> rfl

theorem pieces?_raw (quote : c ≠ '"') (backslash : c ≠ '\\') (visible : ¬ c.toNat < 32)
    (fuel : Nat) :
    pieces? (fuel + 1) (c :: cs) = (pieces? fuel cs).map fun p => (.char c :: p.1, p.2) := by
  simp only [pieces?, if_neg quote, if_neg backslash, if_neg visible]
  cases pieces? fuel cs <;> rfl

/-- A character is one piece, however it is written. -/
theorem pieces?_escape_cons (c : Char) (cs : List Char) (fuel : Nat) :
    pieces? (fuel + 1) (escape c ++ cs) =
      (pieces? fuel cs).map fun p => (pieceOf c :: p.1, p.2) := by
  by_cases short : c = '"' ∨ c = '\\' ∨ c = '\n' ∨ c = '\r' ∨ c = '\t' ∨ c = '\x08' ∨ c = '\x0c'
  · rw [pieceOf, if_pos short]
    rcases short with rfl | rfl | rfl | rfl | rfl | rfl | rfl <;> exact pieces?_escaped rfl fuel
  · rw [pieceOf, if_neg short]
    simp only [not_or] at short
    obtain ⟨quote, backslash, newline, return_, tab, backspace, feed⟩ := short
    simp only [escape, if_neg quote, if_neg backslash, if_neg newline, if_neg return_, if_neg tab,
      if_neg backspace, if_neg feed]
    split
    · rename_i control
      exact pieces?_escaped (escaped?_number (Nat.lt_trans control (by decide))) fuel
    · rename_i visible
      exact pieces?_raw quote backslash visible fuel

theorem escape_ne_nil (c : Char) : escape c ≠ [] := by
  simp only [escape, escapeNumber]
  repeat' split
  all_goals exact List.cons_ne_nil _ _

/-- A string up to its closing quote. -/
theorem pieces?_flatMap_escape (h : (cs.flatMap escape).length < fuel) :
    pieces? fuel (cs.flatMap escape ++ '"' :: rest) = some (cs.map pieceOf, rest) := by
  obtain ⟨fuel, rfl⟩ : ∃ n, fuel = n + 1 := ⟨fuel - 1, by omega⟩
  induction cs generalizing fuel with
  | nil => rfl
  | cons c cs ih =>
      have some_ := List.length_pos_iff.mpr (escape_ne_nil c)
      rw [List.flatMap_cons, List.length_append] at h
      obtain ⟨less, rfl⟩ : ∃ n, fuel = n + 1 := ⟨fuel - 1, by omega⟩
      rw [List.flatMap_cons, List.append_assoc, pieces?_escape_cons, ih less (by omega)]
      rfl

theorem assemble?_unit {n : Nat} {ps : List Piece} (h : n < 0xD800 ∨ 0xE000 ≤ n) :
    assemble? (.unit n :: ps) = (assemble? ps).map (Char.ofNat n :: ·) := by
  have high : isHighSurrogate n = false := by
    simp only [isHighSurrogate, Bool.and_eq_false_iff, decide_eq_false_iff_not]
    omega
  have low : isLowSurrogate n = false := by
    simp only [isLowSurrogate, Bool.and_eq_false_iff, decide_eq_false_iff_not]
    omega
  rw [assemble?.eq_def]
  simp only [high, low, Bool.false_eq_true, if_false]

/-- Escaped or not, the characters are put together again. -/
theorem assemble?_map_pieceOf (cs : List Char) : assemble? (cs.map pieceOf) = some cs := by
  induction cs with
  | nil => rfl
  | cons c cs ih =>
      rw [List.map_cons, pieceOf]
      split
      · simp only [assemble?, ih, Option.map_some]
      · split
        · rename_i control
          rw [assemble?_unit (.inl (Nat.lt_trans control (by decide))), ih, Option.map_some,
            Char.ofNat_toNat]
        · simp only [assemble?, ih, Option.map_some]

/-- What a numeral could go on with. -/
def goesOn (c : Char) : Bool := isDigit c || c == '.' || c == 'e' || c == 'E'

theorem stops_digits (h : Stops goesOn rest) : Stops isDigit rest := by
  intro c hc
  have no := h c hc
  simp only [goesOn, Bool.or_eq_false_iff] at no
  exact no.1.1.1

def fractionPart : Option (List Char) → List Char
  | none => []
  | some ds => '.' :: ds

def exponentPart : Option (Bool × List Char) → List Char
  | none => []
  | some (negative, ds) => if negative then 'e' :: '-' :: ds else 'e' :: ds

theorem numeralChars_eq (n : Numeral) :
    numeralChars n ++ rest = (if n.negative then ['-'] else []) ++ (n.whole ++
      (fractionPart n.fraction ++ (exponentPart n.exponent ++ rest))) := by
  obtain ⟨negative, whole, fraction, exponent⟩ := n
  simp only [numeralChars, List.append_assoc]
  cases fraction <;> cases exponent <;> rfl

theorem whole?_run {n : Numeral} (h : n.IsWritten) (stops : Stops isDigit rest) :
    whole? (n.whole ++ rest) = some (n.whole, rest) := by
  rcases h.noZeros with zero | first
  · rw [zero]
    rfl
  · have run : (n.whole ++ rest).takeWhile isDigit = n.whole := takeWhile_run h.whole stops
    have left : (n.whole ++ rest).dropWhile isDigit = rest := dropWhile_run h.whole stops
    have some_ : n.whole.isEmpty = false := List.isEmpty_eq_false_iff.mpr h.some_
    rw [whole?.eq_def]
    split
    · rename_i same
      obtain ⟨c, cs, shape⟩ := List.exists_cons_of_ne_nil h.some_
      rw [shape] at same first
      cases same
      exact absurd rfl first
    · simp only [run, left, some_, Bool.false_eq_true, if_false]

theorem fraction?_run {n : Numeral} (h : n.IsWritten) (stops : Stops isDigit rest)
    (noPoint : Stops (· == '.') rest) :
    fraction? (fractionPart n.fraction ++ rest) = some (n.fraction, rest) := by
  cases written : n.fraction with
  | none =>
      change fraction? rest = _
      rw [fraction?.eq_def]
      split
      · cases noPoint '.' rfl
      · rfl
  | some ds =>
      obtain ⟨some_, digits⟩ := h.fraction ds written
      have run : (ds ++ rest).takeWhile isDigit = ds := takeWhile_run digits stops
      have left : (ds ++ rest).dropWhile isDigit = rest := dropWhile_run digits stops
      change fraction? ('.' :: (ds ++ rest)) = _
      simp only [fraction?, run, left, List.isEmpty_eq_false_iff.mpr some_, Bool.false_eq_true,
        if_false]

theorem exponentDigits?_run {ds : List Char} (negative : Bool) (some_ : ds ≠ [])
    (digits : ∀ c ∈ ds, isDigit c = true) (stops : Stops isDigit rest) :
    exponentDigits? negative (ds ++ rest) = some (some (negative, ds), rest) := by
  have run : (ds ++ rest).takeWhile isDigit = ds := takeWhile_run digits stops
  have left : (ds ++ rest).dropWhile isDigit = rest := dropWhile_run digits stops
  simp only [exponentDigits?, run, left, List.isEmpty_eq_false_iff.mpr some_, Bool.false_eq_true,
    if_false]

theorem exponent?_run {n : Numeral} (h : n.IsWritten) (stops : Stops goesOn rest) :
    exponent? (exponentPart n.exponent ++ rest) = some (n.exponent, rest) := by
  cases written : n.exponent with
  | none =>
      change exponent? rest = _
      cases rest with
      | nil => rfl
      | cons c rest =>
          have no := stops c rfl
          simp only [goesOn, Bool.or_eq_false_iff, beq_eq_false_iff_ne] at no
          simp only [exponent?, no.1.2, no.2, decide_false, Bool.or_self, Bool.false_eq_true,
            if_false]
  | some e =>
      obtain ⟨negative, ds⟩ := e
      obtain ⟨some_, digits⟩ : ds ≠ [] ∧ ∀ c ∈ ds, isDigit c = true := h.exponent _ written
      have read := exponentDigits?_run negative some_ digits (stops_digits stops)
      cases negative with
      | true =>
          change exponent? ('e' :: '-' :: (ds ++ rest)) = _
          exact read
      | false =>
          change exponent? ('e' :: (ds ++ rest)) = _
          obtain ⟨c, cs, shape⟩ := List.exists_cons_of_ne_nil some_
          have digit : isDigit c = true := digits c (shape ▸ List.mem_cons_self)
          rw [shape] at read ⊢
          simp only [exponent?, List.cons_append, decide_true, Bool.true_or, if_true]
          split
          · rename_i same
            cases same
            cases digit
          · rename_i same
            cases same
            cases digit
          · exact read

theorem stops_exponentPart {p : Char → Bool} (mark : p 'e' = false) (stops : Stops p rest)
    (e : Option (Bool × List Char)) : Stops p (exponentPart e ++ rest) := by
  cases e with
  | none => exact stops
  | some e =>
      obtain ⟨negative, ds⟩ := e
      cases negative <;> exact stops_cons mark

theorem stops_fractionPart {p : Char → Bool} (mark : p '.' = false) (stops : Stops p rest)
    (f : Option (List Char)) : Stops p (fractionPart f ++ rest) := by
  cases f with
  | none => exact stops
  | some ds => exact stops_cons mark

/-- A numeral is read up to its last digit. -/
theorem numeral?_numeralChars {n : Numeral} (h : n.IsWritten) (stops : Stops goesOn rest) :
    numeral? (numeralChars n ++ rest) = some (n, rest) := by
  have noPoint : Stops (· == '.') rest := by
    intro c hc
    have no := stops c hc
    simp only [goesOn, Bool.or_eq_false_iff] at no
    exact no.1.1.2
  have noDigit := stops_exponentPart rfl (stops_digits stops) n.exponent
  have exponent := exponent?_run h stops
  have fraction := fraction?_run h noDigit (stops_exponentPart rfl noPoint n.exponent)
  have whole := whole?_run h (stops_fractionPart rfl noDigit n.fraction)
  have read (negative : Bool) :
      ((whole? (n.whole ++ (fractionPart n.fraction ++ (exponentPart n.exponent ++ rest)))).bind
        fun w => (fraction? w.2).bind fun f => (exponent? f.2).bind fun e =>
          some (⟨negative, w.1, f.1, e.1⟩, e.2)) =
      some ((⟨negative, n.whole, n.fraction, n.exponent⟩ : Numeral), rest) := by
    rw [whole, Option.bind_some, fraction, Option.bind_some, exponent, Option.bind_some]
  rw [numeralChars_eq]
  have sign : n.negative = true ∨ n.negative = false := Bool.eq_false_or_eq_true _
  rcases sign with negative | positive
  · rw [negative, if_pos rfl]
    exact (read true).trans (by rw [← negative])
  · obtain ⟨c, cs, first⟩ := List.exists_cons_of_ne_nil h.some_
    have digit : isDigit c = true := h.whole c (first ▸ List.mem_cons_self)
    rw [positive, if_neg Bool.false_ne_true, List.nil_append]
    simp only [numeral?]
    split
    · rename_i same
      rw [first] at same
      cases same
      cases digit
    · exact (read false).trans (by rw [← positive])

theorem exists_numeralChars {n : Numeral} (h : n.IsWritten) :
    ∃ c cs, numeralChars n = c :: cs ∧ (c = '-' ∨ isDigit c = true) := by
  obtain ⟨c, cs, first⟩ := List.exists_cons_of_ne_nil h.some_
  have shape : numeralChars n ++ [] = _ := numeralChars_eq n
  rw [List.append_nil, first] at shape
  cases sign : n.negative with
  | true =>
      rw [sign] at shape
      exact ⟨'-', _, shape, .inl rfl⟩
  | false =>
      rw [sign] at shape
      exact ⟨c, _, shape, .inr (h.whole c (first ▸ List.mem_cons_self))⟩

/-- Blanks never begin a value, and neither does a bracket that closes. -/
theorem exists_toChars {v : Json} (h : v.HasText) :
    ∃ c cs, v.toChars = c :: cs ∧ isBlank c = false ∧ c ≠ ']' := by
  cases h with
  | null => exact ⟨'n', _, rfl, by decide⟩
  | bool b => cases b <;> exact ⟨_, _, rfl, by decide⟩
  | number written =>
      obtain ⟨c, cs, shape, first⟩ := exists_numeralChars written
      refine ⟨c, cs, shape, ?_⟩
      rcases first with rfl | digit
      · decide
      · have visible : ∀ d < 10, isBlank (digitChar d) = false ∧ digitChar d ≠ ']' := by decide
        exact digitChar_digitValue digit ▸ visible _ (digitValue_lt digit)
  | string s => exact ⟨'"', _, rfl, by decide⟩
  | array all => exact ⟨'[', _, rfl, by decide⟩
  | object all => exact ⟨'{', _, rfl, by decide⟩

theorem skipBlanks_toChars {v : Json} (h : v.HasText) (rest : List Char) :
    skipBlanks (v.toChars ++ rest) = v.toChars ++ rest := by
  obtain ⟨c, cs, shape, visible, _⟩ := exists_toChars h
  rw [shape]
  exact List.dropWhile_cons_of_neg (by simp [visible])

/-- A value is read again from its text, whatever follows that does not go on with it. -/
def Reads (v : Json) : Prop :=
  ∀ fuel rest, Stops goesOn rest → v.toChars.length < fuel →
    value? fuel (v.toChars ++ rest) = some (v, rest)

theorem reads_number {n : Numeral} (h : n.IsWritten) : Reads (.number n) := by
  intro fuel rest stops enough
  obtain ⟨fuel, rfl⟩ : ∃ k, fuel = k + 1 := ⟨fuel - 1, by omega⟩
  obtain ⟨c, cs, shape, first⟩ := exists_numeralChars h
  have skip := skipBlanks_toChars (.number h) rest
  have read := numeral?_numeralChars h stops
  simp only [toChars] at skip ⊢
  rw [value?, skip]
  -- No other value begins with a sign or a digit.
  split
  case h_7 =>
    rw [read]
    rfl
  all_goals
    rename_i same
    rw [shape] at same
    cases same
    exact absurd first (by decide)

theorem reads_string (s : String) : Reads (.string s) := by
  intro fuel rest _ enough
  obtain ⟨fuel, rfl⟩ : ∃ k, fuel = k + 1 := ⟨fuel - 1, by omega⟩
  simp only [toChars, quoted, List.length_append, List.length_cons] at enough
  have shape : (string s).toChars ++ rest = '"' :: (s.toList.flatMap escape ++ '"' :: rest) := by
    simp only [toChars, quoted, List.cons_append, List.append_assoc, List.nil_append]
  have pieces : pieces? fuel (s.toList.flatMap escape ++ '"' :: rest) =
      some (s.toList.map pieceOf, rest) := pieces?_flatMap_escape (by omega)
  rw [shape, value?]
  change (pieces? fuel (s.toList.flatMap escape ++ '"' :: rest)).map _ = _
  rw [pieces]
  simp only [Option.map_some, ofPieces, assemble?_map_pieceOf, String.ofList_toList]

theorem skipBlanks_visible (visible : isBlank c = false) : skipBlanks (c :: cs) = c :: cs :=
  List.dropWhile_cons_of_neg (by simp [visible])

/-- Items up to the closing bracket. -/
theorem items?_itemChars {items : List Json} (some_ : items ≠ [])
    (reads : ∀ v ∈ items, Reads v) (enough : (itemChars items).length + 1 < fuel) :
    items? fuel (itemChars items ++ ']' :: rest) = some (items, rest) := by
  induction items generalizing fuel with
  | nil => exact absurd rfl some_
  | cons v vs ih =>
      obtain ⟨fuel, rfl⟩ : ∃ k, fuel = k + 1 := ⟨fuel - 1, by omega⟩
      have first := reads v List.mem_cons_self
      cases vs with
      | nil =>
          simp only [itemChars] at enough ⊢
          have read := first fuel (']' :: rest) (stops_cons rfl) (by omega)
          rw [items?]
          refine Option.bind_eq_some_iff.mpr ⟨_, read, ?_⟩
          simp only [skipBlanks_visible (show isBlank ']' = false by decide)]
      | cons w ws =>
          have shape : itemChars (v :: w :: ws) ++ ']' :: rest =
              v.toChars ++ ',' :: (itemChars (w :: ws) ++ ']' :: rest) := by
            simp only [itemChars, List.append_assoc, List.cons_append]
          have longer : v.toChars.length + ((itemChars (w :: ws)).length + 1) + 1 < fuel + 1 := by
            simpa only [itemChars, List.length_append, List.length_cons] using enough
          have read := first fuel (',' :: (itemChars (w :: ws) ++ ']' :: rest)) (stops_cons rfl)
            (by omega)
          have others := ih (List.cons_ne_nil w ws)
            (fun u hu => reads u (List.mem_cons_of_mem v hu))
            (show (itemChars (w :: ws)).length + 1 < fuel by omega)
          rw [shape, items?]
          refine Option.bind_eq_some_iff.mpr ⟨_, read, ?_⟩
          simp only [skipBlanks_visible (show isBlank ',' = false by decide)]
          exact Option.bind_eq_some_iff.mpr ⟨_, others, rfl⟩

theorem quoted_append (k : String) (rest : List Char) :
    quoted k ++ rest = '"' :: (k.toList.flatMap escape ++ '"' :: rest) := by
  simp only [quoted, List.cons_append, List.append_assoc, List.nil_append]

/-- The members that are written, with the keys that they are read with. -/
def keyed (members : List (String × Json)) : List (Option String × Json) :=
  members.map fun m => (some m.1, m.2)

/-- The key and the value of a member. -/
theorem member_read {k : String} {v : Json} (reads : Reads v) (stops : Stops goesOn rest)
    (enough : (quoted k).length + v.toChars.length < fuel) :
    pieces? fuel (k.toList.flatMap escape ++ '"' :: ':' :: (v.toChars ++ rest)) =
        some (k.toList.map pieceOf, ':' :: (v.toChars ++ rest)) ∧
      value? fuel (v.toChars ++ rest) = some (v, rest) ∧
      (assemble? (k.toList.map pieceOf)).map String.ofList = some k := by
  have length : (k.toList.flatMap escape).length + 2 = (quoted k).length := by
    simp only [quoted, List.length_append, List.length_cons, List.length_nil]
  refine ⟨pieces?_flatMap_escape (by omega), reads fuel rest stops (by omega), ?_⟩
  rw [assemble?_map_pieceOf, Option.map_some, String.ofList_toList]

theorem members?_last {k : String} {v : Json} (reads : Reads v)
    (enough : (quoted k).length + v.toChars.length < fuel) :
    members? (fuel + 1) (quoted k ++ ':' :: (v.toChars ++ '}' :: rest)) =
      some ([(some k, v)], rest) := by
  have stops : Stops goesOn ('}' :: rest) := stops_cons rfl
  obtain ⟨key, value, text⟩ := member_read reads stops enough
  rw [quoted_append, members?, skipBlanks_visible (show isBlank '"' = false by decide)]
  refine Option.bind_eq_some_iff.mpr ⟨_, key, ?_⟩
  simp only [skipBlanks_visible (show isBlank ':' = false by decide)]
  refine Option.bind_eq_some_iff.mpr ⟨_, value, ?_⟩
  simp only [skipBlanks_visible (show isBlank '}' = false by decide), text]

theorem members?_more {k : String} {v : Json} {ms : List (Option String × Json)}
    {others : List Char} (reads : Reads v) (enough : (quoted k).length + v.toChars.length < fuel)
    (more : members? fuel others = some (ms, rest)) :
    members? (fuel + 1) (quoted k ++ ':' :: (v.toChars ++ ',' :: others)) =
      some ((some k, v) :: ms, rest) := by
  have stops : Stops goesOn (',' :: others) := stops_cons rfl
  obtain ⟨key, value, text⟩ := member_read reads stops enough
  rw [quoted_append, members?, skipBlanks_visible (show isBlank '"' = false by decide)]
  refine Option.bind_eq_some_iff.mpr ⟨_, key, ?_⟩
  simp only [skipBlanks_visible (show isBlank ':' = false by decide)]
  refine Option.bind_eq_some_iff.mpr ⟨_, value, ?_⟩
  simp only [skipBlanks_visible (show isBlank ',' = false by decide), text]
  exact Option.bind_eq_some_iff.mpr ⟨_, more, rfl⟩

/-- Members up to the closing brace. -/
theorem members?_memberChars {members : List (String × Json)} (some_ : members ≠ [])
    (reads : ∀ m ∈ members, Reads m.2) (enough : (memberChars members).length + 1 < fuel) :
    members? fuel (memberChars members ++ '}' :: rest) = some (keyed members, rest) := by
  induction members generalizing fuel with
  | nil => exact absurd rfl some_
  | cons m ms ih =>
      obtain ⟨k, v⟩ := m
      obtain ⟨fuel, rfl⟩ : ∃ n, fuel = n + 1 := ⟨fuel - 1, by omega⟩
      have first : Reads v := reads (k, v) List.mem_cons_self
      cases ms with
      | nil =>
          have shape : memberChars [(k, v)] ++ '}' :: rest =
              quoted k ++ ':' :: (v.toChars ++ '}' :: rest) := by
            simp only [memberChars, List.append_assoc, List.cons_append]
          have longer : (quoted k).length + (v.toChars.length + 1) + 1 < fuel + 1 := by
            simpa only [memberChars, List.length_append, List.length_cons] using enough
          rw [shape]
          exact members?_last first (by omega)
      | cons w ws =>
          have shape : memberChars ((k, v) :: w :: ws) ++ '}' :: rest =
              quoted k ++ ':' :: (v.toChars ++ ',' :: (memberChars (w :: ws) ++ '}' :: rest)) := by
            simp only [memberChars, List.append_assoc, List.cons_append]
          have longer : (quoted k).length + (v.toChars.length + 1) +
              ((memberChars (w :: ws)).length + 1) + 1 < fuel + 1 := by
            simpa only [memberChars, List.length_append, List.length_cons] using enough
          have others := ih (List.cons_ne_nil w ws)
            (fun u hu => reads u (List.mem_cons_of_mem _ hu))
            (show (memberChars (w :: ws)).length + 1 < fuel by omega)
          rw [shape]
          exact members?_more first (by omega) others

theorem mapM_keyed (members : List (String × Json)) :
    (keyed members).mapM (fun m => m.1.map (·, m.2)) = some members := by
  induction members with
  | nil => rfl
  | cons m ms ih =>
      rw [keyed, List.map_cons, List.mapM_cons]
      exact Option.bind_eq_some_iff.mpr ⟨m, rfl, Option.bind_eq_some_iff.mpr ⟨ms, ih, rfl⟩⟩

theorem ofMembers_keyed (members : List (String × Json)) :
    ofMembers (keyed members) = .object members := by
  rw [ofMembers]
  split
  · rename_i ms read
    cases read.symm.trans (mapM_keyed members)
    rfl
  · rename_i read
    cases read.symm.trans (mapM_keyed members)

theorem reads_null : Reads .null := by
  intro fuel rest _ enough
  obtain ⟨fuel, rfl⟩ : ∃ k, fuel = k + 1 := ⟨fuel - 1, by omega⟩
  rfl

theorem reads_bool (b : Bool) : Reads (.bool b) := by
  intro fuel rest _ enough
  obtain ⟨fuel, rfl⟩ : ∃ k, fuel = k + 1 := ⟨fuel - 1, by omega⟩
  cases b <;> rfl

theorem exists_itemChars {items : List Json} (some_ : items ≠ []) (texts : ∀ v ∈ items, v.HasText) :
    ∃ c cs, itemChars items = c :: cs ∧ isBlank c = false ∧ c ≠ ']' := by
  match items, some_ with
  | [v], _ => exact exists_toChars (texts v List.mem_cons_self)
  | v :: w :: ws, _ =>
      obtain ⟨c, cs, shape, visible⟩ := exists_toChars (texts v List.mem_cons_self)
      refine ⟨c, cs ++ ',' :: itemChars (w :: ws), ?_, visible⟩
      simp only [itemChars, shape, List.cons_append]

theorem reads_array {items : List Json} (texts : ∀ v ∈ items, v.HasText)
    (reads : ∀ v ∈ items, Reads v) : Reads (.array items) := by
  intro fuel rest _ enough
  obtain ⟨fuel, rfl⟩ : ∃ k, fuel = k + 1 := ⟨fuel - 1, by omega⟩
  have shape : (array items).toChars ++ rest = '[' :: (itemChars items ++ ']' :: rest) := by
    simp only [toChars, List.cons_append, List.append_assoc, List.nil_append]
  rw [shape, value?]
  by_cases none_ : items = []
  · rw [none_]
    rfl
  · have longer : (itemChars items).length + 1 < fuel := by
      simp only [toChars, List.length_append, List.length_cons, List.length_nil] at enough
      omega
    have read : items? fuel (itemChars items ++ ']' :: rest) = some (items, rest) :=
      items?_itemChars none_ reads longer
    obtain ⟨c, cs, first, visible, open_⟩ := exists_itemChars none_ texts
    rw [first, List.cons_append] at read ⊢
    simp only [skipBlanks_visible (show isBlank '[' = false by decide), skipBlanks_visible visible]
    split
    · rename_i same
      cases same
      exact absurd rfl open_
    · rw [read]
      rfl

theorem exists_memberChars {members : List (String × Json)} (some_ : members ≠ []) :
    ∃ cs, memberChars members = '"' :: cs := by
  match members, some_ with
  | [(k, v)], _ => exact ⟨_, rfl⟩
  | (k, v) :: m :: ms, _ => exact ⟨_, rfl⟩

theorem reads_object {members : List (String × Json)} (reads : ∀ m ∈ members, Reads m.2) :
    Reads (.object members) := by
  intro fuel rest _ enough
  obtain ⟨fuel, rfl⟩ : ∃ k, fuel = k + 1 := ⟨fuel - 1, by omega⟩
  have shape : (object members).toChars ++ rest = '{' :: (memberChars members ++ '}' :: rest) := by
    simp only [toChars, List.cons_append, List.append_assoc, List.nil_append]
  rw [shape, value?]
  by_cases none_ : members = []
  · rw [none_]
    rfl
  · have longer : (memberChars members).length + 1 < fuel := by
      simp only [toChars, List.length_append, List.length_cons, List.length_nil] at enough
      omega
    have read : members? fuel (memberChars members ++ '}' :: rest) = some (keyed members, rest) :=
      members?_memberChars none_ reads longer
    obtain ⟨cs, first⟩ := exists_memberChars none_
    rw [first, List.cons_append] at read ⊢
    simp only [skipBlanks_visible (show isBlank '{' = false by decide),
      skipBlanks_visible (show isBlank '"' = false by decide)]
    change (members? fuel ('"' :: (cs ++ '}' :: rest))).map _ = _
    rw [read, Option.map_some, ofMembers_keyed]

/-- Every value that the format can express is read again. -/
theorem reads_of_hasText {v : Json} (h : v.HasText) : Reads v := by
  induction h with
  | null => exact reads_null
  | bool b => exact reads_bool b
  | number written => exact reads_number written
  | string s => exact reads_string s
  | array texts reads => exact reads_array texts reads
  | object _ reads => exact reads_object reads

end Reader

/-- A value is read from its text as it was, the spelling of its numbers included. -/
theorem ofText?_toText {v : Json} (h : v.HasText) : ofText? v.toText = some v := by
  have read : Reader.value? (v.toChars.length + 1) (v.toChars ++ []) = some (v, []) :=
    Reader.reads_of_hasText h _ [] Text.stops_nil (Nat.lt_succ_self _)
  rw [List.append_nil] at read
  rw [ofText?, toText, String.toList_ofList, ofChars?]
  exact Option.bind_eq_some_iff.mpr ⟨_, read, rfl⟩

end Json

/-- Integers are written without needless zeros. -/
theorem Numeral.isWritten_ofInt (n : Int) : (Numeral.ofInt n).IsWritten where
  whole := isDigit_of_mem_digits
  some_ := digits_ne_nil _
  noZeros := by
    by_cases zero : n.natAbs = 0
    · rw [ofInt, zero, digits]
      exact .inl rfl
    · exact .inr (head?_digits (Nat.pos_of_ne_zero zero))
  fraction := nofun
  exponent := nofun

end DoubleEntry
