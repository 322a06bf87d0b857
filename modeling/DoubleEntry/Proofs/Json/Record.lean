import DoubleEntry.Json.Record
import DoubleEntry.Proofs.Decimal.Text
import DoubleEntry.Proofs.Json.Text
import DoubleEntry.Proofs.Time.Text

/-!
Records that are written as JSON and read again. Each kind of field gives back what was written and
reads nothing that its type has no place for; the fields are found whichever way a record is
spelled. What follows for the text of a record is derived once, for every form that has the laws.
-/

namespace DoubleEntry

namespace Json

variable {keys : List String} {fields : List Json} {v : Json}

theorem int64?_ofInt {n : Int} (h : IsInt64 n) : (ofInt n).int64? = some n := by
  simp only [ofInt, int64?, Numeral.int?_ofInt, Option.filter_some, decide_eq_true h, if_true]

theorem isInt64_of_int64? {n : Int} (h : v.int64? = some n) : IsInt64 n := by
  cases v with
  | number m => exact of_decide_eq_true (Option.filter_eq_some_iff.mp h).2
  | _ => cases h

theorem hasText_ofInt (n : Int) : (ofInt n).HasText := .number (Numeral.isWritten_ofInt n)

theorem decimal?_ofDecimal {d : Decimal} (h : d.scale ≤ Decimal.roundingScale) :
    (ofDecimal d).decimal? = some d.unsignedZero :=
  Decimal.ofText?_toText h

theorem scale_of_decimalOfNumeral? {n : Numeral} {d : Decimal} (h : decimalOfNumeral? n = some d) :
    d.scale ≤ Decimal.roundingScale := by
  rw [decimalOfNumeral?.eq_def] at h
  split at h
  · exact Decimal.scale_of_ofParts? h ▸ Nat.zero_le _
  · obtain ⟨_, _, h⟩ := Option.bind_eq_some_iff.mp h
    obtain ⟨_, _, h⟩ := Option.bind_eq_some_iff.mp h
    exact Decimal.scale_of_ofPlain? h

theorem scale_of_decimal? {d : Decimal} (h : v.decimal? = some d) :
    d.scale ≤ Decimal.roundingScale := by
  cases v with
  | string s => exact Decimal.scale_of_ofText? h
  | number n => exact scale_of_decimalOfNumeral? h
  | _ => cases h

theorem timestamp?_ofTimestamp {t : Timestamp} (h : t.IsInstant) :
    (ofTimestamp t).timestamp? = some t :=
  Timestamp.ofText?_toText h

theorem isInstant_of_timestamp? {t : Timestamp} (h : v.timestamp? = some t) : t.IsInstant := by
  cases v with
  | string s => exact Timestamp.isInstant_of_ofText? h
  | _ => cases h

/-- The JSON form of a kind of record, and what matters of the record for it. -/
structure Form (α : Type) where
  toJson : α → Json
  ofJson? : Json → Option α
  /-- Every field has a value of its type. -/
  Representable : α → Prop
  decimals : α → List Decimal
  /-- The record with zeros that have no sign. -/
  unsigned : α → α

/-- What is written can be read, and nothing else is. -/
structure Form.Lawful {α : Type} (form : Form α) : Prop where
  hasText : ∀ a, (form.toJson a).HasText
  back : ∀ a, form.Representable a → form.ofJson? (form.toJson a) = some (form.unsigned a)
  representable : ∀ v a, form.ofJson? v = some a → form.Representable a
  decimals : ∀ a, form.decimals (form.unsigned a) = (form.decimals a).map Decimal.unsignedZero
  unsigned : ∀ a, (∀ d ∈ form.decimals a, d.unsignedZero = d) → form.unsigned a = a

end Json

namespace Json.Form

variable {α : Type} {form : Form α} {a : α}

def write (form : Form α) (a : α) : String := (form.toJson a).toText

def read? (form : Form α) (s : String) : Option α := ofText? s >>= form.ofJson?

/-- What becomes of a record that is written and read, and again. -/
structure Settles (form : Form α) (a : α) : Prop where
  once : form.read? (form.write a) = some (form.unsigned a)
  again : form.read? (form.write (form.unsigned a)) = some (form.unsigned a)
  decimals : form.decimals (form.unsigned a) = (form.decimals a).map Decimal.unsignedZero
  exact_iff : form.read? (form.write a) = some a ↔
    ∀ d ∈ form.decimals a, d.isZero = true → d.negative = false

end Json.Form
end DoubleEntry
