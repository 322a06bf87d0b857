import DoubleEntry.Ledger.Json
import DoubleEntry.Proofs.Json.Record

/-!
The forms of the ledger's records have the laws of a form: every field comes back as it was, with
each digit of its decimals, except that a zero comes back without its sign; and what is read has
values that fit their types.
-/

namespace DoubleEntry

open Json

namespace Currency

def form : Form Currency where
  toJson := toJson
  ofJson? := ofJson?
  Representable _ := True
  decimals _ := []
  unsigned c := c

theorem lawful_form : form.Lawful where
  hasText c := .string c.code
  back c _ := ofCode?_code c
  representable _ _ _ := trivial
  decimals _ := rfl
  unsigned _ _ := rfl

end Currency

namespace Page

structure Representable (p : Page) : Prop where
  pageId : IsInt64 p.pageId
  pageSize : IsInt64 p.pageSize

def form : Form Page where
  toJson := toJson
  ofJson? := ofJson?
  Representable := Representable
  decimals _ := []
  unsigned p := p

theorem lawful_form : form.Lawful where
  hasText p := by
    refine .object ?_
    simp only [List.forall_mem_cons]
    exact ⟨hasText_ofInt _, hasText_ofInt _, nofun⟩
  back p h := by
    -- Among the keys that were written every field is found by computation.
    refine Option.bind_eq_some_iff.mpr ⟨_, int64?_ofInt h.pageId, ?_⟩
    exact Option.bind_eq_some_iff.mpr ⟨_, int64?_ofInt h.pageSize, rfl⟩
  representable v p h := by
    obtain ⟨fields, _, h⟩ := Option.bind_eq_some_iff.mp h
    split at h
    · obtain ⟨_, pageId, h⟩ := Option.bind_eq_some_iff.mp h
      obtain ⟨_, pageSize, h⟩ := Option.bind_eq_some_iff.mp h
      cases h
      exact ⟨isInt64_of_int64? pageId, isInt64_of_int64? pageSize⟩
    · cases h
  decimals _ := rfl
  unsigned _ _ := rfl

end Page

namespace Account

structure Representable (a : Account) : Prop where
  id : IsInt64 a.id
  balance : a.balance.scale ≤ Decimal.roundingScale
  createdAt : a.createdAt.IsInstant

def form : Form Account where
  toJson := toJson
  ofJson? := ofJson?
  Representable := Representable
  decimals a := [a.balance]
  unsigned a := { a with balance := a.balance.unsignedZero }

theorem lawful_form : form.Lawful where
  hasText a := by
    refine .object ?_
    simp only [List.forall_mem_cons]
    exact ⟨hasText_ofInt _, .string _, .string _, .string _, .string _, nofun⟩
  back a h := by
    refine Option.bind_eq_some_iff.mpr ⟨_, int64?_ofInt h.id, ?_⟩
    refine Option.bind_eq_some_iff.mpr ⟨a.owner, rfl, ?_⟩
    refine Option.bind_eq_some_iff.mpr ⟨_, decimal?_ofDecimal h.balance, ?_⟩
    refine Option.bind_eq_some_iff.mpr ⟨a.currency, rfl, ?_⟩
    exact Option.bind_eq_some_iff.mpr ⟨_, timestamp?_ofTimestamp h.createdAt, rfl⟩
  representable v a h := by
    obtain ⟨fields, _, h⟩ := Option.bind_eq_some_iff.mp h
    split at h
    · obtain ⟨_, id, h⟩ := Option.bind_eq_some_iff.mp h
      obtain ⟨_, _, h⟩ := Option.bind_eq_some_iff.mp h
      obtain ⟨_, balance, h⟩ := Option.bind_eq_some_iff.mp h
      obtain ⟨_, _, h⟩ := Option.bind_eq_some_iff.mp h
      obtain ⟨_, createdAt, h⟩ := Option.bind_eq_some_iff.mp h
      cases h
      exact ⟨isInt64_of_int64? id, scale_of_decimal? balance, isInstant_of_timestamp? createdAt⟩
    · cases h
  decimals _ := rfl
  unsigned a h := congrArg (fun d => { a with balance := d }) (h _ List.mem_cons_self)

end Account

namespace Entry

structure Representable (e : Entry) : Prop where
  id : IsInt64 e.id
  accountId : IsInt64 e.accountId
  amount : e.amount.scale ≤ Decimal.roundingScale
  createdAt : e.createdAt.IsInstant

def form : Form Entry where
  toJson := toJson
  ofJson? := ofJson?
  Representable := Representable
  decimals e := [e.amount]
  unsigned e := { e with amount := e.amount.unsignedZero }

theorem lawful_form : form.Lawful where
  hasText e := by
    refine .object ?_
    simp only [List.forall_mem_cons]
    exact ⟨hasText_ofInt _, hasText_ofInt _, .string _, .string _, nofun⟩
  back e h := by
    refine Option.bind_eq_some_iff.mpr ⟨_, int64?_ofInt h.id, ?_⟩
    refine Option.bind_eq_some_iff.mpr ⟨_, int64?_ofInt h.accountId, ?_⟩
    refine Option.bind_eq_some_iff.mpr ⟨_, decimal?_ofDecimal h.amount, ?_⟩
    exact Option.bind_eq_some_iff.mpr ⟨_, timestamp?_ofTimestamp h.createdAt, rfl⟩
  representable v e h := by
    obtain ⟨fields, _, h⟩ := Option.bind_eq_some_iff.mp h
    split at h
    · obtain ⟨_, id, h⟩ := Option.bind_eq_some_iff.mp h
      obtain ⟨_, accountId, h⟩ := Option.bind_eq_some_iff.mp h
      obtain ⟨_, amount, h⟩ := Option.bind_eq_some_iff.mp h
      obtain ⟨_, createdAt, h⟩ := Option.bind_eq_some_iff.mp h
      cases h
      exact ⟨isInt64_of_int64? id, isInt64_of_int64? accountId, scale_of_decimal? amount,
        isInstant_of_timestamp? createdAt⟩
    · cases h
  decimals _ := rfl
  unsigned e h := congrArg (fun d => { e with amount := d }) (h _ List.mem_cons_self)

end Entry

namespace Transaction

structure Representable (t : Transaction) : Prop where
  id : IsInt64 t.id
  fromId : IsInt64 t.fromId
  toId : IsInt64 t.toId
  amount : t.amount.scale ≤ Decimal.roundingScale
  fee : t.fee.scale ≤ Decimal.roundingScale
  createdAt : t.createdAt.IsInstant

def form : Form Transaction where
  toJson := toJson
  ofJson? := ofJson?
  Representable := Representable
  decimals t := [t.amount, t.fee]
  unsigned t := { t with amount := t.amount.unsignedZero, fee := t.fee.unsignedZero }

theorem lawful_form : form.Lawful where
  hasText t := by
    refine .object ?_
    simp only [List.forall_mem_cons]
    exact ⟨hasText_ofInt _, hasText_ofInt _, hasText_ofInt _, .string _, .string _, .string _,
      .string _, .string _, nofun⟩
  back t h := by
    refine Option.bind_eq_some_iff.mpr ⟨_, int64?_ofInt h.id, ?_⟩
    refine Option.bind_eq_some_iff.mpr ⟨_, int64?_ofInt h.fromId, ?_⟩
    refine Option.bind_eq_some_iff.mpr ⟨_, int64?_ofInt h.toId, ?_⟩
    refine Option.bind_eq_some_iff.mpr ⟨_, decimal?_ofDecimal h.amount, ?_⟩
    refine Option.bind_eq_some_iff.mpr ⟨_, decimal?_ofDecimal h.fee, ?_⟩
    refine Option.bind_eq_some_iff.mpr ⟨t.currency, rfl, ?_⟩
    refine Option.bind_eq_some_iff.mpr ⟨t.description, rfl, ?_⟩
    exact Option.bind_eq_some_iff.mpr ⟨_, timestamp?_ofTimestamp h.createdAt, rfl⟩
  representable v t h := by
    obtain ⟨fields, _, h⟩ := Option.bind_eq_some_iff.mp h
    split at h
    · obtain ⟨_, id, h⟩ := Option.bind_eq_some_iff.mp h
      obtain ⟨_, fromId, h⟩ := Option.bind_eq_some_iff.mp h
      obtain ⟨_, toId, h⟩ := Option.bind_eq_some_iff.mp h
      obtain ⟨_, amount, h⟩ := Option.bind_eq_some_iff.mp h
      obtain ⟨_, fee, h⟩ := Option.bind_eq_some_iff.mp h
      obtain ⟨_, _, h⟩ := Option.bind_eq_some_iff.mp h
      obtain ⟨_, _, h⟩ := Option.bind_eq_some_iff.mp h
      obtain ⟨_, createdAt, h⟩ := Option.bind_eq_some_iff.mp h
      cases h
      exact ⟨isInt64_of_int64? id, isInt64_of_int64? fromId, isInt64_of_int64? toId,
        scale_of_decimal? amount, scale_of_decimal? fee, isInstant_of_timestamp? createdAt⟩
    · cases h
  decimals _ := rfl
  unsigned t h := by
    have amount : t.amount.unsignedZero = t.amount := h _ List.mem_cons_self
    have fee : t.fee.unsignedZero = t.fee := h _ (List.mem_cons_of_mem _ List.mem_cons_self)
    change { t with amount := t.amount.unsignedZero, fee := t.fee.unsignedZero } = t
    rw [amount, fee]

end Transaction

namespace TransferRequest

structure Representable (r : TransferRequest) : Prop where
  fromId : IsInt64 r.fromId
  toId : IsInt64 r.toId
  amount : r.amount.scale ≤ Decimal.roundingScale
  fee : r.fee.scale ≤ Decimal.roundingScale

def form : Form TransferRequest where
  toJson := toJson
  ofJson? := ofJson?
  Representable := Representable
  decimals r := [r.amount, r.fee]
  unsigned r := { r with amount := r.amount.unsignedZero, fee := r.fee.unsignedZero }

theorem lawful_form : form.Lawful where
  hasText r := by
    refine .object ?_
    simp only [List.forall_mem_cons]
    exact ⟨hasText_ofInt _, hasText_ofInt _, .string _, .string _, .string _, .string _, nofun⟩
  back r h := by
    refine Option.bind_eq_some_iff.mpr ⟨_, int64?_ofInt h.fromId, ?_⟩
    refine Option.bind_eq_some_iff.mpr ⟨_, int64?_ofInt h.toId, ?_⟩
    refine Option.bind_eq_some_iff.mpr ⟨_, decimal?_ofDecimal h.amount, ?_⟩
    refine Option.bind_eq_some_iff.mpr ⟨r.currency, rfl, ?_⟩
    refine Option.bind_eq_some_iff.mpr ⟨r.description, rfl, ?_⟩
    exact Option.bind_eq_some_iff.mpr ⟨_, decimal?_ofDecimal h.fee, rfl⟩
  representable v r h := by
    obtain ⟨fields, _, h⟩ := Option.bind_eq_some_iff.mp h
    split at h
    · obtain ⟨_, fromId, h⟩ := Option.bind_eq_some_iff.mp h
      obtain ⟨_, toId, h⟩ := Option.bind_eq_some_iff.mp h
      obtain ⟨_, amount, h⟩ := Option.bind_eq_some_iff.mp h
      obtain ⟨_, _, h⟩ := Option.bind_eq_some_iff.mp h
      obtain ⟨_, _, h⟩ := Option.bind_eq_some_iff.mp h
      obtain ⟨_, fee, h⟩ := Option.bind_eq_some_iff.mp h
      cases h
      exact ⟨isInt64_of_int64? fromId, isInt64_of_int64? toId, scale_of_decimal? amount,
        scale_of_decimal? fee⟩
    · cases h
  decimals _ := rfl
  unsigned r h := by
    have amount : r.amount.unsignedZero = r.amount := h _ List.mem_cons_self
    have fee : r.fee.unsignedZero = r.fee := h _ (List.mem_cons_of_mem _ List.mem_cons_self)
    change { r with amount := r.amount.unsignedZero, fee := r.fee.unsignedZero } = r
    rw [amount, fee]

end TransferRequest

namespace TransferResult

structure Representable (r : TransferResult) : Prop where
  transaction : r.transaction.Representable
  fromEntry : r.fromEntry.Representable
  toEntry : r.toEntry.Representable
  fromAccount : r.fromAccount.Representable
  toAccount : r.toAccount.Representable

def form : Form TransferResult where
  toJson := toJson
  ofJson? := ofJson?
  Representable := Representable
  decimals r :=
    Transaction.form.decimals r.transaction ++ Entry.form.decimals r.fromEntry ++
      Entry.form.decimals r.toEntry ++ Account.form.decimals r.fromAccount ++
      Account.form.decimals r.toAccount
  unsigned r :=
    { transaction := Transaction.form.unsigned r.transaction,
      fromEntry := Entry.form.unsigned r.fromEntry, toEntry := Entry.form.unsigned r.toEntry,
      fromAccount := Account.form.unsigned r.fromAccount,
      toAccount := Account.form.unsigned r.toAccount }

theorem lawful_form : form.Lawful where
  hasText r := by
    refine .object ?_
    simp only [List.forall_mem_cons]
    exact ⟨Transaction.lawful_form.hasText _, Entry.lawful_form.hasText _,
      Entry.lawful_form.hasText _, Account.lawful_form.hasText _, Account.lawful_form.hasText _,
      nofun⟩
  back r h := by
    refine Option.bind_eq_some_iff.mpr ⟨_, Transaction.lawful_form.back _ h.transaction, ?_⟩
    refine Option.bind_eq_some_iff.mpr ⟨_, Entry.lawful_form.back _ h.fromEntry, ?_⟩
    refine Option.bind_eq_some_iff.mpr ⟨_, Entry.lawful_form.back _ h.toEntry, ?_⟩
    refine Option.bind_eq_some_iff.mpr ⟨_, Account.lawful_form.back _ h.fromAccount, ?_⟩
    exact Option.bind_eq_some_iff.mpr ⟨_, Account.lawful_form.back _ h.toAccount, rfl⟩
  representable v r h := by
    obtain ⟨fields, _, h⟩ := Option.bind_eq_some_iff.mp h
    split at h
    · obtain ⟨_, transaction, h⟩ := Option.bind_eq_some_iff.mp h
      obtain ⟨_, fromEntry, h⟩ := Option.bind_eq_some_iff.mp h
      obtain ⟨_, toEntry, h⟩ := Option.bind_eq_some_iff.mp h
      obtain ⟨_, fromAccount, h⟩ := Option.bind_eq_some_iff.mp h
      obtain ⟨_, toAccount, h⟩ := Option.bind_eq_some_iff.mp h
      cases h
      exact ⟨Transaction.lawful_form.representable _ _ transaction,
        Entry.lawful_form.representable _ _ fromEntry,
        Entry.lawful_form.representable _ _ toEntry,
        Account.lawful_form.representable _ _ fromAccount,
        Account.lawful_form.representable _ _ toAccount⟩
    · cases h
  decimals _ := rfl
  unsigned r h := by
    simp only [form, List.mem_append] at h
    have transaction := Transaction.lawful_form.unsigned r.transaction
      fun d hd => h d (by simp [hd])
    have fromEntry := Entry.lawful_form.unsigned r.fromEntry fun d hd => h d (by simp [hd])
    have toEntry := Entry.lawful_form.unsigned r.toEntry fun d hd => h d (by simp [hd])
    have fromAccount := Account.lawful_form.unsigned r.fromAccount fun d hd => h d (by simp [hd])
    have toAccount := Account.lawful_form.unsigned r.toAccount fun d hd => h d (by simp [hd])
    simp only [form, transaction, fromEntry, toEntry, fromAccount, toAccount]

end TransferResult

end DoubleEntry
