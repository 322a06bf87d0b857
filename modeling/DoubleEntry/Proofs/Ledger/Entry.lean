import DoubleEntry.Ledger.Entry
import DoubleEntry.Proofs.Decimal.Column
import DoubleEntry.Proofs.History.Batches

/-!
Entries that cancel out. The amounts of hundreds of millions of entries are added without losing a
digit, in whatever order and with however many zeros behind the point, so that the sum is zero only
if the amounts cancel out exactly.
-/

namespace DoubleEntry.Entry

variable {es others : List Entry}

theorem sum?_amounts (es : List Entry) :
    Decimal.sum? (es.map (·.amount)) = History.addAll Decimal.zero es := List.foldlM_map ..

/-- So many amounts of a column are added exactly. -/
theorem balance_eq (few : es.length ≤ 7 * 10 ^ 8) (column : ∀ e ∈ es, e.amount.FitsColumn) :
    balance es = .ok (decide ((es.map (·.amount.value)).sum = 0)) := by
  obtain ⟨total, added, exactly⟩ := addAll_exact column few
  have zero : total.isZero = decide ((es.map (·.amount.value)).sum = 0) := by
    rw [Bool.eq_iff_iff, decide_eq_true_iff, ← exactly, Decimal.value_eq_zero_iff]
  rw [balance, amountsBalance, sum?_amounts, added]
  exact congrArg Except.ok zero

/-- Other entries with the same values fit the column as well. -/
theorem fitsColumn_of_perm (column : ∀ e ∈ es, e.amount.FitsColumn)
    (same : (others.map (·.amount.value)).Perm (es.map (·.amount.value))) :
    ∀ e ∈ others, e.amount.FitsColumn := by
  intro e he
  obtain ⟨x, hx, value⟩ := List.mem_map.mp (same.mem_iff.mp (List.mem_map_of_mem he))
  exact (Decimal.fitsColumn_congr value).mp (column x hx)

/-- Of so many entries with amounts of a column it is always decided whether they cancel out: they
do if and only if the sum of their values is zero. It is decided alike for entries with the same
values in another order or in other representations. -/
theorem cancellation_decided (few : es.length ≤ 7 * 10 ^ 8)
    (column : ∀ e ∈ es, e.amount.FitsColumn) :
    (∃ cancelled, balance es = .ok cancelled ∧
        (cancelled = true ↔ (es.map (·.amount.value)).sum = 0)) ∧
      ∀ others : List Entry, (others.map (·.amount.value)).Perm (es.map (·.amount.value)) →
        balance others = balance es := by
  refine ⟨⟨_, balance_eq few column, decide_eq_true_iff⟩, fun others same => ?_⟩
  have length := same.length_eq
  rw [List.length_map, List.length_map] at length
  rw [balance_eq (length ▸ few) (fitsColumn_of_perm column same), balance_eq few column,
    same.sum_eq]

/-- A debit cancels two credits behind them with 28 digits after the point, and before them with
two. -/
theorem cancellation_decided_padded :
    let credit : Entry := ⟨1, 1, ⟨false, 1, 0, by decide, by decide⟩, default⟩
    let debit : Entry := ⟨2, 2, ⟨true, 20000000000000000000000000000, 28, by decide, by decide⟩,
      default⟩
    let short : Entry := ⟨2, 2, ⟨true, 200, 2, by decide, by decide⟩, default⟩
    let es := [credit, credit, debit]
    (es.length ≤ 7 * 10 ^ 8 ∧ ∀ e ∈ es, e.amount.FitsColumn) ∧
      (∃ cancelled, balance es = .ok cancelled ∧
        (cancelled = true ↔ (es.map (·.amount.value)).sum = 0)) ∧
      balance [short, credit, credit] = balance es := by
  intro credit debit short es
  have few : es.length ≤ 7 * 10 ^ 8 := by decide
  have column : ∀ e ∈ es, e.amount.FitsColumn := by decide
  have value : short.amount.value = debit.amount.value := by
    norm_num [short, debit, Decimal.value]
  have same : ([short, credit, credit].map (·.amount.value)).Perm (es.map (·.amount.value)) := by
    rw [List.map_cons, value]
    exact (List.perm_append_singleton debit.amount.value ([credit, credit].map _)).symm
  have decided := cancellation_decided few column
  exact ⟨⟨few, column⟩, decided.1, decided.2 [short, credit, credit] same⟩

end DoubleEntry.Entry
