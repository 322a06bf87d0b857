import DoubleEntry.Proofs.Decimal.Rounding
import DoubleEntry.Proofs.Store.References
import DoubleEntry.Proofs.Store.Schema
import Mathlib.Tactic.NormNum

/-!
What a delta makes of a balance. A sum that the column has room for is accepted to the last digit,
and one that it has no room for is refused, as long as some decimal has the sum. A sum that no
decimal has is rounded before it is checked, so that it may be accepted although the column has no
room for it; it is off by little then.
-/

namespace DoubleEntry

/-- The reply to adding a delta to the balance of an account, as the session sees that account. -/
structure Account.Adds (c : Account) (delta : Decimal)
    (reply : Except LedgerError (Option Account)) : Prop where
  added : 0 ≤ c.balance.value + delta.value → HasRoom (c.balance.value + delta.value) →
    ∃ row, reply = .ok (some row) ∧ row.balance.value = c.balance.value + delta.value
  /-- What decimals have but not the column is refused, and the refusal names it. -/
  noRoom : Decimal.IsExact (c.balance.value + delta.value) →
    ¬ HasRoom (c.balance.value + delta.value) →
    ∃ b : Decimal, reply = .error (.conflict (.unfitValue "balance" b)) ∧
      b.value = c.balance.value + delta.value
  overdrawn : HasRoom (c.balance.value + delta.value) → c.balance.value + delta.value < 0 →
    ∃ b : Decimal, reply = .error (.conflict (.negativeBalance c.id b)) ∧
      b.value = c.balance.value + delta.value
  /-- A sum below zero or from 10¹² on is refused also where no decimal has it. -/
  outside : c.balance.value + delta.value < 0 ∨ 10 ^ 12 ≤ c.balance.value + delta.value →
    ∃ e, reply = .error (.conflict e)
  near : ∀ row, reply = .ok (some row) → row = { c with balance := row.balance } ∧
    0 ≤ row.balance.value ∧ HasRoom row.balance.value ∧
    |row.balance.value - (c.balance.value + delta.value)| ≤ 5 / 10 ^ 17
  total : (∃ row, reply = .ok (some row)) ∨ ∃ e, reply = .error (.conflict e)

namespace MemoryStore

variable {st : MemoryStore} {s : SessionId} {x : Session} {now : Timestamp} {a : Int}
variable {c : Account} {delta balance : Decimal}

/-- A balance of which the sum is known is checked, and either accepted or refused. -/
theorem changed_of_add? (h : c.balance.add? delta = some balance) :
    (HasRoom balance.value → 0 ≤ balance.value →
      changed c delta = .ok { c with balance := balance }) ∧
    (HasRoom balance.value → balance.value < 0 →
      changed c delta = .error (.negativeBalance c.id balance)) ∧
    (¬ HasRoom balance.value → changed c delta = .error (.unfitValue "balance" balance)) := by
  have sign : balance < Decimal.zero ↔ balance.value < 0 := by
    rw [Decimal.lt_iff_value, Decimal.value_zero]
  have column := Decimal.fitsColumn_iff_hasRoom balance
  simp only [changed, h, checkColumn, sign]
  refine ⟨fun room notNegative => ?_, fun room negative => ?_, fun noRoom => ?_⟩
  · rw [if_pos (column.mpr room), if_neg (not_lt.mpr notNegative)]
    rfl
  · rw [if_pos (column.mpr room), if_pos negative]
    rfl
  · rw [if_neg (mt column.mp noRoom)]
    rfl

/-- The reply that a change of a balance leads to. -/
def replyOf (result : Except Conflict Account) : Except LedgerError (Option Account) :=
  match result with
  | .ok row => .ok (some row)
  | .error e => .error (.conflict e)

theorem near_of_changed {row : Account} (h : changed c delta = .ok row) :
    row = { c with balance := row.balance } ∧ 0 ≤ row.balance.value ∧
      HasRoom row.balance.value ∧
      |row.balance.value - (c.balance.value + delta.value)| ≤ 5 / 10 ^ 17 := by
  obtain ⟨balance, sum, fits, notNegative, rfl⟩ := changed_eq_ok h
  have room := (Decimal.fitsColumn_iff_hasRoom balance).mp fits
  rw [Decimal.le_iff_value, Decimal.value_zero] at notNegative
  exact ⟨rfl, notNegative, room, Decimal.add?_near sum room.2⟩

theorem adds_changed (h : c.InSchema) (delta : Decimal) :
    c.Adds delta (replyOf (changed c delta)) where
  added notNegative room := by
    obtain ⟨balance, sum, exactly⟩ :=
      Decimal.exists_add?_of_isExact (Decimal.isExact_of_hasRoom room)
    refine ⟨{ c with balance := balance }, ?_, exactly⟩
    rw [(changed_of_add? sum).1 (exactly ▸ room) (exactly ▸ notNegative)]
    rfl
  noRoom exact_ noRoom := by
    obtain ⟨balance, sum, exactly⟩ := Decimal.exists_add?_of_isExact exact_
    refine ⟨balance, ?_, exactly⟩
    rw [(changed_of_add? sum).2.2 (exactly ▸ noRoom)]
    rfl
  overdrawn room negative := by
    obtain ⟨balance, sum, exactly⟩ :=
      Decimal.exists_add?_of_isExact (Decimal.isExact_of_hasRoom room)
    refine ⟨balance, ?_, exactly⟩
    rw [(changed_of_add? sum).2.1 (exactly ▸ room) (exactly ▸ negative)]
    rfl
  outside beyond := by
    cases result : changed c delta with
    | error e => exact ⟨e, rfl⟩
    | ok row =>
        obtain ⟨balance, sum, fits, notNegative, rfl⟩ := changed_eq_ok result
        have room := (Decimal.fitsColumn_iff_hasRoom balance).mp fits
        rw [Decimal.le_iff_value, Decimal.value_zero] at notNegative
        exfalso
        rcases beyond with negative | large
        · exact absurd notNegative
            (not_le.mpr (Decimal.value_neg_of_add? h.notNegative h.room sum negative))
        · exact absurd (Decimal.le_value_of_add? sum large) (not_le.mpr (abs_lt.mp room.2).2)
  near row accepted := by
    cases result : changed c delta with
    | error e =>
        rw [result] at accepted
        cases accepted
    | ok row' =>
        rw [result] at accepted
        cases accepted
        exact near_of_changed result
  total := by
    cases changed c delta with
    | ok row => exact .inl ⟨row, rfl⟩
    | error e => exact .inr ⟨e, rfl⟩

theorem hasRoom_add {v w : ℚ} (hv : HasRoom v) (hw : HasRoom w) :
    HasRoom (v + w) ↔ |v + w| < 10 ^ 12 := by
  obtain ⟨⟨i, rfl⟩, _⟩ := hv
  obtain ⟨⟨j, rfl⟩, _⟩ := hw
  refine and_iff_right ⟨i + j, ?_⟩
  rw [Int.cast_add, add_div]

/-- A delta that the column has room for is added if the sum is neither negative nor too large, and
then exactly. -/
theorem changed_of_hasRoom (h : c.InSchema) (room : HasRoom delta.value) :
    ((∃ row, changed c delta = .ok row) ↔
      0 ≤ c.balance.value + delta.value ∧ c.balance.value + delta.value < 10 ^ 12) ∧
    ∀ row, changed c delta = .ok row →
      row.balance.value = c.balance.value + delta.value := by
  have adds := adds_changed h delta
  have within : ∀ row, changed c delta = .ok row →
      0 ≤ c.balance.value + delta.value ∧ c.balance.value + delta.value < 10 ^ 12 := by
    intro row made
    by_contra beyond
    obtain ⟨e, refused⟩ := adds.outside (by
      by_contra inside
      exact beyond ⟨not_lt.mp fun low => inside (.inl low),
        not_le.mp fun high => inside (.inr high)⟩)
    rw [made] at refused
    cases refused
  have added : 0 ≤ c.balance.value + delta.value → c.balance.value + delta.value < 10 ^ 12 →
      ∃ row, changed c delta = .ok row ∧
        row.balance.value = c.balance.value + delta.value := by
    intro low high
    obtain ⟨row, accepted, exactly⟩ := adds.added low
      ((hasRoom_add h.room room).mpr (abs_lt.mpr ⟨by linarith, high⟩))
    cases made : changed c delta with
    | error e =>
        rw [made] at accepted
        cases accepted
    | ok row' =>
        rw [made] at accepted
        cases accepted
        exact ⟨row, rfl, exactly⟩
  refine ⟨⟨fun ⟨row, made⟩ => within row made, fun ⟨low, high⟩ => ?_⟩, fun row made => ?_⟩
  · obtain ⟨row, made, _⟩ := added low high
    exact ⟨row, made⟩
  · obtain ⟨low, high⟩ := within row made
    obtain ⟨row', made', exactly⟩ := added low high
    cases made.symm.trans made'
    exact exactly

/-- The answer to a session that changes a balance: the reply, and what the session has staged
then. -/
structure AddsBalance (st : MemoryStore) (s : SessionId) (x : Session) (c : Account)
    (delta : Decimal) (reply : Except LedgerError (Option Account)) (st' : MemoryStore) :
    Prop where
  answer : c.Adds delta reply
  tables : st'.tables = st.tables
  staged : ∃ y, st'.openSession? s = some y ∧
    (∀ row, reply = .ok (some row) → y.accounts = Table.insert row x.accounts) ∧
    ∀ e, reply = .error e → y.accounts = x.accounts

theorem addsBalance_perform (rows : st.InSchema) (hx : st.openSession? s = some x)
    (found : st.current? x a = some c) (now : Timestamp) (delta : Decimal) :
    st.AddsBalance s x c delta (st.perform now s (.addBalance a delta)).1
      (st.perform now s (.addBalance a delta)).2 := by
  have staged := rows.staged _ (mem_of_session? (openSession?_eq_some.mp hx).1)
  have adds := adds_changed (inSchema_current? rows staged found) delta
  have performed : st.perform now s (.addBalance a delta) = st.addBalance s x a delta := by
    simp only [perform, hx]
  rw [performed]
  cases result : changed c delta with
  | ok row =>
      let y : Session := { x with accounts := Table.insert row x.accounts }
      have added : st.addBalance s x a delta = (.ok (some row), st.setSession s y) := by
        simp only [addBalance, found, result]
        rfl
      rw [result] at adds
      rw [added]
      refine ⟨adds, rfl, y, ?_, fun row' same => ?_, fun e same => by cases same⟩
      · obtain ⟨there, still⟩ := openSession?_eq_some.mp hx
        refine openSession?_eq_some.mpr ⟨?_, still⟩
        rw [session?_setSession, if_pos rfl, there]
        rfl
      · cases same
        rfl
  | error e =>
      have refused : st.addBalance s x a delta = (.error (.conflict e), st) := by
        simp only [addBalance, found, result]
      rw [result] at adds
      rw [refused]
      exact ⟨adds, rfl, x, hx, (fun row same => by cases same), fun _ _ => rfl⟩

/-- The row is locked first, which changes nothing that the session sees. -/
theorem addsBalance_answerLocked (rows : st.InSchema) (hx : st.openSession? s = some x)
    (found : st.current? x a = some c) (now : Timestamp) (delta : Decimal) (n : Nat) :
    st.AddsBalance s x c delta (st.answerLocked now (.perform s (.addBalance a delta)) a n).1
      (st.answerLocked now (.perform s (.addBalance a delta)) a n).2 := by
  have tables : (st.addGuard s a n).tables = st.tables := by
    simp only [addGuard]
    split <;> rfl
  have same :
      (st.addGuard s a n).current? { x with guards := x.guards ++ [(a, n)] } a = some c := by
    simp only [current?, tables]
    exact found
  have adds := addsBalance_perform (kept_inSchema.addGuard rows s a n) (openSession?_addGuard hx)
    same now delta
  exact ⟨adds.answer, adds.tables.trans tables, adds.staged⟩

/-- A session that has the lock of the row, or can have it at once, is answered at once. -/
theorem addsBalance_submit {waits : List (Int × Nat)} (order : st.Orderly [] waits)
    (rows : st.InSchema) (hx : st.openSession? s = some x) (found : st.current? x a = some c)
    (now : Timestamp) (delta : Decimal) :
    (x.holds a = true ∨ st.locks.IsFree a →
      ∃ reply st', st.submit now (.perform s (.addBalance a delta)) = (.answered reply, st')) ∧
    ∀ reply st', st.submit now (.perform s (.addBalance a delta)) = (.answered reply, st') →
      st.AddsBalance s x c delta reply st' := by
  cases held : x.holds a with
  | true =>
      have unlocked : st.wantedRow? (.perform s (.addBalance a delta)) = none := by
        simp [wantedRow?, hx, held]
      simp only [submit, unlocked]
      refine ⟨fun _ => ⟨_, _, rfl⟩, fun reply st' answered => ?_⟩
      cases answered
      exact addsBalance_perform rows hx found now delta
  | false =>
      let locked : MemoryStore := { st with locks := (st.locks.request a).2 }
      have wanted : st.wantedRow? (.perform s (.addBalance a delta)) = some a := by
        simp [wantedRow?, hx, held]
      have number : (st.locks.request a).1 = st.locks.nextTicket := rfl
      have adds := addsBalance_answerLocked (kept_inSchema.request rows a) hx found
        now delta st.locks.nextTicket
      rcases LockTable.request_cases order.sound a with ⟨holding, _⟩ |
        ⟨waiting, _, _, k, hk, same, owns⟩
      · simp only [submit, wanted, number, holding, if_true]
        refine ⟨fun _ => ⟨_, _, rfl⟩, fun reply st' answered => ?_⟩
        cases answered
        exact ⟨adds.answer, adds.tables, adds.staged⟩
      · refine ⟨fun free => ?_, fun reply st' answered => ?_⟩
        · rcases free with held | free
          · cases held
          · rw [free k hk same] at owns
            cases owns
        · simp only [submit, wanted, number, waiting] at answered
          cases answered

end MemoryStore

namespace Desk

variable {s : SessionId} {x : Session} {a : Int} {c : Account}

/-- The request is answered at once, or after it has waited for the lock of its row. -/
def Answers (d : Desk) (now : Timestamp) (r : StoreRequest) (reply : r.Reply) (d' : Desk) : Prop :=
  d.submit? now r = some (.answered reply, d') ∨
    ∃ ticket, d.resume? now r ticket = some (reply, d')

/-- Whatever clients have done with a store, a session that changes a balance which it sees is told
the exact sum, or refused with nothing changed, as long as some decimal has the sum. It is answered
at once if nobody else has the lock of the row, and when it is granted that lock. -/
theorem deltas_exact_unless_rounded (moves : List Move)
    (hx : (run moves).store.openSession? s = some x)
    (found : (run moves).store.current? x a = some c) (now : Timestamp) (delta : Decimal) :
    (∀ reply d', (run moves).Answers now (.perform s (.addBalance a delta)) reply d' →
      (run moves).store.AddsBalance s x c delta reply d'.store) ∧
    ((run moves).isBusy (.perform s (.addBalance a delta)) = false →
      (x.holds a = true ∨ (run moves).store.locks.IsFree a) →
      ∃ reply d', (run moves).submit? now (.perform s (.addBalance a delta)) =
        some (.answered reply, d')) ∧
    ∀ ticket, ⟨ticket, .perform s (.addBalance a delta)⟩ ∈ (run moves).waiting →
      (run moves).store.isGranted ticket = true →
      ∃ reply d', (run moves).resume? now (.perform s (.addBalance a delta)) ticket =
        some (reply, d') := by
  have order := orderly_run moves
  have rows := rows_in_schema moves
  generalize run moves = d at hx found order rows
  obtain ⟨answered, adds⟩ := MemoryStore.addsBalance_submit order.store rows hx found now delta
  refine ⟨?_, fun idle free => ?_, fun ticket waits granted => ?_⟩
  · rintro reply d' (submitted | ⟨ticket, resumed⟩)
    · simp only [submit?] at submitted
      split at submitted
      · cases submitted
      · split at submitted
        · rename_i reply' st' taken
          cases submitted
          exact adds _ _ taken
        · cases submitted
    · simp only [resume?] at resumed
      split at resumed
      · rename_i ready
        cases resumed
        have row := MemoryStore.awaitedRow_eq (orderly_waiting order ready.1)
        have claimed := MemoryStore.kept_inSchema.claim rows ticket (by
          simpa [MemoryStore.isGranted] using ready.2)
        have adds := MemoryStore.addsBalance_answerLocked claimed hx found now delta
          ticket
        have answer : d.store.resume now (.perform s (.addBalance a delta)) ticket =
            MemoryStore.answerLocked now (.perform s (.addBalance a delta)) a ticket
              { d.store with locks := d.store.locks.claim ticket } := by
          rw [MemoryStore.resume, show d.store.awaitedRow ticket = a from row]
        rw [answer]
        exact ⟨adds.answer, adds.tables, adds.staged⟩
      · cases resumed
  · obtain ⟨reply, st', taken⟩ := answered free
    refine ⟨reply, d.record (.perform s (.addBalance a delta)) reply st', ?_⟩
    simp only [submit?, idle, taken]
    rfl
  · exact ⟨_, _, if_pos ⟨waits, granted⟩⟩

/-- The largest balance that the column has room for. -/
def fullBalance : Decimal := ⟨false, 99999999999999999999, 8, by decide, by decide⟩

/-- A session begins where an account has this balance. -/
def nearlyFull : List Move :=
  let now := Timestamp.ofMillis 0
  [.submit now (.query (.createAccount ⟨"ada", "USD", fullBalance⟩)), .submit now .begin]

def fullAccount : Account := ⟨1, "ada", fullBalance, "USD", Timestamp.ofMillis 0⟩

theorem deltas_exact_unless_rounded_withdrawal :
    (run nearlyFull).store.openSession? 0 = some {} ∧
    (run nearlyFull).store.current? {} 1 = some fullAccount ∧
    ∃ row d', (run nearlyFull).submit? (Timestamp.ofMillis 0)
        (.perform 0 (.addBalance 1 (-.whole 5))) = some (.answered (.ok (some row)), d') ∧
      row.balance.value = fullBalance.value + (-Decimal.whole 5).value := by
  have hx : (run nearlyFull).store.openSession? 0 = some {} := by decide
  have found : (run nearlyFull).store.current? {} 1 = some fullAccount := by decide
  obtain ⟨adds, answered, _⟩ :=
    deltas_exact_unless_rounded nearlyFull hx found (Timestamp.ofMillis 0) (-.whole 5)
  obtain ⟨reply, d', submitted⟩ := answered (by decide) (.inr (by
    intro k hk
    rw [show (run nearlyFull).store.locks.tickets = [] by decide] at hk
    cases hk))
  have sum : fullBalance.value + (-Decimal.whole 5).value = 99999999999499999999 / 10 ^ 8 := by
    have five : (5 : UInt16).toNat = 5 := rfl
    rw [Decimal.value_neg, Decimal.value_whole, five]
    norm_num [Decimal.value, fullBalance]
  obtain ⟨row, accepted, exactly⟩ := (adds reply d' (.inl submitted)).answer.added
    (show 0 ≤ fullBalance.value + _ by rw [sum]; positivity)
    (show HasRoom (fullBalance.value + _) by
      rw [sum]
      exact ⟨⟨99999999999499999999, by norm_num⟩, by norm_num⟩)
  exact ⟨hx, found, row, d', accepted ▸ submitted, exactly⟩

/-- The smallest number that a decimal of 28 digits after the point has. -/
def smallest : Decimal := ⟨false, 1, 28, by decide, by decide⟩

/-- A sum that no decimal has is accepted, although the column has no room for it. -/
theorem sum_rounded_before_check :
    ∃ row d', (run nearlyFull).submit? (Timestamp.ofMillis 0) (.perform 0 (.addBalance 1 smallest)) =
        some (.answered (.ok (some row)), d') ∧
      row.balance.value = fullBalance.value ∧
      ¬ HasRoom (fullBalance.value + smallest.value) := by
  refine ⟨{ fullAccount with
    balance := ⟨false, 9999999999999999999900000000, 16, by decide, by decide⟩ }, _, rfl, ?_, ?_⟩
  · norm_num [Decimal.value, fullBalance]
  · rintro ⟨⟨k, multiple⟩, _⟩
    have sum : fullBalance.value + smallest.value =
        (99999999999999999999 * 10 ^ 20 + 1) / 10 ^ 28 := by
      norm_num [Decimal.value, fullBalance, smallest]
    rw [sum, div_eq_div_iff (by positivity) (by positivity)] at multiple
    have digits : ((99999999999999999999 * 10 ^ 20 + 1) * 10 ^ 8 : ℤ) = k * 10 ^ 28 := by
      exact_mod_cast multiple
    omega

end Desk
end DoubleEntry
