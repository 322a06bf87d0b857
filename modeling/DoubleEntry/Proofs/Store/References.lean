import DoubleEntry.Proofs.Store.Growth

/-!
References while accounts are deleted. A row is staged under the condition that its accounts are
there, but does not keep them there: only the accounts whose balances a session has changed are
locked. So a commit looks again, and is refused if an account has gone; and an account goes only if
no committed row refers to it.
-/

namespace DoubleEntry

/-- One of the rows refers to the account. -/
def RefersTo (entries : List Entry) (transactions : List Transaction) (a : Int) : Prop :=
  (∃ e ∈ entries, e.accountId = a) ∨ ∃ t ∈ transactions, t.fromId = a ∨ t.toId = a

/-- A row that the session has staged refers to the account. -/
def Session.Refers (x : Session) (a : Int) : Prop := RefersTo x.entries x.transactions a

namespace Tables

variable {t : Tables} {a : Int} {c : Conflict}

def Refers (t : Tables) (a : Int) : Prop := RefersTo t.entries t.transactions a

theorem isReferenced_iff : t.isReferenced a = true ↔ t.Refers a := by
  simp [isReferenced, NewTransaction.involves, Refers, RefersTo]

theorem checkAccount_eq_error {table : TableName} (h : t.checkAccount table a = .error c) :
    c = .missingAccount table a ∧ t.hasAccount a = false := by
  simp only [checkAccount] at h
  split at h
  · cases h
  · rename_i missing
    cases h
    exact ⟨rfl, by simpa using missing⟩

theorem checkSides_eq_error {new : NewTransaction} (h : t.checkSides new = .error c) :
    ∃ b, c = .missingAccount .transactions b ∧ t.hasAccount b = false ∧
      (new.fromId = b ∨ new.toId = b) := by
  simp only [checkSides] at h
  cases source : t.checkAccount .transactions new.fromId with
  | error c' =>
      rw [source] at h
      cases h
      obtain ⟨shape, missing⟩ := checkAccount_eq_error source
      exact ⟨_, shape, missing, .inl rfl⟩
  | ok _ =>
      rw [source] at h
      obtain ⟨shape, missing⟩ := checkAccount_eq_error h
      exact ⟨_, shape, missing, .inr rfl⟩

/-- The answer to the request to delete an account. -/
structure Deletes (t : Tables) (a : Int) (reply : Except LedgerError Bool) : Prop where
  gone : reply = .ok true ↔ t.hasAccount a = true ∧ ¬ t.Refers a
  absent : reply = .ok false ↔ t.hasAccount a = false
  refused : reply = .error (.conflict (.referencedAccount a)) ↔ t.hasAccount a = true ∧ t.Refers a
  total : reply = .ok true ∨ reply = .ok false ∨
    reply = .error (.conflict (.referencedAccount a))

end Tables

namespace MemoryStore

variable {st : MemoryStore} {x : Session} {a : Int} {c : Conflict}

theorem deletes_query (st : MemoryStore) (now : Timestamp) (a : Int) :
    st.tables.Deletes a (st.query now (.deleteAccount a)).1 := by
  have refers := Tables.isReferenced_iff (t := st.tables) (a := a)
  simp only [query, Tables.deleteAccount]
  cases there : st.tables.hasAccount a with
  | false => constructor <;> simp [there]
  | true =>
      cases referenced : st.tables.isReferenced a with
      | false =>
          have unreferenced : ¬ st.tables.Refers a := fun no => by
            rw [refers.mpr no] at referenced
            cases referenced
          constructor <;> simp [there, unreferenced]
      | true =>
          have taken := refers.mp referenced
          constructor <;> simp [there, taken]

theorem submit_deleteAccount {loose waits : List (Int × Nat)} (h : st.Orderly loose waits)
    (free : st.locks.IsFree a) (now : Timestamp) :
    ∃ reply st', st.submit now (.query (.deleteAccount a)) = (.answered reply, st') ∧
      st.tables.Deletes a reply := by
  let locked : MemoryStore := { st with locks := (st.locks.request a).2 }
  have holding := LockTable.holding_of_isFree h.sound free
  let answer := locked.answerLocked now (.query (.deleteAccount a)) a st.locks.nextTicket
  refine ⟨answer.1, answer.2, ?_, deletes_query locked now a⟩
  simp only [submit, wantedRow?]
  exact if_pos holding

theorem forM_eq_error {ρ : Type} {f : ρ → Except Conflict Unit} {rows : List ρ}
    (h : rows.forM f = .error c) : ∃ row ∈ rows, f row = .error c := by
  induction rows with
  | nil => cases h
  | cons row rows ih =>
      change (f row >>= fun _ => rows.forM f) = .error c at h
      cases first : f row with
      | error c' =>
          rw [first] at h
          cases h
          exact ⟨row, List.mem_cons_self, first⟩
      | ok _ =>
          rw [first] at h
          obtain ⟨found, mem, error⟩ := ih h
          exact ⟨found, List.mem_cons_of_mem row mem, error⟩

theorem checkStaged_eq_error {t : Tables} (h : checkStaged t x = .error c) :
    ∃ table b, c = .missingAccount table b ∧ x.Refers b ∧ t.hasAccount b = false := by
  simp only [checkStaged] at h
  cases entries : x.entries.forM fun e => t.checkAccount .entries e.accountId with
  | error c' =>
      rw [entries] at h
      cases h
      obtain ⟨e, he, error⟩ := forM_eq_error entries
      obtain ⟨shape, missing⟩ := Tables.checkAccount_eq_error error
      exact ⟨_, _, shape, .inl ⟨e, he, rfl⟩, missing⟩
  | ok _ =>
      rw [entries] at h
      obtain ⟨row, hr, error⟩ := forM_eq_error h
      obtain ⟨b, shape, missing, side⟩ := Tables.checkSides_eq_error error
      exact ⟨_, b, shape, .inr ⟨row, hr, side⟩, missing⟩

/-- A session that refers to an account that has gone cannot commit, and goes on as it is. -/
theorem commit_of_missing (refers : x.Refers a) (gone : st.tables.hasAccount a = false)
    (s : SessionId) : ∃ table b,
      st.commit s x = (.error (.conflict (.missingAccount table b)), st) ∧
        x.Refers b ∧ st.tables.hasAccount b = false := by
  cases check : checkStaged st.tables x with
  | ok _ =>
      obtain ⟨entries, transactions⟩ := checkStaged_eq_ok.mp check
      have there : st.tables.hasAccount a = true := by
        rcases refers with ⟨e, he, rfl⟩ | ⟨row, hr, rfl | rfl⟩
        · exact entries e he
        · exact (transactions row hr).1
        · exact (transactions row hr).2
      rw [gone] at there
      cases there
  | error c =>
      obtain ⟨table, b, rfl, refers, missing⟩ := checkStaged_eq_error check
      refine ⟨table, b, ?_, refers, missing⟩
      simp only [commit, check]

end MemoryStore

namespace Desk

variable {d : Desk}

/-- References and deletions, at any time in the use of a store. -/
structure Referential (d : Desk) : Prop where
  committed : Books.Referenced d.store.tables
  deletes : ∀ now a, d.store.locks.IsFree a → ∃ reply d',
    d.submit? now (.query (.deleteAccount a)) = some (.answered reply, d') ∧
      d.store.tables.Deletes a reply
  /-- An account whose balance a session has changed is not deleted meanwhile. -/
  changed : ∀ s x, d.store.openSession? s = some x → ∀ row ∈ x.accounts,
    d.store.tables.hasAccount row.id = true
  /-- A session that has staged a row for an account which was deleted does not commit, whenever
  and however often it tries. -/
  commits : ∀ now s x a, d.store.openSession? s = some x →
    d.isBusy (.perform s .commit) = false → x.Refers a → .deleted a ∈ d.deeds →
      ∃ table b, d.submit? now (.perform s .commit) =
          some (.answered (.error (.conflict (.missingAccount table b))), d) ∧
        x.Refers b ∧ d.store.tables.hasAccount b = false

theorem commit_of_missing {s : SessionId} {x : Session} {a : Int}
    (hx : d.store.openSession? s = some x) (idle : d.isBusy (.perform s .commit) = false)
    (refers : x.Refers a) (gone : d.store.tables.hasAccount a = false) (now : Timestamp) :
    ∃ table b, d.submit? now (.perform s .commit) =
        some (.answered (.error (.conflict (.missingAccount table b))), d) ∧
      x.Refers b ∧ d.store.tables.hasAccount b = false := by
  obtain ⟨table, b, refused, refers, missing⟩ := MemoryStore.commit_of_missing refers gone s
  refine ⟨table, b, ?_, refers, missing⟩
  have answered : d.store.submit now (.perform s .commit) =
      (.answered (.error (.conflict (.missingAccount table b))), d.store) := by
    simp only [MemoryStore.submit, MemoryStore.wantedRow?, MemoryStore.answer, MemoryStore.perform,
      hx, refused]
  simp only [submit?, idle, answered, record, Deed.of?, Option.toList_none, List.append_nil]
  rfl

/-- Whatever is deleted while sessions go on, no committed row refers to an account that is not
there. -/
theorem references_kept (moves : List Move) : (run moves).Referential := by
  have order := orderly_run moves
  generalize run moves = d at order
  have tables := tables_eq order
  refine ⟨?_, fun now a free => ?_, fun s x hx row hr => ?_,
    fun now s x a hx idle refers gone => ?_⟩
  · rw [tables]
    exact Books.referenced_of_lawful order.lawful
  · obtain ⟨reply, st, answered, deletes⟩ :=
      MemoryStore.submit_deleteAccount order.store free now
    have idle : d.isBusy (.query (.deleteAccount a)) = false := by
      simp [isBusy, StoreRequest.session?]
    refine ⟨reply, d.record (.query (.deleteAccount a)) reply st, ?_, deletes⟩
    simp only [submit?, idle, answered]
    rfl
  · have draft := MemoryStore.drafts_of_open hx
    rw [order.books] at draft
    obtain ⟨_, c, hc, _⟩ := (Books.sound_replay order.lawful).drafted s _ draft row hr
    rw [tables]
    exact Table.contains_iff_find?.mpr ⟨c, hc⟩
  · refine commit_of_missing hx idle refers ?_ now
    rw [tables]
    exact (Books.hasAccount_of_deleted order.lawful gone).2

/-- An account is deleted after a session has staged an entry for it. -/
def vanishing : List Move :=
  let now := Timestamp.ofMillis 0
  [.submit now (.query (.createAccount ⟨"ada", "USD", .whole 100⟩)), .submit now .begin,
    .submit now (.perform 0 (.insertEntry 1 (.whole 5))),
    .submit now (.query (.deleteAccount 1))]

example : (run vanishing).deeds.getLast? = some (.deleted 1) ∧
    ((run vanishing).store.openSession? 0).map (fun x => x.entries.map (·.accountId)) = some [1] ∧
    (run vanishing).isBusy (.perform 0 .commit) = false := by decide

end Desk
end DoubleEntry
