import DoubleEntry.Proofs.Client.Steps
import DoubleEntry.Proofs.Store.Records
import DoubleEntry.Proofs.Transfer.Conduct

/-!
What the store records of clients that only transfer and ask queries. A session of theirs that has
committed has recorded one whole transfer; all other sessions have committed nothing.
-/

namespace DoubleEntry

namespace Conduct

variable {α : Type}

/-- What always holds also holds of a client that was dropped. -/
def Closed (k : Conduct α) : Prop :=
  ∀ h, k.always h → k.mayDrop h → k.always (h ++ (h.filterMap Deed.begun?).map .abandoned)

/-- Nothing is done in a session. -/
def queries : Conduct α where
  always h := ∀ e ∈ h, e.session? = none
  mayDrop h := ∀ e ∈ h, e.session? = none
  mayEnd _ _ := True

theorem closed_queries : (queries (α := α)).Closed := by
  intro h none _ e he
  cases List.mem_append.mp he with
  | inl old => exact none e old
  | inr new =>
      obtain ⟨s, hs, _⟩ := List.mem_map.mp new
      obtain ⟨b, hb, same⟩ := List.mem_filterMap.mp hs
      have outside := none b hb
      cases b <;> cases same
      cases outside

end Conduct

namespace Client

variable {α : Type} {c : Client α} {k : Conduct α}

theorem always_of_follows (closed : k.Closed) (h : c.Follows k) : k.always c.deeds := by
  simp only [Follows] at h
  split at h
  · exact Program.always_of_follows h
  · exact h.2.1
  · obtain ⟨history, always, mayDrop, same⟩ := h
    rw [same]
    exact closed history always mayDrop

end Client

/-- Dropping a client abandons its session. -/
theorem Uncommitted.dropped {s : SessionId} {history : List Deed} (h : Uncommitted s history) :
    Uncommitted s (history ++ (history.filterMap Deed.begun?).map .abandoned) ∧
      .abandoned s ∈ history ++ (history.filterMap Deed.begun?).map .abandoned := by
  have ⟨rest, shape, work⟩ := h
  have mine : ∀ t ∈ history.filterMap Deed.begun?, t = s := by
    intro t ht
    obtain ⟨b, hb, same⟩ := List.mem_filterMap.mp ht
    have cases_ := h.cases_mem hb
    cases b <;> cases same
    simpa [Deed.IsWork] using cases_
  refine ⟨⟨rest ++ (history.filterMap Deed.begun?).map .abandoned, ?_, ?_⟩, ?_⟩
  · rw [shape]
    rfl
  · intro e he
    cases List.mem_append.mp he with
    | inl old => exact work e old
    | inr new =>
        obtain ⟨t, ht, rfl⟩ := List.mem_map.mp new
        exact .inr (.inr (by rw [mine t ht]))
  · refine List.mem_append_right _ (List.mem_map_of_mem ?_)
    exact List.mem_filterMap.mpr ⟨.began s, by rw [shape]; exact List.mem_cons_self, rfl⟩

theorem Uncommitted.quiet {s : SessionId} {history : List Deed} (h : Uncommitted s history)
    {e : Deed} (he : e ∈ history) : e.publishes = false := by
  have cases_ := h.cases_mem he
  cases e <;> simp_all [Deed.IsWork, Deed.publishes]

theorem UnitOfWork.closed_conduct {α : Type} (post : SessionId → List Deed → α → Prop) :
    (conduct post).Closed := by
  intro h _ mayDrop
  cases mayDrop with
  | inl empty =>
      rw [empty]
      exact .inl rfl
  | inr open_ =>
      obtain ⟨s, uncommitted⟩ := open_
      exact .inr (.inl ⟨s, uncommitted.dropped.1⟩)

/-- A unit of work has done all of its body before it has committed. -/
theorem UnitOfWork.work_of_committed {α : Type} {post : SessionId → List Deed → α → Prop}
    {deeds : List Deed} {s : SessionId} (h : (conduct post).always deeds)
    (hs : .committed s ∈ deeds) :
    ∃ t work value, post t work value ∧ ∃ rest, deeds = work ++ rest ∧
      (rest = [.committed t] ∨ rest = [.committed t, .abandoned t]) := by
  cases h with
  | inl empty =>
      rw [empty] at hs
      cases hs
  | inr later =>
      cases later with
      | inl open_ =>
          obtain ⟨t, uncommitted⟩ := open_
          cases uncommitted.quiet hs
      | inr whole =>
          obtain ⟨t, work, value, done_, ends⟩ := whole
          refine ⟨t, work, value, done_, ?_⟩
          cases ends with
          | inl first => exact ⟨_, first, .inl rfl⟩
          | inr second => exact ⟨_, second.trans (List.append_assoc _ _ _), .inr rfl⟩

/-- A query does nothing in a session. -/
theorem Deed.session?_of_query {query : Query} {answer : (StoreRequest.query query).Reply}
    {d : Deed} (h : Deed.of? (.query query) answer = some d) : d.session? = none := by
  cases Deed.session?_of? h with
  | inl outside => exact outside
  | inr began =>
      obtain ⟨s, rfl⟩ := began
      simp only [Deed.of?] at h
      split at h <;> cases h
      rename_i impossible _
      cases impossible

namespace Program

variable {α : Type}

/-- The program asks the store for queries only. -/
def AsksQueries : Program (Timed LedgerStore) α → Prop
  | done _ | halt _ => True
  | note _ next => next.AsksQueries
  | ask q next => (∀ r reply, q.call? = some ⟨r, reply⟩ → ∃ query, r = .query query) ∧
      ∀ reply, (next reply).AsksQueries

theorem asksQueries_query (q : Query) :
    (callFree (I := LedgerStore) (.query q)).AsksQueries := by
  refine ⟨fun r reply same => ?_, fun _ => trivial⟩
  cases same
  exact ⟨q, rfl⟩

theorem session?_of_query {q : TimedRequest LedgerStore}
    (h : ∀ r reply, q.call? = some ⟨r, reply⟩ → ∃ query, r = .query query) (reply : q.Reply) :
    ∀ e ∈ q.deeds reply, e.session? = none := by
  have outside : ∀ (query : Query) (answer : (StoreRequest.query query).Reply),
      ∀ e ∈ (Deed.of? (.query query) answer).toList, e.session? = none :=
    fun query answer e he => Deed.session?_of_query (Option.mem_toList.mp he)
  cases q with
  | free p =>
      cases p with
      | call r =>
          obtain ⟨query, rfl⟩ := h r id rfl
          exact outside query reply
      | pause ms =>
          intro e he
          cases he
  | within w p =>
      cases reply with
      | error stop =>
          intro e he
          cases p <;> cases he
      | ok answer =>
          cases p with
          | call r =>
              obtain ⟨query, rfl⟩ := h r .ok rfl
              exact outside query answer
          | pause ms =>
              intro e he
              cases he
  | now =>
      intro e he
      cases he
  | openWindow cancelAt timeout =>
      intro e he
      cases he

theorem follows_queries {p : Program (Timed LedgerStore) α} (h : p.AsksQueries)
    {history : List Deed} (outside : ∀ e ∈ history, e.session? = none) :
    p.Follows .queries history := by
  induction p generalizing history with
  | done a => exact ⟨outside, trivial⟩
  | halt o => exact ⟨outside, outside⟩
  | note n next ih => exact ih h outside
  | ask q next ih =>
      refine ⟨outside, fun _ => outside, fun reply _ => ih reply (h.2 reply) ?_⟩
      intro e he
      cases List.mem_append.mp he with
      | inl old => exact outside e old
      | inr new => exact session?_of_query h.1 reply e new

end Program

/-- A transfer, or a program that stays outside of sessions. -/
inductive LedgerProgram : (α : Type) → Program (Timed LedgerStore) α → Prop where
  | transfer (u : UnitOfWork) (cancelAt : Option Nat) (r : TransferRequest) :
      LedgerProgram _ (Transfer.transfer u cancelAt r)
  | queries {α : Type} {p : Program (Timed LedgerStore) α} (h : p.AsksQueries) : LedgerProgram α p

/-- A choice that starts only programs of one kind. -/
def Choice.Starts (P : (α : Type) → Program (Timed LedgerStore) α → Prop) : Choice → Prop
  | @spawn α p => P α p
  | turn _ _ => True

namespace Drawing

variable {ρ : Type} {k : Drawing ρ}

/-- The rows of a session are in the deeds of that session. -/
theorem of_filter (session : ∀ d s row, k.row? d = some (s, row) → d.session? = some s)
    (ds : List Deed) (s : SessionId) : k.of (ds.filter (·.isOf s)) s = k.of ds s := by
  have mine : ∀ d p, (k.row? d).filter (·.1 == s) = some p → d.session? = some s := by
    intro d p found
    obtain ⟨row, same⟩ := Option.filter_eq_some_iff.mp found
    exact session d s p.2 (eq_of_beq same ▸ row)
  simp only [of, all]
  rw [List.filter_filterMap, Deed.filterMap_isOf mine, ← List.filter_filterMap]

theorem session_entries (d : Deed) (s : SessionId) (e : Entry)
    (h : entries.row? d = some (s, e)) : d.session? = some s := by
  cases d <;> cases h
  rfl

theorem session_transactions (d : Deed) (s : SessionId) (t : Transaction)
    (h : transactions.row? d = some (s, t)) : d.session? = some s := by
  cases d <;> cases h
  rfl

end Drawing

theorem Books.mem_commits {ds : List Deed} {s : SessionId} :
    s ∈ commits ds ↔ .committed s ∈ ds := by
  refine List.mem_filterMap.trans ⟨fun h => ?_, fun h => ⟨_, h, rfl⟩⟩
  obtain ⟨d, hd, same⟩ := h
  cases d <;> cases same
  exact hd

/-- The commits of a session are among the deeds of that session. -/
theorem Books.commits_filter (ds : List Deed) (s : SessionId) :
    (commits (ds.filter (·.isOf s))).filter (· == s) = (commits ds).filter (· == s) := by
  have mine : ∀ (d : Deed) t, d.commit?.filter (· == s) = some t → d.session? = some s := by
    intro d t found
    obtain ⟨commit, same⟩ := Option.filter_eq_some_iff.mp found
    cases d <;> cases commit
    exact congrArg some (eq_of_beq same)
  simp only [commits, List.filter_filterMap]
  exact Deed.filterMap_isOf mine ds

namespace Transfer

variable {r : TransferRequest} {s : SessionId} {res : TransferResult}

theorem isOf_written (r : TransferRequest) (res : TransferResult) {rest : List Deed}
    (ends : rest = [.committed s] ∨ rest = [.committed s, .abandoned s]) :
    ∀ e ∈ written r s res ++ rest, e.isOf s = true := by
  have step : ∀ es : List Deed, (∀ e ∈ es, e.session? = some s) → ∀ e ∈ es, e.isOf s = true :=
    fun es h e he => beq_iff_eq.mpr (h e he)
  apply step
  simp only [written]
  split <;> cases ends with
    | inl first => simp [first, Deed.session?]
    | inr second => simp [second, Deed.session?]

/-- All that a transfer can have done: nothing, something that is not committed, or everything. -/
theorem cases_of_always {deeds : List Deed} (h : (conduct r).always deeds) :
    deeds = [] ∨ (∃ s, Uncommitted s deeds) ∨ ∃ s res, Records r res ∧
      ∃ rest, deeds = written r s res ++ rest ∧
        (rest = [.committed s] ∨ rest = [.committed s, .abandoned s]) := by
  cases h with
  | inl empty => exact .inl empty
  | inr later =>
      cases later with
      | inl open_ => exact .inr (.inl open_)
      | inr whole =>
          obtain ⟨s, work, res, ⟨rfl, records⟩, ends⟩ := whole
          refine .inr (.inr ⟨s, res, records, ?_⟩)
          cases ends with
          | inl first => exact ⟨_, first, .inl rfl⟩
          | inr second => exact ⟨_, second.trans (List.append_assoc _ _ _), .inr rfl⟩

theorem fits_written (valid : r.Valid) {t : SessionId} {delta : Decimal} {row : Account}
    (h : .changedBalance t delta row ∈ written r s res) : delta.FitsColumn := by
  have debit := Decimal.fitsColumn_neg valid.fits
  simp only [written] at h
  split at h <;> simp at h
  · cases h with
    | inl source => exact source.2.1 ▸ debit
    | inr destination => exact destination.2.1 ▸ valid.fits
  · cases h with
    | inl destination => exact destination.2.1 ▸ valid.fits
    | inr source => exact source.2.1 ▸ debit

variable {ds rest : List Deed}

/-- What a transfer has drawn in its session. -/
theorem of_written (h : ds.filter (·.isOf s) = written r s res ++ rest)
    (ends : rest = [.committed s] ∨ rest = [.committed s, .abandoned s]) :
    Drawing.entries.of ds s = [res.fromEntry, res.toEntry] ∧
      Drawing.transactions.of ds s = [res.transaction] := by
  rw [← Drawing.of_filter Drawing.session_entries, ← Drawing.of_filter Drawing.session_transactions,
    h]
  simp only [written, Drawing.of, Drawing.all]
  split <;> cases ends with
    | inl first => simp [first, Drawing.entries, Drawing.transactions]
    | inr second => simp [second, Drawing.entries, Drawing.transactions]

end Transfer

namespace Traffic

variable {w : Traffic}

/-- A client knows of the commits of its sessions what the store knows. -/
theorem count_commits (h : w.Coherent) {x : AnyClient} (hx : x ∈ w.clients) {s : SessionId}
    (hs : s ∈ x.2.begun) :
    (Books.commits x.2.deeds).count s = (Books.commits w.desk.deeds).count s := by
  have same : (Books.commits x.2.deeds).filter (· == s) =
      (Books.commits w.desk.deeds).filter (· == s) := by
    rw [← Books.commits_filter, ← h.same x hx s hs, Books.commits_filter]
  rw [List.count_eq_length_filter, List.count_eq_length_filter, same]

/-- Each commit is the commit of one client, and of that client once. -/
theorem commits_perm (h : w.Coherent) :
    (Books.commits w.desk.deeds).Perm (w.clients.flatMap fun x => Books.commits x.2.deeds) := by
  have own : ∀ x ∈ w.clients, ∀ s ∈ Books.commits x.2.deeds, s ∈ x.2.begun := fun x hx s hs =>
    h.owned x hx _ (Books.mem_commits.mp hs) s rfl
  have distinct := Books.commits_nodup h.order.lawful
  refine (List.perm_ext_iff_of_nodup distinct ?_).mpr fun s => ?_
  · -- No client knows a commit twice, and no two clients know the same one.
    refine List.nodup_flatMap.mpr ⟨fun x hx => ?_, ?_⟩
    · refine List.nodup_iff_count_le_one.mpr fun s => ?_
      by_cases hs : s ∈ Books.commits x.2.deeds
      · rw [count_commits h hx (own x hx s hs)]
        exact List.nodup_iff_count_le_one.mp distinct s
      · rw [List.count_eq_zero_of_not_mem hs]
        exact Nat.zero_le 1
    · refine List.pairwise_iff_getElem.mpr fun i j hi hj lt s hs hs' => ?_
      have first := own _ (List.getElem_mem hi) s hs
      have second := own _ (List.getElem_mem hj) s hs'
      exact h.apart i j _ _ (Nat.ne_of_lt lt) (List.getElem?_eq_getElem hi)
        (List.getElem?_eq_getElem hj) s first second
  · rw [List.mem_flatMap]
    constructor
    · intro hs
      obtain ⟨x, hx, mine⟩ := h.known _ (Books.mem_commits.mp hs)
      exact ⟨x, hx, Books.mem_commits.mpr mine⟩
    · rintro ⟨x, hx, hs⟩
      rw [← List.count_pos_iff, ← count_commits h hx (own x hx s hs), List.count_pos_iff]
      exact hs

/-- The committed transactions are those that the clients have kept. -/
theorem transactions_perm (h : w.Coherent) : w.tables.transactions.Perm
    (w.clients.flatMap fun x => Drawing.transactions.kept x.2.deeds) := by
  have lawful := h.order.lawful
  have same : ∀ x ∈ w.clients, ∀ s ∈ Books.commits x.2.deeds,
      Drawing.transactions.of w.desk.deeds s = Drawing.transactions.of x.2.deeds s := by
    intro x hx s hs
    have own := h.owned x hx _ (Books.mem_commits.mp hs) s rfl
    rw [← Drawing.of_filter Drawing.session_transactions, h.same x hx s own,
      Drawing.of_filter Drawing.session_transactions]
  rw [tables_eq h]
  refine (Drawing.rows_perm Drawing.regular_transactions lawful).trans ?_
  refine ((commits_perm h).flatMap_right _).trans (List.Perm.of_eq ?_)
  rw [List.flatMap_assoc]
  exact List.flatMap_congr fun x hx => List.flatMap_congr (same x hx)

theorem program_step {P : (α : Type) → Program (Timed LedgerStore) α → Prop}
    (h : ∀ x ∈ w.clients, P x.1 x.2.program) {choice : Choice} (starts : choice.Starts P) :
    ∀ x ∈ (w.step choice).clients, P x.1 x.2.program := by
  cases choice with
  | spawn p =>
      intro x hx
      cases List.mem_append.mp hx with
      | inl old => exact h x old
      | inr new =>
          cases List.mem_singleton.mp new
          exact starts
  | turn i t =>
      simp only [step]
      split
      · exact h
      · rename_i α c there
        split
        · exact h
        · rename_i c' d' turned
          have same := Client.program_turned (Client.turned_of_turn turned)
          intro x hx
          cases List.mem_or_eq_of_mem_set hx with
          | inl old => exact h x old
          | inr new =>
              cases new
              change P α c'.program
              rw [same]
              exact h ⟨α, c⟩ (List.mem_of_getElem? there)

theorem program_runFrom {P : (α : Type) → Program (Timed LedgerStore) α → Prop}
    (h : ∀ x ∈ w.clients, P x.1 x.2.program) {choices : List Choice}
    (starts : ∀ choice ∈ choices, choice.Starts P) :
    ∀ x ∈ (w.runFrom choices).clients, P x.1 x.2.program := by
  induction choices generalizing w with
  | nil => exact h
  | cons choice choices ih =>
      refine ih (program_step h (starts choice List.mem_cons_self)) ?_
      exact fun c hc => starts c (List.mem_cons_of_mem choice hc)

/-- What a client of the ledger has done: nothing in sessions, or what a transfer does. -/
theorem deeds_of_ledger {x : AnyClient} (conducted : Conducted x)
    (ledger : LedgerProgram x.1 x.2.program) :
    (∀ e ∈ x.2.deeds, e.session? = none) ∨
      (∃ s, Uncommitted s x.2.deeds) ∨ ∃ s r res, Transfer.Records r res ∧
        ∃ rest, x.2.deeds = Transfer.written r s res ++ rest ∧
          (rest = [.committed s] ∨ rest = [.committed s, .abandoned s]) := by
  obtain ⟨α, c⟩ := x
  have keeps := conducted
  generalize hp : c.program = p at ledger
  cases ledger with
  | queries asks =>
      refine .inl (Client.always_of_follows Conduct.closed_queries (keeps .queries ?_))
      change c.program.Follows _ _
      rw [hp]
      exact Program.follows_queries asks fun _ no => by cases no
  | transfer u cancelAt r =>
      have follows := keeps (Transfer.conduct r) (hp ▸ Transfer.follows_transfer u cancelAt r)
      cases Transfer.cases_of_always
        (Client.always_of_follows (UnitOfWork.closed_conduct _) follows) with
      | inl empty =>
          refine .inl fun e he => ?_
          rw [show c.deeds = [] from empty] at he
          cases he
      | inr later =>
          cases later with
          | inl open_ => exact .inr (.inl open_)
          | inr whole =>
              obtain ⟨s, res, whole⟩ := whole
              exact .inr (.inr ⟨s, r, res, whole⟩)

/-- All clients are clients of a ledger, and what the store records of them is what they do. -/
structure IsLedger (w : Traffic) : Prop where
  coherent : w.Coherent
  conducted : ∀ x ∈ w.clients, Conducted x
  programs : ∀ x ∈ w.clients, LedgerProgram x.1 x.2.program

theorem isLedger_run {choices : List Choice}
    (starts : ∀ choice ∈ choices, choice.Starts LedgerProgram) : (run choices).IsLedger where
  coherent := coherent_run choices
  conducted := conducted_run choices
  programs := program_runFrom (fun _ no => by cases no) starts

/-- The deeds of a session that has committed are a whole transfer. -/
theorem exists_written (h : w.IsLedger) {s : SessionId} (hs : s ∈ Books.commits w.desk.deeds) :
    ∃ r res, Transfer.Records r res ∧
      ∃ rest, w.desk.deeds.filter (·.isOf s) = Transfer.written r s res ++ rest ∧
        (rest = [.committed s] ∨ rest = [.committed s, .abandoned s]) := by
  have done_ := Books.mem_commits.mp hs
  obtain ⟨x, hx, mine⟩ := h.coherent.known _ done_
  cases deeds_of_ledger (h.conducted x hx) (h.programs x hx) with
  | inl outside => cases outside _ mine
  | inr later =>
      cases later with
      | inl open_ =>
          obtain ⟨t, uncommitted⟩ := open_
          cases uncommitted.quiet mine
      | inr whole =>
          obtain ⟨t, r, res, records, rest, shape, ends⟩ := whole
          have session := Transfer.isOf_written r res ends
          rw [← shape] at session
          have same : s = t := Option.some.inj (eq_of_beq (session _ mine))
          subst same
          refine ⟨r, res, records, rest, ?_, ends⟩
          rw [h.coherent.same x hx s (h.coherent.owned x hx _ mine s rfl), ← shape]
          exact List.filter_eq_self.mpr session

/-- All deltas of the ledger's clients fit. -/
theorem fits_of_ledger (h : w.IsLedger) {s : SessionId} {delta : Decimal} {row : Account}
    (hd : .changedBalance s delta row ∈ w.desk.deeds) : delta.FitsColumn := by
  obtain ⟨x, hx, mine⟩ := h.coherent.known _ hd
  cases deeds_of_ledger (h.conducted x hx) (h.programs x hx) with
  | inl outside => cases outside _ mine
  | inr later =>
      cases later with
      | inl open_ =>
          obtain ⟨t, uncommitted⟩ := open_
          have cases_ := uncommitted.cases_mem mine
          simp [Deed.IsWork] at cases_
          exact cases_.2
      | inr whole =>
          obtain ⟨t, r, res, records, rest, shape, ends⟩ := whole
          rw [shape] at mine
          cases List.mem_append.mp mine with
          | inl wrote => exact Transfer.fits_written records.valid wrote
          | inr ended => cases ends with
            | inl first => simp [first] at ended
            | inr second => simp [second] at ended

end Traffic
end DoubleEntry
