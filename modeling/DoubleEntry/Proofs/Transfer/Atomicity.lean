import DoubleEntry.Proofs.Transfer.Sessions

/-!
A transfer happens as a whole or not at all. It gives a result if and only if it has committed; then
one of its steps has published all that the result says, and no other step of it has published
anything. However it ends, nothing of its session is left.
-/

namespace DoubleEntry

/-- What a result says was written is committed. -/
structure TransferResult.IsRecorded (res : TransferResult) (t : Tables) : Prop where
  transaction : res.transaction ∈ t.transactions
  fromEntry : res.fromEntry ∈ t.entries
  toEntry : res.toEntry ∈ t.entries

/-- The committed accounts are those of a result. -/
structure TransferResult.IsCurrent (res : TransferResult) (r : TransferRequest) (t : Tables) :
    Prop where
  source : Table.find? r.fromId t.accounts = some res.fromAccount
  destination : Table.find? r.toId t.accounts = some res.toAccount

namespace Books

theorem present_filter (ds : List Deed) (s : SessionId) :
    present (ds.filter (·.isOf s)) s = present ds s := by
  have from_ : ∀ was, (ds.filter (·.isOf s)).foldl (Deed.there s) was =
      ds.foldl (Deed.there s) was := by
    induction ds with
    | nil => exact fun _ => rfl
    | cons d ds ih =>
        intro was
        by_cases mine : d.isOf s = true
        · rw [List.filter_cons_of_pos mine]
          exact ih _
        · have still : Deed.there s was d = was := by
            cases d <;> simp_all [Deed.isOf, Deed.session?, Deed.there]
          rw [List.filter_cons_of_neg mine, List.foldl_cons, still]
          exact ih was
  exact from_ false

/-- A draft that is committed is what is committed then. -/
theorem find?_committed {b : Books} {s : SessionId} {x : Session} (h : b.Sound)
    (hx : b.drafts s = some x) {row : Account} (hr : row ∈ x.accounts) :
    Table.find? row.id (b.after (.committed s)).tables.accounts = some row := by
  obtain ⟨_, c, hc, shape⟩ := h.drafted s x hx row hr
  have id : c.id = row.id := Table.id_of_find? hc
  have staged : Table.find? c.id x.accounts = some row := by
    rw [id]
    exact Table.find?_of_mem (h.sorted s x hx) hr
  rw [accounts_committed h hx, Table.find?_map (fun c => Account.id_settled x.accounts c), hc,
    Option.map_some, Account.settled_of_find? staged]
  exact congrArg some shape.symm

end Books

namespace Transfer

open UnitOfWork

variable {u : UnitOfWork} {cancelAt : Option Nat} {r : TransferRequest} {res : TransferResult}
variable {s : SessionId} {c : Client (Except LedgerError TransferResult)} {deeds : List Deed}

/-- The accounts that a transfer stages. -/
def staged (r : TransferRequest) (source destination : Account) : List Account :=
  (if r.fromId < r.toId then [source, destination] else [destination, source]).foldl
    (fun rows row => Table.insert row rows) []

theorem find?_staged {source destination : Account} (apart : r.fromId ≠ r.toId)
    (debit : source.id = r.fromId) (credit : destination.id = r.toId) :
    Table.find? r.fromId (staged r source destination) = some source ∧
      Table.find? r.toId (staged r source destination) = some destination := by
  have both : ∀ {a b : Account}, a.id ≠ b.id →
      Table.find? a.id ([a, b].foldl (fun rows row => Table.insert row rows) []) = some a ∧
        Table.find? b.id ([a, b].foldl (fun rows row => Table.insert row rows) []) = some b := by
    intro a b ne
    refine ⟨?_, (Table.find?_insert b.id b _).trans (if_pos rfl)⟩
    refine (Table.find?_insert a.id b _).trans ((if_neg (Ne.symm ne)).trans ?_)
    exact (Table.find?_insert a.id a []).trans (if_pos rfl)
  rw [← debit, ← credit] at apart
  simp only [staged]
  split
  · rw [← debit, ← credit]
    exact both apart
  · rw [← debit, ← credit]
    exact (both (Ne.symm apart)).symm

/-- What a transfer has written in its session it has staged there. -/
theorem accounts_of_written {ds : List Deed} {x : Session} (lawful : Books.Lawful ds)
    (hx : (Books.replay ds).drafts s = some x) (whole : ds.filter (·.isOf s) = written r s res) :
    x.accounts = staged r res.fromAccount res.toAccount := by
  have changes : Books.changes (written r s res) s =
      if r.fromId < r.toId then [res.fromAccount, res.toAccount]
      else [res.toAccount, res.fromAccount] := by
    simp only [written, Books.changes]
    split <;> simp [Books.change?, List.filterMap_cons]
  rw [Books.accounts_of_drafts lawful hx, ← Books.changes_filter, whole, changes, staged]

/-- The commit of what a transfer has written leaves the accounts of its result. -/
theorem isCurrent_of_written {ds : List Deed} {x : Session} (lawful : Books.Lawful ds)
    (hx : (Books.replay ds).drafts s = some x) (records : Records r res)
    (whole : ds.filter (·.isOf s) = written r s res) :
    res.IsCurrent r ((Books.replay ds).after (.committed s)).tables := by
  have accounts := accounts_of_written lawful hx whole
  have ⟨source, destination⟩ :=
    find?_staged records.valid.apart records.source records.destination
  rw [← accounts] at source destination
  have sound := Books.sound_replay lawful
  have first := Books.find?_committed sound hx (Table.mem_of_find? source)
  have second := Books.find?_committed sound hx (Table.mem_of_find? destination)
  rw [records.source] at first
  rw [records.destination] at second
  exact ⟨first, second⟩

theorem follows_of_conducted (conducted : Traffic.Conducted ⟨_, c⟩)
    (runs : c.program = transfer u cancelAt r) : c.Follows (conduct r) :=
  conducted (conduct r) (runs ▸ follows_transfer u cancelAt r)

theorem always_of_conducted (conducted : Traffic.Conducted ⟨_, c⟩)
    (runs : c.program = transfer u cancelAt r) : (conduct r).always c.deeds :=
  Client.always_of_follows (closed_conduct _) (follows_of_conducted conducted runs)

/-- Of all that a transfer does, only its commit is seen by others. -/
theorem committed_of_publishes (h : (conduct r).always deeds) {e : Deed} (he : e ∈ deeds)
    (seen : e.publishes = true) : ∃ s, e = .committed s := by
  cases cases_of_always h with
  | inl empty =>
      rw [empty] at he
      cases he
  | inr later =>
      cases later with
      | inl open_ =>
          obtain ⟨s, uncommitted⟩ := open_
          rw [uncommitted.quiet he] at seen
          cases seen
      | inr whole =>
          obtain ⟨s, res, _, rest, rfl, ends⟩ := whole
          have session : e.session? = some s := eq_of_beq (isOf_written r res ends e he)
          cases e with
          | committed t => exact ⟨t, rfl⟩
          | opened account => cases session
          | deleted a => cases session
          | _ => cases seen

/-- What a transfer that has committed has done. -/
theorem written_of_committed (h : (conduct r).always deeds) (hs : .committed s ∈ deeds) :
    ∃ res rest, Records r res ∧ deeds = written r s res ++ rest ∧
      (rest = [.committed s] ∨ rest = [.committed s, .abandoned s]) := by
  obtain ⟨t, _, res, ⟨rfl, records⟩, rest, shape, ends⟩ := work_of_committed h hs
  have session := isOf_written r res ends
  rw [← shape] at session
  have same : s = t := Option.some.inj (eq_of_beq (session _ hs))
  subst same
  exact ⟨res, rest, records, shape, ends⟩

/-- How a transfer has ended. -/
theorem cases_of_over (h : c.Follows (conduct r)) (isOver : c.stage.isOver = true) :
    (∃ res s, c.stage = .running (.done (.ok res)) ∧ Records r res ∧
      c.deeds = written r s res ++ [.committed s, .abandoned s]) ∨
    (∀ res, c.stage ≠ .running (.done (.ok res))) ∧
      (c.deeds = [] ∨ ∃ s, Uncommitted s c.deeds ∧ .abandoned s ∈ c.deeds) := by
  simp only [Client.Follows] at h
  cases stage : c.stage with
  | waiting ticket q next =>
      rw [stage] at isOver
      cases isOver
  | dropped =>
      rw [stage] at h
      obtain ⟨history, always, mayDrop, deeds⟩ := h
      refine .inr ⟨(fun res no => by cases no), ?_⟩
      cases mayDrop with
      | inl empty =>
          rw [empty] at deeds
          exact .inl deeds
      | inr open_ =>
          obtain ⟨s, uncommitted⟩ := open_
          rw [deeds]
          exact .inr ⟨s, uncommitted.dropped⟩
  | running p =>
      rw [stage] at h isOver
      cases p with
      | done outcome =>
          cases outcome with
          | ok res =>
              obtain ⟨s, work, ⟨rfl, records⟩, deeds⟩ := h.2
              exact .inl ⟨res, s, rfl, records, deeds.trans (List.append_assoc _ _ _)⟩
          | error e => exact .inr ⟨(fun res no => by cases no), h.2⟩
      | halt o => cases isOver
      | note n next => cases isOver
      | ask q next => cases isOver

/-- A transfer that is over without a result has not committed. -/
theorem committed_not_mem (failed : c.deeds = [] ∨
    ∃ s, Uncommitted s c.deeds ∧ .abandoned s ∈ c.deeds) (s : SessionId) :
    .committed s ∉ c.deeds := by
  intro done_
  cases failed with
  | inl empty =>
      rw [empty] at done_
      cases done_
  | inr open_ =>
      obtain ⟨t, uncommitted, _⟩ := open_
      cases uncommitted.quiet done_

/-- A transfer that is over has ended the session that it has begun. -/
theorem ended_of_over (h : c.Follows (conduct r)) (isOver : c.stage.isOver = true) :
    c.deeds = [] ∨ ∃ s rest, c.deeds = .began s :: rest ∧ .abandoned s ∈ rest ∧
      ∀ e ∈ rest, e.begun? = none := by
  cases cases_of_over h isOver with
  | inl ok =>
      obtain ⟨res, s, _, _, deeds⟩ := ok
      have shape : c.deeds =
          .began s :: ((written r s res).tail ++ [.committed s, .abandoned s]) := deeds
      refine .inr ⟨s, _, shape, ?_, ?_⟩
      · exact List.mem_append_right _ (List.mem_cons_of_mem _ (List.mem_singleton_self _))
      · simp only [written]
        split <;> simp [Deed.begun?]
  | inr failed =>
      cases failed.2 with
      | inl empty => exact .inl empty
      | inr open_ =>
          obtain ⟨s, ⟨rest, shape, work⟩, ended⟩ := open_
          rw [shape] at ended
          refine .inr ⟨s, rest, shape, ?_, ?_⟩
          · cases List.mem_cons.mp ended with
            | inl no => cases no
            | inr later => exact later
          · intro e he
            have cases_ := work e he
            cases e <;> simp_all [Deed.IsWork, Deed.begun?]

/-- The deeds of a transfer determine its result. -/
theorem written_inj {s s' : SessionId} {res res' : TransferResult} {tail tail' : List Deed}
    (h : written r s res ++ tail = written r s' res' ++ tail') :
    s = s' ∧ res = res' ∧ tail = tail' := by
  cases res
  cases res'
  simp only [written] at h
  split at h <;> simp_all

/-- A transfer that has committed was not cancelled from the outset, and the log could take the
balances that it has made. -/
theorem open_of_committed (conducted : Traffic.Conducted ⟨_, c⟩)
    (runs : c.program = transfer u cancelAt r) {rest : List Deed}
    (shape : c.deeds = written r s res ++ rest) (hs : .committed s ∈ c.deeds) :
    cancelAt ≠ some 0 ∧ Loggable u.verbose res := by
  have always := Client.always_of_follows (closed_conduct _)
    (conducted _ (runs ▸ follows_transfer_open u cancelAt r))
  obtain ⟨t, _, res', ⟨rfl, opened, loggable⟩, _, shape', _⟩ := work_of_committed always hs
  obtain ⟨_, rfl, _⟩ := written_inj (shape.symm.trans shape')
  exact ⟨opened, loggable⟩

end Transfer

namespace Traffic

variable {w : Traffic} {i : Nat}

/-- The deeds of a session are those of the client that has begun it. -/
theorem filter_of_began (h : w.Coherent) {α : Type} {c : Client α}
    (hc : w.clients[i]? = some ⟨α, c⟩) {s : SessionId} (begun : .began s ∈ c.deeds)
    (all : ∀ e ∈ c.deeds, e.isOf s = true) : w.desk.deeds.filter (·.isOf s) = c.deeds := by
  rw [h.same ⟨α, c⟩ (List.mem_of_getElem? hc) s (List.mem_filterMap.mpr ⟨_, begun, rfl⟩)]
  exact List.filter_eq_self.mpr all

/-- A turn without a commit, or the like, leaves alone what is committed. -/
theorem content_turn (h : w.Coherent) {t : Turn} {α : Type} {c₀ c₁ : Client α}
    (h₀ : w.clients[i]? = some ⟨α, c₀⟩)
    (turned : Client.Turned c₀ w.desk c₁ (w.step (.turn i t)).desk)
    (quiet : ∀ ds, c₁.deeds = c₀.deeds ++ ds → ∀ e ∈ ds, e.publishes = false) :
    (w.step (.turn i t)).tables.content = w.tables.content := by
  obtain ⟨ds, adds, all⟩ := adds_of_turned h h₀ turned
  rw [tables_eq (coherent_step h (.turn i t)), tables_eq h, all]
  exact Books.content_append _ (quiet ds adds.deeds)

theorem run_snoc (before : List Choice) (choice : Choice) :
    run (before ++ [choice]) = (run before).step choice :=
  runFrom_append {} before [choice]

/-- What is done in a turn is done before every later one. -/
theorem prefix_of_later {before between : List Choice} {t : Turn} {α : Type} {c₁ c : Client α}
    (h₁ : ((run before).step (.turn i t)).clients[i]? = some ⟨α, c₁⟩)
    (hc : (run (before ++ .turn i t :: between)).clients[i]? = some ⟨α, c⟩) :
    c₁.deeds <+: c.deeds := by
  rw [run_split] at hc
  obtain ⟨k, hk, deeds, _⟩ := client_runFrom h₁ between
  rw [hc] at hk
  cases hk
  exact deeds

/-- What a transfer that has committed says is committed. -/
theorem isRecorded_of_written (h : w.Coherent) {r : TransferRequest} {res : TransferResult}
    {s : SessionId} {rest : List Deed} {α : Type} {c : Client α}
    (hc : w.clients[i]? = some ⟨α, c⟩) (shape : c.deeds = Transfer.written r s res ++ rest)
    (ends : rest = [.committed s] ∨ rest = [.committed s, .abandoned s]) :
    res.IsRecorded w.tables := by
  have session := Transfer.isOf_written r res ends
  have whole : w.desk.deeds.filter (·.isOf s) = Transfer.written r s res ++ rest := by
    rw [← shape]
    apply filter_of_began h hc
    · rw [shape]
      exact List.mem_cons_self
    · rw [shape]
      exact session
  have ⟨entries, transactions⟩ := Transfer.of_written whole ends
  have committed : s ∈ Books.commits w.desk.deeds := by
    have mem : .committed s ∈ w.desk.deeds.filter (·.isOf s) := by
      rw [whole]
      cases ends with
      | inl first => simp [first]
      | inr second => simp [second]
    exact Books.mem_commits.mpr (List.mem_filter.mp mem).1
  have lawful := h.order.lawful
  rw [tables_eq h]
  refine ⟨?_, ?_, ?_⟩
  · apply Drawing.mem_rows Drawing.regular_transactions lawful committed
    rw [transactions]
    exact List.mem_singleton_self _
  · apply Drawing.mem_rows Drawing.regular_entries lawful committed
    rw [entries]
    exact List.mem_cons_self
  · apply Drawing.mem_rows Drawing.regular_entries lawful committed
    rw [entries]
    exact List.mem_cons_of_mem _ (List.mem_singleton_self _)

/-- Right after the commit of a transfer the committed accounts are those of its result. -/
theorem isCurrent_of_commit (h : w.Coherent) {r : TransferRequest} {res : TransferResult}
    (records : Transfer.Records r res) {s : SessionId} {α : Type} {c : Client α}
    (hc : w.clients[i]? = some ⟨α, c⟩) (shape : c.deeds = Transfer.written r s res)
    (allowed : (Books.replay w.desk.deeds).Allows (.committed s)) :
    res.IsCurrent r ((Books.replay w.desk.deeds).after (.committed s)).tables := by
  have lawful := h.order.lawful
  have ⟨x, hx, _⟩ := allowed
  have whole : w.desk.deeds.filter (·.isOf s) = Transfer.written r s res := by
    rw [← shape]
    apply filter_of_began h hc
    · rw [shape]
      exact List.mem_cons_self
    · intro e he
      rw [shape] at he
      exact Transfer.isOf_written r res (.inl rfl) e (List.mem_append_left _ he)
  exact Transfer.isCurrent_of_written lawful hx records whole

variable {u : UnitOfWork} {cancelAt : Option Nat} {r : TransferRequest}
variable {choices before after : List Choice} {t : Turn}
variable {c : Client (Except LedgerError TransferResult)}

/-- A turn of a transfer in which it does not commit publishes nothing. -/
theorem content_of_quiet (split : choices = before ++ .turn i t :: after)
    (hc : (run choices).clients[i]? = some ⟨_, c⟩)
    (runs : c.program = Transfer.transfer u cancelAt r)
    (quiet : ∀ (c₀ c₁ : Client (Except LedgerError TransferResult)) (ds : List Deed),
      (run before).clients[i]? = some ⟨_, c₀⟩ →
      ((run before).step (.turn i t)).clients[i]? = some ⟨_, c₁⟩ →
      c₁.deeds = c₀.deeds ++ ds → c₁.deeds <+: c.deeds → ∀ s, .committed s ∉ ds) :
    ((run before).step (.turn i t)).tables.content = (run before).tables.content := by
  cases turn_of_run split hc with
  | inl same => rw [same]
  | inr took =>
      obtain ⟨c₀, c₁, h₀, h₁, turned, deeds, program⟩ := took
      apply content_turn (coherent_run before) h₀ turned
      intro ds mine e he
      have conducted := conducted_run (before ++ [.turn i t])
      rw [run_snoc] at conducted
      have always := Transfer.always_of_conducted (conducted _ (List.mem_of_getElem? h₁))
        (program.symm.trans runs)
      cases seen : e.publishes with
      | false => rfl
      | true =>
          have done_ : e ∈ c₁.deeds := by
            rw [mine]
            exact List.mem_append_right _ he
          obtain ⟨s, rfl⟩ := Transfer.committed_of_publishes always done_ seen
          exact absurd he (quiet c₀ c₁ ds h₀ h₁ mine deeds s)

theorem committed_not_mem_written (r : TransferRequest) (s t : SessionId) (res : TransferResult) :
    .committed t ∉ Transfer.written r s res := by
  simp only [Transfer.written]
  split <;> simp

/-- Before its commit a transfer has written everything, and nothing else. -/
theorem written_before_commit {s t : SessionId} {res : TransferResult} {xs tail rest : List Deed}
    (h : xs ++ .committed t :: tail = Transfer.written r s res ++ rest)
    (ends : rest = [.committed s] ∨ rest = [.committed s, .abandoned s]) :
    xs = Transfer.written r s res := by
  cases List.append_eq_append_iff.mp h with
  | inl longer =>
      obtain ⟨between, wrote, tail⟩ := longer
      cases between with
      | nil => exact (wrote.trans (List.append_nil xs)).symm
      | cons e between =>
          cases (List.cons.inj tail).1
          refine absurd ?_ (committed_not_mem_written r s t res)
          rw [wrote]
          exact List.mem_append_right _ List.mem_cons_self
  | inr shorter =>
      obtain ⟨between, wrote, tail⟩ := shorter
      cases between with
      | nil => exact wrote.trans (List.append_nil _)
      | cons e between =>
          have mem : .committed t ∈ rest.tail := by
            rw [tail]
            exact List.mem_append_right _ List.mem_cons_self
          cases ends with
          | inl first => simp [first] at mem
          | inr second => simp [second] at mem

/-- A transfer that gives a result has committed in one of its turns. -/
theorem commit_of_result (hc : (run choices).clients[i]? = some ⟨_, c⟩) {s : SessionId}
    {res : TransferResult}
    (shape : c.deeds = Transfer.written r s res ++ [.committed s, .abandoned s]) :
    ∃ before t after, choices = before ++ .turn i t :: after ∧
      ∃ c₀ c₁ : Client (Except LedgerError TransferResult),
        (run before).clients[i]? = some ⟨_, c₀⟩ ∧
        ((run before).step (.turn i t)).clients[i]? = some ⟨_, c₁⟩ ∧
        c₀.deeds = Transfer.written r s res ∧
        c₁.deeds = Transfer.written r s res ++ [.committed s] ∧
        ((run before).step (.turn i t)).desk.deeds = (run before).desk.deeds ++ [.committed s] := by
  have done_ : .committed s ∈ c.deeds := by
    rw [shape]
    exact List.mem_append_right _ List.mem_cons_self
  obtain ⟨before, t, after, split, notYet, c₁, h₁, now⟩ :=
    exists_turn_of_mem (w := {}) hc done_ fun _ no => by cases no
  refine ⟨before, t, after, split, ?_⟩
  cases turn_of_run split hc with
  | inl same =>
      change ((run before).step (.turn i t)).clients[i]? = some ⟨_, c₁⟩ at h₁
      rw [same] at h₁
      exact absurd now (notYet c₁ h₁)
  | inr took =>
      obtain ⟨c₀, k, h₀, hk, turned, deeds, _⟩ := took
      change ((run before).step (.turn i t)).clients[i]? = some ⟨_, c₁⟩ at h₁
      rw [hk] at h₁
      cases h₁
      obtain ⟨ds, adds, all⟩ := adds_of_turned (coherent_run before) h₀ turned
      have mine := adds.deeds
      have new : .committed s ∈ ds := by
        rw [mine] at now
        exact (List.mem_append.mp now).resolve_left (notYet c₀ h₀)
      have one : ds = [.committed s] := by
        cases adds.single _ new with
        | inl one => exact one
        | inr no =>
            obtain ⟨_, no⟩ := no
            cases no
      obtain ⟨tail, whole⟩ := deeds
      rw [mine, one, shape, List.append_assoc] at whole
      have first : c₀.deeds = Transfer.written r s res := written_before_commit whole (.inr rfl)
      exact ⟨c₀, c₁, h₀, hk, first, by rw [mine, one, first], by rw [all, one]⟩

/-- A transfer commits in one turn only. -/
theorem split_unique {s s' : SessionId} {res : TransferResult}
    {c₀ c₁ k₀ k₁ : Client (Except LedgerError TransferResult)}
    {before' after' : List Choice} {t' : Turn} {ds : List Deed}
    (h₀ : (run before).clients[i]? = some ⟨_, c₀⟩)
    (h₁ : ((run before).step (.turn i t)).clients[i]? = some ⟨_, c₁⟩)
    (deeds₀ : c₀.deeds = Transfer.written r s res)
    (deeds₁ : c₁.deeds = Transfer.written r s res ++ [.committed s])
    (shape : c.deeds = Transfer.written r s res ++ [.committed s, .abandoned s])
    (hk₀ : (run before').clients[i]? = some ⟨_, k₀⟩)
    (hk₁ : ((run before').step (.turn i t')).clients[i]? = some ⟨_, k₁⟩)
    (more : k₁.deeds = k₀.deeds ++ ds) (deeds : k₁.deeds <+: c.deeds) (mem : .committed s' ∈ ds)
    (split : choices = before ++ .turn i t :: after)
    (split' : choices = before' ++ .turn i t' :: after') : before' = before := by
  cases List.append_eq_append_iff.mp (split.symm.trans split') with
  | inl later =>
      obtain ⟨between, same, rest⟩ := later
      cases between with
      | nil => exact same.trans (List.append_nil before)
      | cons choice between =>
          -- The later turn would find the whole of the body and the commit done before it.
          cases rest
          rw [same] at hk₀
          have short := (prefix_of_later h₁ hk₀).length_le
          obtain ⟨xs, ys, rfl⟩ := List.append_of_mem mem
          obtain ⟨tail, whole⟩ := deeds
          rw [more, shape, ← List.append_assoc, List.append_assoc] at whole
          have written := congrArg List.length (written_before_commit whole (.inr rfl))
          rw [deeds₁, List.length_append] at short
          simp only [List.length_append, List.length_singleton] at written short
          omega
  | inr earlier =>
      obtain ⟨between, same, rest⟩ := earlier
      cases between with
      | nil => exact (same.trans (List.append_nil before')).symm
      | cons choice between =>
          cases rest
          rw [same] at h₀
          have early := prefix_of_later hk₁ h₀
          rw [deeds₀] at early
          refine absurd (early.subset ?_) (committed_not_mem_written r s s' res)
          rw [more]
          exact List.mem_append_right _ mem

/-- The store has nothing of a session that its client has ended. -/
theorem session?_of_ended (h : w.Coherent) (present : w.desk.Present) {α : Type} {c : Client α}
    (hc : w.clients[i]? = some ⟨α, c⟩)
    (ended : c.deeds = [] ∨ ∃ s rest, c.deeds = .began s :: rest ∧ .abandoned s ∈ rest ∧
      ∀ e ∈ rest, e.begun? = none) : ∀ s ∈ c.begun, w.desk.store.session? s = none := by
  intro s hs
  cases ended with
  | inl empty =>
      simp only [Client.begun, empty] at hs
      cases hs
  | inr some_ =>
      obtain ⟨t, rest, shape, abandoned, never⟩ := some_
      have mine : s = t := by
        have first : (Deed.began t :: rest).filterMap Deed.begun? =
            t :: rest.filterMap Deed.begun? := rfl
        rw [Client.begun, shape, first, List.filterMap_eq_nil_iff.mpr never] at hs
        exact List.mem_singleton.mp hs
      subst mine
      have filtered : Books.present w.desk.deeds s = false := by
        rw [← Books.present_filter, h.same ⟨α, c⟩ (List.mem_of_getElem? hc) s hs,
          Books.present_filter, shape]
        apply Books.foldl_there_of_abandoned abandoned
        intro e he same
        have no := never e he
        rw [same] at no
        cases no
      have known := present s
      rw [filtered] at known
      exact Option.isSome_eq_false_iff.mp known |> Option.isNone_iff_eq_none.mp

/-- Every lock is then held, or waited for, by someone else. -/
theorem ticket_of_others (h : w.Coherent) {α : Type} {c : Client α}
    (hc : w.clients[i]? = some ⟨α, c⟩) (isOver : c.stage.isOver = true)
    (gone : ∀ s ∈ c.begun, w.desk.store.session? s = none) :
    ∀ k ∈ w.desk.store.locks.tickets,
      (∃ p ∈ w.desk.store.sessions, p.1 ∉ c.begun ∧ (k.account, k.number) ∈ p.2.guards) ∨
      ∃ p ∈ w.desk.waiting, p.ticket = k.number ∧
        ∀ s ∈ c.begun, p.request.session? ≠ some s := by
  intro k hk
  by_cases holding : k.standing = .holding
  · left
    have held := LockTable.mem_held.mpr ⟨k, hk, holding, rfl⟩
    have guarded := h.order.store.held.mem_iff.mp held
    rw [List.nil_append] at guarded
    obtain ⟨p, hp, there⟩ := List.mem_flatMap.mp guarded
    refine ⟨p, hp, fun mine => ?_, there⟩
    have known := MemoryStore.session?_of_mem h.order.store.distinct hp
    rw [gone p.1 mine] at known
    cases known
  · right
    have awaited := LockTable.mem_awaited.mpr ⟨k, hk, holding, rfl⟩
    obtain ⟨p, hp, same⟩ := List.mem_map.mp (h.order.store.awaited.mem_iff.mp awaited)
    refine ⟨p, hp, congrArg Prod.snd same, ?_⟩
    intro s hs mine
    obtain ⟨q, next, reply, at_, _⟩ := waitsWith_of_session h hc hp hs mine
    change c.stage = _ at at_
    rw [at_] at isOver
    cases isOver

/-- A transfer among any other clients, once it is over: it gives a result if and only if it has
committed. Then one turn of it has published all that the result says, the accounts are at that
instant as the result has them, and no other turn of it changes what is committed; without a result
no turn of it does. Nothing of its session is left in any case. -/
theorem transfer_atomic (choices : List Choice) (i : Nat)
    (c : Client (Except LedgerError TransferResult))
    (hc : (run choices).clients[i]? = some ⟨_, c⟩)
    (runs : c.program = Transfer.transfer u cancelAt r) (isOver : c.stage.isOver = true) :
    ((∃ res, c.stage = .running (.done (.ok res))) ↔
      ∃ s ∈ c.begun, .committed s ∈ (run choices).desk.deeds) ∧
    (∀ res, c.stage = .running (.done (.ok res)) →
      res.IsRecorded (run choices).tables ∧
      ∃ before t after, choices = before ++ .turn i t :: after ∧
        (∃ s ∈ c.begun, ((run before).step (.turn i t)).desk.deeds =
          (run before).desk.deeds ++ [.committed s]) ∧
        res.IsRecorded ((run before).step (.turn i t)).tables ∧
        res.IsCurrent r ((run before).step (.turn i t)).tables ∧
        ∀ before' t' after', choices = before' ++ .turn i t' :: after' → before' ≠ before →
          ((run before').step (.turn i t')).tables.content = (run before').tables.content) ∧
    ((∀ res, c.stage ≠ .running (.done (.ok res))) →
      ∀ before t after, choices = before ++ .turn i t :: after →
        ((run before).step (.turn i t)).tables.content = (run before).tables.content) ∧
    (∀ s ∈ c.begun, (run choices).desk.store.session? s = none) ∧
    ∀ k ∈ (run choices).desk.store.locks.tickets,
      (∃ p ∈ (run choices).desk.store.sessions, p.1 ∉ c.begun ∧
        (k.account, k.number) ∈ p.2.guards) ∨
      ∃ p ∈ (run choices).desk.waiting, p.ticket = k.number ∧
        ∀ s ∈ c.begun, p.request.session? ≠ some s := by
  have coherent := coherent_run choices
  have conducted := conducted_run choices _ (List.mem_of_getElem? hc)
  have follows := Transfer.follows_of_conducted conducted runs
  have gone := session?_of_ended coherent (present_run choices) hc
    (Transfer.ended_of_over follows isOver)
  have left := And.intro gone (ticket_of_others coherent hc isOver gone)
  -- The commits of the store in the client's sessions are the client's.
  have committed : ∀ s ∈ c.begun, .committed s ∈ (run choices).desk.deeds →
      .committed s ∈ c.deeds := by
    intro s hs done_
    have mem : .committed s ∈ (run choices).desk.deeds.filter (·.isOf s) :=
      List.mem_filter.mpr ⟨done_, beq_self_eq_true _⟩
    rw [coherent.same ⟨_, c⟩ (List.mem_of_getElem? hc) s hs] at mem
    exact (List.mem_filter.mp mem).1
  cases Transfer.cases_of_over follows isOver with
  | inr failed =>
      have never := Transfer.committed_not_mem failed.2
      refine ⟨⟨?_, ?_⟩, ?_, ?_, left⟩
      · rintro ⟨res, ok⟩
        exact absurd ok (failed.1 res)
      · rintro ⟨s, hs, done_⟩
        exact absurd (committed s hs done_) (never s)
      · intro res ok
        exact absurd ok (failed.1 res)
      · intro _ before t after split
        apply content_of_quiet split hc runs
        intro c₀ c₁ ds h₀ h₁ mine deeds s mem
        refine never s (deeds.subset ?_)
        rw [mine]
        exact List.mem_append_right _ mem
  | inl ok =>
      obtain ⟨res, s, stage, records, shape⟩ := ok
      have mine : s ∈ c.begun :=
        List.mem_filterMap.mpr ⟨.began s, by rw [shape]; exact List.mem_cons_self, rfl⟩
      obtain ⟨before, t, after, split, c₀, c₁, h₀, h₁, deeds₀, deeds₁, desk⟩ :=
        commit_of_result hc shape
      have step := coherent_step (coherent_run before) (.turn i t)
      have lawful := step.order.lawful
      rw [desk] at lawful
      refine ⟨⟨fun _ => ⟨s, mine, ?_⟩, fun _ => ⟨res, stage⟩⟩, ?_, ?_, left⟩
      · have own := coherent.same ⟨_, c⟩ (List.mem_of_getElem? hc) s mine
        have mem : .committed s ∈ c.deeds.filter (·.isOf s) := by
          refine List.mem_filter.mpr ⟨?_, beq_self_eq_true _⟩
          rw [shape]
          exact List.mem_append_right _ List.mem_cons_self
        rw [← own] at mem
        exact (List.mem_filter.mp mem).1
      · intro res' stage'
        rw [stage] at stage'
        cases stage'
        refine ⟨isRecorded_of_written coherent hc shape (.inr rfl), before, t, after, split,
          ⟨s, mine, desk⟩, isRecorded_of_written step h₁ deeds₁ (.inl rfl), ?_, ?_⟩
        · rw [tables_eq step, desk, Books.replay_snoc]
          exact isCurrent_of_commit (coherent_run before) records h₀ deeds₀
            (Books.lawful_snoc lawful).2
        · intro before' t' after' split' ne
          apply content_of_quiet split' hc runs
          intro k₀ k₁ ds hk₀ hk₁ more deeds s' mem
          exact ne (split_unique h₀ h₁ deeds₀ deeds₁ shape hk₀ hk₁ more deeds mem split split')
      · intro no
        exact absurd stage (no res)

/-- Two transfers from one account; the second waits for the first until its time is up. -/
def blocked : List Choice :=
  let now := Timestamp.ofMillis 0
  let opening (owner : String) : Choice :=
    .spawn (Program.callFree (I := LedgerStore)
      (.query (.createAccount ⟨owner, "USD", .whole 100⟩)))
  let request (moved : Decimal) : TransferRequest :=
    ⟨1, 2, moved, "USD", "", .whole 1⟩
  let round : List Choice :=
    [.turn 2 (.think 0 0), .turn 2 (.submit now), .turn 3 (.think 0 0), .turn 3 (.submit now)]
  [opening "ada", opening "bob", .turn 0 (.submit now), .turn 1 (.submit now),
    .spawn (Transfer.transfer .unbounded none (request (.whole 30))),
    .spawn (Transfer.transfer { timeout := some 10 } none (request (.whole 20)))] ++
    (List.replicate 5 round).flatten ++
    .turn 3 (.stop .deadline) :: (List.replicate 10 round).flatten

theorem transfer_atomic_blocked :
    (∃ c : Client (Except LedgerError TransferResult), (run blocked).clients[2]? = some ⟨_, c⟩ ∧
      ∃ res, c.stage = .running (.done (.ok res)) ∧ res.IsRecorded (run blocked).tables) ∧
    ∃ c : Client (Except LedgerError TransferResult), (run blocked).clients[3]? = some ⟨_, c⟩ ∧
      (∀ res, c.stage ≠ .running (.done (.ok res))) ∧
      ∀ s ∈ c.begun, (run blocked).desk.store.session? s = none := by
  have first : blocked = blocked.take 4 ++ .spawn _ :: blocked.drop 5 := rfl
  have second : blocked = blocked.take 5 ++ .spawn _ :: blocked.drop 6 := rfl
  have ends : (run blocked).clients.map (fun x => (x.2.stage.isOver, x.2.begun)) =
      [(true, []), (true, []), (true, [0]), (true, [1])] := by decide +kernel
  have two : (run (blocked.take 4)).clients.length = 2 := by decide +kernel
  have three : (run (blocked.take 5)).clients.length = 3 := by decide +kernel
  have at_ : ∀ (i : Nat) (c : Client (Except LedgerError TransferResult)),
      (run blocked).clients[i]? = some ⟨_, c⟩ →
      [(true, []), (true, []), (true, [0]), (true, [1])][i]? =
        some (c.stage.isOver, c.begun) := by
    intro i c hc
    rw [← ends, List.getElem?_map, hc]
    rfl
  refine ⟨?_, ?_⟩
  · obtain ⟨c, hc, runs⟩ := client_of_spawn first
    rw [two] at hc
    obtain ⟨isOver, begun⟩ := Prod.mk.inj (Option.some.inj (at_ 2 c hc))
    have atomic := transfer_atomic blocked 2 c hc runs isOver.symm
    have done_ : ∃ s ∈ c.begun, .committed s ∈ (run blocked).desk.deeds := by
      rw [← begun]
      exact ⟨0, List.mem_singleton_self _, by decide +kernel⟩
    obtain ⟨res, stage⟩ := atomic.1.mpr done_
    exact ⟨c, hc, res, stage, (atomic.2.1 res stage).1⟩
  · obtain ⟨c, hc, runs⟩ := client_of_spawn second
    rw [three] at hc
    obtain ⟨isOver, begun⟩ := Prod.mk.inj (Option.some.inj (at_ 3 c hc))
    have atomic := transfer_atomic blocked 3 c hc runs isOver.symm
    refine ⟨c, hc, fun res stage => ?_, atomic.2.2.2.1⟩
    obtain ⟨s, mine, done_⟩ := atomic.1.mp ⟨res, stage⟩
    rw [← begun] at mine
    cases List.mem_singleton.mp mine
    revert done_
    decide +kernel

end Traffic
end DoubleEntry
