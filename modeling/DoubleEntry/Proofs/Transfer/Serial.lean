import DoubleEntry.Proofs.Transfer.Course
import Mathlib.Data.List.Forall2

/-!
Transfers that run at the same time do what they would do one after another. Those that commit can
be run again in the order of their commits, each of them alone: all of them succeed again, with the
same accounts in their results, and leave the same accounts behind.
-/

namespace DoubleEntry

section Forall₂

variable {α β : Type} {R : α → β → Prop} {xs : List α} {ys : List β}

theorem exists_of_mem_left (h : List.Forall₂ R xs ys) {a : α} (ha : a ∈ xs) :
    ∃ b ∈ ys, R a b := by
  induction h with
  | nil => cases ha
  | @cons x y xs ys first rest ih =>
      cases List.mem_cons.mp ha with
      | inl same => exact ⟨y, List.mem_cons_self, same ▸ first⟩
      | inr later =>
          obtain ⟨b, hb, related⟩ := ih later
          exact ⟨b, List.mem_cons_of_mem y hb, related⟩

theorem exists_forall₂ (h : ∀ b ∈ ys, ∃ a, R a b) : ∃ xs, List.Forall₂ R xs ys := by
  induction ys with
  | nil => exact ⟨[], .nil⟩
  | cons y ys ih =>
      obtain ⟨x, first⟩ := h y List.mem_cons_self
      obtain ⟨xs, rest⟩ := ih fun b hb => h b (List.mem_cons_of_mem y hb)
      exact ⟨x :: xs, .cons first rest⟩

theorem nodup_of_forall₂ (unique : ∀ a b b', R a b → R a b' → b = b') (h : List.Forall₂ R xs ys)
    (distinct : ys.Nodup) : xs.Nodup := by
  induction h with
  | nil => exact List.nodup_nil
  | @cons x y xs ys first rest ih =>
      have ⟨new, distinct⟩ := List.nodup_cons.mp distinct
      refine List.nodup_cons.mpr ⟨fun mem => new ?_, ih distinct⟩
      obtain ⟨b, hb, related⟩ := exists_of_mem_left rest mem
      exact unique x y b first related ▸ hb

end Forall₂

namespace Transfer

open Program MemoryStore Books

variable {r : TransferRequest} {s : SessionId} {res : TransferResult} {ds new : List Deed}

theorem deltas_written (records : Records r res) (s : SessionId) :
    deltas (written r s res) s r.fromId = [-r.amount] ∧
      deltas (written r s res) s r.toId = [r.amount] := by
  have apart := records.valid.apart
  have debit := records.source
  have credit := records.destination
  simp only [written, deltas]
  split <;>
    simp [Deed.delta?, List.filterMap_cons, debit, credit, apart, Ne.symm apart]

/-- When a transfer commits it would do alone what it has done. -/
theorem moves_of_written {verbose : Bool} (lawful : Lawful ds)
    (allowed : (replay ds).Allows (.committed s)) (records : Records r res)
    (loggable : Loggable verbose res) (whole : ds.filter (·.isOf s) = written r s res) :
    Moves verbose r (replay ds).tables.accounts res.fromAccount res.toAccount ∧
      ((replay ds).after (.committed s)).tables.accounts = (replay ds).tables.accounts.map
        (Account.settled (staged r res.fromAccount res.toAccount)) := by
  obtain ⟨x, hx, _⟩ := allowed
  have accounts := accounts_of_written lawful hx whole
  have ⟨source, destination⟩ :=
    find?_staged records.valid.apart records.source records.destination
  have ⟨debit, credit⟩ := deltas_written records s
  rw [← whole, deltas_filter] at debit credit
  rw [← accounts] at source destination
  have single : ∀ {delta : Decimal} {c row : Account},
      [delta].foldlM changed c = .ok row → changed c delta = .ok row := by
    intro delta c row made
    rw [List.foldlM_cons] at made
    cases first : changed c delta with
    | error e =>
        rw [first] at made
        cases made
    | ok next =>
        rw [first] at made
        exact made
  obtain ⟨c, hc, debited⟩ := redone_of_lawful lawful hx source
  obtain ⟨k, hk, credited⟩ := redone_of_lawful lawful hx destination
  rw [debit] at debited
  rw [credit] at credited
  refine ⟨⟨records.valid, ⟨c, hc, single debited⟩, ⟨k, hk, single credited⟩, loggable.1,
    loggable.2⟩, ?_⟩
  rw [accounts_committed (sound_replay lawful) hx, accounts]

end Transfer

structure Job where
  unit : UnitOfWork
  cancelAt : Option Nat
  request : TransferRequest

def Job.program (j : Job) : Program (Timed LedgerStore) (Except LedgerError TransferResult) :=
  Transfer.transfer j.unit j.cancelAt j.request

namespace Transfer

open Program MemoryStore Books

theorem run_transfer_idle {r : TransferRequest} (u : UnitOfWork) {cancelAt : Option Nat}
    (open_ : cancelAt ≠ some 0) {st : MemoryStore} (idle : st.Idle) (now : Timestamp)
    {source destination : Account}
    (moves : Moves u.verbose r st.tables.accounts source destination) :
    ∃ st' res, (transfer u cancelAt r).run (alone now) st = (.finished (.ok res), st') ∧
      st'.Idle ∧ res.fromAccount = source ∧ res.toAccount = destination ∧
      st'.tables.accounts =
        st.tables.accounts.map (Account.settled (staged r source destination)) := by
  obtain ⟨st', ran, leaves⟩ := run_transfer u open_
    ⟨idle.orderly, moves.valid, isFree_of_idle idle _, isFree_of_idle idle _⟩ now moves
  refine ⟨st', _, ran, ⟨leaves.orderly, leaves.sessions.trans idle.sessions⟩, rfl, rfl, ?_⟩
  rw [leaves.tables]
  exact accounts_settled r st.tables _

/-- The sessions that have committed are run again. Each of them is a job, and it has written before
its commit what a result of the job says. -/
theorem exists_serial {ι : Type} (job : ι → Job) (did : ι → SessionId → TransferResult → Prop)
    (now : Timestamp) {ds new : List Deed} {st : MemoryStore} (lawful : Lawful (ds ++ new))
    (quiet : ∀ e ∈ new, e.publishes = true → ∃ s, e = .committed s)
    (written_ : ∀ before s after, new = before ++ .committed s :: after → ∃ i res,
      did i s res ∧ (job i).cancelAt ≠ some 0 ∧ Loggable (job i).unit.verbose res ∧
        Records (job i).request res ∧
        (ds ++ before).filter (·.isOf s) = written (job i).request s res)
    (idle : st.Idle) (same : st.tables.accounts = (replay ds).tables.accounts) :
    ∃ order : List (ι × TransferResult),
      List.Forall₂ (fun p s => did p.1 s p.2) order (commits new) ∧
      List.Forall₂ (fun p progress => ∃ s res, did p.1 s p.2 ∧ progress = .finished (.ok res) ∧
          res.fromAccount = p.2.fromAccount ∧ res.toAccount = p.2.toAccount) order
        (serially now (order.map fun p => (job p.1).program) st).1 ∧
      (serially now (order.map fun p => (job p.1).program) st).2.tables.accounts =
        (replay (ds ++ new)).tables.accounts := by
  induction new generalizing ds st with
  | nil =>
      refine ⟨[], .nil, .nil, ?_⟩
      rw [List.append_nil]
      exact same
  | cons e new ih =>
      rw [List.append_cons] at lawful ⊢
      have ⟨before, allowed⟩ := lawful_snoc (lawful_of_append lawful)
      have later : ∀ e' ∈ new, e'.publishes = true → ∃ s, e' = .committed s :=
        fun e' he => quiet e' (List.mem_cons_of_mem e he)
      have rest : ∀ before s after, new = before ++ .committed s :: after → ∃ i res,
          did i s res ∧ (job i).cancelAt ≠ some 0 ∧ Loggable (job i).unit.verbose res ∧
            Records (job i).request res ∧
            (ds ++ [e] ++ before).filter (·.isOf s) = written (job i).request s res := by
        intro before s after split
        rw [← List.append_cons]
        exact written_ (e :: before) s after (by rw [split]; rfl)
      cases seen : e.publishes with
      | false =>
          have accounts : (replay (ds ++ [e])).tables.accounts = (replay ds).tables.accounts := by
            refine congrArg Prod.fst (content_append ds fun d hd => ?_)
            cases List.mem_singleton.mp hd
            exact seen
          obtain ⟨order, done_, results, final⟩ :=
            ih lawful later rest idle (same.trans accounts.symm)
          have none : commits (e :: new) = commits new := by
            cases e <;> first | rfl | cases seen
          exact ⟨order, none ▸ done_, results, final⟩
      | true =>
          obtain ⟨s, rfl⟩ := quiet e List.mem_cons_self seen
          obtain ⟨i, res, does, open_, loggable, records, whole⟩ := written_ [] s new rfl
          rw [List.append_nil] at whole
          have ⟨moves, accounts⟩ := moves_of_written before allowed records loggable whole
          obtain ⟨st', res', ran, idle', source, destination, after⟩ :=
            run_transfer_idle (job i).unit open_ idle now (same ▸ moves)
          have next : st'.tables.accounts = (replay (ds ++ [.committed s])).tables.accounts := by
            rw [replay_snoc, accounts, after, same]
          obtain ⟨order, done_, results, final⟩ := ih lawful later rest idle' next
          have first : (job i).program.run (alone now) st = (.finished (.ok res'), st') := ran
          refine ⟨(i, res) :: order, .cons does done_, ?_, ?_⟩
          · simp only [List.map_cons, serially, first]
            exact .cons ⟨s, res', does, rfl, source, destination⟩ results
          · simp only [List.map_cons, serially, first]
            exact final

end Transfer
namespace Traffic

open Transfer

/-- Starts transfers and lets them take turns in any order. The clients that were there before,
which the numbers of the new ones are counted from, take none. -/
def transfers (w : Traffic) (jobs : List Job) (turns : List (Nat × Turn)) : Traffic :=
  w.runFrom (jobs.map (fun j => .spawn j.program) ++
    turns.map fun t => .turn (w.clients.length + t.1) t.2)

variable {w : Traffic} {jobs : List Job} {turns : List (Nat × Turn)}

theorem started_of_job (w : Traffic) {i : Nat} {j : Job} (hj : jobs[i]? = some j) :
    (w.runFrom (jobs.map fun j => .spawn j.program)).clients[w.clients.length + i]? =
      some ⟨_, Client.start j.program⟩ := by
  rw [clients_of_spawns Job.program jobs w,
    List.getElem?_append_right (Nat.le_add_right _ _), Nat.add_sub_cancel_left, List.getElem?_map,
    hj]
  rfl

theorem client_of_job (w : Traffic) (turns : List (Nat × Turn)) (i : Fin jobs.length) :
    ∃ c : Client (Except LedgerError TransferResult),
      (w.transfers jobs turns).clients[w.clients.length + i]? = some ⟨_, c⟩ ∧
      c.program = jobs[i].program := by
  have started := started_of_job w (List.getElem?_eq_getElem i.2)
  obtain ⟨c, hc, _, program⟩ := client_runFrom started
    (turns.map fun t => .turn (w.clients.length + t.1) t.2)
  refine ⟨c, ?_, program⟩
  rw [transfers, runFrom_append]
  exact hc

theorem program_of_job {i : Fin jobs.length} {c : Client (Except LedgerError TransferResult)}
    (hc : (w.transfers jobs turns).clients[w.clients.length + i]? = some ⟨_, c⟩) :
    c.program = jobs[i].program := by
  obtain ⟨k, hk, program⟩ := client_of_job w turns i
  rw [hc] at hk
  cases hk
  exact program

/-- Only the clients of the jobs take turns. -/
theorem late_of_transfers {n : Nat} {jobs : List Job} {turns : List (Nat × Turn)} {j : Nat}
    {t : Turn} (h : .turn j t ∈ jobs.map (fun j => Choice.spawn j.program) ++
      turns.map fun t => .turn (n + t.1) t.2) : n ≤ j := by
  cases List.mem_append.mp h with
  | inl spawned =>
      obtain ⟨_, _, no⟩ := List.mem_map.mp spawned
      cases no
  | inr turned =>
      obtain ⟨_, _, same⟩ := List.mem_map.mp turned
      cases same
      exact Nat.le_add_right _ _

theorem length_transfers (w : Traffic) (jobs : List Job) (turns : List (Nat × Turn)) :
    (w.transfers jobs turns).clients.length = w.clients.length + jobs.length := by
  rw [transfers, runFrom_append, length_of_turns, clients_of_spawns Job.program jobs w]
  · simp
  · intro choice hc
    obtain ⟨t, _, rfl⟩ := List.mem_map.mp hc
    exact ⟨_, _, rfl⟩

theorem deeds_of_transfers (h : w.Coherent) (jobs : List Job) (turns : List (Nat × Turn)) :
    ∃ new, (w.transfers jobs turns).desk.deeds = w.desk.deeds ++ new ∧
      ∀ e ∈ new, ∃ (i : Fin jobs.length) (c : Client (Except LedgerError TransferResult)),
        (w.transfers jobs turns).clients[w.clients.length + i]? = some ⟨_, c⟩ ∧
        c.program = jobs[i].program ∧ e ∈ c.deeds := by
  have length := length_transfers w jobs turns
  obtain ⟨new, deeds, mine⟩ := deeds_of_late h fun _ _ => late_of_transfers
  refine ⟨new, deeds, fun e he => ?_⟩
  obtain ⟨j, x, hj, hx, mem⟩ := mine e he
  have bound : j < (w.transfers jobs turns).clients.length := (List.getElem?_eq_some_iff.mp hx).1
  let i : Fin jobs.length := ⟨j - w.clients.length, by omega⟩
  obtain ⟨c, hc, program⟩ := client_of_job w turns i
  have same : w.clients.length + (i : Nat) = j := Nat.add_sub_cancel' hj
  rw [same] at hc
  have found : some x = some ⟨_, c⟩ := hx.symm.trans hc
  cases found
  exact ⟨i, c, same ▸ hc, program, mem⟩

theorem run_transfers (setup : List Choice) (jobs : List Job) (turns : List (Nat × Turn)) :
    ∃ choices, (run setup).transfers jobs turns = run choices :=
  ⟨_, (runFrom_append {} setup _).symm⟩

theorem coherent_transfers (setup : List Choice) (jobs : List Job) (turns : List (Nat × Turn)) :
    ((run setup).transfers jobs turns).Coherent := by
  obtain ⟨choices, same⟩ := run_transfers setup jobs turns
  exact same ▸ coherent_run choices

theorem conducted_transfers (setup : List Choice) (jobs : List Job) (turns : List (Nat × Turn)) :
    ∀ x ∈ ((run setup).transfers jobs turns).clients, Conducted x := by
  obtain ⟨choices, same⟩ := run_transfers setup jobs turns
  exact same ▸ conducted_run choices

/-- A client has committed a session, with a result. -/
def HasCommitted (w : Traffic) (j : Nat) (r : TransferRequest) (s : SessionId)
    (res : TransferResult) : Prop :=
  ∃ (c : Client (Except LedgerError TransferResult)) (rest : List Deed),
    w.clients[j]? = some ⟨_, c⟩ ∧ c.deeds = written r s res ++ rest ∧
      (rest = [.committed s] ∨ rest = [.committed s, .abandoned s])

namespace HasCommitted

variable {j : Nat} {r : TransferRequest} {s s' : SessionId} {res res' : TransferResult}
variable {c : Client (Except LedgerError TransferResult)}

theorem begun (h : w.HasCommitted j r s res) :
    ∃ c : Client (Except LedgerError TransferResult),
      w.clients[j]? = some ⟨_, c⟩ ∧ s ∈ c.begun := by
  obtain ⟨c, rest, hc, shape, _⟩ := h
  refine ⟨c, hc, List.mem_filterMap.mpr ⟨.began s, ?_, rfl⟩⟩
  rw [shape]
  exact List.mem_cons_self

theorem unique (h : w.HasCommitted j r s res) (h' : w.HasCommitted j r s' res') :
    s = s' ∧ res = res' := by
  obtain ⟨c, rest, hc, shape, _⟩ := h
  obtain ⟨c', rest', hc', shape', _⟩ := h'
  rw [hc] at hc'
  cases hc'
  have ⟨sessions, results, _⟩ := written_inj (shape.symm.trans shape')
  exact ⟨sessions, results⟩

/-- A session has been committed by one client. -/
theorem same_client (coherent : w.Coherent) {k : Nat} (h : w.HasCommitted j r s res)
    {x : AnyClient} (hx : w.clients[k]? = some x) (mine : s ∈ x.2.begun) : k = j := by
  obtain ⟨c, hc, begun⟩ := h.begun
  refine Decidable.byContradiction fun ne => ?_
  exact coherent.apart k j x ⟨_, c⟩ ne hx hc s mine begun

/-- Without a result, a client that is over has not committed. -/
theorem result_of_over (conducted : ∀ x ∈ w.clients, Conducted x) {u : UnitOfWork}
    {cancelAt : Option Nat} (hc : w.clients[j]? = some ⟨_, c⟩)
    (runs : c.program = transfer u cancelAt r) (isOver : c.stage.isOver = true)
    (h : w.HasCommitted j r s res) : ∃ res, c.stage = .running (.done (.ok res)) := by
  have follows := follows_of_conducted (conducted _ (List.mem_of_getElem? hc)) runs
  cases cases_of_over follows isOver with
  | inl ok =>
      obtain ⟨res, _, stage, _⟩ := ok
      exact ⟨res, stage⟩
  | inr failed =>
      obtain ⟨c', rest, hc', shape, ends⟩ := h
      rw [hc] at hc'
      cases hc'
      refine absurd ?_ (committed_not_mem failed.2 s)
      rw [shape]
      cases ends with
      | inl first => exact List.mem_append_right _ (by simp [first])
      | inr second => exact List.mem_append_right _ (by simp [second])

/-- A client that gives a result has committed with it. -/
theorem of_result (coherent : w.Coherent) (conducted : ∀ x ∈ w.clients, Conducted x)
    {u : UnitOfWork} {cancelAt : Option Nat} (hc : w.clients[j]? = some ⟨_, c⟩)
    (runs : c.program = transfer u cancelAt r) (stage : c.stage = .running (.done (.ok res))) :
    ∃ s, w.HasCommitted j r s res ∧ .committed s ∈ w.desk.deeds := by
  have follows := follows_of_conducted (conducted _ (List.mem_of_getElem? hc)) runs
  have isOver : c.stage.isOver = true := by
    rw [stage]
    rfl
  cases cases_of_over follows isOver with
  | inr failed => exact absurd stage (failed.1 res)
  | inl ok =>
      obtain ⟨res', s, stage', _, shape⟩ := ok
      rw [stage] at stage'
      cases stage'
      refine ⟨s, ⟨c, _, hc, shape, .inr rfl⟩, ?_⟩
      have own := filter_of_began coherent hc (s := s) (by rw [shape]; exact List.mem_cons_self)
        (by rw [shape]; exact isOf_written r res (.inr rfl))
      have mem : .committed s ∈ w.desk.deeds.filter (·.isOf s) := by
        rw [own, shape]
        exact List.mem_append_right _ List.mem_cons_self
      exact (List.mem_filter.mp mem).1

end HasCommitted

/-- The new commits are those of the jobs, and before its commit a job has written its result. -/
theorem written_of_commit {new : List Deed} (coherent : (w.transfers jobs turns).Coherent)
    (conducted : ∀ x ∈ (w.transfers jobs turns).clients, Conducted x)
    (deeds : (w.transfers jobs turns).desk.deeds = w.desk.deeds ++ new)
    (mine : ∀ e ∈ new, ∃ (i : Fin jobs.length) (c : Client (Except LedgerError TransferResult)),
      (w.transfers jobs turns).clients[w.clients.length + i]? = some ⟨_, c⟩ ∧
      c.program = jobs[i].program ∧ e ∈ c.deeds)
    {before after : List Deed} {s : SessionId} (split : new = before ++ .committed s :: after) :
    ∃ (i : Fin jobs.length) (res : TransferResult),
      (w.transfers jobs turns).HasCommitted (w.clients.length + i) jobs[i].request s res ∧
      jobs[i].cancelAt ≠ some 0 ∧ Loggable jobs[i].unit.verbose res ∧
      Records jobs[i].request res ∧
      (w.desk.deeds ++ before).filter (·.isOf s) = written jobs[i].request s res := by
  have mem : .committed s ∈ new := by
    rw [split]
    exact List.mem_append_right _ List.mem_cons_self
  obtain ⟨i, c, hc, program, done_⟩ := mine _ mem
  have always := always_of_conducted (conducted _ (List.mem_of_getElem? hc)) program
  obtain ⟨res, rest, records, shape, ends⟩ := written_of_committed always done_
  have ⟨opened, loggable⟩ :=
    open_of_committed (conducted _ (List.mem_of_getElem? hc)) program shape done_
  refine ⟨i, res, ⟨c, rest, hc, shape, ends⟩, opened, loggable, records, ?_⟩
  have own := filter_of_began coherent hc (s := s) (by rw [shape]; exact List.mem_cons_self)
    (by rw [shape]; exact isOf_written _ res ends)
  have this_ : Deed.isOf s (.committed s) = true := beq_self_eq_true _
  rw [deeds, split, ← List.append_assoc, List.filter_append, List.filter_cons_of_pos this_, shape]
    at own
  exact written_before_commit own ends

/-- The sessions of the jobs have not been committed before. -/
theorem not_committed_before (coherent : w.Coherent) (i : Nat)
    (later : (w.transfers jobs turns).Coherent) {r : TransferRequest} {s : SessionId}
    {res : TransferResult}
    (h : (w.transfers jobs turns).HasCommitted (w.clients.length + i) r s res) :
    .committed s ∉ w.desk.deeds := by
  intro old
  obtain ⟨⟨α, k⟩, hx, mem⟩ := coherent.known _ old
  obtain ⟨j, hj, at_⟩ := List.mem_iff_getElem.mp hx
  obtain ⟨k', hk', more, _⟩ := client_runFrom (List.getElem?_eq_some_iff.mpr ⟨hj, at_⟩)
    (jobs.map (fun j => .spawn j.program) ++
      turns.map fun t => .turn (w.clients.length + t.1) t.2)
  have mine := later.owned ⟨α, k'⟩ (List.mem_of_getElem? hk') _ (more.subset mem) s rfl
  have same := h.same_client later hk' mine
  omega

/-- The jobs whose sessions have committed are those that give a result. -/
theorem result_iff_mem_order (begun : w.Coherent) (coherent : (w.transfers jobs turns).Coherent)
    (conducted : ∀ x ∈ (w.transfers jobs turns).clients, Conducted x) {new : List Deed}
    (deeds : (w.transfers jobs turns).desk.deeds = w.desk.deeds ++ new)
    {runs : List (Fin jobs.length × TransferResult)}
    (commits : List.Forall₂ (fun p s => (w.transfers jobs turns).HasCommitted
      (w.clients.length + p.1) jobs[p.1].request s p.2) runs (Books.commits new))
    {i : Fin jobs.length} {c : Client (Except LedgerError TransferResult)}
    (hc : (w.transfers jobs turns).clients[w.clients.length + i]? = some ⟨_, c⟩)
    (isOver : c.stage.isOver = true) :
    (∃ res, c.stage = .running (.done (.ok res))) ↔ i ∈ runs.map Prod.fst := by
  have program := program_of_job hc
  constructor
  · intro ok
    obtain ⟨res, stage⟩ := ok
    obtain ⟨s, does, done_⟩ := HasCommitted.of_result coherent conducted hc program stage
    rw [deeds] at done_
    have new_ := (List.mem_append.mp done_).resolve_left
      (not_committed_before begun i coherent does)
    obtain ⟨p, hp, does'⟩ := exists_of_mem_left commits.flip (Books.mem_commits.mpr new_)
    obtain ⟨k, hk, mine⟩ := HasCommitted.begun does'
    have same := does.same_client coherent hk mine
    have found : p.1 = i := Fin.ext (by omega)
    exact List.mem_map.mpr ⟨p, hp, found⟩
  · intro mem
    obtain ⟨p, hp, rfl⟩ := List.mem_map.mp mem
    obtain ⟨s, _, does⟩ := exists_of_mem_left commits hp
    exact does.result_of_over conducted hc program isOver

/-- Transfers that run at the same time, over whatever was done before. Those that have committed
are exactly those that give a result once they are over. Run one after another in the order of
their commits, each alone, on what was committed before, they succeed with the same accounts in
their results, and leave the same accounts behind. -/
theorem serial_equivalence (setup : List Choice) (jobs : List Job) (turns : List (Nat × Turn))
    (now : Timestamp) :
    let before := run setup
    let after := before.transfers jobs turns
    ∃ (order : List (Fin jobs.length)) (new : List Deed),
      after.desk.deeds = before.desk.deeds ++ new ∧
      order.Nodup ∧
      List.Forall₂ (fun (i : Fin jobs.length) s => ∃ c : Client (Except LedgerError TransferResult),
        after.clients[before.clients.length + i]? = some ⟨_, c⟩ ∧ s ∈ c.begun)
        order (Books.commits new) ∧
      (∀ (i : Fin jobs.length) (c : Client (Except LedgerError TransferResult)),
        after.clients[before.clients.length + i]? = some ⟨_, c⟩ → c.stage.isOver = true →
        ((∃ res, c.stage = .running (.done (.ok res))) ↔ i ∈ order)) ∧
      List.Forall₂ (fun (i : Fin jobs.length) progress => ∃ res, progress = .finished (.ok res) ∧
        ∀ (c : Client (Except LedgerError TransferResult)) (res' : TransferResult),
          after.clients[before.clients.length + i]? = some ⟨_, c⟩ →
          c.stage = .running (.done (.ok res')) →
          res.fromAccount = res'.fromAccount ∧ res.toAccount = res'.toAccount)
        order (MemoryStore.serially now (order.map fun i => jobs[i].program)
          { tables := before.tables }).1 ∧
      (MemoryStore.serially now (order.map fun i => jobs[i].program)
        { tables := before.tables }).2.tables.accounts = after.tables.accounts := by
  intro before after
  obtain ⟨choices, same⟩ := run_transfers setup jobs turns
  have coherent : after.Coherent := by
    rw [show after = run choices from same]
    exact coherent_run choices
  have conducted : ∀ x ∈ after.clients, Conducted x := by
    rw [show after = run choices from same]
    exact conducted_run choices
  have begun := coherent_run setup
  obtain ⟨new, deeds, mine⟩ := deeds_of_transfers begun jobs turns
  have lawful : Books.Lawful (before.desk.deeds ++ new) := deeds ▸ coherent.order.lawful
  have quiet : ∀ e ∈ new, e.publishes = true → ∃ s, e = .committed s := by
    intro e he seen
    obtain ⟨i, c, hc, program, done_⟩ := mine e he
    have always := always_of_conducted (conducted _ (List.mem_of_getElem? hc)) program
    exact committed_of_publishes always done_ seen
  obtain ⟨runs, commits, results, final⟩ := exists_serial (fun i : Fin jobs.length => jobs[i])
    (fun i s res => after.HasCommitted (before.clients.length + i) jobs[i].request s res) now
    lawful quiet (fun _ _ _ split => written_of_commit coherent conducted deeds mine split)
    (MemoryStore.idle_tables before.tables) (congrArg Tables.accounts (tables_eq begun))
  have distinct : (Books.commits new).Nodup := by
    have all := Books.commits_nodup lawful
    rw [Books.commits, List.filterMap_append] at all
    exact all.of_append_right
  have programs : (runs.map Prod.fst).map (fun i => jobs[i].program) =
      runs.map fun p => jobs[p.1].program := List.map_map
  refine ⟨runs.map Prod.fst, new, deeds, ?_, ?_, ?_, ?_, ?_⟩
  · refine nodup_of_forall₂ (R := fun (i : Fin jobs.length) s => ∃ res,
      after.HasCommitted (before.clients.length + i) jobs[i].request s res) ?_ ?_ distinct
    · intro i s s' does does'
      obtain ⟨_, does⟩ := does
      obtain ⟨_, does'⟩ := does'
      exact (does.unique does').1
    · exact List.forall₂_map_left_iff.mpr (commits.imp fun p s does => ⟨p.2, does⟩)
  · exact List.forall₂_map_left_iff.mpr (commits.imp fun p s does => does.begun)
  · exact fun i c hc isOver =>
      result_iff_mem_order begun coherent conducted deeds commits hc isOver
  · rw [programs]
    refine List.forall₂_map_left_iff.mpr (results.imp fun p progress ran => ?_)
    obtain ⟨s, res, does, finished, source, destination⟩ := ran
    refine ⟨res, finished, fun c res' hc stage => ?_⟩
    obtain ⟨_, does', _⟩ :=
      HasCommitted.of_result coherent conducted hc (program_of_job hc) stage
    rw [← (does.unique does').2]
    exact ⟨source, destination⟩
  · rw [programs]
    exact final.trans (congrArg Tables.accounts ((tables_eq coherent).trans (by rw [deeds]))).symm

end Traffic
end DoubleEntry
