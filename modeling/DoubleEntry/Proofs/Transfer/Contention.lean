import DoubleEntry.Proofs.Transfer.Deadlock
import DoubleEntry.Proofs.Transfer.Prospects
import DoubleEntry.Proofs.Transfer.Serial
import Mathlib.Data.Rat.Floor

/-!
Transfers that contend for the funds of one account. All of them move the same amount to the same
other account, and nothing cuts them short. Which of them succeed is up to the order of their steps,
but not how many: as many as there are funds for.
-/

namespace DoubleEntry

/-- An account as the store keeps it, with this balance. -/
structure Account.Worth (v : ℚ) (c : Account) : Prop where
  schema : c.InSchema
  text : c.balance.HasText
  value : c.balance.value = v

/-- What is there of two accounts after an amount was moved from the one to the other. -/
structure Shifted (source destination : Account) (accounts : List Account) (moved : ℚ) : Prop where
  source : ∃ c, Table.find? source.id accounts = some c ∧ c.Worth (source.balance.value - moved)
  destination : ∃ k, Table.find? destination.id accounts = some k ∧
    k.Worth (destination.balance.value + moved)

/-- A request to move this amount between the two accounts. -/
structure TransferRequest.Takes (source destination : Account) (amount : ℚ) (r : TransferRequest) :
    Prop where
  accepted : r.validate = .ok ()
  fromId : r.fromId = source.id
  toId : r.toId = destination.id
  value : r.amount.value = amount
  text : r.amount.HasText

namespace Transfer

open MemoryStore Books

variable {source destination : Account} {amount moved : ℚ} {r : TransferRequest}
  {res : TransferResult} {s : SessionId} {ds new : List Deed}

/-- The commit of a transfer moves its amount, exactly. -/
theorem shifted_commit (lawful : Lawful ds) (allowed : (replay ds).Allows (.committed s))
    (takes : r.Takes source destination amount) (records : Records r res)
    (whole : ds.filter (·.isOf s) = written r s res)
    (h : Shifted source destination (replay ds).tables.accounts moved) :
    Shifted source destination ((replay ds).after (.committed s)).tables.accounts
      (moved + amount) := by
  have quiet : Loggable false res := ⟨nofun, nofun⟩
  have ⟨moves, _⟩ := moves_of_written lawful allowed records quiet whole
  obtain ⟨x, hx, _⟩ := allowed
  have current := isCurrent_of_written lawful hx records whole
  obtain ⟨c, hc, worthC⟩ := h.source
  obtain ⟨k, hk, worthK⟩ := h.destination
  obtain ⟨c', hc', debit⟩ := moves.debit
  obtain ⟨k', hk', credit⟩ := moves.credit
  rw [takes.fromId] at hc'
  rw [takes.toId] at hk'
  cases hc.symm.trans hc'
  cases hk.symm.trans hk'
  refine ⟨⟨_, takes.fromId ▸ current.source, inSchema_changed worthC.schema debit,
    hasText_debited worthC.text takes.text _ debit, ?_⟩, ⟨_, takes.toId ▸ current.destination,
    inSchema_changed worthK.schema credit, hasText_changed worthK.text takes.text credit, ?_⟩⟩
  · rw [(debit_made worthC.schema records.valid).2 _ debit, worthC.value, takes.value]
    ring
  · rw [(credit_made worthK.schema records.valid).2 _ credit, worthK.value, takes.value]
    ring

/-- Commit by commit, while nothing else is published. -/
theorem shifted_replay (lawful : Lawful (ds ++ new))
    (quiet : ∀ e ∈ new, e.publishes = true → ∃ s, e = .committed s)
    (wrote : ∀ before s after, new = before ++ .committed s :: after → ∃ r res,
      r.Takes source destination amount ∧ Records r res ∧
        (ds ++ before).filter (·.isOf s) = written r s res)
    (h : Shifted source destination (replay ds).tables.accounts 0) :
    Shifted source destination (replay (ds ++ new)).tables.accounts
      ((commits new).length * amount) := by
  induction new using List.reverseRecOn with
  | nil => simpa [commits] using h
  | append_singleton new e ih =>
      rw [← List.append_assoc] at lawful ⊢
      obtain ⟨before, allowed⟩ := lawful_snoc lawful
      have earlier : Shifted source destination (replay (ds ++ new)).tables.accounts
          ((commits new).length * amount) := by
        refine ih before (fun e' he => quiet e' (List.mem_append_left _ he)) ?_
        intro front s after split
        exact wrote front s (after ++ [e]) (by rw [split, List.append_assoc]; rfl)
      cases seen : e.publishes with
      | false =>
          have accounts : (replay (ds ++ new ++ [e])).tables.accounts =
              (replay (ds ++ new)).tables.accounts := by
            refine congrArg Prod.fst (content_append _ fun d hd => ?_)
            cases List.mem_singleton.mp hd
            exact seen
          have none : e.commit? = none := by
            cases e <;> first | rfl | cases seen
          rw [accounts, commits_snoc, none, Option.toList_none, List.append_nil]
          exact earlier
      | true =>
          obtain ⟨s, rfl⟩ := quiet e (List.mem_append_right _ (List.mem_singleton_self _)) seen
          obtain ⟨r, res, takes, records, whole⟩ := wrote new s [] rfl
          have after := shifted_commit before allowed takes records whole earlier
          have more : ((commits (new ++ [.committed s])).length : ℚ) * amount =
              (commits new).length * amount + amount := by
            rw [commits_snoc, List.length_append]
            change (((commits new).length + 1 : ℕ) : ℚ) * amount = _
            push_cast
            ring
          rw [replay_snoc, more]
          exact after

/-- An account as one of the jobs can see it while it is underway: some of the others have moved the
amount, and no more than do so in the end. -/
def Seen (source destination : Account) (amount : ℚ) (jobs most : ℕ) (a : Int) (c : Account) :
    Prop :=
  ∃ made : ℕ, made < jobs ∧ made ≤ most ∧
    (a = source.id ∧ c.Worth (source.balance.value - made * amount) ∨
      a = destination.id ∧ c.Worth (destination.balance.value + made * amount))

variable {jobs most : ℕ}

theorem takes_apart (takes : r.Takes source destination amount) :
    source.id ≠ destination.id := by
  rw [← takes.fromId, ← takes.toId]
  exact (TransferRequest.valid_of_validate takes.accepted).apart

theorem amount_pos (takes : r.Takes source destination amount) : 0 < amount := by
  rw [← takes.value]
  exact (NewTransaction.inSchema_of_check
    (TransferRequest.check_of_validate takes.accepted)).amountPositive

theorem legible_seen (takes : r.Takes source destination amount) :
    Legible r (Seen source destination amount jobs most) := by
  refine ⟨takes.text, ?_⟩
  rintro a c ⟨_, _, _, ⟨_, worth⟩ | ⟨_, worth⟩⟩ <;> exact worth.text

theorem hasAccount_of_shifted {t : Tables} (takes : r.Takes source destination amount)
    (h : Shifted source destination t.accounts moved) :
    t.hasAccount r.fromId = true ∧ t.hasAccount r.toId = true := by
  rw [takes.fromId, takes.toId]
  obtain ⟨c, hc, _⟩ := h.source
  obtain ⟨k, hk, _⟩ := h.destination
  exact ⟨Table.contains_iff_find?.mpr ⟨c, hc⟩, Table.contains_iff_find?.mpr ⟨k, hk⟩⟩

/-- As there is room for all, a job is refused only if the funds do not cover one more amount. -/
theorem lt_of_refused (takes : r.Takes source destination amount)
    (room : destination.balance.value + jobs * amount < 10 ^ 12) {e : Conflict}
    (refused : r.Refused (Seen source destination amount jobs most) e) :
    source.balance.value - most * amount < amount := by
  have valid := TransferRequest.valid_of_validate takes.accepted
  have positive := amount_pos takes
  rcases refused with ⟨c, ⟨made, _, le, known⟩, failed⟩ | ⟨k, ⟨made, lt, _, known⟩, failed⟩
  · rcases known with ⟨_, worth⟩ | ⟨other, _⟩
    · have short : ¬ r.amount.value ≤ c.balance.value := by
        intro covered
        obtain ⟨row, made_⟩ := (debit_made worth.schema valid).1.mpr covered
        cases failed.symm.trans made_
      rw [worth.value, takes.value, not_le] at short
      have cast : (made : ℚ) ≤ most := by exact_mod_cast le
      have fewer := mul_le_mul_of_nonneg_right cast positive.le
      linarith
    · exact absurd (takes.fromId.symm.trans other) (takes_apart takes)
  · rcases known with ⟨other, _⟩ | ⟨_, worth⟩
    · exact absurd (other.symm.trans takes.toId) (takes_apart takes)
    · have full : ¬ k.balance.value + r.amount.value < 10 ^ 12 := by
        intro fits
        obtain ⟨row, made_⟩ := (credit_made worth.schema valid).1.mpr fits
        cases failed.symm.trans made_
      rw [worth.value, takes.value] at full
      have cast : (made : ℚ) + 1 ≤ jobs := by exact_mod_cast lt
      have fewer := mul_le_mul_of_nonneg_right cast positive.le
      exact absurd (show destination.balance.value + made * amount + amount < 10 ^ 12 by linarith)
        full

/-- A transfer that is underway has not committed. -/
theorem not_committed_of_isUnderway (always : (conduct r).always ds) (underway : r.IsUnderway s ds)
    (t : SessionId) : .committed t ∉ ds := by
  intro done_
  obtain ⟨res, rest, _, shape, ends⟩ := written_of_committed always done_
  have mine := underway.began
  rw [shape] at mine
  have same : s = t := by
    simpa [Deed.isOf, Deed.session?] using isOf_written r res ends _ mine
  exact underway.suits _ done_ same.symm

end Transfer

/-- Jobs that contend: each is to move the same amount from the one account to the other, which has
room for all of it, and none is cancelled before it starts. -/
structure Rivals (jobs : List Job) (accounts : List Account) (source destination : Account)
    (amount : ℚ) : Prop where
  sourceThere : Table.find? source.id accounts = some source
  destinationThere : Table.find? destination.id accounts = some destination
  sourceText : source.balance.HasText
  destinationText : destination.balance.HasText
  takes : ∀ j ∈ jobs, j.request.Takes source destination amount
  uncancelled : ∀ j ∈ jobs, j.cancelAt ≠ some 0
  room : destination.balance.value + jobs.length * amount < 10 ^ 12

namespace Traffic

open Transfer

/-- Whoever was there has come to an end, and no session is open. -/
structure AtRest (w : Traffic) : Prop where
  finished : ∀ x ∈ w.clients, x.2.stage.isOver = true
  closed : ∀ s, w.desk.store.openSession? s = none

/-- Jobs take turns of which none cuts anything short, until they have no more of them. -/
structure Completes (w : Traffic) (jobs : List Job) (turns : List (Nat × Turn)) : Prop where
  patient : ∀ t ∈ turns, ∀ j ∈ jobs[t.1]?, t.2.IsPatient j.cancelAt
  maximal : ∀ (i : Fin jobs.length) (c : Client (Except LedgerError TransferResult)),
    (w.transfers jobs turns).clients[w.clients.length + i]? = some ⟨_, c⟩ →
    ∀ t : Turn, t.IsPatient (jobs.get i).cancelAt → c.turn (w.transfers jobs turns).desk t = none

variable {w : Traffic} {setup : List Choice} {jobs : List Job} {turns ts us : List (Nat × Turn)}
  {source destination : Account} {amount : ℚ} {winners : Finset (Fin jobs.length)}

theorem transfers_append (w : Traffic) (jobs : List Job) (ts us : List (Nat × Turn)) :
    w.transfers jobs (ts ++ us) = (w.transfers jobs ts).runFrom
      (us.map fun t => .turn (w.clients.length + t.1) t.2) := by
  rw [transfers, List.map_append, ← List.append_assoc, runFrom_append]
  rfl

theorem transfers_snoc (w : Traffic) (jobs : List Job) (ts : List (Nat × Turn)) (t : Nat × Turn) :
    w.transfers jobs (ts ++ [t]) =
      (w.transfers jobs ts).step (.turn (w.clients.length + t.1) t.2) :=
  transfers_append w jobs ts [t]

/-- What the jobs have come to: those that have committed have moved the amount. -/
structure Score (w : Traffic) (jobs : List Job) (turns : List (Nat × Turn))
    (source destination : Account) (amount : ℚ) (winners : Finset (Fin jobs.length)) : Prop where
  committed : ∀ (i : Fin jobs.length) (c : Client (Except LedgerError TransferResult)),
    (w.transfers jobs turns).clients[w.clients.length + i]? = some ⟨_, c⟩ →
    (i ∈ winners ↔ ∃ s, .committed s ∈ c.deeds)
  shifted : Shifted source destination (w.transfers jobs turns).tables.accounts
    (winners.card * amount)

def JobCommitted (w : Traffic) (jobs : List Job) (turns : List (Nat × Turn))
    (i : Fin jobs.length) (s : SessionId) : Prop :=
  ∃ res, (w.transfers jobs turns).HasCommitted (w.clients.length + i) (jobs.get i).request s res

theorem mem_iff_committed (begun : w.Coherent) (coherent : (w.transfers jobs turns).Coherent)
    (conducted : ∀ x ∈ (w.transfers jobs turns).clients, Conducted x) {new : List Deed}
    (deeds : (w.transfers jobs turns).desk.deeds = w.desk.deeds ++ new)
    {order : List (Fin jobs.length)}
    (does : List.Forall₂ (w.JobCommitted jobs turns) order (Books.commits new))
    {i : Fin jobs.length} {c : Client (Except LedgerError TransferResult)}
    (hc : (w.transfers jobs turns).clients[w.clients.length + i]? = some ⟨_, c⟩) :
    i ∈ order ↔ ∃ s, .committed s ∈ c.deeds := by
  constructor
  · intro mem
    obtain ⟨s, _, res, c', rest, hc', shape, ends⟩ := exists_of_mem_left does mem
    cases hc.symm.trans hc'
    refine ⟨s, shape ▸ List.mem_append_right _ ?_⟩
    rcases ends with rfl | rfl <;> exact List.mem_cons_self
  · rintro ⟨s, done_⟩
    have mem := List.mem_of_getElem? hc
    have always := always_of_conducted (conducted _ mem) (program_of_job hc)
    obtain ⟨res, rest, _, shape, ends⟩ := written_of_committed always done_
    have own := coherent.owned _ mem _ done_ s rfl
    have all := (mem_deeds_iff coherent mem own (beq_self_eq_true _)).mpr done_
    rw [deeds] at all
    have has : (w.transfers jobs turns).HasCommitted (w.clients.length + i) jobs[i].request s res :=
      ⟨c, rest, hc, shape, ends⟩
    have new_ := (List.mem_append.mp all).resolve_left (not_committed_before begun i coherent has)
    obtain ⟨j, hj, _, does'⟩ := exists_of_mem_left does.flip (Books.mem_commits.mpr new_)
    obtain ⟨k, hk, mine⟩ := does'.begun
    have same := has.same_client coherent hk mine
    have found : j = i := Fin.ext (by omega)
    exact found ▸ hj

/-- Before the jobs, nothing was moved. -/
theorem shifted_of_rivals
    (rivals : Rivals jobs (run setup).tables.accounts source destination amount) :
    Shifted source destination (run setup).tables.accounts 0 := by
  have schema := kept_run MemoryStore.kept_inSchema
    ⟨rowsInSchema_nil, fun _ h => by cases h⟩ setup
  refine ⟨⟨source, rivals.sourceThere, ?_, rivals.sourceText, (sub_zero _).symm⟩,
    ⟨destination, rivals.destinationThere, ?_, rivals.destinationText, (add_zero _).symm⟩⟩
  · exact schema.committed.accounts _ (Table.mem_of_find? rivals.sourceThere)
  · exact schema.committed.accounts _ (Table.mem_of_find? rivals.destinationThere)

/-- Whatever turns they have taken. -/
theorem exists_score (rivals : Rivals jobs (run setup).tables.accounts source destination amount)
    (turns : List (Nat × Turn)) :
    ∃ winners, Score (run setup) jobs turns source destination amount winners := by
  have coherent := coherent_transfers setup jobs turns
  have conducted := conducted_transfers setup jobs turns
  have begun := coherent_run setup
  obtain ⟨new, deeds, mine⟩ := deeds_of_transfers begun jobs turns
  have lawful : Books.Lawful ((run setup).desk.deeds ++ new) := deeds ▸ coherent.order.lawful
  have quiet : ∀ e ∈ new, e.publishes = true → ∃ s, e = .committed s := by
    intro e he seen
    obtain ⟨i, c, hc, program, done_⟩ := mine e he
    have always := always_of_conducted (conducted _ (List.mem_of_getElem? hc)) program
    exact committed_of_publishes always done_ seen
  obtain ⟨order, does⟩ : ∃ order,
      List.Forall₂ ((run setup).JobCommitted jobs turns) order (Books.commits new) := by
    refine exists_forall₂ fun s hs => ?_
    obtain ⟨before, after, split⟩ := List.append_of_mem (Books.mem_commits.mp hs)
    obtain ⟨i, res, does, _⟩ := written_of_commit coherent conducted deeds mine split
    exact ⟨i, res, does⟩
  have distinct : order.Nodup := by
    have all := Books.commits_nodup lawful
    rw [Books.commits, List.filterMap_append] at all
    refine nodup_of_forall₂ ?_ does all.of_append_right
    rintro i s s' ⟨_, does⟩ ⟨_, does'⟩
    exact (does.unique does').1
  refine ⟨order.toFinset, fun i c hc => ?_, ?_⟩
  · rw [List.mem_toFinset]
    exact mem_iff_committed begun coherent conducted deeds does hc
  · rw [List.toFinset_card_of_nodup distinct, does.length_eq, tables_eq coherent, deeds]
    refine shifted_replay lawful quiet (fun before s after split => ?_) ?_
    · obtain ⟨i, res, _, _, _, records, whole⟩ :=
        written_of_commit coherent conducted deeds mine split
      exact ⟨_, res, rivals.takes _ (List.getElem_mem i.2), records, whole⟩
    · rw [← tables_eq begun]
      exact shifted_of_rivals rivals

/-- Who has committed once has done so for good. -/
theorem Score.subset {earlier : Finset (Fin jobs.length)}
    (h : Score w jobs ts source destination amount earlier)
    (h' : Score w jobs (ts ++ us) source destination amount winners) : earlier ⊆ winners := by
  intro i hi
  obtain ⟨c, hc, _⟩ := client_of_job w ts i
  obtain ⟨c', hc', more, _⟩ := client_runFrom hc
    (us.map fun t => .turn (w.clients.length + t.1) t.2)
  rw [← transfers_append] at hc'
  obtain ⟨s, done_⟩ := (h.committed i c hc).mp hi
  exact (h'.committed i c' hc').mpr ⟨s, more.subset done_⟩

/-- What a job sees while it is underway. -/
theorem seen_of_isUnderway {earlier : Finset (Fin jobs.length)}
    (conducted : ∀ x ∈ (w.transfers jobs ts).clients, Conducted x)
    (h : Score w jobs ts source destination amount earlier) {most : ℕ} (le : earlier.card ≤ most)
    {i : Fin jobs.length} (takes : jobs[i].request.Takes source destination amount)
    {c : Client (Except LedgerError TransferResult)}
    (hc : (w.transfers jobs ts).clients[w.clients.length + i]? = some ⟨_, c⟩) {s : SessionId}
    {a : Int} {k : Account} (underway : jobs[i].request.IsUnderway s c.deeds)
    (side : a = jobs[i].request.fromId ∨ a = jobs[i].request.toId)
    (found : Table.find? a (w.transfers jobs ts).tables.accounts = some k) :
    Seen source destination amount jobs.length most a k := by
  have always := always_of_conducted (conducted _ (List.mem_of_getElem? hc)) (program_of_job hc)
  have outside : i ∉ earlier := by
    intro mem
    obtain ⟨t, done_⟩ := (h.committed i c hc).mp mem
    exact not_committed_of_isUnderway always underway t done_
  have fewer := Finset.card_lt_univ_of_notMem outside
  rw [Fintype.card_fin] at fewer
  obtain ⟨c', hc', worth⟩ := h.shifted.source
  obtain ⟨k', hk', worth'⟩ := h.shifted.destination
  refine ⟨earlier.card, fewer, le, ?_⟩
  rw [takes.fromId, takes.toId] at side
  rcases side with rfl | rfl
  · cases found.symm.trans hc'
    exact .inl ⟨rfl, worth⟩
  · cases found.symm.trans hk'
    exact .inr ⟨rfl, worth'⟩

/-- Every job goes on, until it succeeds or is refused. -/
theorem relies_of_score (rivals : Rivals jobs (run setup).tables.accounts source destination amount)
    (patient : ∀ t ∈ turns, ∀ j ∈ jobs[t.1]?, t.2.IsPatient j.cancelAt)
    (final : Score (run setup) jobs turns source destination amount winners)
    (split : turns = ts ++ us) (i : Fin jobs.length) :
    let seen := Seen source destination amount jobs.length winners.card
    ∃ c : Client (Except LedgerError TransferResult),
      ((run setup).transfers jobs ts).clients[(run setup).clients.length + i]? = some ⟨_, c⟩ ∧
      c.Relies (Moment.Favours (jobs.get i).request (jobs.get i).cancelAt seen)
        fun _ outcome => Prospect (jobs.get i).request seen outcome := by
  intro seen
  have takes := rivals.takes jobs[i] (List.getElem_mem i.2)
  have valid := TransferRequest.valid_of_validate takes.accepted
  have legible : Legible jobs[i].request seen := legible_seen takes
  induction ts using List.reverseRecOn generalizing us with
  | nil =>
      refine ⟨Client.start jobs[i].program, ?_, jobs[i].program, rfl, ?_⟩
      · rw [transfers, List.map_nil, List.append_nil]
        exact started_of_job (run setup) (List.getElem?_eq_getElem i.2)
      · exact relies_transfer legible valid jobs[i].unit
  | append_singleton ts t ih =>
      rw [List.append_assoc] at split
      obtain ⟨c, hc, relies⟩ := ih split
      obtain ⟨earlier, score⟩ := exists_score rivals ts
      have le : earlier.card ≤ winners.card := Finset.card_le_card (score.subset (split ▸ final))
      have coherent := coherent_transfers setup jobs ts
      have conducted := conducted_transfers setup jobs ts
      have there := hasAccount_of_shifted takes score.shifted
      have free : ∀ t' : Turn, Choice.turn ((run setup).clients.length + t.1) t.2 =
          .turn ((run setup).clients.length + i) t' → t'.IsPatient jobs[i].cancelAt := by
        intro t' turned
        obtain ⟨number, turn⟩ := Choice.turn.inj turned
        have mem : t ∈ turns := by
          rw [split]
          exact List.mem_append_right _ List.mem_cons_self
        have job : jobs[t.1]? = some jobs[i] := by
          rw [Nat.add_left_cancel number]
          exact List.getElem?_eq_getElem i.2
        exact turn ▸ patient t mem jobs[i] job
      rw [transfers_snoc]
      refine relies_step hc relies free fun m kept => ?_
      refine favours_of_isPatient coherent (List.mem_of_getElem? hc) valid there ?_ kept
      exact fun s a k underway side found =>
        seen_of_isUnderway conducted score le takes hc underway side found

/-- Over a store at rest, transfers climb like those of any traffic. -/
theorem ascending_transfers (rest : (run setup).AtRest) (jobs : List Job)
    (turns : List (Nat × Turn)) : ((run setup).transfers jobs turns).Ascending := by
  have begun := coherent_run setup
  have climbs : ((run setup).transfers jobs turns).Climbs := by
    have idle := climbs_of_over begun.order rest.finished rest.closed
    refine climbs_runFrom begun idle fun p hp => ?_
    rcases List.mem_append.mp hp with spawned | turned
    · obtain ⟨j, _, same⟩ := List.mem_map.mp spawned
      cases same
      exact Transfer.climbing_transfer j.unit j.cancelAt j.request
    · obtain ⟨t, _, no⟩ := List.mem_map.mp turned
      cases no
  obtain ⟨choices, same⟩ := run_transfers setup jobs turns
  exact same ▸ ascending_of_climbs (same ▸ climbs)

/-- When no job can go on without being cut short, all of them are over. -/
theorem over_of_completes (rest : (run setup).AtRest)
    (rivals : Rivals jobs (run setup).tables.accounts source destination amount)
    (completes : (run setup).Completes jobs turns)
    (final : Score (run setup) jobs turns source destination amount winners)
    {i : Fin jobs.length} {c : Client (Except LedgerError TransferResult)}
    (hc : ((run setup).transfers jobs turns).clients[(run setup).clients.length + i]? =
      some ⟨_, c⟩) : c.stage.isOver = true := by
  have ascending := ascending_transfers rest jobs turns
  cases isOver : c.stage.isOver with
  | true => rfl
  | false =>
      obtain ⟨j, y, hy, goesOn⟩ := exists_canGoOn_of_going ascending hc isOver
      exfalso
      rcases Nat.lt_or_ge j (run setup).clients.length with early | late
      · -- Those that were there before have come to their ends.
        have still : ((run setup).transfers jobs turns).clients[j]? =
            some (run setup).clients[j] :=
          client_of_late (fun _ _ => late_of_transfers) (List.getElem?_eq_getElem early) early
        cases hy.symm.trans still
        have ended := rest.finished _ (List.getElem_mem early)
        rw [Client.going_of_canGoOn goesOn] at ended
        cases ended
      · have bound := (List.getElem?_eq_some_iff.mp hy).1
        rw [length_transfers] at bound
        let k : Fin jobs.length := ⟨j - (run setup).clients.length, by omega⟩
        have number : (run setup).clients.length + (k : Nat) = j := Nat.add_sub_cancel' late
        obtain ⟨c', hc', relies⟩ :=
          relies_of_score rivals completes.patient final (List.append_nil turns).symm k
        rw [number, hy] at hc'
        cases hc'
        obtain ⟨t, free, able⟩ := Client.exists_patient_turn goesOn relies
          (rivals.uncancelled jobs[k] (List.getElem_mem k.2))
        rw [completes.maximal k c' (number.symm ▸ hy) t free] at able
        cases able

/-- At its end a job has committed or was refused. -/
theorem cases_of_completes (rest : (run setup).AtRest)
    (rivals : Rivals jobs (run setup).tables.accounts source destination amount)
    (completes : (run setup).Completes jobs turns)
    (final : Score (run setup) jobs turns source destination amount winners)
    (i : Fin jobs.length) :
    let seen := Seen source destination amount jobs.length winners.card
    ∃ c : Client (Except LedgerError TransferResult),
      ((run setup).transfers jobs turns).clients[(run setup).clients.length + i]? = some ⟨_, c⟩ ∧
      ((i ∈ winners ∧ ∃ res, c.stage = .running (.done (.ok res))) ∨
        i ∉ winners ∧ ∃ e, c.stage = .running (.done (.error (.conflict e))) ∧
          (jobs.get i).request.Refused seen e) := by
  obtain ⟨c, hc, relies⟩ :=
    relies_of_score rivals completes.patient final (List.append_nil turns).symm i
  have isOver := over_of_completes rest rivals completes final hc
  obtain ⟨outcome, stage, prospect⟩ := Client.post_of_over relies isOver
  have conducted := conducted_transfers setup jobs turns
  have follows := follows_of_conducted (conducted _ (List.mem_of_getElem? hc)) (program_of_job hc)
  refine ⟨c, hc, ?_⟩
  rcases prospect with ⟨res, rfl⟩ | ⟨e, rfl, refused⟩
  · rcases cases_of_over follows isOver with ⟨_, s, _, _, shape⟩ | ⟨never, _⟩
    · refine .inl ⟨(final.committed i c hc).mpr ⟨s, ?_⟩, res, stage⟩
      rw [shape]
      exact List.mem_append_right _ List.mem_cons_self
    · exact absurd stage (never res)
  · rcases cases_of_over follows isOver with ⟨_, _, ok, _⟩ | ⟨_, failed⟩
    · cases ok.symm.trans stage
    · refine .inr ⟨fun mem => ?_, e, stage, refused⟩
      obtain ⟨s, done_⟩ := (final.committed i c hc).mp mem
      exact committed_not_mem failed s done_

/-- How many amounts the funds cover, told by those that were taken and one that was not. -/
theorem eq_min_floor {funds amount : ℚ} {made jobs : ℕ} (positive : 0 < jobs → 0 < amount)
    (covered : 0 ≤ funds - made * amount) (le : made ≤ jobs)
    (short : made < jobs → funds - made * amount < amount) :
    made = min jobs ⌊funds / amount⌋₊ := by
  rcases Nat.eq_zero_or_pos jobs with rfl | some_
  · rw [Nat.zero_min]
    exact Nat.le_zero.mp le
  have positive := positive some_
  have most : made ≤ ⌊funds / amount⌋₊ := by
    refine Nat.le_floor ((le_div_iff₀ positive).mpr ?_)
    linarith
  rcases Nat.eq_or_lt_of_le le with rfl | fewer
  · exact (min_eq_left most).symm
  · have least : ⌊funds / amount⌋₊ < made + 1 := by
      refine (Nat.floor_lt' (Nat.succ_ne_zero made)).mpr ((div_lt_iff₀ positive).mpr ?_)
      push_cast
      linarith [short fewer]
    omega

/-- In a store where nobody else is at work, jobs contend for the funds of one account, in any order
of their steps. All of them come to an end. As many succeed as the funds are enough for, all others
are refused with a conflict, and the balances are changed by exactly what was moved. -/
theorem contending_transfers (setup : List Choice) (rest : (run setup).AtRest) {jobs : List Job}
    {turns : List (Nat × Turn)} (completes : (run setup).Completes jobs turns)
    {source destination : Account} {amount : ℚ}
    (rivals : Rivals jobs (run setup).tables.accounts source destination amount) :
    let before := run setup
    let after := before.transfers jobs turns
    ∃ winners : Finset (Fin jobs.length),
      winners.card = min jobs.length ⌊source.balance.value / amount⌋₊ ∧
      (∀ i : Fin jobs.length, ∃ c : Client (Except LedgerError TransferResult),
        after.clients[before.clients.length + i]? = some ⟨_, c⟩ ∧
        if i ∈ winners then ∃ res, c.stage = .running (.done (.ok res))
        else ∃ e, c.stage = .running (.done (.error (.conflict e)))) ∧
      (∃ c, Table.find? source.id after.tables.accounts = some c ∧
        c.balance.value = source.balance.value - winners.card * amount) ∧
      ∃ k, Table.find? destination.id after.tables.accounts = some k ∧
        k.balance.value = destination.balance.value + winners.card * amount := by
  intro before after
  obtain ⟨winners, final⟩ := exists_score rivals turns
  have ends := cases_of_completes rest rivals completes final
  obtain ⟨c, hc, left⟩ := final.shifted.source
  obtain ⟨k, hk, grown⟩ := final.shifted.destination
  have takes := fun i : Fin jobs.length => rivals.takes jobs[i] (List.getElem_mem i.2)
  refine ⟨winners, ?_, fun i => ?_, ⟨c, hc, left.value⟩, ⟨k, hk, grown.value⟩⟩
  · have most : winners.card ≤ jobs.length := by
      have bound := Finset.card_le_univ winners
      rwa [Fintype.card_fin] at bound
    refine eq_min_floor (fun some_ => amount_pos (takes ⟨0, some_⟩)) ?_ most fun fewer => ?_
    · rw [← left.value]
      exact left.schema.notNegative
    · -- One of the jobs has not moved its amount, and that is because it was refused.
      have some_ : winners.card < (Finset.univ : Finset (Fin jobs.length)).card := by
        rwa [Finset.card_univ, Fintype.card_fin]
      obtain ⟨i, _, outside⟩ := Finset.exists_mem_notMem_of_card_lt_card some_
      obtain ⟨_, _, ⟨mem, _⟩ | ⟨_, _, _, refused⟩⟩ := ends i
      · exact absurd mem outside
      · exact lt_of_refused (takes i) rivals.room refused
  · obtain ⟨c, hc, ⟨mem, succeeded⟩ | ⟨outside, e, stage, _⟩⟩ := ends i
    · exact ⟨c, hc, if_pos mem ▸ succeeded⟩
    · exact ⟨c, hc, if_neg outside ▸ ⟨e, stage⟩⟩

def payer : Account := ⟨1, "ada", .whole 100, "USD", .ofMillis 0⟩

def payee : Account := ⟨2, "bob", .whole 50, "USD", .ofMillis 0⟩

/-- Three jobs, for the funds of two. -/
def threefold : List Job :=
  let request : TransferRequest := ⟨1, 2, .whole 40, "USD", "", .whole 1⟩
  [⟨.unbounded, none, request⟩, ⟨.unbounded, some 1, request⟩, ⟨.unbounded, none, request⟩]

/-- Step by step in turn, so that they wait for each other. -/
def alternately : List (Nat × Turn) :=
  let now := Timestamp.ofMillis 0
  (List.replicate 16 [(2, .think 0 0), (2, .submit now), (1, .think 0 0), (1, .submit now),
    (0, .think 0 0), (0, .submit now), (0, .resume now), (1, .resume now),
    (2, .resume now)]).flatten

theorem rivals_threefold :
    Rivals threefold (run (crossing.take 4)).tables.accounts payer payee 40 where
  sourceThere := by decide +kernel
  destinationThere := by decide +kernel
  sourceText := by decide
  destinationText := by decide
  takes j hj := by
    have request : j.request = ⟨1, 2, .whole 40, "USD", "", .whole 1⟩ := by
      simp only [threefold, List.mem_cons, List.not_mem_nil, or_false] at hj
      rcases hj with rfl | rfl | rfl <;> rfl
    rw [request]
    exact ⟨by decide, rfl, rfl, by simp, by decide⟩
  uncancelled := by decide
  room := by
    have balance : payee.balance.value = 50 := by simp [payee]
    rw [balance]
    norm_num [threefold]

theorem completes_alternately : (run (crossing.take 4)).Completes threefold alternately where
  patient := by decide +kernel
  maximal i c hc t _ := by
    have all : ∀ x ∈ ((run (crossing.take 4)).transfers threefold alternately).clients,
        x.2.stage.isOver = true := by decide +kernel
    exact Client.turn_of_over (all _ (List.mem_of_getElem? hc))

theorem contending_transfers_threefold :
    (run (crossing.take 4)).AtRest ∧ (run (crossing.take 4)).Completes threefold alternately ∧
    Rivals threefold (run (crossing.take 4)).tables.accounts payer payee 40 ∧
    ∃ winners : Finset (Fin threefold.length), winners.card = 2 ∧
      ∀ i : Fin threefold.length, ∃ c : Client (Except LedgerError TransferResult),
        ((run (crossing.take 4)).transfers threefold alternately).clients[2 + i.1]? =
          some ⟨_, c⟩ ∧
        if i ∈ winners then ∃ res, c.stage = .running (.done (.ok res))
        else ∃ e, c.stage = .running (.done (.error (.conflict e))) := by
  have rest : (run (crossing.take 4)).AtRest := by
    refine ⟨by decide +kernel, fun s => ?_⟩
    have empty : (run (crossing.take 4)).desk.store.sessions = [] := by decide +kernel
    simp [MemoryStore.openSession?, MemoryStore.session?, empty]
  obtain ⟨winners, count, ends, _⟩ :=
    contending_transfers (crossing.take 4) rest completes_alternately rivals_threefold
  refine ⟨rest, completes_alternately, rivals_threefold, winners, ?_, ends⟩
  have balance : payer.balance.value = 100 := by simp [payer]
  have twice : ⌊(100 / 40 : ℚ)⌋₊ = 2 := (Nat.floor_eq_iff (by norm_num)).mpr (by norm_num)
  rw [count, balance, twice]
  rfl

end Traffic
end DoubleEntry
