import DoubleEntry.Proofs.Client.Limits
import DoubleEntry.Proofs.Store.Growth
import DoubleEntry.Service.History

/-!
An audit next to other clients. It reads the entries of an account in batches, each where the one
before it has ended, while more entries are committed. Ids are drawn long before they are committed,
so that an entry may be committed in front of others that have been read, and move them on into the
next batch. What was committed before the audit is never missed; but it may be read once more for
each entry that has come in front of it.
-/

namespace DoubleEntry

/-- The entries of a batch that is heard. -/
def Moment.listed (m : Moment) : List Entry :=
  match m.answer? with
  | some ⟨.query (.entries _ _ _), .ok es⟩ => es
  | _ => []

/-- How many entries of the account are in front of this one. -/
def Tables.ahead (t : Tables) (a : Int) (e : Entry) : Nat :=
  (t.entriesOf a).countP fun x => x.id < e.id

namespace Table

variable {α : Type} [HasId α] {rows rows' : List α} {e : α}

/-- In ascending rows the place of a row is the number of rows with smaller ids. -/
theorem getElem?_countP (ascending : Ascending rows) (he : e ∈ rows) :
    rows[rows.countP fun x => HasId.id x < HasId.id e]? = some e := by
  obtain ⟨before, after, rfl⟩ := List.append_of_mem he
  obtain ⟨_, later, cross⟩ := List.pairwise_append.mp ascending
  have first : before.countP (fun x => HasId.id x < HasId.id e) = before.length :=
    List.countP_eq_length.mpr fun x hx => decide_eq_true (cross x hx e List.mem_cons_self)
  have rest : (e :: after).countP (fun x => HasId.id x < HasId.id e) = 0 := by
    refine List.countP_eq_zero.mpr fun x hx => ?_
    have ge : HasId.id e ≤ HasId.id x := by
      cases List.mem_cons.mp hx with
      | inl same => exact same ▸ Int.le_refl _
      | inr mem => exact Int.le_of_lt (List.rel_of_pairwise_cons later mem)
    simpa using ge
  rw [List.countP_append, first, rest, Nat.add_zero, List.getElem?_append_right (Nat.le_refl _),
    Nat.sub_self]
  rfl

theorem nodup_of_ascending (ascending : Ascending rows) : rows.Nodup :=
  ascending.imp fun lt same => absurd (same ▸ lt) (Int.lt_irrefl _)

/-- A page has the rows whose places are in it. -/
theorem mem_page_iff (ascending : Ascending rows) (limit offset : Nat) :
    e ∈ page limit offset rows ↔
      e ∈ rows ∧ offset ≤ rows.countP (fun x => HasId.id x < HasId.id e) ∧
        rows.countP (fun x => HasId.id x < HasId.id e) < offset + limit := by
  simp only [page, Int.toNat_natCast]
  constructor
  · intro h
    obtain ⟨k, hk⟩ := List.getElem?_of_mem h
    have early : k < limit :=
      Nat.lt_of_lt_of_le (List.getElem?_eq_some_iff.mp hk).1 (List.length_take_le _ _)
    rw [List.getElem?_take_of_lt early, List.getElem?_drop] at hk
    have he := List.mem_of_getElem? hk
    have place := (List.getElem?_inj (List.getElem?_eq_some_iff.mp hk).1
      (nodup_of_ascending ascending)).mp (hk.trans (getElem?_countP ascending he).symm)
    exact ⟨he, by omega, by omega⟩
  · rintro ⟨he, least, most⟩
    refine List.mem_of_getElem? (i := rows.countP (fun x => HasId.id x < HasId.id e) - offset) ?_
    rw [List.getElem?_take_of_lt (by omega), List.getElem?_drop, Nat.add_sub_cancel' least]
    exact getElem?_countP ascending he

/-- A page that is not full goes to the end. -/
theorem countP_lt_of_short (ascending : Ascending rows) {limit offset : Nat}
    (short : (page limit offset rows).length < limit) (he : e ∈ rows) :
    rows.countP (fun x => HasId.id x < HasId.id e) < offset + limit := by
  have place := (List.getElem?_eq_some_iff.mp (getElem?_countP ascending he)).1
  simp only [page, Int.toNat_natCast, List.length_take, List.length_drop] at short
  omega

theorem countP_le_of_subset (ascending : Ascending rows) (sub : rows ⊆ rows') (p : α → Bool) :
    rows.countP p ≤ rows'.countP p :=
  List.Subperm.countP_le p (List.subperm_of_subset (nodup_of_ascending ascending) sub)

end Table

/-- What an audit of an account has read, the entries from a place on being still unread. It began
at some tables; the tables now are later ones. -/
structure Audited (first now : Tables) (a : Int) (place : Nat) (read : List Entry) : Prop where
  kept : first.entriesOf a ⊆ now.entriesOf a
  there : ∀ e ∈ read, e ∈ now.entriesOf a
  found : ∀ e ∈ first.entriesOf a, e ∈ read ∨ place ≤ now.ahead a e
  twice : ∀ e, read.count e + first.ahead a e ≤ 1 + now.ahead a e
  again : ∀ e, place ≤ now.ahead a e → read.count e + first.ahead a e ≤ now.ahead a e

/-- A later state of the entries: some may have been added, in any places. -/
structure Tables.Grows (a : Int) (before after : Tables) : Prop where
  ascending : Table.Ascending (before.entriesOf a)
  subset : before.entriesOf a ⊆ after.entriesOf a

theorem Tables.Grows.ahead {a : Int} {before after : Tables} (h : Grows a before after)
    (e : Entry) : before.ahead a e ≤ after.ahead a e :=
  Table.countP_le_of_subset h.ascending h.subset _

namespace Audited

variable {first now later : Tables} {a : Int} {place : Nat} {read : List Entry}

theorem start (t : Tables) (a : Int) : Audited t t a 0 [] where
  kept := List.Subset.refl _
  there _ he := by cases he
  found _ _ := .inr (Nat.zero_le _)
  twice e := by simp
  again e _ := by simp

theorem mono (h : Audited first now a place read) (grows : now.Grows a later) :
    Audited first later a place read where
  kept := List.Subset.trans h.kept grows.subset
  there e he := grows.subset (h.there e he)
  found e he := (h.found e he).imp_right fun le => Nat.le_trans le (grows.ahead e)
  twice e := Nat.le_trans (h.twice e) (Nat.add_le_add_left (grows.ahead e) 1)
  again e le := by
    have moved := grows.ahead e
    have once := h.twice e
    -- An entry that was read, and comes after the place again, has been overtaken.
    by_cases unread : place ≤ now.ahead a e
    · exact Nat.le_trans (h.again e unread) moved
    · omega

/-- A batch is read. -/
theorem batch (h : Audited first now a place read) (ascending : Table.Ascending (now.entriesOf a))
    (limit : Nat) :
    Audited first now a (place + limit)
      (read ++ Table.page (limit : Nat) (place : Nat) (now.entriesOf a)) := by
  have mem : ∀ e, e ∈ Table.page (limit : Nat) (place : Nat) (now.entriesOf a) ↔
      e ∈ now.entriesOf a ∧ place ≤ now.ahead a e ∧ now.ahead a e < place + limit :=
    fun e => Table.mem_page_iff ascending limit place
  have once : ∀ e, (Table.page (limit : Nat) (place : Nat) (now.entriesOf a)).count e ≤ 1 :=
    List.nodup_iff_count_le_one.mp <| (Table.nodup_of_ascending ascending).sublist
      ((List.take_sublist _ _).trans (List.drop_sublist _ _))
  have skipped : ∀ e, ¬ (place ≤ now.ahead a e ∧ now.ahead a e < place + limit) →
      (Table.page (limit : Nat) (place : Nat) (now.entriesOf a)).count e = 0 :=
    fun e out => List.count_eq_zero.mpr fun he => out ((mem e).mp he).2
  refine ⟨h.kept, fun e he => ?_, fun e he => ?_, fun e => ?_, fun e le => ?_⟩
  · exact (List.mem_append.mp he).elim (h.there e) fun page => ((mem e).mp page).1
  · cases h.found e he with
    | inl old => exact .inl (List.mem_append_left _ old)
    | inr unread =>
        by_cases most : now.ahead a e < place + limit
        · exact .inl (List.mem_append_right _ ((mem e).mpr ⟨h.kept he, unread, most⟩))
        · exact .inr (Nat.not_lt.mp most)
  · rw [List.count_append]
    by_cases unread : place ≤ now.ahead a e
    · have before := h.again e unread
      have now_ := once e
      omega
    · have before := h.twice e
      have now_ := skipped e fun window => unread window.1
      omega
  · rw [List.count_append]
    have before := h.again e (Nat.le_trans (Nat.le_add_right _ _) le)
    have now_ := skipped e fun window => Nat.not_lt.mpr le window.2
    omega

end Audited

namespace History

open Program

/-- What is done after a batch has been read, if there are more batches. -/
def proceed (accountId offset : Int) (rest : Decimal → Action LedgerStore Decimal)
    (total : Decimal) (batch : List Entry) : Action LedgerStore Decimal :=
  match addAll total batch with
  | none => throw (.internal (.entrySumOverflow accountId))
  | some total =>
      if (batch.length : Int) < batchSize then pure total
      else if IsInt64 (offset + batchSize) then rest total
      else Action.ofProgram (.halt .addition)

theorem netFrom_eq (a : Int) (total : Decimal) (offset : Int) :
    netFrom a total offset = (Query.entries a batchSize offset).ask >>=
      proceed a offset (netFrom a · (offset + batchSize)) total := by
  rw [netFrom]
  rfl

theorem addAll_append (total : Decimal) (first second : List Entry) :
    addAll total (first ++ second) = (addAll total first).bind (addAll · second) :=
  List.foldlM_append

/-- The result of an audit that has read these entries. -/
def verdict (a : Int) (read : List Entry) : Except LedgerError Decimal :=
  match addAll Decimal.zero read with
  | some total => .ok total
  | none => .error (.internal (.entrySumOverflow a))

theorem verdict_of_sum (a : Int) {read : List Entry} {total : Decimal}
    (h : addAll Decimal.zero read = some total) : verdict a read = .ok total := by
  rw [verdict, h]

def audit (a : Int) : Program (Timed LedgerStore) (Except LedgerError Decimal) :=
  timed (netEntrySum a).toProgram

/-- The request for a batch, as a client makes it. -/
def batchRequest (a offset : Int) : TimedRequest LedgerStore :=
  .free (.call (.query (.entries a batchSize offset)))

/-- An audit that has ended has read a batch first, and then it was over or went on. -/
theorem leads_netFrom {a offset : Int} {total : Decimal} {ms : List Moment}
    {outcome : Except LedgerError Decimal}
    (h : (timed (netFrom a total offset).toProgram).Leads ms (done outcome)) :
    ∃ answer rest, ms = .heard (batchRequest a offset) answer :: rest ∧
      ∀ batch : List Entry, answer = .ok batch →
        (addAll total batch = none →
          rest = [] ∧ outcome = .error (.internal (.entrySumOverflow a))) ∧
        ∀ total', addAll total batch = some total' →
          ((batch.length : Int) < batchSize → rest = [] ∧ outcome = .ok total') ∧
          (batchSize ≤ (batch.length : Int) →
            (timed (netFrom a total' (offset + batchSize)).toProgram).Leads rest
              (done outcome)) := by
  rw [netFrom_eq] at h
  cases h with
  | @heard q next answer rest p fits goes =>
      refine ⟨answer, rest, rfl, fun batch same => ?_⟩
      subst same
      change (timed (proceed a offset (netFrom a · (offset + batchSize)) total batch)).Leads rest _
        at goes
      refine ⟨fun overflows => ?_, fun total' sum => ⟨fun last => ?_, fun more => ?_⟩⟩
      · simp only [proceed, overflows] at goes
        cases goes
        exact ⟨rfl, rfl⟩
      · simp only [proceed, sum, if_pos last] at goes
        cases goes
        exact ⟨rfl, rfl⟩
      · simp only [proceed, sum, if_neg (Int.not_lt.mpr more)] at goes
        split at goes
        · exact goes
        · cases goes

end History

namespace Traffic

variable {w : Traffic} {i : Nat} {a : Int} {α : Type}

theorem grows_runFrom (h : w.Coherent) (choices : List Choice) (a : Int) :
    w.tables.Grows a (w.runFrom choices).tables := by
  obtain ⟨es, deeds⟩ := deeds_runFrom h choices
  have later := (coherent_runFrom h choices).order.lawful
  rw [← deeds] at later
  rw [tables_eq h, tables_eq (coherent_runFrom h choices), ← deeds]
  refine ⟨?_, fun e he => ?_⟩
  · exact List.Pairwise.filter _ (Drawing.ascending_rows Drawing.regular_entries h.order.lawful)
  · obtain ⟨mem, mine⟩ := List.mem_filter.mp he
    exact List.mem_filter.mpr ⟨Drawing.rows_append Drawing.regular_entries later mem, mine⟩

/-- The rest of an audit, whatever the other clients do in the meantime. -/
theorem audited_runFrom {first : Tables} {place : Nat} {read : List Entry} {total : Decimal}
    {choices : List Choice} {outcome : Except LedgerError Decimal} (h : w.Coherent)
    (audited : Audited first w.tables a place read)
    (sum : History.addAll Decimal.zero read = some total)
    (leads : (Program.timed (History.netFrom a total place).toProgram).Leads (w.moments i choices)
      (.done outcome)) :
    let all := read ++ (w.moments i choices).flatMap Moment.listed
    outcome = History.verdict a all ∧
      (∀ total, outcome = .ok total → ∀ e ∈ first.entriesOf a, e ∈ all) ∧
      ∃ place, Audited first (w.runFrom choices).tables a place all := by
  induction choices generalizing w place read total with
  | nil =>
      obtain ⟨answer, rest, no, _⟩ := History.leads_netFrom leads
      cases no
  | cons choice choices ih =>
      have later := coherent_step h choice
      obtain ⟨answer, rest, shape, goes⟩ := History.leads_netFrom leads
      cases at_ : w.moment? i choice with
      | none =>
          have still : w.moments i (choice :: choices) = (w.step choice).moments i choices := by
            rw [moments, at_]
            rfl
          rw [still] at leads ⊢
          exact ih later (audited.mono (grows_runFrom h [choice] a)) sum leads
      | some m =>
          have now_ : w.moments i (choice :: choices) = m :: (w.step choice).moments i choices := by
            rw [moments, at_]
            rfl
          rw [now_] at shape ⊢
          obtain ⟨rfl, rfl⟩ := List.cons.inj shape
          obtain ⟨same, now, reply⟩ := (replies_of_moment? at_ rfl).2.of_reads h.order rfl
          let batch := Table.page (500 : Nat) place (w.tables.entriesOf a)
          have page : answer = .ok batch := reply
          have ascending := (grows_runFrom h [] a).ascending
          have tables : (w.step choice).tables = w.tables := congrArg (·.store.tables) same
          have heard : Audited first (w.step choice).tables a (place + 500) (read ++ batch) :=
            tables ▸ audited.batch ascending 500
          have listed : (Moment.heard (History.batchRequest a place) answer).listed = batch := by
            rw [page]
            rfl
          have sums : History.addAll Decimal.zero (read ++ batch) = History.addAll total batch := by
            rw [History.addAll_append, sum]
            rfl
          rw [List.flatMap_cons, listed, ← List.append_assoc]
          obtain ⟨overflows, goesOn⟩ := goes batch page
          cases next : History.addAll total batch with
          | none =>
              obtain ⟨ended, rfl⟩ := overflows next
              rw [ended, List.flatMap_nil, List.append_nil]
              refine ⟨?_, fun _ no => (by cases no), _, heard.mono (grows_runFrom later choices a)⟩
              rw [History.verdict, sums, next]
          | some total' =>
              obtain ⟨last, more⟩ := goesOn total' next
              by_cases short : batch.length < 500
              · obtain ⟨ended, rfl⟩ := last (Int.ofNat_lt.mpr short)
                rw [ended, List.flatMap_nil, List.append_nil]
                refine ⟨?_, fun _ _ e he => ?_, _, heard.mono (grows_runFrom later choices a)⟩
                · exact (History.verdict_of_sum a (sums.trans next)).symm
                · refine (heard.found e he).resolve_right fun beyond => ?_
                  rw [tables] at beyond
                  have place := Table.countP_lt_of_short ascending short (audited.kept he)
                  exact absurd place (Nat.not_lt.mpr beyond)
              · have full : (500 : Int) ≤ batch.length := Int.ofNat_le.mpr (Nat.not_lt.mp short)
                exact ih later heard (sums.trans next) (more full)

/-- What the client has read that is started after the first choices. -/
def readAfter (before : List Choice) (p : Program (Timed LedgerStore) α) (after : List Choice) :
    List Entry :=
  (((run before).step (.spawn p)).moments (run before).clients.length after).flatMap Moment.listed

theorem audited_run {before after : List Choice} {c : Client (Except LedgerError Decimal)}
    {outcome : Except LedgerError Decimal}
    (there : (run (before ++ .spawn (History.audit a) :: after)).clients[
      (run before).clients.length]? = some ⟨_, c⟩)
    (ended : c.stage = .running (.done outcome)) :
    let read := readAfter before (History.audit a) after
    outcome = History.verdict a read ∧
      (∀ total, outcome = .ok total → ∀ e ∈ (run before).tables.entriesOf a, e ∈ read) ∧
      ∃ place, Audited (run before).tables
        (run (before ++ .spawn (History.audit a) :: after)).tables a place read := by
  have program : c.program = History.audit a := by
    obtain ⟨c', hc', program⟩ :=
      client_of_spawn (rfl : _ = before ++ .spawn (History.audit a) :: after)
    cases there.symm.trans hc'
    exact program
  have leads : (History.audit a).Leads
      (((run before).step (.spawn (History.audit a))).moments (run before).clients.length after)
      (.done outcome) := by
    have led := led_run there
    rw [moments_of_spawn, program] at led
    cases led with
    | stands at_ leads deeds =>
        simp only [Client.rest?, ended, Option.some.injEq] at at_
        exact at_ ▸ leads
    | left gone leads ends deeds => cases gone.symm.trans ended
  rw [run_split]
  have coherent : (run before).Coherent := coherent_run before
  exact audited_runFrom (coherent_step coherent (.spawn (History.audit a)))
    (Audited.start (run before).tables a) rfl leads

/-- An audit that ends gives the sum of all that it has read, which is nothing but entries of the
account. It has read whatever was committed when it began; and no entry more than once, but for each
entry that has come in front of it since then. -/
theorem audit_reads {before after : List Choice} {c : Client (Except LedgerError Decimal)}
    {outcome : Except LedgerError Decimal}
    (there : (run (before ++ .spawn (History.audit a) :: after)).clients[
      (run before).clients.length]? = some ⟨_, c⟩)
    (ended : c.stage = .running (.done outcome)) :
    let read := readAfter before (History.audit a) after
    let last := run (before ++ .spawn (History.audit a) :: after)
    outcome = History.verdict a read ∧
      (∀ e ∈ read, e ∈ last.tables.entriesOf a) ∧
      (∀ total, outcome = .ok total → ∀ e ∈ (run before).tables.entriesOf a, e ∈ read) ∧
      ∀ e, read.count e ≤ 1 + (last.tables.ahead a e - (run before).tables.ahead a e) := by
  obtain ⟨verdict, found, place, audited⟩ := audited_run there ended
  refine ⟨verdict, audited.there, found, fun e => ?_⟩
  have twice := audited.twice e
  omega

/-- Inserts entries of one amount into an account. -/
def posting (s : SessionId) (account : Int) (amount : Decimal) :
    Nat → Program (Timed LedgerStore) Unit
  | 0 => .done ()
  | n + 1 => .ask (I := Timed LedgerStore)
      (.free (.call (.perform s (.insertEntry account amount)))) fun _ =>
        posting s account amount n

/-- A session that inserts entries, and commits. -/
def postingSession (account : Int) (amount : Decimal) (n : Nat) :
    Program (Timed LedgerStore) Unit :=
  .ask (I := Timed LedgerStore) (.free (.call .begin)) fun
    | .error _ => .done ()
    | .ok s => (posting s account amount n).bind fun _ =>
        (Program.callFree (I := LedgerStore) (.perform s .commit)).bind fun _ => .done ()

/-- One session has drawn the first entry, and not committed it. Others have committed a full batch
of entries behind it. -/
def overtaken : List Choice :=
  let now := Timestamp.ofMillis 0
  let account : NewAccount := ⟨"ada", "USD", .whole 100⟩
  [.spawn (Program.callFree (I := LedgerStore) (.query (.createAccount account))),
    .turn 0 (.submit now), .spawn (postingSession 1 (.whole 7) 1)] ++
  List.replicate 25 (.spawn (postingSession 1 (.whole 1) 20)) ++
  [.turn 1 (.submit now), .turn 1 (.submit now)] ++
  ((List.range 25).flatMap fun j => List.replicate 21 (.turn (j + 2) (.submit now))) ++
  (List.range 25).map fun j => .turn (26 - j) (.submit now)

/-- The session commits between two batches of the audit. -/
def overtaking : List Choice :=
  let now := Timestamp.ofMillis 0
  [.turn 27 (.submit now), .turn 1 (.submit now), .turn 27 (.submit now)]

/-- A client that has come to the end of its program. -/
def hasEnded (x : AnyClient) : Bool :=
  match x.2.stage with
  | .running (.done _) => true
  | _ => false

/-- An audit, with the first two of its batches written out. -/
theorem audit_eq (a : Int) : History.audit a =
    Program.timed (Action.toProgram ((Query.entries a History.batchSize 0).ask >>=
      History.proceed a 0 (fun total =>
        (Query.entries a History.batchSize (0 + History.batchSize)).ask >>=
          History.proceed a (0 + History.batchSize)
            (History.netFrom a · (0 + History.batchSize + History.batchSize)) total)
        Decimal.zero)) := by
  rw [History.audit, History.netEntrySum, History.netFrom_eq]
  congr 4
  funext total
  exact History.netFrom_eq a total _

set_option maxRecDepth 100000 in
theorem overtaken_facts :
    (run overtaken).clients.length = 27 ∧
    (((run overtaken).step (.spawn (History.audit 1))).runFrom overtaking).clients[27]?.any
      hasEnded = true ∧
    History.addAll Decimal.zero (readAfter overtaken (History.audit 1) overtaking) =
      some (.whole 501) ∧
    (Table.find? 501 (run overtaken).tables.entries).map
      (fun e => (e.accountId, (readAfter overtaken (History.audit 1) overtaking).count e)) =
        some (1, 2) := by
  rw [audit_eq]
  decide +kernel

theorem overtaken_ends : ∃ c : Client (Except LedgerError Decimal),
    (run (overtaken ++ .spawn (History.audit 1) :: overtaking)).clients[
      (run overtaken).clients.length]? = some ⟨_, c⟩ ∧
    c.stage = .running (.done (.ok (.whole 501))) := by
  obtain ⟨length, ended, sum, _⟩ := overtaken_facts
  obtain ⟨c, there, _⟩ :=
    client_of_spawn (rfl : _ = overtaken ++ .spawn (History.audit 1) :: overtaking)
  have is : hasEnded ⟨_, c⟩ = true := by
    rw [← length, ← run_split, there] at ended
    exact ended
  simp only [hasEnded] at is
  split at is
  · rename_i outcome at_
    have verdict := (audited_run there at_).1.trans (History.verdict_of_sum 1 sum)
    exact ⟨c, there, verdict ▸ at_⟩
  · cases is

theorem audit_reads_overtaken : ∃ c : Client (Except LedgerError Decimal),
    (run (overtaken ++ .spawn (History.audit 1) :: overtaking)).clients[
      (run overtaken).clients.length]? = some ⟨_, c⟩ ∧
    c.stage = .running (.done (.ok (.whole 501))) ∧
    (∀ e ∈ (run overtaken).tables.entriesOf 1,
      e ∈ readAfter overtaken (History.audit 1) overtaking) ∧
    ∀ e ∈ readAfter overtaken (History.audit 1) overtaking,
      e ∈ (run (overtaken ++ .spawn (History.audit 1) :: overtaking)).tables.entriesOf 1 := by
  obtain ⟨c, there, ended⟩ := overtaken_ends
  obtain ⟨_, only, found, _⟩ := audit_reads there ended
  exact ⟨c, there, ended, found _ rfl, only⟩

/-- An audit does not read every entry once, not even those that were committed before. -/
theorem audit_reads_twice :
    ¬ ∀ (before after : List Choice) (a : Int) (c : Client (Except LedgerError Decimal))
        (total : Decimal),
      (run (before ++ .spawn (History.audit a) :: after)).clients[
        (run before).clients.length]? = some ⟨_, c⟩ →
      c.stage = .running (.done (.ok total)) →
      (∀ e ∈ (run before).tables.entriesOf a,
        (readAfter before (History.audit a) after).count e = 1) ∧
      ∀ e, e ∉ (run before).tables.entriesOf a →
        (readAfter before (History.audit a) after).count e ≤ 1 := by
  intro once
  obtain ⟨c, there, ended⟩ := overtaken_ends
  obtain ⟨e, found, facts⟩ := Option.map_eq_some_iff.mp overtaken_facts.2.2.2
  obtain ⟨mine, twice⟩ := Prod.mk.inj facts
  have entry : e ∈ (run overtaken).tables.entriesOf 1 :=
    List.mem_filter.mpr ⟨Table.mem_of_find? found, beq_iff_eq.mpr mine⟩
  have exact_ := (once overtaken overtaking 1 c _ there ended).1 e entry
  rw [twice] at exact_
  cases exact_

end Traffic

end DoubleEntry
