import DoubleEntry.Proofs.Sql.UnitOfWork
import DoubleEntry.Proofs.Transfer.Conduct

/-!
What a transfer says to a database. It opens a transaction, writes its rows and changes the two
balances, and commits. The first reply that is not what it needs turns it back: nothing is said
after that but that the transaction is rolled back.
-/

namespace DoubleEntry

open Sql Simulation

namespace Transfer

/-- What an account gains by a transfer that it takes part in. -/
def delta (r : TransferRequest) (id : Int) : Decimal :=
  if id = r.fromId then -r.amount else r.amount

/-- What is written between the opening and the end, and what is needed of the replies: the rows
that are asked for, and for a log that shows every event also the texts of the balances. -/
def body (verbose : Bool) (r : TransferRequest) : List Exchange :=
  let first := min r.fromId r.toId
  let second := max r.fromId r.toId
  [.row (.insertTransaction r.toNewTransaction) Row.transaction,
    .row (.insertEntry r.fromId (-r.amount)) Row.entry,
    .row (.insertEntry r.toId r.amount) Row.entry,
    .balance verbose first (delta r first),
    .balance verbose second (delta r second)]

/-- All that a transfer says before it commits, and what it needs of the replies. -/
def plan (verbose : Bool) (o : Options) (r : TransferRequest) : List Exchange :=
  opening o ++ body verbose r

/-- The statements before the commit. They do not depend on the log. -/
def planned (o : Options) (r : TransferRequest) : List Statement :=
  let first := min r.fromId r.toId
  let second := max r.fromId r.toId
  o.opening ++ [.insertTransaction r.toNewTransaction, .insertEntry r.fromId (-r.amount),
    .insertEntry r.toId r.amount, .addBalance first (delta r first),
    .addBalance second (delta r second)]

theorem statements_opening (o : Options) : (opening o).map (·.statement) = o.opening := by
  rw [opening_eq, List.map_map]
  exact List.map_id _

theorem statements_plan (verbose : Bool) (o : Options) (r : TransferRequest) :
    (plan verbose o r).map (·.statement) = planned o r := by
  rw [plan, List.map_append, statements_opening]
  rfl

section Records

variable {verbose : Bool} {r : TransferRequest}

theorem holds_applyTransfer (apart : r.fromId ≠ r.toId) (s : SessionId) :
    Holds s (Balance.applyTransfer verbose s r.fromId r.toId r.amount)
      [.balance verbose (min r.fromId r.toId) (delta r (min r.fromId r.toId)),
        .balance verbose (max r.fromId r.toId) (delta r (max r.fromId r.toId))] := by
  have debit : delta r r.fromId = -r.amount := if_pos rfl
  have credit : delta r r.toId = r.amount := if_neg (Ne.symm apart)
  simp only [Balance.applyTransfer]
  by_cases order : r.fromId < r.toId
  · rw [if_pos order, min_eq_left order.le, max_eq_right order.le, debit, credit]
    exact holds_bind (holds_applyDelta _ _ _ _) fun _ =>
      holds_bind (holds_applyDelta _ _ _ _) fun _ => holds_pure _
  · have order' := not_lt.mp order
    rw [if_neg order, min_eq_right order', max_eq_left order', debit, credit]
    exact holds_bind (holds_applyDelta _ _ _ _) fun _ =>
      holds_bind (holds_applyDelta _ _ _ _) fun _ => holds_pure _

theorem holds_record (apart : r.fromId ≠ r.toId) (s : SessionId) :
    Holds s (record verbose r s) (body verbose r) := by
  refine holds_bind (holds_row rfl fun _ => rfl) fun transaction => ?_
  refine holds_bind (holds_row rfl fun _ => rfl) fun fromEntry => ?_
  refine holds_bind (holds_row rfl fun _ => rfl) fun toEntry => ?_
  exact holds_bind (holds_applyTransfer apart s) fun sides => holds_pure _

end Records

open Program UnitOfWork ScriptedState

section Dialogue

variable {u : UnitOfWork} {o : Options} {r : TransferRequest} {replies : List ScriptedReply}
  {st st' : ScriptedState} {k : Nat} {e : LedgerError}

theorem run_transfer_finished {outcome : Except LedgerError TransferResult}
    (accepted : r.validate = .ok ())
    (ran : (u.execute none fun s => record u.verbose r s).run alone st = (.finished outcome, st')) :
    (transfer u none r).run alone st = (.finished outcome, st') := by
  have inner : (run u none r).run alone st = (.finished outcome, st') := run_bind ran
  simp only [transfer, accepted]
  exact run_bind inner

theorem run_transfer_halted {x : Overflow} (accepted : r.validate = .ok ())
    (ran : (u.execute none fun s => record u.verbose r s).run alone st = (.halted x, st')) :
    (transfer u none r).run alone st = (.halted x, st') := by
  have inner : (run u none r).run alone st = (.halted x, st') := by
    change ((u.execute none fun s => record u.verbose r s).bind _).run alone st = _
    exact run_bind_halted ran
  simp only [transfer, accepted]
  exact run_bind_halted inner

theorem dialogue_of_run {α : Type} {p : Program (Timed LedgerStore) α}
    {progress : Progress (Timed LedgerStore) α}
    (ran : p.run alone { options := o, script := { replies := replies } } = (progress, st)) :
    dialogue o replies p = (progress, st.leave.script.sent.reverse) := by
  rw [dialogue, ran]

theorem leave_idle (o : Options) (script : Script) :
    ({ options := o, script := script } : ScriptedState).leave =
      { options := o, script := script } := rfl

theorem leave_closed (o : Options) (script : Script) :
    (closed o script).leave = closed o script := rfl

theorem leave_opened (o : Options) (script : Script) :
    (opened o script).leave.script = (script.reply .rollback).2 := rfl

/-- A transaction that is not opened is rolled back without more ado. -/
theorem dialogue_unopened (u : UnitOfWork) (accepted : r.validate = .ok ())
    (early : k < (opening o).length) (h : CutOff (plan u.verbose o r) replies k (.fail e)) :
    dialogue o replies (transfer u none r) =
      (.finished (.error e), (planned o r).take (k + 1) ++ [.rollback]) := by
  have fails := converse_cutOff (h.of_lt early) []
  rw [dialogue_of_run (run_transfer_finished accepted (execute_unopened u fails)), reply_drop,
    leave_idle]
  have same : (planned o r).take (k + 1) = ((opening o).map (·.statement)).take (k + 1) := by
    rw [← statements_plan u.verbose, plan, List.map_append, List.take_append_of_le_length]
    exact (List.length_map _).symm ▸ early
  simp [same]

/-- What becomes of a transfer whose transaction has been opened. -/
theorem run_transfer_opened (accepted : r.validate = .ok ())
    (opens : AllGood (opening o) replies) {verdict : Checked LedgerError Unit} {script : Script}
    (met : converse (plan u.verbose o r) ⟨replies, []⟩ = (verdict, script)) :
    ∃ progress, (transfer u none r).run alone
        { options := o, script := { replies := replies } } =
      (match progress with
        | .finished outcome => (conclude 0 outcome).run alone (opened o script)
        | progress => (progress, opened o script)) ∧
      Agrees progress verdict := by
  have apart := (TransferRequest.valid_of_validate accepted).apart
  have first := congrArg Prod.fst (converse_allGood opens [])
  obtain ⟨progress, ran, agrees⟩ := execute_opened u (holds_record apart 0) first met
  refine ⟨progress, ?_, agrees⟩
  cases agrees with
  | good value =>
      obtain ⟨result, script', ends⟩ := conclude_finished (.ok value) o script
      exact (run_transfer_finished accepted (ran.trans ends)).trans ends.symm
  | failed e =>
      obtain ⟨result, script', ends⟩ :=
        conclude_finished (α := TransferResult) (.error e) o script
      exact (run_transfer_finished accepted (ran.trans ends)).trans ends.symm
  | halted x => exact run_transfer_halted accepted ran

/-- A transfer whose body has an outcome ends its transaction as the outcome demands. If the
statement for that fails, the transaction is rolled back after all. -/
theorem dialogue_concluded {outcome : Except LedgerError TransferResult} {said : List Statement}
    (ran : (transfer u none r).run alone { options := o, script := { replies := replies } } =
      (conclude 0 outcome).run alone (opened o ⟨replies.drop k, said.reverse ++ []⟩)) :
    dialogue o replies (transfer u none r) =
      match replyAt replies k with
      | .ok _ => (.finished outcome, said ++ [closing outcome])
      | .error failure =>
          (.finished (.error (spoilt outcome failure)), said ++ [closing outcome, .rollback]) := by
  cases replied : replyAt replies k with
  | ok a =>
      simp only [run_conclude, reply_drop, replied] at ran
      rw [dialogue_of_run ran, leave_closed]
      simp [closed]
  | error failure =>
      simp only [run_conclude, reply_drop, replied] at ran
      rw [dialogue_of_run ran, leave_closed]
      simp [closed]

/-- With good replies only, all depends on the reply to the commit. -/
theorem dialogue_allGood (u : UnitOfWork) (accepted : r.validate = .ok ())
    (good : AllGood (plan u.verbose o r) replies) :
    ∃ value, dialogue o replies (transfer u none r) =
      match replyAt replies (plan u.verbose o r).length with
      | .ok _ => (.finished (.ok value), planned o r ++ [.commit])
      | .error failure =>
          (.finished (.error (.ofDatabase failure)), planned o r ++ [.commit, .rollback]) := by
  have said := converse_allGood good []
  rw [statements_plan] at said
  obtain ⟨progress, ran, agrees⟩ := run_transfer_opened accepted good.of_append said
  cases agrees with
  | good value => exact ⟨value, dialogue_concluded ran⟩

/-- A transfer that fails in the open transaction rolls it back. -/
theorem dialogue_failed (u : UnitOfWork) (accepted : r.validate = .ok ())
    (late : (opening o).length ≤ k) (h : CutOff (plan u.verbose o r) replies k (.fail e)) :
    dialogue o replies (transfer u none r) =
      match replyAt replies (k + 1) with
      | .ok _ => (.finished (.error e), (planned o r).take (k + 1) ++ [.rollback])
      | .error failure => (.finished (.error (.rollback e (.ofDatabase failure))),
          (planned o r).take (k + 1) ++ [.rollback, .rollback]) := by
  have said := converse_cutOff h []
  rw [statements_plan] at said
  obtain ⟨progress, ran, agrees⟩ := run_transfer_opened accepted (h.allGood_of_le late) said
  cases agrees with
  | failed e => exact dialogue_concluded ran

theorem late_of_halt {verbose : Bool} {x : Overflow}
    (h : CutOff (plan verbose o r) replies k (.halt x)) :
    (opening o).length ≤ k := by
  by_contra early
  obtain ⟨exchange, found, made⟩ :=
    Option.map_eq_some_iff.mp (h.of_lt (Nat.lt_of_not_le early)).there
  rw [opening_eq, List.getElem?_map] at found
  obtain ⟨s, _, rfl⟩ := Option.map_eq_some_iff.mp found
  cases replied : replyAt replies k with
  | ok a => cases made.symm.trans (verdict_plain_of_ok replied)
  | error failure => cases made.symm.trans (verdict_plain_of_error replied)

/-- A transfer that is stopped leaves its transaction, which is rolled back then. -/
theorem dialogue_halted (u : UnitOfWork) (accepted : r.validate = .ok ()) {x : Overflow}
    (h : CutOff (plan u.verbose o r) replies k (.halt x)) :
    dialogue o replies (transfer u none r) =
      (.halted x, (planned o r).take (k + 1) ++ [.rollback]) := by
  obtain ⟨progress, ran, agrees⟩ :=
    run_transfer_opened accepted (h.allGood_of_le (late_of_halt h)) (converse_cutOff h [])
  cases agrees with
  | halted x =>
      rw [dialogue_of_run ran, leave_opened, reply_drop]
      simp [statements_plan]

end Dialogue

/-- What is said in a transfer, and what it comes to, for all that the database may reply. -/
structure Protocol (verbose : Bool) (o : Options) (r : TransferRequest)
    (replies : List ScriptedReply)
    (result : Progress (Timed LedgerStore) (Except LedgerError TransferResult))
    (sent : List Statement) : Prop where
  committed : AllGood (plan verbose o r) replies →
    ∀ a, replyAt replies (plan verbose o r).length = .ok a →
    sent = planned o r ++ [.commit] ∧ ∃ value, result = .finished (.ok value)
  uncommitted : AllGood (plan verbose o r) replies →
    ∀ failure, replyAt replies (plan verbose o r).length = .error failure →
    sent = planned o r ++ [.commit, .rollback] ∧
      result = .finished (.error (.ofDatabase failure))
  /-- The transaction is not opened. -/
  unopened : ∀ k e, CutOff (plan verbose o r) replies k (.fail e) → k < (opening o).length →
    sent = (planned o r).take (k + 1) ++ [.rollback] ∧ result = .finished (.error e)
  /-- The transfer fails, and is undone. -/
  undone : ∀ k e, CutOff (plan verbose o r) replies k (.fail e) → (opening o).length ≤ k →
    ∀ a, replyAt replies (k + 1) = .ok a →
    sent = (planned o r).take (k + 1) ++ [.rollback] ∧ result = .finished (.error e)
  /-- The transfer fails, and so does undoing it, which is tried once more. -/
  spoilt : ∀ k e, CutOff (plan verbose o r) replies k (.fail e) → (opening o).length ≤ k →
    ∀ failure, replyAt replies (k + 1) = .error failure →
    sent = (planned o r).take (k + 1) ++ [.rollback, .rollback] ∧
      result = .finished (.error (.rollback e (.ofDatabase failure)))
  halted : ∀ k x, CutOff (plan verbose o r) replies k (.halt x) →
    sent = (planned o r).take (k + 1) ++ [.rollback] ∧ result = .halted x
  once : AllGood (plan verbose o r) replies → sent.count .commit = 1
  never : ¬ AllGood (plan verbose o r) replies → .commit ∉ sent
  succeeds : (∃ value, result = .finished (.ok value)) ↔
    AllGood (plan verbose o r) replies ∧ ∃ a, replyAt replies (plan verbose o r).length = .ok a

theorem setLockTimeout_ne_commit (ms : Nat) : Statement.setLockTimeout ms ≠ .commit := by
  intro same
  have texts : ("SET LOCAL lock_timeout = '" ++ toString ms ++ "ms'").toList = "COMMIT".toList :=
    congrArg (fun s => s.text.toList) same
  simp only [String.toList_append] at texts
  have first := congrArg List.head? texts
  simp at first

theorem setIsolation_ne_commit (level : IsolationLevel) :
    Statement.setIsolation level ≠ .commit := by
  cases level <;> decide

theorem begin_ne_commit : Statement.begin ≠ .commit := by decide

theorem rollback_ne_commit : Statement.rollback ≠ .commit := by decide

theorem commit_not_mem_opening (o : Options) : .commit ∉ o.opening := by
  intro mem
  rcases List.mem_cons.mp mem with same | mem
  · exact begin_ne_commit same.symm
  rcases List.mem_append.mp mem with level | timeout
  · split at level
    · cases level
    · exact setIsolation_ne_commit _ (List.mem_singleton.mp level).symm
  · obtain ⟨ms, _, same⟩ := List.mem_map.mp timeout
    exact setLockTimeout_ne_commit ms same

theorem commit_not_mem (o : Options) (r : TransferRequest) : .commit ∉ planned o r := by
  rw [planned, List.mem_append, not_or]
  refine ⟨commit_not_mem_opening o, fun mem => ?_⟩
  simp only [List.mem_cons, List.not_mem_nil, or_false] at mem
  rcases mem with same | same | same | same | same <;>
    cases congrArg Statement.parameters same

theorem count_commit (o : Options) (r : TransferRequest) {rest : List Statement}
    (others : .commit ∉ rest) : (planned o r ++ .commit :: rest).count .commit = 1 := by
  rw [List.count_append, List.count_cons_self, List.count_eq_zero.mpr (commit_not_mem o r),
    List.count_eq_zero.mpr others]

section Kept

variable {u : UnitOfWork} {o : Options} {r : TransferRequest} {replies : List ScriptedReply}
  {k : Nat} {verdict : Checked LedgerError Unit}

/-- After a bad reply there is nothing but rollbacks, and no success. -/
theorem dialogue_cutOff (u : UnitOfWork) (accepted : r.validate = .ok ())
    (cut : CutOff (plan u.verbose o r) replies k verdict) :
    ∃ n result, dialogue o replies (transfer u none r) =
        (result, (planned o r).take (k + 1) ++ List.replicate n .rollback) ∧
      ∀ value, result ≠ .finished (.ok value) := by
  rcases verdict with x | e | _
  · exact ⟨1, _, dialogue_halted u accepted cut, fun _ no => by cases no⟩
  · rcases Nat.lt_or_ge k (opening o).length with early | late
    · exact ⟨1, _, dialogue_unopened u accepted early cut, fun _ no => by cases no⟩
    · have came := dialogue_failed u accepted late cut
      cases replied : replyAt replies (k + 1) with
      | ok a =>
          rw [replied] at came
          exact ⟨1, _, came, fun _ no => by cases no⟩
      | error failure =>
          rw [replied] at came
          exact ⟨2, _, came, fun _ no => by cases no⟩
  · exact absurd rfl cut.bad

theorem commit_not_mem_cut (o : Options) (r : TransferRequest) (k n : Nat) :
    .commit ∉ (planned o r).take k ++ List.replicate n .rollback := by
  rw [List.mem_append, not_or, List.mem_replicate]
  refine ⟨fun mem => commit_not_mem o r (List.mem_of_mem_take mem), ?_⟩
  rintro ⟨_, same⟩
  exact rollback_ne_commit same.symm

/-- Only an acknowledged commit makes a transfer succeed. -/
theorem dialogue_succeeds (u : UnitOfWork) (accepted : r.validate = .ok ()) :
    (∃ value, (dialogue o replies (transfer u none r)).1 = .finished (.ok value)) ↔
      AllGood (plan u.verbose o r) replies ∧
        ∃ a, replyAt replies (plan u.verbose o r).length = .ok a := by
  rcases allGood_or_cutOff (plan u.verbose o r) replies with good | ⟨k, verdict, cut⟩
  · obtain ⟨value, came⟩ := dialogue_allGood u accepted good
    cases replied : replyAt replies (plan u.verbose o r).length with
    | ok a =>
        rw [replied] at came
        exact ⟨fun _ => ⟨good, a, rfl⟩, fun _ => ⟨value, congrArg Prod.fst came⟩⟩
    | error failure =>
        rw [replied] at came
        constructor
        · rintro ⟨_, no⟩
          cases no.symm.trans (congrArg Prod.fst came)
        · rintro ⟨_, _, no⟩
          cases no
  · obtain ⟨_, _, came, fails⟩ := dialogue_cutOff u accepted cut
    constructor
    · rintro ⟨value, no⟩
      exact absurd ((congrArg Prod.fst came).symm.trans no) (fails value)
    · rintro ⟨good, _⟩
      exact absurd good cut.not_allGood

end Kept

/-- Whatever the database replies. A log that does not show every event takes any balance, so that
then a reply is good as soon as it has the row that is asked for. -/
theorem protocol_kept (o : Options) {r : TransferRequest} (accepted : r.validate = .ok ())
    (verbose : Bool) (replies : List ScriptedReply) :
    let d := dialogue o replies (transfer { timeout := none, verbose := verbose } none r)
    Protocol verbose o r replies d.1 d.2 := by
  intro d
  let u : UnitOfWork := { timeout := none, verbose := verbose }
  exact {
    committed := by
      intro good a replied
      obtain ⟨value, came⟩ := dialogue_allGood u accepted good
      rw [replied] at came
      exact ⟨congrArg Prod.snd came, value, congrArg Prod.fst came⟩
    uncommitted := by
      intro good failure replied
      obtain ⟨_, came⟩ := dialogue_allGood u accepted good
      rw [replied] at came
      exact ⟨congrArg Prod.snd came, congrArg Prod.fst came⟩
    unopened := by
      intro k e cut early
      have came := dialogue_unopened u accepted early cut
      exact ⟨congrArg Prod.snd came, congrArg Prod.fst came⟩
    undone := by
      intro k e cut late a replied
      have came := dialogue_failed u accepted late cut
      rw [replied] at came
      exact ⟨congrArg Prod.snd came, congrArg Prod.fst came⟩
    spoilt := by
      intro k e cut late failure replied
      have came := dialogue_failed u accepted late cut
      rw [replied] at came
      exact ⟨congrArg Prod.snd came, congrArg Prod.fst came⟩
    halted := by
      intro k x cut
      have came := dialogue_halted u accepted cut
      exact ⟨congrArg Prod.snd came, congrArg Prod.fst came⟩
    once := by
      intro good
      obtain ⟨_, came⟩ := dialogue_allGood u accepted good
      cases replied : replyAt replies (plan verbose o r).length with
      | ok a =>
          rw [replied] at came
          exact congrArg Prod.snd came ▸ count_commit o r List.not_mem_nil
      | error failure =>
          rw [replied] at came
          have others : .commit ∉ [Statement.rollback] := by simpa using rollback_ne_commit.symm
          exact congrArg Prod.snd came ▸ count_commit o r others
    never := by
      intro bad
      rcases allGood_or_cutOff (plan verbose o r) replies with good | ⟨k, verdict, cut⟩
      · exact absurd good bad
      · obtain ⟨n, _, came, _⟩ := dialogue_cutOff u accepted cut
        exact congrArg Prod.snd came ▸ commit_not_mem_cut o r (k + 1) n
    succeeds := dialogue_succeeds u accepted }

/-- A serializable transfer to an account that there is not, with a limit on waiting. -/
theorem protocol_kept_missing :
    let o : Options := { isolation := .serializable, lockTimeout := some 250 }
    let r : TransferRequest :=
      { fromId := 2, toId := 1, amount := Decimal.whole 5, currency := "USD", description := "",
        fee := Decimal.whole 1 }
    let refused : DatabaseFailure := .refused (some "23503") "no such account"
    let replies : List ScriptedReply := [.ok {}, .ok {}, .ok {}, .error refused]
    r.validate = .ok () ∧
      dialogue o replies (transfer .unbounded none r) =
        (.finished (.error (.conflict (.database refused))),
          [.begin, .setIsolation .serializable, .setLockTimeout 250,
            .insertTransaction r.toNewTransaction, .rollback]) := by
  intro o r refused replies
  have accepted : r.validate = .ok () := by decide +kernel
  have cut : CutOff (plan false o r) replies 3 (.fail (.conflict (.database refused))) := by
    refine ⟨rfl, fun no => (by cases no), fun i before => ?_⟩
    rcases i with _ | _ | _ | i
    · rfl
    · rfl
    · rfl
    · omega
  have late : (opening o).length ≤ 3 := Nat.le_refl 3
  obtain ⟨sent, result⟩ := (protocol_kept o accepted false replies).undone 3 _ cut late {} rfl
  exact ⟨accepted, Prod.ext result sent⟩

/-- Account 1 is changed first, although account 2 pays. A balance with more digits than can be
written stops the transfer before its commit only if the log shows every event. -/
example :
    let r : TransferRequest :=
      { fromId := 2, toId := 1, amount := Decimal.whole 5, currency := "USD", description := "",
        fee := Decimal.whole 1 }
    let time : Cell := .text "2024-01-01T00:00:00Z"
    let row (cells : List Cell) : ScriptedReply := .ok { rows := [cells ++ [time]], affected := 1 }
    let replies : List ScriptedReply := [.ok {},
      row [.integer 1, .integer 2, .integer 1, .text "5", .text "1", .text "USD", .text ""],
      row [.integer 1, .integer 2, .text "-5"], row [.integer 2, .integer 1, .text "5"],
      row [.integer 1, .text "a", .text "5", .text "USD"],
      row [.integer 2, .text "b", .text "0.0001000000000000000000000000000", .text "USD"]]
    let sent (verbose : Bool) : List Statement :=
      (dialogue {} replies (transfer { timeout := none, verbose := verbose } none r)).2
    let changes : List Statement :=
      [.begin, .insertTransaction r.toNewTransaction, .insertEntry 2 (-Decimal.whole 5),
        .insertEntry 1 (Decimal.whole 5), .addBalance 1 (Decimal.whole 5),
        .addBalance 2 (-Decimal.whole 5)]
    sent false = changes ++ [.commit] ∧ sent true = changes ++ [.rollback] := by
  decide +kernel

end Transfer
end DoubleEntry
