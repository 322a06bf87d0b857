import DoubleEntry.Proofs.Store.Growth
import DoubleEntry.Proofs.Transfer.Calls
import DoubleEntry.Proofs.Transfer.Sessions

/-!
Programs that use the ledger in calls. They make transfers, checked or not, with hooks or without,
as many as they like, and ask queries in between; a hook may make calls of its own. What happens in
the calls of a program tells what has been counted of it, and which transactions it has committed.
-/

namespace DoubleEntry

/-- What happens in calls: one is turned away by its check, one comes to the transfer itself and
ends, a hook is invoked and ends. -/
inductive Happening where
  | rejected (e : LedgerError)
  | made (r : TransferRequest) (outcome : Except LedgerError TransferResult)
  | invoked (ended : Except String Unit)

namespace Happening

/-- A call has come to the transfer itself. -/
def isMade : Happening → Bool
  | made _ _ => true
  | _ => false

/-- A call has returned an error, for a reason. -/
def isFailed (reason : String) : Happening → Bool
  | rejected e | made _ (.error e) => e.reason == reason
  | _ => false

/-- A transfer of a valid request has returned an error, for a reason. -/
def isUndone (reason : String) : Happening → Bool
  | made r (.error e) => r.validate.isOk && e.reason == reason
  | _ => false

/-- A hook has failed. -/
def isHookFailure : Happening → Bool
  | invoked (.error _) => true
  | _ => false

def transaction? : Happening → Option Transaction
  | made _ (.ok res) => some res.transaction
  | _ => none

/-- What is counted of it. -/
def counted : Happening → List Measurement
  | rejected e => [.transferFailed e.reason]
  | made r outcome => Transfer.counted r outcome
  | invoked (.ok ()) => []
  | invoked (.error _) => [.hookFailure]

end Happening

/-- What is told of a hook that has ended. -/
def CommitHook.told : Except String Unit → List Moment
  | .ok () => []
  | .error text => [.told (.event (.hookFailed text)), .told (.counted .hookFailure)]

namespace Program

variable {α β : Type} {p : Program (Timed LedgerStore) α} {ms : List Moment} {history : List Deed}

/-- The program counts nothing, and asks the store for queries only. -/
def Quiet (p : Program (Timed LedgerStore) α) : Prop :=
  p.Limited Note.Uncounted (TimedRequest.Asks fun r => ∃ query, r = .query query)

/-- A program that keeps to a conduct keeps to it wherever it is led. -/
theorem follows_of_leads {k : Conduct α} {p' : Program (Timed LedgerStore) α}
    (leads : p.Leads ms p') (h : p.Follows k history) :
    p'.Follows k (history ++ ms.flatMap Moment.deeds) := by
  induction leads generalizing history with
  | here p =>
      rw [List.flatMap_nil, List.append_nil]
      exact h
  | told rest ih => exact ih h
  | heard fits rest ih =>
      rw [List.flatMap_cons, ← List.append_assoc]
      exact ih (h.2.2 _ fits)

/-- What is only asked in queries does nothing in a session. -/
theorem session?_of_limited {N : Note → Prop} {p' : Program (Timed LedgerStore) α}
    (limited : p.Limited N (TimedRequest.Asks fun r => ∃ query, r = .query query))
    (leads : p.Leads ms p') : ∀ d ∈ ms.flatMap Moment.deeds, d.session? = none := by
  intro d hd
  obtain ⟨m, hm, mine⟩ := List.mem_flatMap.mp hd
  obtain ⟨r, answer, heard, does⟩ := Moment.exists_answer_of_mem mine
  obtain ⟨query, rfl⟩ := Moment.asked_of_limited ((limited_of_leads limited leads).1 m hm) heard
  exact Deed.session?_of_query does

end Program

/-- Programs that use the ledger in calls. `CheckedTransfer.transfer` and
`CheckedTransfer.transferWithHook` are such programs: a check, and after it a transfer, with its
hook. -/
inductive CallingProgram : (α : Type) → Program (Timed LedgerStore) α → Prop where
  | quiet {α : Type} {p : Program (Timed LedgerStore) α} (h : p.Quiet) : CallingProgram α p
  | transfer (u : UnitOfWork) (cancelAt : Option Nat) (r : TransferRequest) :
      CallingProgram _ (Transfer.transfer u cancelAt r)
  | checked (r : TransferRequest)
      {p : Program (Timed LedgerStore) (Except LedgerError TransferResult)}
      (work : CallingProgram _ p) : CallingProgram _ (CheckedTransfer.after r p)
  | hooked (hook : CommitHook TransferResult)
      {p : Program (Timed LedgerStore) (Except LedgerError TransferResult)}
      (work : CallingProgram _ p) (hooks : ∀ res, CallingProgram _ (hook res)) :
      CallingProgram _ (hook.after p)
  | bind {α β : Type} {p : Program (Timed LedgerStore) β} {f : β → Program (Timed LedgerStore) α}
      (first : CallingProgram β p) (rest : ∀ b, CallingProgram α (f b)) :
      CallingProgram α (p.bind f)

open Program in
/-- A program goes through some moments to an end, and this happens in its calls. -/
inductive Went : {α : Type} → Program (Timed LedgerStore) α → List Moment → α → List Happening →
    Prop where
  | quiet {α : Type} {p : Program (Timed LedgerStore) α} {ms a} (h : p.Quiet)
      (leads : p.Leads ms (done a)) : Went p ms a []
  | made {u cancelAt r ms outcome}
      (leads : (Transfer.transfer u cancelAt r).Leads ms (done outcome)) :
      Went (Transfer.transfer u cancelAt r) ms outcome [.made r outcome]
  | rejected {r p ms e} (check : (CheckedTransfer.check r).Leads ms (done (.error e))) :
      Went (CheckedTransfer.after r p) ms (.error e) [.rejected e]
  | passed {r p ms ns outcome log} (check : (CheckedTransfer.check r).Leads ms (done (.ok ())))
      (work : Went p ns outcome log) : Went (CheckedTransfer.after r p) (ms ++ ns) outcome log
  | unhooked {hook : CommitHook TransferResult} {p ms e log} (work : Went p ms (.error e) log) :
      Went (hook.after p) ms (.error e) log
  | hooked {hook : CommitHook TransferResult} {p ms ns res ended log log'}
      (work : Went p ms (.ok res) log) (invoked : Went (hook res) ns ended log') :
      Went (hook.after p) (ms ++ (ns ++ CommitHook.told ended)) (.ok res)
        (log ++ (log' ++ [.invoked ended]))
  | bind {α β : Type} {p : Program (Timed LedgerStore) β}
      {f : β → Program (Timed LedgerStore) α} {ms ns b a log log'} (first : Went p ms b log)
      (rest : Went (f b) ns a log') : Went (p.bind f) (ms ++ ns) a (log ++ log')

section

open Program

variable {α : Type} {p : Program (Timed LedgerStore) α} {ms : List Moment} {a : α}
variable {log : List Happening} {history : List Deed}

/-- Of every program that uses the ledger in calls it can be told what has happened in them. -/
theorem exists_went (calling : CallingProgram α p) (leads : p.Leads ms (done a)) :
    ∃ log, Went p ms a log := by
  induction calling generalizing ms with
  | quiet h => exact ⟨_, .quiet h leads⟩
  | transfer u cancelAt r => exact ⟨_, .made leads⟩
  | checked r work ih =>
      obtain ⟨first, rest, verdict, rfl, check, goes⟩ :=
        leads_bind_done (p := CheckedTransfer.check r) leads
      cases verdict with
      | error e =>
          cases goes
          rw [List.append_nil]
          exact ⟨_, .rejected check⟩
      | ok _ =>
          obtain ⟨log, went⟩ := ih goes
          exact ⟨_, .passed check went⟩
  | @hooked hook p work hooks ih ihHooks =>
      obtain ⟨first, rest, outcome, rfl, worked, goes⟩ := leads_bind_done (p := p) leads
      obtain ⟨log, went⟩ := ih worked
      cases outcome with
      | error e =>
          cases goes
          rw [List.append_nil]
          exact ⟨_, .unhooked went⟩
      | ok res =>
          obtain ⟨second, last, _, rfl, ran, ends⟩ := leads_bind_done (p := hook.run res) goes
          obtain ⟨invoked, told, ended, rfl, hooked, tells⟩ :=
            leads_bind_done (p := hook res) ran
          obtain ⟨log', went'⟩ := ihHooks res hooked
          cases ends
          -- The hook itself may have made calls; what is told of it comes after all of them.
          have told_eq : told = CommitHook.told ended := by
            cases ended with
            | ok _ =>
                cases tells
                rfl
            | error text =>
                cases tells with
                | told tells =>
                    cases tells with
                    | told tells =>
                        cases tells
                        rfl
          rw [List.append_nil, told_eq]
          exact ⟨_, .hooked went went'⟩
  | @bind α β p f first rest ihFirst ihRest =>
      obtain ⟨early, late, b, rfl, led, goes⟩ := leads_bind_done leads
      obtain ⟨log, went⟩ := ihFirst led
      obtain ⟨log', went'⟩ := ihRest b goes
      exact ⟨_, .bind went went'⟩

/-- What is counted is what has happened. -/
theorem measured_of_went (went : Went p ms a log) (granted : Granted history ms) :
    measured ms = log.flatMap Happening.counted := by
  -- What a part is granted depends on what was done before it: the history grows part by part.
  induction went generalizing history with
  | quiet h leads => exact measured_of_limited h leads
  | @made u cancelAt r ms outcome leads =>
      rw [Transfer.measured_transfer leads granted]
      exact (List.append_nil _).symm
  | rejected check => exact CheckedTransfer.measured_check check
  | passed check work ih =>
      rw [measured_append, CheckedTransfer.measured_check check]
      exact ih (granted_append.mp granted).2
  | unhooked work ih => exact ih granted
  | @hooked hook p ms ns res ended log log' work invoked ih ih' =>
      have ⟨before, after⟩ := granted_append.mp granted
      have told : measured (CommitHook.told ended) = (Happening.invoked ended).counted := by
        cases ended <;> rfl
      rw [measured_append, measured_append, told, ih before, ih' (granted_append.mp after).1]
      simp only [List.flatMap_append, List.flatMap_singleton]
  | bind first rest ihFirst ihRest =>
      have ⟨before, after⟩ := granted_append.mp granted
      rw [measured_append, ihFirst before, ihRest after, List.flatMap_append]

end

/-- Nothing is done but in sessions that were begun in between. -/
def Deed.Closed (ds : List Deed) : Prop := ∀ d ∈ ds, ∀ s, d.session? = some s → .began s ∈ ds

theorem Deed.closed_append {ds es : List Deed} (first : Closed ds) (rest : Closed es) :
    Closed (ds ++ es) := by
  intro d hd s hs
  cases List.mem_append.mp hd with
  | inl early => exact List.mem_append_left _ (first d early s hs)
  | inr late => exact List.mem_append_right _ (rest d late s hs)

theorem Deed.closed_of_outside {ds : List Deed} (h : ∀ d ∈ ds, d.session? = none) : Closed ds :=
  fun d hd s hs => by cases (h d hd).symm.trans hs

namespace Drawing

variable {ρ : Type} {k : Drawing ρ} {ds es : List Deed} {s : SessionId}

theorem of_eq_nil (session : ∀ d s row, k.row? d = some (s, row) → d.session? = some s)
    (none : ∀ d ∈ ds, d.session? ≠ some s) : k.of ds s = [] := by
  refine List.eq_nil_iff_forall_not_mem.mpr fun row hr => ?_
  obtain ⟨d, hd, drawn⟩ := List.mem_filterMap.mp (mem_of.mp hr)
  exact none d hd (session d s row drawn)

theorem kept_eq_nil (none : ∀ s, .committed s ∉ ds) : k.kept ds = [] := by
  refine List.flatMap_eq_nil_iff.mpr fun s hs => ?_
  exact absurd (Books.mem_commits.mp hs) (none s)

/-- What is kept of sessions that are apart is kept of each. -/
theorem kept_append (session : ∀ d s row, k.row? d = some (s, row) → d.session? = some s)
    (closed : Deed.Closed es) (apart : ∀ s, .began s ∈ es → ∀ d ∈ ds, d.session? ≠ some s) :
    k.kept (ds ++ es) = k.kept ds ++ k.kept es := by
  -- A session at work in the second part has begun there, and the first does not know it.
  have early : ∀ s ∈ Books.commits ds, k.of (ds ++ es) s = k.of ds s := by
    intro s hs
    have none : k.of es s = [] := of_eq_nil session fun d hd mine =>
      apart s (closed d hd s mine) _ (Books.mem_commits.mp hs) rfl
    rw [of_append, none, List.append_nil]
  have late : ∀ s ∈ Books.commits es, k.of (ds ++ es) s = k.of es s := by
    intro s hs
    have none : k.of ds s = [] :=
      of_eq_nil session (apart s (closed _ (Books.mem_commits.mp hs) s rfl))
    rw [of_append, none, List.nil_append]
  rw [kept, Books.commits_append, List.flatMap_append, List.flatMap_congr early,
    List.flatMap_congr late]
  rfl

end Drawing

section

open Program

/-- Only a session that is new is begun. -/
theorem fresh_of_granted {history : List Deed} {ms : List Moment} (granted : Granted history ms)
    {s : SessionId} (began : .began s ∈ ms.flatMap Moment.deeds) :
    ∀ d ∈ history, d.session? ≠ some s := by
  induction ms generalizing history with
  | nil => cases began
  | cons m ms ih =>
      cases List.mem_append.mp began with
      | inl now =>
          obtain ⟨r, answer, heard, does⟩ := Moment.exists_answer_of_mem now
          have new : ∀ t, (⟨r, answer⟩ : (r : StoreRequest) × r.Reply) = ⟨.begin, .ok t⟩ →
              t = s → ∀ d ∈ history, d.session? ≠ some s := by
            rintro t same rfl
            obtain ⟨_, is, fresh⟩ := granted.1.begins (same ▸ heard)
            cases is
            exact fresh
          simp only [Deed.of?] at does
          split at does <;> cases does
          exact new s rfl rfl
      | inr later => exact fun d hd => ih granted.2 later d (List.mem_append_left _ hd)

namespace Transfer

variable {u : UnitOfWork} {cancelAt : Option Nat} {r : TransferRequest} {ms : List Moment}
variable {outcome : Except LedgerError TransferResult} {res : TransferResult}

/-- What a transfer has done that has come to its end. -/
theorem deeds_of_leads (leads : (transfer u cancelAt r).Leads ms (done outcome)) :
    (∃ res s, outcome = .ok res ∧ Records r res ∧
      ms.flatMap Moment.deeds = written r s res ++ [.committed s, .abandoned s]) ∨
    (∃ e, outcome = .error e) ∧ (ms.flatMap Moment.deeds = [] ∨
      ∃ s, Uncommitted s (ms.flatMap Moment.deeds)) := by
  have ended := (follows_of_leads leads (follows_transfer u cancelAt r)).2
  rw [List.nil_append] at ended
  cases outcome with
  | ok res =>
      obtain ⟨s, _, ⟨rfl, records⟩, deeds⟩ := ended
      exact .inl ⟨res, s, rfl, records, deeds.trans (List.append_assoc _ _ _)⟩
  | error e =>
      refine .inr ⟨⟨e, rfl⟩, ?_⟩
      cases ended with
      | inl nothing => exact .inl nothing
      | inr open_ =>
          obtain ⟨s, uncommitted, _⟩ := open_
          exact .inr ⟨s, uncommitted⟩

theorem records_of_leads (leads : (transfer u cancelAt r).Leads ms (done (.ok res))) :
    Records r res := by
  cases deeds_of_leads leads with
  | inl whole =>
      obtain ⟨_, s, is, records, _⟩ := whole
      cases is
      exact records
  | inr failed =>
      obtain ⟨⟨e, no⟩, _⟩ := failed
      cases no

theorem closed_of_leads (leads : (transfer u cancelAt r).Leads ms (done outcome)) :
    Deed.Closed (ms.flatMap Moment.deeds) := by
  rcases deeds_of_leads leads with ⟨res, s, _, _, deeds⟩ | ⟨_, deeds | ⟨s, uncommitted⟩⟩
  · intro d hd t ht
    rw [deeds] at hd ⊢
    have mine := isOf_written r res (.inr rfl) d hd
    cases ht.symm.trans (eq_of_beq mine)
    exact List.mem_append_left _ List.mem_cons_self
  · rw [deeds]
    exact Deed.closed_of_outside fun d hd => by cases hd
  · intro d hd t ht
    have mine := uncommitted.cases_mem hd
    obtain ⟨rest, shape, _⟩ := uncommitted
    have same : t = s := by
      cases d <;> cases ht <;> simp_all [Deed.IsWork]
    rw [same, shape]
    exact List.mem_cons_self

/-- What is kept of a transfer is its transaction, if it has a result. -/
theorem kept_of_leads (leads : (transfer u cancelAt r).Leads ms (done outcome)) :
    Drawing.transactions.kept (ms.flatMap Moment.deeds) =
      [Happening.made r outcome].filterMap Happening.transaction? := by
  rcases deeds_of_leads leads with ⟨res, s, rfl, _, deeds⟩ | ⟨⟨e, rfl⟩, failed⟩
  · rw [deeds]
    have ends : [Deed.committed s, .abandoned s] = [.committed s] ∨
        [Deed.committed s, .abandoned s] = [.committed s, .abandoned s] := .inr rfl
    have mine := List.filter_eq_self.mpr (isOf_written r res ends)
    have commits : Books.commits (written r s res ++ [.committed s, .abandoned s]) = [s] := by
      simp only [written]
      split <;> rfl
    rw [Drawing.kept, commits, List.flatMap_singleton, (of_written mine ends).2]
    rfl
  · refine Drawing.kept_eq_nil fun s hs => ?_
    cases failed with
    | inl nothing =>
        rw [nothing] at hs
        cases hs
    | inr open_ =>
        obtain ⟨t, uncommitted⟩ := open_
        cases uncommitted.quiet hs

end Transfer

namespace CheckedTransfer

theorem query_of_mayAsk (r : StoreRequest) (h : MayAsk r) : ∃ query, r = .query query := by
  cases r with
  | query q => exact ⟨q, rfl⟩
  | _ => exact h.elim

theorem session?_of_check {r : TransferRequest} {ms : List Moment}
    {verdict : Except LedgerError Unit} (h : (check r).Leads ms (done verdict)) :
    ∀ d ∈ ms.flatMap Moment.deeds, d.session? = none := by
  refine session?_of_limited (limited_mono (fun _ h => h) (fun q => ?_) (limited_check r)) h
  cases q with
  | free p => exact PacedRequest.asks_mono query_of_mayAsk
  | within w p => exact PacedRequest.asks_mono query_of_mayAsk
  | now => exact id
  | openWindow cancelAt timeout => exact id

end CheckedTransfer

variable {α : Type} {p : Program (Timed LedgerStore) α} {ms : List Moment} {a : α}
variable {log : List Happening} {history : List Deed}

theorem records_of_went (went : Went p ms a log) {r : TransferRequest} {res : TransferResult}
    (h : .made r (.ok res) ∈ log) : Transfer.Records r res := by
  induction went with
  | quiet quiet leads => cases h
  | made leads =>
      cases List.mem_singleton.mp h
      exact Transfer.records_of_leads leads
  | rejected check => cases List.mem_singleton.mp h
  | passed check work ih => exact ih h
  | unhooked work ih => exact ih h
  | hooked work invoked ih ih' =>
      rcases List.mem_append.mp h with first | later
      · exact ih first
      · cases List.mem_append.mp later with
        | inl first => exact ih' first
        | inr last => cases List.mem_singleton.mp last
  | bind first rest ihFirst ihRest =>
      cases List.mem_append.mp h with
      | inl early => exact ihFirst early
      | inr late => exact ihRest late

/-- What is kept of some moments is what has happened in calls. -/
structure Settled (ms : List Moment) (log : List Happening) : Prop where
  closed : Deed.Closed (ms.flatMap Moment.deeds)
  kept : Drawing.transactions.kept (ms.flatMap Moment.deeds) =
    log.filterMap Happening.transaction?

theorem settled_of_outside (outside : ∀ d ∈ ms.flatMap Moment.deeds, d.session? = none)
    (none : log.filterMap Happening.transaction? = []) : Settled ms log where
  closed := Deed.closed_of_outside outside
  kept := (Drawing.kept_eq_nil fun s hs => by cases outside _ hs).trans none.symm

theorem settled_append {ns : List Moment} {log' : List Happening}
    (granted : Granted history (ms ++ ns)) (first : Settled ms log) (rest : Settled ns log') :
    Settled (ms ++ ns) (log ++ log') where
  closed := List.flatMap_append ▸ Deed.closed_append first.closed rest.closed
  kept := by
    have later := (granted_append.mp granted).2
    rw [List.flatMap_append, List.filterMap_append, ← first.kept, ← rest.kept]
    refine Drawing.kept_append Drawing.session_transactions rest.closed fun s began d hd => ?_
    exact fresh_of_granted later began d (List.mem_append_right _ hd)

theorem settled_of_went (went : Went p ms a log) (granted : Granted history ms) :
    Settled ms log := by
  induction went generalizing history with
  | quiet h leads => exact settled_of_outside (session?_of_limited h leads) rfl
  | made leads =>
      exact ⟨Transfer.closed_of_leads leads, Transfer.kept_of_leads leads⟩
  | rejected check => exact settled_of_outside (CheckedTransfer.session?_of_check check) rfl
  | @passed r p ms ns outcome log check work ih =>
      have checked : Settled ms [] :=
        settled_of_outside (CheckedTransfer.session?_of_check check) rfl
      exact settled_append granted checked (ih (granted_append.mp granted).2)
  | unhooked work ih => exact ih granted
  | @hooked hook p ms ns res ended log log' work invoked ih ih' =>
      have ⟨before, after⟩ := granted_append.mp granted
      have told : Settled (CommitHook.told ended) [.invoked ended] := by
        refine settled_of_outside ?_ rfl
        cases ended <;> exact fun d hd => by cases hd
      exact settled_append granted (ih before)
        (settled_append after (ih' (granted_append.mp after).1) told)
  | bind first rest ihFirst ihRest =>
      have ⟨before, after⟩ := granted_append.mp granted
      exact settled_append granted (ihFirst before) (ihRest after)

end
end DoubleEntry
