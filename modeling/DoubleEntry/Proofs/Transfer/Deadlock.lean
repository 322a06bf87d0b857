import DoubleEntry.Proofs.Client.Waits
import DoubleEntry.Proofs.Transfer.DoubleEntry

/-!
Transfers do not wait for each other in a circle. The body of a transfer locks two rows, and the one
with the smaller id first; queries lock at most one row, and none while they wait for it. So all of
them climb, and what is known of clients that climb is known of them.
-/

namespace DoubleEntry

/-- A session was begun, and no other one has locked any of the rows. -/
structure SessionId.Grips (s : SessionId) (history : List Deed) (rows : List (SessionId × Int)) :
    Prop where
  began : .began s ∈ history
  only : ∀ p ∈ rows, p.1 = s

namespace SessionId.Grips

variable {s : SessionId} {history : List Deed} {rows : List (SessionId × Int)}

theorem append (h : Grips s history rows) (ds : List Deed) : Grips s (history ++ ds) rows where
  began := List.mem_append_left _ h.began
  only := h.only

theorem grip (h : Grips s history rows) (op : SessionRequest) :
    Grips s history ((StoreRequest.perform s op).grip rows) where
  began := h.began
  only p hp := by
    cases op with
    | addBalance a delta =>
        cases List.mem_append.mp hp with
        | inl old => exact h.only p old
        | inr new => rw [List.mem_singleton.mp new]
    | _ => exact h.only p hp

theorem climbs (h : Grips s history rows) {op : SessionRequest}
    (above : ∀ a, (StoreRequest.perform s op).row? = some a → ∀ p ∈ rows, p.2 < a) :
    (StoreRequest.perform s op).Climbs history rows where
  begun t same := by
    cases same
    exact h.began
  above := above

end SessionId.Grips

namespace UnitOfWork

open Program

variable {α β : Type} {s : SessionId} {w : Window} {history : List Deed}
  {rows : List (SessionId × Int)}

/-- A body climbs in a session, and when it ends well something is known of what it has locked. -/
def Ascends (s : SessionId) (w : Window) (history : List Deed) (rows : List (SessionId × Int))
    (body : Action (Paced LedgerStore) α) (post : List (SessionId × Int) → Prop) : Prop :=
  (body.toProgram.within w).Climbs
    (fun history rows outcome => s.Grips history rows ∧ ∀ a, outcome = .ok (.ok a) → post rows)
    history rows

theorem ascends_pure (h : s.Grips history rows) (a : α) {post : List (SessionId × Int) → Prop}
    (known : post rows) : Ascends s w history rows (pure a) post :=
  ⟨h, fun _ _ => known⟩

theorem ascends_throw (h : s.Grips history rows) (e : LedgerError)
    {post : List (SessionId × Int) → Prop} :
    Ascends (α := α) s w history rows (throw e) post :=
  ⟨h, fun _ same => by cases same⟩

theorem ascends_bind {mid post : List (SessionId × Int) → Prop}
    {a : Action (Paced LedgerStore) β} {f : β → Action (Paced LedgerStore) α}
    (first : Ascends s w history rows a mid)
    (rest : ∀ history rows b, s.Grips history rows → mid rows →
      Ascends s w history rows (f b) post) : Ascends s w history rows (a >>= f) post := by
  have shape : (a >>= f).toProgram = a.toProgram.bind (ExceptT.bindCont f) := rfl
  rw [Ascends, shape, within_bind]
  refine climbs_bind (climbs_mono ?_ first)
  intro history rows outcome ended
  cases outcome with
  | error stop => exact ⟨ended.1, fun _ same => by cases same⟩
  | ok result =>
      cases result with
      | error e => exact ⟨ended.1, fun _ same => by cases same⟩
      | ok b => exact rest history rows b ended.1 (ended.2 b rfl)

/-- A request of a body is for no row, or for one above those that are locked. -/
theorem ascends_ask (h : s.Grips history rows) {op : SessionRequest}
    (above : ∀ a, (StoreRequest.perform s op).row? = some a → ∀ p ∈ rows, p.2 < a) :
    Ascends s w history rows (op.ask s) fun after =>
      after = (StoreRequest.perform s op).grip rows := by
  have shape : (op.ask s).toProgram =
      ask (I := Paced LedgerStore) (.call (.perform s op)) done := rfl
  rw [Ascends, shape]
  simp only [within, Program.Climbs]
  refine ⟨fun r reply call => ?_, fun reply _ => ?_⟩
  · cases call
    exact h.climbs above
  · cases reply with
    | error stop => exact ⟨h.append _, fun _ same => by cases same⟩
    | ok answer => exact ⟨(h.grip op).append _, fun _ _ => rfl⟩

theorem climbs_bounded {u : UnitOfWork} {cancelAt : Option Nat}
    {body : Action (Paced LedgerStore) α} {post : List (SessionId × Int) → Prop}
    (h : s.Grips history rows) (ascends : ∀ history w, s.Grips history rows →
      Ascends s w history rows body post) :
    (u.bounded cancelAt body).Climbs (fun history rows _ => s.Grips history rows) history rows := by
  refine ⟨fun r reply call => (by cases call), fun reply _ => ?_⟩
  cases reply with
  | error stop => exact h.append _
  | ok window =>
      have grips : s.Grips (history ++ []) rows := h.append []
      change ((body.toProgram.within window).bind _).Climbs _ (history ++ []) rows
      refine climbs_bind (climbs_mono ?_ (ascends _ window grips))
      intro history rows outcome ended
      cases outcome with
      | error stop => exact ended.1
      | ok result => exact ended.1

/-- A session that has ended has locked nothing. -/
theorem climbs_abandon (h : s.Grips history rows) (a : α) :
    (ask (I := Timed LedgerStore) (.free (.call (.abandon s))) fun _ => done a).Climbs
      (fun _ rows _ => rows = []) history rows := by
  refine ⟨fun r reply call => ?_, fun reply _ => ?_⟩
  · cases call
    refine ⟨fun t same => ?_, fun a row => by cases row⟩
    cases same
    exact h.began
  · exact List.filter_eq_nil_iff.mpr fun p hp other => bne_iff_ne.mp other (h.only p hp)

theorem climbs_conclude (h : s.Grips history rows) (outcome : Except LedgerError α) :
    (conclude s outcome).Climbs (fun _ rows _ => rows = []) history rows := by
  cases outcome with
  | ok value =>
      refine ⟨fun r reply call => ?_, fun reply _ => ?_⟩
      · cases call
        exact h.climbs fun a row => by cases row
      · cases reply with
        | ok _ => exact climbs_abandon (h.append _) _
        | error e => exact climbs_abandon (h.append _) _
  | error e =>
      refine ⟨fun r reply call => ?_, fun reply _ => ?_⟩
      · cases call
        exact h.climbs fun a row => by cases row
      · cases reply with
        | ok _ => exact climbs_abandon (h.append _) _
        | error undo => exact climbs_abandon (h.append _) _

theorem climbing_execute {u : UnitOfWork} {cancelAt : Option Nat}
    {body : SessionId → Action (Paced LedgerStore) α} {post : List (SessionId × Int) → Prop}
    (ascends : ∀ s history w, s.Grips history [] → Ascends s w history [] (body s) post) :
    (u.execute cancelAt fun s => body s).Climbing := by
  refine ⟨fun r reply call => ?_, fun reply _ => ?_⟩
  · cases call
    exact ⟨fun t same => (by cases same), fun a row => by cases row⟩
  · cases reply with
    | error e => rfl
    | ok s =>
        have begun : s.Grips [.began s] [] := ⟨List.mem_singleton_self _, fun p hp => by cases hp⟩
        change ((u.bounded cancelAt (body s)).bind fun outcome => conclude s outcome).Climbs _
          [.began s] []
        refine climbs_bind (climbs_mono ?_ (climbs_bounded begun (ascends s)))
        exact fun history rows outcome grips => climbs_conclude grips outcome

end UnitOfWork

namespace Transfer

open Program UnitOfWork

variable {verbose : Bool} {s : SessionId} {w : Window} {history : List Deed}
  {rows : List (SessionId × Int)}

theorem ascends_reportBalance (h : s.Grips history rows) (a : Int) (balance : Decimal) :
    Ascends s w history rows (ExceptT.lift (Balance.reportBalance verbose a balance))
      fun after => after = rows := by
  rw [Balance.reportBalance]
  split
  · exact ⟨h, fun _ _ => rfl⟩
  · trivial

theorem ascends_applyDelta (h : s.Grips history rows) {a : Int} (above : ∀ p ∈ rows, p.2 < a)
    (delta : Decimal) :
    Ascends s w history rows (Balance.applyDelta verbose s a delta)
      fun after => after = rows ++ [(s, a)] := by
  have asked : Ascends s w history rows ((SessionRequest.addBalance a delta).ask s)
      fun after => after = rows ++ [(s, a)] :=
    ascends_ask h fun b row => by
      cases row
      exact above
  refine ascends_bind asked ?_
  rintro history _ found grips rfl
  cases found with
  | none => exact ascends_throw grips _
  | some row =>
      refine ascends_bind (ascends_reportBalance grips a row.balance) ?_
      rintro history _ _ grips rfl
      exact ascends_pure grips row rfl

/-- The row with the smaller id is locked first, whichever way the amount goes. -/
theorem ascends_applyTransfer (h : s.Grips history []) {fromId toId : Int} (apart : fromId ≠ toId)
    (amount : Decimal) :
    Ascends s w history [] (Balance.applyTransfer verbose s fromId toId amount) fun _ => True := by
  -- The two ways of a transfer differ in what they add and give back, but not in how they lock.
  have both : ∀ {a b : Int} (first second : Decimal) (pair : Account → Account → Account × Account),
      a < b → Ascends s w history [] (do
        let one ← Balance.applyDelta verbose s a first
        let other ← Balance.applyDelta verbose s b second
        pure (pair one other)) fun _ => True := by
    intro a b first second pair lt
    refine ascends_bind (ascends_applyDelta h (fun p hp => by cases hp) first) ?_
    rintro history _ one grips rfl
    have above : ∀ p ∈ [] ++ [(s, a)], p.2 < b := by
      intro p hp
      rw [List.mem_singleton.mp hp]
      exact lt
    refine ascends_bind (ascends_applyDelta grips above second) ?_
    rintro history _ other grips rfl
    exact ascends_pure grips _ trivial
  simp only [Balance.applyTransfer]
  split
  · rename_i lt
    exact both (-amount) amount Prod.mk lt
  · rename_i notLt
    have lt : toId < fromId := by omega
    exact both amount (-amount) (fun destination source => (source, destination)) lt

theorem ascends_record (h : s.Grips history []) {r : TransferRequest} (apart : r.fromId ≠ r.toId) :
    Ascends s w history [] (record verbose r s) fun _ => True := by
  refine ascends_bind (ascends_ask h fun a row => by cases row) ?_
  rintro history _ transaction grips rfl
  refine ascends_bind (ascends_ask grips fun a row => by cases row) ?_
  rintro history _ fromEntry grips rfl
  refine ascends_bind (ascends_ask grips fun a row => by cases row) ?_
  rintro history _ toEntry grips rfl
  refine ascends_bind (ascends_applyTransfer grips apart r.amount) ?_
  intro history rows sides grips _
  exact ascends_pure grips _ trivial

theorem climbing_transfer (u : UnitOfWork) (cancelAt : Option Nat) (r : TransferRequest) :
    (transfer u cancelAt r).Climbing := by
  cases accepted : r.validate with
  | error cause =>
      simp only [transfer, accepted]
      exact rfl
  | ok _ =>
      have apart := (TransferRequest.valid_of_validate accepted).apart
      have body : (u.execute cancelAt fun s => record u.verbose r s).Climbing :=
        climbing_execute fun s history w grips => ascends_record grips apart
      simp only [transfer, accepted]
      change (((u.execute cancelAt fun s => record u.verbose r s).bind _).bind _).Climbing
      refine climbs_bind (climbs_bind (climbs_mono ?_ body))
      exact fun _ _ _ free => free

end Transfer

/-- A query leaves it at what sessions have locked. -/
theorem TimedRequest.grip_query {q : TimedRequest LedgerStore} {rows : List (SessionId × Int)}
    (asks : ∀ r reply, q.call? = some ⟨r, reply⟩ → ∃ query, r = .query query) (reply : q.Reply) :
    q.grip rows reply = rows := by
  cases q with
  | now => rfl
  | openWindow _ _ => rfl
  | free p =>
      cases p with
      | pause ms => rfl
      | call r =>
          obtain ⟨query, rfl⟩ := asks r id rfl
          rfl
  | within w p =>
      cases reply with
      | error stop => cases p <;> rfl
      | ok answer =>
          cases p with
          | pause ms => rfl
          | call r =>
              obtain ⟨query, rfl⟩ := asks r .ok rfl
              rfl

namespace Program

theorem climbs_queries {α : Type} {p : Program (Timed LedgerStore) α} (h : p.AsksQueries)
    (history : List Deed) : p.Climbs (fun _ rows _ => rows = []) history [] := by
  induction p generalizing history with
  | done a => rfl
  | halt o => trivial
  | note n next ih => exact ih h history
  | ask q next ih =>
      refine ⟨fun r reply call => ?_, fun reply _ => ?_⟩
      · obtain ⟨query, rfl⟩ := h.1 r reply call
        exact ⟨fun s same => (by cases same), fun a _ p hp => by cases hp⟩
      · rw [TimedRequest.grip_query h.1 reply]
        exact ih reply (h.2 reply) _

end Program

theorem LedgerProgram.climbing {α : Type} {p : Program (Timed LedgerStore) α}
    (h : LedgerProgram α p) : p.Climbing := by
  cases h with
  | transfer u cancelAt r => exact Transfer.climbing_transfer u cancelAt r
  | queries asks => exact Program.climbs_queries asks []

namespace Traffic

open Relation

/-- Of clients that transfer, open, delete and read, in any order of their steps, none waits for
itself, directly or through others; and whoever waits for a row does so, directly or through others,
for a client that has locked a row, waits for none and can go on. -/
theorem no_deadlock (choices : List Choice)
    (starts : ∀ choice ∈ choices, choice.Starts LedgerProgram) :
    let w := run choices
    (∀ i, ¬ TransGen w.WaitsFor i i) ∧
    ∀ (i : Nat) (x : AnyClient) (a : Int), w.clients[i]? = some x → x.2.Awaits w.desk a →
      ∃ j y b, TransGen w.WaitsFor i j ∧ w.clients[j]? = some y ∧ y.2.Holds w.desk b ∧
        (∀ b', ¬ y.2.Awaits w.desk b') ∧ y.2.CanGoOn w.desk := by
  intro w
  have h : w.Ascending := ascending_run fun p hp => (starts _ hp).climbing
  exact ⟨not_waitsFor_self h, fun i x a hx awaits => exists_canGoOn h hx awaits⟩

/-- A transfer has locked a row, and another one and a deletion wait for it. -/
def queueing : List Choice :=
  crossing.take 31 ++
    [.spawn (Program.callFree (I := LedgerStore) (.query (.deleteAccount 1))),
      .turn 4 (.submit (Timestamp.ofMillis 0))]

theorem starts_queueing : ∀ choice ∈ queueing, choice.Starts LedgerProgram := by
  intro choice hc
  cases List.mem_append.mp hc with
  | inl first => exact starts_crossing choice (List.mem_of_mem_take first)
  | inr later =>
      simp only [List.mem_cons, List.not_mem_nil, or_false] at later
      rcases later with rfl | rfl
      · exact .queries (Program.asksQueries_query _)
      · trivial

theorem no_deadlock_queueing :
    (∀ choice ∈ queueing, choice.Starts LedgerProgram) ∧
    (run queueing).clients.map (·.2.ticket?) = [none, none, none, some 1, some 2] ∧
    ∃ x, (run queueing).clients[4]? = some x ∧ x.2.Awaits (run queueing).desk 1 ∧
      ∃ j y b, TransGen (run queueing).WaitsFor 4 j ∧ (run queueing).clients[j]? = some y ∧
        y.2.Holds (run queueing).desk b ∧ (∀ b', ¬ y.2.Awaits (run queueing).desk b') ∧
        y.2.CanGoOn (run queueing).desk := by
  have fifth : (run queueing).clients[4]?.bind (·.2.ticket?) = some 2 := by decide +kernel
  obtain ⟨x, hx, waits⟩ := Option.bind_eq_some_iff.mp fifth
  have awaits : x.2.Awaits (run queueing).desk 1 :=
    ⟨2, waits, by decide +kernel, by decide +kernel⟩
  exact ⟨starts_queueing, by decide +kernel, x, hx, awaits,
    (no_deadlock queueing starts_queueing).2 4 x 1 hx awaits⟩

end Traffic
end DoubleEntry
