import DoubleEntry.Proofs.Client.LockOrder
import DoubleEntry.Proofs.Client.Tickets
import DoubleEntry.Proofs.Store.Queue
import Mathlib.Data.Fintype.EquivFin
import Mathlib.Logic.Relation

/-!
Who waits for whom. Among clients that lock their rows in ascending order, each waits for a row
above all that it has locked, so that along a chain of waits the rows ascend. Such a chain does not
come back to where it was, and it ends at a client that has locked a row and can go on.
-/

namespace DoubleEntry

theorem TimedRequest.exists_idle? {q : TimedRequest LedgerStore} (h : q.call? = none)
    (clock number : Nat) : ∃ reply, q.idle? clock number = some reply := by
  cases q with
  | free p => cases p <;> first | exact ⟨_, rfl⟩ | cases h
  | within w p => cases p <;> first | exact ⟨_, rfl⟩ | cases h
  | now => exact ⟨_, rfl⟩
  | openWindow cancelAt timeout =>
      simp only [idle?]
      split <;> exact ⟨_, rfl⟩

theorem Desk.exists_submit? {d : Desk} {r : StoreRequest} (idle : d.isBusy r = false)
    (now : Timestamp) : ∃ done, d.submit? now r = some done := by
  simp only [submit?, idle]
  cases d.store.submit now r with
  | mk answer store => cases answer <;> exact ⟨_, rfl⟩

namespace Client

variable {α : Type}

/-- The client has locked the row: one of its sessions has, or the lock that it has waited for is
granted to it. -/
def Holds (c : Client α) (d : Desk) (a : Int) : Prop :=
  (∃ s ∈ c.begun, ∃ g ∈ d.store.guardsOf s, g.1 = a) ∨
    ∃ n, c.ticket? = some n ∧ d.store.isGranted n = true ∧ d.store.awaitedRow n = a

/-- The client waits for the lock of the row. -/
def Awaits (c : Client α) (d : Desk) (a : Int) : Prop :=
  ∃ n, c.ticket? = some n ∧ d.store.isGranted n = false ∧ d.store.awaitedRow n = a

/-- A turn that carries on with the program; one that has halted can only leave. -/
def CarriesOn (c : Client α) : Turn → Prop
  | .think _ _ | .submit _ | .resume _ => True
  | .drop _ => ∃ o, c.stage = .running (.halt o)
  | .expire | .stop _ => False

def CanGoOn (c : Client α) (d : Desk) : Prop := ∃ t, c.CarriesOn t ∧ (c.turn d t).isSome = true

variable {c : Client α} {d : Desk}

theorem not_holds (free : ∀ s ∈ c.begun, d.store.GripsIn s []) (goesOn : c.ticket? = none)
    (a : Int) : ¬ c.Holds d a := by
  rintro (⟨s, hs, g, hg, _⟩ | ⟨n, waits, _⟩)
  · cases free s hs g hg
  · rw [goesOn] at waits
    cases waits

/-- A client can ask for what needs no store, or is its own to ask for. -/
theorem canGoOn_of_ask {q : TimedRequest LedgerStore}
    {next : q.Reply → Program (Timed LedgerStore) α} (at_ : c.stage = .running (.ask q next))
    (owns : ∀ r reply, q.call? = some ⟨r, reply⟩ → c.owns r = true)
    (idle : ∀ r reply, q.call? = some ⟨r, reply⟩ → d.isBusy r = false) : c.CanGoOn d := by
  cases call : q.call? with
  | none =>
      refine ⟨.think 0 0, trivial, ?_⟩
      obtain ⟨reply, heard⟩ := TimedRequest.exists_idle? call 0 0
      simp only [turn, at_, turnRunning, heard]
      rfl
  | some asked =>
      obtain ⟨r, reply⟩ := asked
      refine ⟨.submit (Timestamp.ofMillis 0), trivial, ?_⟩
      obtain ⟨⟨answer, d'⟩, done⟩ := Desk.exists_submit? (idle r reply call) (Timestamp.ofMillis 0)
      cases answer <;> simp only [turn, at_, turnRunning, call, owns r reply call, done] <;> rfl

end Client

namespace Traffic

variable {w : Traffic}

/-- A client waits for a row that another one has locked. -/
def WaitsFor (w : Traffic) (i j : Nat) : Prop :=
  ∃ x y a, w.clients[i]? = some x ∧ w.clients[j]? = some y ∧ x.2.Awaits w.desk a ∧
    y.2.Holds w.desk a

/-- What is known of clients that climb. -/
structure Ascending (w : Traffic) : Prop where
  coherent : w.Coherent
  inLine : w.InLine
  climbs : w.Climbs
  present : w.desk.Present
  served : w.desk.store.locks.Served

theorem ascending_of_climbs {choices : List Choice} (climbs : (run choices).Climbs) :
    (run choices).Ascending where
  coherent := coherent_run choices
  inLine := inLine_run choices
  climbs := climbs
  present := present_run choices
  served := (kept_run MemoryStore.kept_served ⟨LockTable.sound_empty, LockTable.served_empty⟩
    choices).2

theorem ascending_run {choices : List Choice}
    (starts : ∀ {α : Type} (p : Program (Timed LedgerStore) α), .spawn p ∈ choices → p.Climbing) :
    (run choices).Ascending :=
  ascending_of_climbs (climbs_run starts)

/-- A client that waits has asked for the row that it waits for. -/
theorem row_of_ticket? (h : w.Ascending) {x : AnyClient} (hx : x ∈ w.clients) {n : Nat}
    (waits : x.2.ticket? = some n) : ∃ q next r reply, x.2.stage = .waiting n q next ∧
      q.call? = some ⟨r, reply⟩ ∧ ⟨n, r⟩ ∈ w.desk.waiting ∧
      r.row? = some (w.desk.store.awaitedRow n) := by
  obtain ⟨q, next, at_⟩ := Client.ticket?_eq_some.mp waits
  obtain ⟨r, reply, call, there⟩ := h.inLine.lined x hx n q next at_
  obtain ⟨a, row⟩ := h.coherent.order.rows _ there
  have awaited := MemoryStore.awaitedRow_eq (Desk.orderly_waiting h.coherent.order there)
  simp only [row, Option.getD_some] at awaited
  exact ⟨q, next, r, reply, at_, call, there, awaited ▸ row⟩

/-- What a client waits for is above all that it has locked. -/
theorem lt_of_holds_of_awaits (h : w.Ascending) {x : AnyClient} (hx : x ∈ w.clients) {a b : Int}
    (holds : x.2.Holds w.desk a) (awaits : x.2.Awaits w.desk b) : a < b := by
  obtain ⟨n, waits, waiting, rfl⟩ := awaits
  rcases holds with ⟨s, hs, g, hg, rfl⟩ | ⟨m, waits', granted, _⟩
  · obtain ⟨rows, climbs, grips⟩ := h.climbs x hx
    obtain ⟨q, next, r, reply, at_, call, _, row⟩ := row_of_ticket? h hx waits
    simp only [Client.Climbs, at_] at climbs
    exact (climbs.1 r reply call).above _ row _ (grips s hs g hg)
  · cases waits.symm.trans waits'
    rw [waiting] at granted
    cases granted

theorem awaits_unique {x : AnyClient} {a b : Int} (ha : x.2.Awaits w.desk a)
    (hb : x.2.Awaits w.desk b) : a = b := by
  obtain ⟨n, waits, _, rfl⟩ := ha
  obtain ⟨m, waits', _, rfl⟩ := hb
  cases waits.symm.trans waits'
  rfl

/-- A row that is waited for is locked by some client. -/
theorem exists_holder (h : w.Ascending) {x : AnyClient} (hx : x ∈ w.clients) {a : Int}
    (awaits : x.2.Awaits w.desk a) :
    ∃ (j : Nat) (y : AnyClient), w.clients[j]? = some y ∧ y.2.Holds w.desk a := by
  have order := h.coherent.order
  obtain ⟨n, waits, waiting, rfl⟩ := awaits
  obtain ⟨q, next, r, reply, _, _, there, row⟩ := row_of_ticket? h hx waits
  have key : (w.desk.store.awaitedRow n, n) ∈ w.desk.waiting.map Pending.key := by
    refine List.mem_map.mpr ⟨_, there, ?_⟩
    simp only [Pending.key, row, Option.getD_some]
  rcases MemoryStore.owner_of_awaited order.store h.served key waiting with
    ⟨g, hg, same⟩ | ⟨m, hm, granted⟩
  · -- A session that is known was begun, and whoever has begun it is among the clients.
    obtain ⟨s, hs⟩ := (MemoryStore.mem_guards order.store.distinct).mp hg
    have known : (w.desk.store.session? s).isSome = true := by
      cases found : w.desk.store.session? s with
      | some y => rfl
      | none =>
          rw [MemoryStore.guardsOf, found] at hs
          cases hs
    have began : .began s ∈ w.desk.deeds := by
      refine Classical.byContradiction fun never => ?_
      have gone := Books.foldl_there_of_gone fun e he same => never (same ▸ he)
      rw [h.present s, Books.present, gone] at known
      cases known
    obtain ⟨y, hy, mine⟩ := h.coherent.known _ began
    obtain ⟨j, hj⟩ := List.getElem?_of_mem hy
    exact ⟨j, y, hj, .inl ⟨s, List.mem_filterMap.mpr ⟨_, mine, rfl⟩, g, hs, same⟩⟩
  · obtain ⟨p, hp, same⟩ := List.mem_map.mp hm
    have number : p.ticket = m := congrArg Prod.snd same
    have account : p.request.row?.getD 0 = w.desk.store.awaitedRow n :=
      congrArg Prod.fst same
    obtain ⟨j, y, hj, q', next', reply', at_, _, _⟩ := h.coherent.awaited p hp
    have waits' : y.2.ticket? = some p.ticket := Client.ticket?_eq_some.mpr ⟨q', next', at_⟩
    refine ⟨j, y, hj, .inr ⟨p.ticket, waits', number ▸ granted, ?_⟩⟩
    rw [← account]
    exact MemoryStore.awaitedRow_eq (Desk.orderly_waiting order hp)

/-- A client that has not come to its end and does not wait can go on. -/
theorem canGoOn_of_going (h : w.Ascending) {i : Nat} {x : AnyClient} (hx : w.clients[i]? = some x)
    (going : x.2.stage.isOver = false) (free : ∀ b, ¬ x.2.Awaits w.desk b) :
    x.2.CanGoOn w.desk := by
  obtain ⟨α, c⟩ := x
  have mem := List.mem_of_getElem? hx
  obtain ⟨rows, climbs, grips⟩ := h.climbs _ mem
  cases at_ : c.stage with
  | dropped =>
      rw [at_] at going
      cases going
  | waiting ticket q next =>
      obtain ⟨r, reply, call, there⟩ := h.inLine.lined _ mem ticket q next at_
      -- It awaits nothing, so that its ticket has been granted the lock.
      have granted : w.desk.store.isGranted ticket = true := by
        cases hg : w.desk.store.isGranted ticket with
        | true => rfl
        | false =>
            have waits : c.ticket? = some ticket := Client.ticket?_eq_some.mpr ⟨q, next, at_⟩
            exact absurd ⟨ticket, waits, hg, rfl⟩ (free _)
      refine ⟨.resume (Timestamp.ofMillis 0), trivial, ?_⟩
      simp only [Client.turn, at_, Client.turnWaiting, call, Desk.resume?,
        if_pos (And.intro there granted)]
      rfl
  | running p =>
      simp only [Client.Climbs, at_] at climbs
      have alone := (usesAlone_of_coherent h.coherent hx).of_running at_
      cases p with
      | done result =>
          rw [at_] at going
          cases going
      | halt o =>
          refine ⟨.drop (Timestamp.ofMillis 0), ⟨o, at_⟩, ?_⟩
          simp [Client.turn, at_, Client.turnRunning]
      | note n next =>
          refine ⟨.think 0 0, trivial, ?_⟩
          simp [Client.turn, at_, Client.turnRunning]
      | ask q next =>
          have begun : ∀ r reply, q.call? = some ⟨r, reply⟩ → ∀ s, r.session? = some s →
              s ∈ c.begun := fun r reply call s hs =>
            List.mem_filterMap.mpr ⟨_, (climbs.1 r reply call).begun s hs, rfl⟩
          refine Client.canGoOn_of_ask at_ ?_ ?_
          · intro r reply call
            cases hs : r.session? with
            | none => simp [Client.owns, hs]
            | some s => simp [Client.owns, hs, begun r reply call s hs]
          · -- A request that waits in the same session would be one that the client itself awaits.
            intro r reply call
            refine List.any_eq_false.mpr fun p hp busy => ?_
            cases hs : r.session? with
            | none => simp [hs] at busy
            | some s => exact alone p hp s (begun r reply call s hs) (by simpa [hs] using busy)

/-- At its end a client that climbs has given all rows back. -/
theorem not_holds_of_over (h : w.Ascending) {x : AnyClient} (hx : x ∈ w.clients)
    (isOver : x.2.stage.isOver = true) (a : Int) : ¬ x.2.Holds w.desk a := by
  obtain ⟨α, c⟩ := x
  obtain ⟨rows, climbs, grips⟩ := h.climbs _ hx
  have goesOn : c.ticket? = none := by
    cases at_ : c.stage with
    | waiting ticket q next =>
        rw [at_] at isOver
        cases isOver
    | _ => simp only [Client.ticket?, at_]
  have nothing : rows = [] := by
    cases at_ : c.stage with
    | dropped =>
        simp only [Client.Climbs, at_] at climbs
        exact climbs
    | waiting ticket q next =>
        rw [at_] at isOver
        cases isOver
    | running p =>
        simp only [Client.Climbs, at_] at climbs
        cases p with
        | done result => exact climbs
        | _ =>
            rw [at_] at isOver
            cases isOver
  subst nothing
  exact Client.not_holds grips goesOn a

/-- A client that has locked a row and does not wait can go on. -/
theorem canGoOn_of_holds (h : w.Ascending) {i : Nat} {x : AnyClient} (hx : w.clients[i]? = some x)
    {a : Int} (holds : x.2.Holds w.desk a) (free : ∀ b, ¬ x.2.Awaits w.desk b) :
    x.2.CanGoOn w.desk := by
  refine canGoOn_of_going h hx ?_ free
  cases isOver : x.2.stage.isOver with
  | false => rfl
  | true => exact absurd holds (not_holds_of_over h (List.mem_of_getElem? hx) isOver a)

open Relation

/-- Along a chain of waits the rows that are waited for ascend. -/
theorem lt_of_chain (h : w.Ascending) {i j : Nat} (chain : TransGen w.WaitsFor i j)
    {x y : AnyClient} (hx : w.clients[i]? = some x) (hy : w.clients[j]? = some y) {a b : Int}
    (ha : x.2.Awaits w.desk a) (hb : y.2.Awaits w.desk b) : a < b := by
  -- One wait is for a row that the other client has locked, below all that this one waits for.
  have link : ∀ {i j : Nat} {x y : AnyClient} {a b : Int}, w.WaitsFor i j →
      w.clients[i]? = some x → w.clients[j]? = some y → x.2.Awaits w.desk a →
      y.2.Awaits w.desk b → a < b := by
    intro i j x y a b waits hx hy ha hb
    obtain ⟨x', y', c, hx', hy', awaits, holds⟩ := waits
    rw [hx] at hx'
    rw [hy] at hy'
    cases hx'
    cases hy'
    rw [awaits_unique ha awaits]
    exact lt_of_holds_of_awaits h (List.mem_of_getElem? hy) holds hb
  induction chain generalizing y b with
  | single waits => exact link waits hx hy ha hb
  | tail before waits ih =>
      have ⟨z, _, c, hz, _, hc, _⟩ := waits
      exact Int.lt_trans (ih hz hc) (link waits hz hy hc hb)

/-- Nobody waits, directly or through others, for itself. -/
theorem not_waitsFor_self (h : w.Ascending) (i : Nat) : ¬ TransGen w.WaitsFor i i := by
  intro circle
  obtain ⟨j, waits, _⟩ := TransGen.head'_iff.mp circle
  obtain ⟨x, _, a, hx, _, awaits, _⟩ := waits
  exact Int.lt_irrefl a (lt_of_chain h circle hx hx awaits awaits)

/-- From every client that waits a chain of waits leads to one that can go on. -/
theorem exists_canGoOn (h : w.Ascending) {i : Nat} {x : AnyClient} (hx : w.clients[i]? = some x)
    {a : Int} (awaits : x.2.Awaits w.desk a) :
    ∃ j y b, TransGen w.WaitsFor i j ∧ w.clients[j]? = some y ∧ y.2.Holds w.desk b ∧
      (∀ b', ¬ y.2.Awaits w.desk b') ∧ y.2.CanGoOn w.desk := by
  -- The clients are finitely many, so that what comes later in chains of waits is well-founded.
  let later : Fin w.clients.length → Fin w.clients.length → Prop :=
    fun j i => TransGen w.WaitsFor i j
  have irrefl : Std.Irrefl later := ⟨fun i => not_waitsFor_self h i⟩
  have trans : IsTrans _ later := ⟨fun _ _ _ first second => second.trans first⟩
  have founded : WellFounded later := Finite.wellFounded_of_trans_of_irrefl later
  have all : ∀ i : Fin w.clients.length, ∀ (x : AnyClient) (a : Int), w.clients[i.1]? = some x →
      x.2.Awaits w.desk a → ∃ j y b, TransGen w.WaitsFor i j ∧ w.clients[j]? = some y ∧
        y.2.Holds w.desk b ∧ (∀ b', ¬ y.2.Awaits w.desk b') ∧ y.2.CanGoOn w.desk := by
    intro i
    induction i using founded.induction with
    | _ i ih =>
        intro x a hx awaits
        obtain ⟨j, y, hy, holds⟩ := exists_holder h (List.mem_of_getElem? hx) awaits
        have next : TransGen w.WaitsFor i j := .single ⟨x, y, a, hx, hy, awaits, holds⟩
        by_cases more : ∃ b, y.2.Awaits w.desk b
        · obtain ⟨b, awaits'⟩ := more
          have bound : j < w.clients.length := (List.getElem?_eq_some_iff.mp hy).1
          obtain ⟨k, z, c, chain, found⟩ := ih ⟨j, bound⟩ next y b hy awaits'
          exact ⟨k, z, c, next.trans chain, found⟩
        · have free : ∀ b, ¬ y.2.Awaits w.desk b := fun b awaits' => more ⟨b, awaits'⟩
          exact ⟨j, y, a, next, hy, holds, free, canGoOn_of_holds h hy holds free⟩
  exact all ⟨i, (List.getElem?_eq_some_iff.mp hx).1⟩ x a hx awaits

/-- As long as some client has not come to its end, some client can go on. -/
theorem exists_canGoOn_of_going (h : w.Ascending) {i : Nat} {x : AnyClient}
    (hx : w.clients[i]? = some x) (going : x.2.stage.isOver = false) :
    ∃ (j : Nat) (y : AnyClient), w.clients[j]? = some y ∧ y.2.CanGoOn w.desk := by
  by_cases waits : ∃ a, x.2.Awaits w.desk a
  · obtain ⟨a, awaits⟩ := waits
    obtain ⟨j, y, _, _, hy, _, _, goesOn⟩ := exists_canGoOn h hx awaits
    exact ⟨j, y, hy, goesOn⟩
  · exact ⟨i, x, hx, canGoOn_of_going h hx going fun a awaits => waits ⟨a, awaits⟩⟩

end Traffic
end DoubleEntry
