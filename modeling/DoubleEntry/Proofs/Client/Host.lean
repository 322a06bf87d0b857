import DoubleEntry.Proofs.Client.Alone
import Mathlib.Order.WithBot

/-!
Any store at all, and a program that visits it. A request is answered after some time, and by any
reply that it allows, or it is never answered. A window stops what would last longer than it may:
a cancellation comes before all else that happens at its instant, a deadline after it. So what a
window makes of a program is told by how long the program runs without one.
-/

namespace DoubleEntry

/-- A store that may do anything. Only the end of a session cannot be refused. -/
structure Host (σ : Type) where
  /-- The reply to a request made at an instant, after so many milliseconds, if one ever comes. -/
  serve : Nat → (r : StoreRequest) → σ → Option (Nat × r.Reply × σ)
  /-- What becomes of a request that is given up at an instant. -/
  drop : Nat → StoreRequest → σ → σ
  abandons : ∀ (instant : Nat) (s : SessionId) (st : σ), (serve instant (.abandon s) st).isSome

/-- What an observer sees of a program. -/
inductive Mark where
  | asked (r : StoreRequest)
  | told (n : Note)
  deriving DecidableEq

/-- A store that is visited: the clock, and what was asked and told, in this order. -/
structure Visit (σ : Type) where
  store : σ
  clock : Nat
  log : List Mark
  counters : Counters

namespace Visit

variable {σ : Type}

/-- The instant that the clock shows. A stretch may also last forever. -/
abbrev instant (v : Visit σ) : WithTop Nat := WithTop.some v.clock

def tell (v : Visit σ) (n : Note) : Visit σ :=
  { v with
    log := v.log ++ [.told n]
    counters := match n with
      | .counted m => v.counters.record m
      | _ => v.counters }

@[simp] theorem tell_log (v : Visit σ) (n : Note) : (v.tell n).log = v.log ++ [.told n] := rfl

@[simp] theorem tell_event_counters (v : Visit σ) (e : Event) :
    (v.tell (.event e)).counters = v.counters := rfl

@[simp] theorem tell_counted_counters (v : Visit σ) (m : Measurement) :
    (v.tell (.counted m)).counters = v.counters.record m := rfl

/-- A request is on its way, and a pause is none. -/
def send (v : Visit σ) : PacedRequest LedgerStore → Visit σ
  | .call r => { v with log := v.log ++ [.asked r] }
  | .pause _ => v

def told (v : Visit σ) (m : Measurement) : Nat := v.log.count (.told (.counted m))

/-- One visit is a later stage of another one, and its counters have counted what was told. -/
structure Extends (v' v : Visit σ) : Prop where
  clock : v.clock ≤ v'.clock
  log : v.log <+: v'.log
  counters : ∀ m, v'.counters.get m + v.told m = v.counters.get m + v'.told m

theorem told_of_log_eq {v v' : Visit σ} {r : StoreRequest} (log : v'.log = v.log ++ [.asked r])
    (m : Measurement) : v'.told m = v.told m := by
  simp [told, log]

namespace Extends

variable {u v w : Visit σ}

theorem refl (v : Visit σ) : v.Extends v := ⟨Nat.le_refl _, List.prefix_refl _, fun _ => rfl⟩

theorem trans (h : w.Extends v) (g : v.Extends u) : w.Extends u where
  clock := g.clock.trans h.clock
  log := g.log.trans h.log
  counters m := by
    have first := g.counters m
    have second := h.counters m
    omega

theorem tell (v : Visit σ) (n : Note) : (v.tell n).Extends v where
  clock := Nat.le_refl _
  log := List.prefix_append _ _
  counters m := by
    cases n with
    | counted k =>
        simp only [Visit.tell, told, Counters.get_record, List.count_append, List.count_singleton,
          beq_iff_eq, Mark.told.injEq, Note.counted.injEq, @eq_comm _ k m]
        omega
    | event e => simp [Visit.tell, told]
    | spanOpened s => simp [Visit.tell, told]
    | spanClosed => simp [Visit.tell, told]

theorem asked {r : StoreRequest} (clock : v.clock ≤ w.clock) (log : w.log = v.log ++ [.asked r])
    (counters : w.counters = v.counters) : w.Extends v where
  clock := clock
  log := log ▸ List.prefix_append _ _
  counters m := by rw [counters, told_of_log_eq log]

theorem paused (clock : v.clock ≤ w.clock) (log : w.log = v.log)
    (counters : w.counters = v.counters) : w.Extends v where
  clock := clock
  log := log ▸ List.prefix_refl _
  counters m := by rw [counters, told, told, log]

theorem send (v : Visit σ) (r : PacedRequest LedgerStore) : (v.send r).Extends v := by
  cases r with
  | call r => exact asked (Nat.le_refl _) rfl rfl
  | pause ms => exact refl v

end Extends
end Visit

namespace Window

/-- A stretch that lasts until an instant is not stopped: no cancellation comes before its end or
together with it, and the deadline does not come before its end. -/
structure Allows (w : Window) (finish : WithTop Nat) : Prop where
  uncancelled : ∀ c ∈ w.cancelAt, finish < WithTop.some c
  timely : ∀ d ∈ w.deadline, finish ≤ WithTop.some d

/-- What stops a stretch that would last until an instant, and when. -/
inductive Stops (w : Window) (finish : WithTop Nat) : Stop → Nat → Prop where
  | cancelled {c : Nat} (signal : w.cancelAt = some c) (due : WithTop.some c ≤ finish)
      (first : ∀ d ∈ w.deadline, c ≤ d) : Stops w finish .cancelled c
  | deadline {d : Nat} (limit : w.deadline = some d) (expired : WithTop.some d < finish)
      (first : ∀ c ∈ w.cancelAt, d < c) : Stops w finish .deadline d

def stop? (w : Window) (finish : WithTop Nat) : Option (Stop × Nat) :=
  match w.cancelAt.filter fun c => WithTop.some c ≤ finish ∧ ∀ d ∈ w.deadline, c ≤ d with
  | some c => some (.cancelled, c)
  | none =>
      (w.deadline.filter fun d => WithTop.some d < finish).map fun d => (.deadline, d)

variable {w : Window} {finish later : WithTop Nat} {stop : Stop} {instant : Nat}

theorem stop?_eq_some : w.stop? finish = some (stop, instant) ↔ w.Stops finish stop instant := by
  constructor
  · intro found
    simp only [stop?] at found
    split at found
    case h_1 c signal =>
      cases found
      obtain ⟨cancelAt, due⟩ := Option.filter_eq_some_iff.mp signal
      have due := of_decide_eq_true due
      exact .cancelled cancelAt due.1 due.2
    case h_2 silent =>
      obtain ⟨d, limit, same⟩ := Option.map_eq_some_iff.mp found
      cases same
      obtain ⟨deadline, expired⟩ := Option.filter_eq_some_iff.mp limit
      have expired : WithTop.some instant < finish := of_decide_eq_true expired
      refine .deadline deadline expired fun c hc => lt_of_not_ge fun before => ?_
      -- a cancellation that comes no later than the deadline would have been found
      have first := Option.filter_eq_none_iff.mp silent c hc
      refine first (decide_eq_true ⟨(WithTop.coe_le_coe.mpr before).trans expired.le, ?_⟩)
      intro d hd
      rw [deadline] at hd
      cases hd
      exact before
  · intro stops
    cases stops with
    | cancelled signal due first =>
        have found : w.cancelAt.filter (fun c =>
            WithTop.some c ≤ finish ∧ ∀ d ∈ w.deadline, c ≤ d) = some instant :=
          Option.filter_eq_some_iff.mpr ⟨signal, decide_eq_true ⟨due, first⟩⟩
        simp only [stop?, found]
    | deadline limit expired first =>
        have silent : w.cancelAt.filter (fun c =>
            WithTop.some c ≤ finish ∧ ∀ d ∈ w.deadline, c ≤ d) = none :=
          Option.filter_eq_none_iff.mpr fun c hc due =>
            (first c hc).not_ge ((of_decide_eq_true due).2 instant limit)
        have found : w.deadline.filter (fun d => WithTop.some d < finish) = some instant :=
          Option.filter_eq_some_iff.mpr ⟨limit, decide_eq_true expired⟩
        simp only [stop?, silent, found, Option.map_some]

theorem Allows.not_stops (h : w.Allows finish) : ¬ w.Stops finish stop instant := by
  intro stops
  cases stops with
  | cancelled signal due first => exact (h.uncancelled _ signal).not_ge due
  | deadline limit expired first => exact (h.timely _ limit).not_gt expired

/-- Nothing stops a stretch before it has begun. -/
theorem Allows.le_of_stops {start : Nat} (h : w.Allows (WithTop.some start))
    (stops : w.Stops finish stop instant) : start ≤ instant := by
  cases stops with
  | cancelled signal due first => exact WithTop.coe_le_coe.mp (h.uncancelled _ signal).le
  | deadline limit expired first => exact WithTop.coe_le_coe.mp (h.timely _ limit)

theorem stop?_eq_none : w.stop? finish = none ↔ w.Allows finish := by
  constructor
  · intro silent
    have timely : ∀ d ∈ w.deadline, finish ≤ WithTop.some d := by
      intro d hd
      refine le_of_not_gt fun expired => ?_
      simp only [stop?] at silent
      split at silent
      · cases silent
      · have never := Option.filter_eq_none_iff.mp (Option.map_eq_none_iff.mp silent)
        exact never d hd (decide_eq_true expired)
    refine ⟨fun c hc => lt_of_not_ge fun due => ?_, timely⟩
    have stops : w.Stops finish .cancelled c :=
      .cancelled hc due fun d hd => WithTop.coe_le_coe.mp (due.trans (timely d hd))
    rw [stop?_eq_some.mpr stops] at silent
    cases silent
  · intro allows
    cases found : w.stop? finish with
    | none => rfl
    | some x => exact absurd (stop?_eq_some.mp found) allows.not_stops

theorem allows_or_stops (w : Window) (finish : WithTop Nat) :
    w.Allows finish ∨ ∃ stop instant, w.Stops finish stop instant := by
  cases found : w.stop? finish with
  | none => exact .inl (stop?_eq_none.mp found)
  | some x => exact .inr ⟨x.1, x.2, stop?_eq_some.mp found⟩

-- A cancellation wins a tie, and a deadline loses it.
example : stop? ⟨0, some 5, some 5⟩ (WithTop.some 5) = some (.cancelled, 5) := by decide

example : stop? ⟨0, none, some 5⟩ (WithTop.some 5) = none := by decide

/-- What stops a stretch also stops one that would last longer. -/
theorem Stops.mono (h : w.Stops finish stop instant) (le : finish ≤ later) :
    w.Stops later stop instant := by
  cases h with
  | cancelled signal due first => exact .cancelled signal (due.trans le) first
  | deadline limit expired first => exact .deadline limit (expired.trans_le le) first

/-- One and the same thing stops a stretch and all that would last longer. -/
theorem Stops.eq_of_le (h : w.Stops finish stop instant) {stop' : Stop} {instant' : Nat}
    (g : w.Stops later stop' instant') (le : finish ≤ later) :
    (stop, instant) = (stop', instant') :=
  Option.some.inj ((stop?_eq_some.mpr (h.mono le)).symm.trans (stop?_eq_some.mpr g))

theorem Allows.mono (h : w.Allows later) (le : finish ≤ later) : w.Allows finish where
  uncancelled c hc := le.trans_lt (h.uncancelled c hc)
  timely d hd := le.trans (h.timely d hd)

end Window

namespace Host

open Program

variable {σ α : Type}

/-- Asks a request of a store and waits for the reply. -/
def call (h : Host σ) (v : Visit σ) (r : StoreRequest) : Option (r.Reply × Visit σ) :=
  (h.serve v.clock r v.store).map fun (ms, reply, st) =>
    (reply, { v with store := st, clock := v.clock + ms, log := v.log ++ [.asked r] })

def reply? (h : Host σ) (v : Visit σ) (r : StoreRequest) : Option r.Reply :=
  (h.call v r).map Prod.fst

def start (h : Host σ) (v : Visit σ) : (r : PacedRequest LedgerStore) → Option (r.Reply × Visit σ)
  | .call r => h.call v r
  | .pause ms => some ((), { v with clock := v.clock + ms })

/-- Gives up, at an instant, what was started. -/
def leave (h : Host σ) (v : Visit σ) (instant : Nat) : PacedRequest LedgerStore → Visit σ
  | .call r =>
      { v with
        store := h.drop instant r v.store
        clock := instant
        log := v.log ++ [.asked r] }
  | .pause _ => { v with clock := instant }

/-- Serves a program that has no windows. -/
def paced (h : Host σ) : Server (Paced LedgerStore) (Visit σ) where
  note n v := v.tell n
  serve r v :=
    match h.start v r with
    | some (reply, v) => (.answer reply, v)
    | none => (.wait, v.send r)

def finish (h : Host σ) (v : Visit σ) (r : PacedRequest LedgerStore) : WithTop Nat :=
  match h.start v r with
  | some (_, v) => v.instant
  | none => ⊤

/-- Serves a program with windows. A window that is cancelled already is not opened. -/
def server (h : Host σ) : Server (Timed LedgerStore) (Visit σ) where
  note n v := v.tell n
  serve
    | .now, v => (.answer v.clock, v)
    | .openWindow cancelAt timeout, v =>
        if cancelAt.any (· ≤ v.clock) then (.answer (.error .cancelled), v)
        else (.answer (.ok ⟨0, cancelAt, timeout.map (v.clock + ·)⟩), v)
    | .free r, v => h.paced.serve r v
    | .within w r, v =>
        match w.stop? (h.finish v r) with
        | some (stop, instant) => (.answer (.error stop), h.leave v instant r)
        | none =>
            let (response, v) := h.paced.serve r v
            (response.map .ok, v)

variable {h : Host σ} {v v' : Visit σ} {w : Window}

theorem call_extends {r : StoreRequest} {reply : r.Reply}
    (called : h.call v r = some (reply, v')) :
    v'.Extends v ∧ v'.log = v.log ++ [.asked r] ∧ v'.counters = v.counters := by
  obtain ⟨⟨ms, answer, st⟩, _, same⟩ := Option.map_eq_some_iff.mp called
  cases same
  exact ⟨.asked (Nat.le_add_right _ _) rfl rfl, rfl, rfl⟩

theorem call_abandon (h : Host σ) (v : Visit σ) (s : SessionId) :
    ∃ v', h.call v (.abandon s) = some ((), v') := by
  obtain ⟨⟨ms, reply, st⟩, served⟩ := Option.isSome_iff_exists.mp (h.abandons v.clock s v.store)
  exact ⟨_, congrArg (Option.map _) served⟩

theorem reply?_eq_some {r : StoreRequest} {reply : r.Reply} :
    h.reply? v r = some reply ↔ ∃ v', h.call v r = some (reply, v') := by
  constructor
  · intro replied
    obtain ⟨⟨answer, v'⟩, called, same⟩ := Option.map_eq_some_iff.mp replied
    exact ⟨v', same ▸ called⟩
  · rintro ⟨v', called⟩
    exact congrArg (Option.map Prod.fst) called

theorem reply?_tell (n : Note) (r : StoreRequest) : h.reply? (v.tell n) r = h.reply? v r := by
  simp only [reply?, call, Visit.tell, Option.map_map, Function.comp_def]

theorem start_extends {r : PacedRequest LedgerStore} {reply : r.Reply}
    (started : h.start v r = some (reply, v')) : v'.Extends v ∧ v'.log = (v.send r).log := by
  cases r with
  | call r =>
      obtain ⟨extends_, log, _⟩ := call_extends started
      exact ⟨extends_, log⟩
  | pause ms =>
      cases started
      exact ⟨.paused (Nat.le_add_right _ _) rfl rfl, rfl⟩

theorem leave_clock (h : Host σ) (v : Visit σ) (instant : Nat) (r : PacedRequest LedgerStore) :
    (h.leave v instant r).clock = instant := by
  cases r <;> rfl

theorem leave_extends (h : Host σ) {v : Visit σ} {instant : Nat} (le : v.clock ≤ instant)
    (r : PacedRequest LedgerStore) : (h.leave v instant r).Extends v := by
  cases r with
  | call r => exact .asked le rfl rfl
  | pause ms => exact .paused le rfl rfl

theorem leave_log (h : Host σ) (v : Visit σ) (instant : Nat) (r : PacedRequest LedgerStore) :
    (h.leave v instant r).log = (v.send r).log := by
  cases r <;> rfl

end Host

namespace Progress

variable {I : Interface} {σ α : Type}

/-- How long a program lasted that has left a visit like this: forever, if it still waits. -/
def lasts (v : Visit σ) : Progress I α → WithTop Nat
  | finished _ => v.instant
  | halted _ => v.instant
  | blocked _ _ => ⊤

theorem le_lasts (v : Visit σ) (progress : Progress I α) : v.instant ≤ progress.lasts v := by
  cases progress with
  | finished a => exact le_refl _
  | halted o => exact le_refl _
  | blocked r next => exact le_top

/-- The same in a window. -/
def inside (w : Window) : Progress (Paced I) α → Progress (Timed I) (Except Stop α)
  | finished a => finished (.ok a)
  | halted o => halted o
  | blocked r next => @blocked (Timed I) _ (.within w r) fun
      | .ok reply => (next reply).within w
      | .error stop => .done (.error stop)

end Progress

namespace Program

variable {σ α : Type} {h : Host σ} {v v' : Visit σ} {w : Window}
  {p : Program (Paced LedgerStore) α} {progress : Progress (Paced LedgerStore) α}

section Ask

variable {r : PacedRequest LedgerStore} {next : r.Reply → Program (Paced LedgerStore) α}

theorem run_ask_started {reply : r.Reply} (started : h.start v r = some (reply, v')) :
    (ask (I := Paced LedgerStore) r next).run h.paced v = (next reply).run h.paced v' := by
  simp only [run, Host.paced, started]

theorem run_ask_stuck (started : h.start v r = none) :
    (ask (I := Paced LedgerStore) r next).run h.paced v = (.blocked r next, v.send r) := by
  simp only [run, Host.paced, started]

theorem run_within_started {reply : r.Reply} (started : h.start v r = some (reply, v'))
    (allows : w.Allows v'.instant) :
    ((ask (I := Paced LedgerStore) r next).within w).run h.server v =
      ((next reply).within w).run h.server v' := by
  have lasts : h.finish v r = v'.instant := by simp only [Host.finish, started]
  have goes : w.stop? (h.finish v r) = none := Window.stop?_eq_none.mpr (lasts ▸ allows)
  simp only [within, run, Host.server, goes, Host.paced, started, Response.map]

theorem run_within_stuck (started : h.start v r = none) (allows : w.Allows ⊤) :
    ((ask (I := Paced LedgerStore) r next).within w).run h.server v =
      ((Progress.blocked r next : Progress (Paced LedgerStore) α).inside w, v.send r) := by
  have lasts : h.finish v r = ⊤ := by simp only [Host.finish, started]
  have goes : w.stop? (h.finish v r) = none := Window.stop?_eq_none.mpr (lasts ▸ allows)
  simp only [within, run, Host.server, goes, Host.paced, started, Response.map]
  rfl

theorem run_within_stopped {stop : Stop} {instant : Nat}
    (stops : w.Stops (h.finish v r) stop instant) :
    ((ask (I := Paced LedgerStore) r next).within w).run h.server v =
      (.finished (.error stop), h.leave v instant r) := by
  simp only [within, run, Host.server, Window.stop?_eq_some.mpr stops]

end Ask

theorem run_extends (ran : p.run h.paced v = (progress, v')) : v'.Extends v := by
  induction p generalizing v with
  | done a =>
      cases ran
      exact .refl _
  | halt o =>
      cases ran
      exact .refl _
  | note n next ih => exact (ih ran).trans (.tell v n)
  | ask r next ih =>
      cases started : h.start v r with
      | none =>
          rw [run_ask_stuck started] at ran
          cases ran
          exact .send v r
      | some x =>
          rw [run_ask_started started] at ran
          exact (ih _ ran).trans (Host.start_extends started).1

theorem clock_le_lasts (ran : p.run h.paced v = (progress, v')) :
    v.instant ≤ progress.lasts v' :=
  (WithTop.coe_le_coe.mpr (run_extends ran).clock).trans (progress.le_lasts v')

/-- A window that lets a program be makes no difference. -/
theorem run_within_of_allows (ran : p.run h.paced v = (progress, v'))
    (allows : w.Allows (progress.lasts v')) :
    (p.within w).run h.server v = (progress.inside w, v') := by
  induction p generalizing v with
  | done a =>
      cases ran
      rfl
  | halt o =>
      cases ran
      rfl
  | note n next ih => exact ih ran
  | ask r next ih =>
      cases started : h.start v r with
      | none =>
          rw [run_ask_stuck started] at ran
          cases ran
          exact run_within_stuck started allows
      | some x =>
          rw [run_ask_started started] at ran
          rw [run_within_started started (allows.mono (clock_le_lasts ran))]
          exact ih _ ran

/-- A window that stops a program does it at its instant, and the program has got no further than
it would have got without the window. -/
theorem run_within_of_stops (ran : p.run h.paced v = (progress, v')) (opened : w.Allows v.instant)
    {stop : Stop} {instant : Nat} (stops : w.Stops (progress.lasts v') stop instant) :
    ∃ left, (p.within w).run h.server v = (.finished (.error stop), left) ∧
      left.clock = instant ∧ left.Extends v ∧ left.log <+: v'.log := by
  -- Along the program the window allows the present instant, until a request would last too long.
  induction p generalizing v with
  | done a =>
      cases ran
      exact absurd stops opened.not_stops
  | halt o =>
      cases ran
      exact absurd stops opened.not_stops
  | note n next ih =>
      obtain ⟨left, run_, clock, extends_, before⟩ := ih ran opened
      exact ⟨left, run_, clock, extends_.trans (.tell v n), before⟩
  | ask r next ih =>
      have stopped : w.Stops (h.finish v r) stop instant → (v.send r).log <+: v'.log →
          ∃ left, ((ask (I := Paced LedgerStore) r next).within w).run h.server v =
              (.finished (.error stop), left) ∧
            left.clock = instant ∧ left.Extends v ∧ left.log <+: v'.log := fun first before =>
        ⟨_, run_within_stopped first, Host.leave_clock h v instant r,
          Host.leave_extends h (opened.le_of_stops first) r,
          (Host.leave_log h v instant r).symm ▸ before⟩
      cases started : h.start v r with
      | none =>
          rw [run_ask_stuck started] at ran
          cases ran
          have lasts : h.finish v r = ⊤ := by simp only [Host.finish, started]
          exact stopped (lasts ▸ stops) (List.prefix_refl _)
      | some x =>
          rw [run_ask_started started] at ran
          obtain ⟨extends_, log⟩ := Host.start_extends started
          have lasts : h.finish v r = x.2.instant := by simp only [Host.finish, started]
          rcases w.allows_or_stops x.2.instant with allows | ⟨_, _, first⟩
          · obtain ⟨left, run_, clock, after, before⟩ := ih _ ran allows
            refine ⟨left, ?_, clock, after.trans extends_, before⟩
            rw [run_within_started started allows]
            exact run_
          · -- What stops the first request is what stops the program.
            cases first.eq_of_le stops (clock_le_lasts ran)
            exact stopped (lasts ▸ first) (log ▸ (run_extends ran).log)

end Program
end DoubleEntry
