import DoubleEntry.Proofs.Client.Conduct
import DoubleEntry.Service.UnitOfWork

/-!
How a unit of work conducts itself, whatever its body, as long as the body only works in the session
that it is given. It commits what the body has done if the body comes to its end, and then gives the
body's value; in all other cases it commits nothing; and it ends its session before it ends itself.
-/

namespace DoubleEntry

/-- A deed of a body: work in one session that can still be undone. -/
def Deed.IsWork (s : SessionId) : Deed → Prop
  | drewTransaction t _ | drewEntry t _ => t = s
  | changedBalance t delta _ => t = s ∧ delta.FitsColumn
  | _ => False

/-- A session was begun, and nothing that was done in it was committed. -/
def Uncommitted (s : SessionId) (history : List Deed) : Prop :=
  ∃ rest, history = .began s :: rest ∧
    ∀ e ∈ rest, e.IsWork s ∨ e = .rolledBack s ∨ e = .abandoned s

namespace Uncommitted

variable {s : SessionId} {history : List Deed}

theorem began (s : SessionId) : Uncommitted s [.began s] :=
  ⟨[], rfl, fun _ h => by cases h⟩

theorem snoc (h : Uncommitted s history) {e : Deed}
    (he : e.IsWork s ∨ e = .rolledBack s ∨ e = .abandoned s) : Uncommitted s (history ++ [e]) := by
  obtain ⟨rest, rfl, all⟩ := h
  refine ⟨rest ++ [e], rfl, ?_⟩
  intro f hf
  cases List.mem_append.mp hf with
  | inl old => exact all f old
  | inr new => exact List.mem_singleton.mp new ▸ he

theorem rolledBack (h : Uncommitted s history) : Uncommitted s (history ++ [.rolledBack s]) :=
  h.snoc (.inr (.inl rfl))

theorem abandoned (h : Uncommitted s history) : Uncommitted s (history ++ [.abandoned s]) :=
  h.snoc (.inr (.inr rfl))

theorem cases_mem (h : Uncommitted s history) {e : Deed} (he : e ∈ history) :
    e = .began s ∨ e.IsWork s ∨ e = .rolledBack s ∨ e = .abandoned s := by
  obtain ⟨rest, rfl, all⟩ := h
  cases List.mem_cons.mp he with
  | inl first => exact .inl first
  | inr later => exact .inr (all e later)

end Uncommitted

namespace Program

variable {I : Interface} {α β : Type}

theorem within_bind (w : Window) (p : Program (Paced I) β) (f : β → Program (Paced I) α) :
    (p.bind f).within w = (p.within w).bind fun
      | .ok b => (f b).within w
      | .error stop => done (.error stop) := by
  induction p with
  | done b => rfl
  | halt o => rfl
  | note n next ih =>
      simp only [bind, within]
      rw [ih]
  | ask r next ih =>
      simp only [bind, within]
      congr 1
      funext reply
      cases reply with
      | ok answer => exact ih answer
      | error stop => rfl

end Program

namespace UnitOfWork

open Program

variable {α β : Type} {s : SessionId} {w : Window} {history : List Deed}

/-- A body works in its session only, and has done something in particular when it ends well. -/
def bodyConduct (s : SessionId) (post : List Deed → α → Prop) :
    Conduct (Except Stop (Except LedgerError α)) where
  always := Uncommitted s
  mayDrop := Uncommitted s
  mayEnd history outcome := ∀ value, outcome = .ok (.ok value) → post history value

/-- A body does its work in a session, and ends well only with a postcondition. -/
def Works (s : SessionId) (w : Window) (history : List Deed)
    (body : Action (Paced LedgerStore) α) (post : List Deed → α → Prop) : Prop :=
  (body.toProgram.within w).Follows (bodyConduct s post) history

theorem works_mono {body : Action (Paced LedgerStore) α} {post post' : List Deed → α → Prop}
    (works : Works s w history body post) (weaker : ∀ h value, post h value → post' h value) :
    Works s w history body post' :=
  follows_mono (k := bodyConduct s post) (fun _ h => h) (fun _ h => h)
    (fun h _ _ ended value same => weaker h value (ended value same)) works

theorem works_pure {post : List Deed → α → Prop} (h : Uncommitted s history) {value : α}
    (hv : post history value) : Works s w history (pure value) post := by
  refine ⟨h, fun v same => ?_⟩
  cases same
  exact hv

theorem works_throw {post : List Deed → α → Prop} (h : Uncommitted s history)
    (e : LedgerError) : Works s w history (throw e) post :=
  ⟨h, fun _ same => by cases same⟩

theorem works_bind {mid : List Deed → β → Prop} {post : List Deed → α → Prop}
    {a : Action (Paced LedgerStore) β} {f : β → Action (Paced LedgerStore) α}
    (first : Works s w history a mid)
    (rest : ∀ history b, Uncommitted s history → mid history b → Works s w history (f b) post) :
    Works s w history (a >>= f) post := by
  have shape : (a >>= f).toProgram = a.toProgram.bind (ExceptT.bindCont f) := rfl
  rw [Works, shape, within_bind]
  refine follows_bind_of first (fun _ h => h) (fun _ h => h) ?_
  intro h outcome uncommitted ended
  cases outcome with
  | error stop => exact ⟨uncommitted, fun _ same => by cases same⟩
  | ok result =>
      cases result with
      | error e => exact ⟨uncommitted, fun _ same => by cases same⟩
      | ok b => exact rest h b uncommitted (ended b rfl)

/-- What is done on a request in the session must be work. -/
theorem works_ask {op : SessionRequest} {post : List Deed → op.Reply → Prop}
    (h : Uncommitted s history)
    (answered : ∀ value : op.Reply, StoreRequest.Fits (.perform s op) (.ok value) →
      (∀ e ∈ Deed.of? (.perform s op) (.ok value), e.IsWork s) ∧
        post (history ++ (Deed.of? (.perform s op) (.ok value)).toList) value) :
    Works s w history (op.ask s) post := by
  have shape : (op.ask s).toProgram =
      ask (I := Paced LedgerStore) (.call (.perform s op)) done := rfl
  rw [Works, shape]
  simp only [within, Follows]
  refine ⟨h, fun _ => h, ?_⟩
  intro reply fits
  cases reply with
  | error stop =>
      refine ⟨?_, fun _ same => by cases same⟩
      change Uncommitted s (history ++ [])
      rw [List.append_nil]
      exact h
  | ok answer =>
      cases answer with
      | error e =>
          refine ⟨?_, fun _ same => by cases same⟩
          have nothing : Deed.of? (.perform s op) (.error e) = none := by cases op <;> rfl
          change Uncommitted s (history ++ (Deed.of? (.perform s op) (.error e)).toList)
          rw [nothing, Option.toList_none, List.append_nil]
          exact h
      | ok value =>
          obtain ⟨work, hv⟩ := answered value fits
          refine ⟨?_, fun v same => ?_⟩
          · change Uncommitted s (history ++ (Deed.of? (.perform s op) (.ok value)).toList)
            cases hd : Deed.of? (.perform s op) (.ok value) with
            | none =>
                rw [Option.toList_none, List.append_nil]
                exact h
            | some e => exact h.snoc (.inl (work e hd))
          · cases same
            exact hv

/-- The same of a body inside a window that is opened for it. -/
def boundedConduct (s : SessionId) (post : List Deed → α → Prop) :
    Conduct (Except LedgerError α) where
  always := Uncommitted s
  mayDrop := Uncommitted s
  mayEnd history outcome := ∀ value, outcome = .ok value → post history value

/-- What a unit of work has done: nothing, something that is not committed, or all of its body. -/
def conduct (post : SessionId → List Deed → α → Prop) : Conduct (Except LedgerError α) where
  always history := history = [] ∨ (∃ s, Uncommitted s history) ∨
    ∃ s work value, post s work value ∧
      (history = work ++ [.committed s] ∨ history = work ++ [.committed s] ++ [.abandoned s])
  mayDrop history := history = [] ∨ ∃ s, Uncommitted s history
  mayEnd
    | history, .ok value => ∃ s work, post s work value ∧
        history = work ++ [.committed s] ++ [.abandoned s]
    | history, .error _ => history = [] ∨ ∃ s, Uncommitted s history ∧ .abandoned s ∈ history

variable {post : SessionId → List Deed → α → Prop}

theorem follows_bounded {u : UnitOfWork} {cancelAt : Option Nat}
    {body : Action (Paced LedgerStore) α} (h : Uncommitted s history)
    (works : cancelAt ≠ some 0 → ∀ w, Works s w history body (post s)) :
    (u.bounded cancelAt body).Follows (boundedConduct s (post s)) history := by
  refine ⟨h, fun _ => h, ?_⟩
  intro reply fits
  cases reply with
  | error stop =>
      refine ⟨?_, fun _ same => by cases same⟩
      change Uncommitted s (history ++ [])
      rw [List.append_nil]
      exact h
  | ok window =>
      change Follows _ (history ++ []) ((body.toProgram.within window).bind _)
      rw [List.append_nil]
      refine follows_bind_of (works fits window) (fun _ h => h) (fun _ h => h) ?_
      intro history outcome uncommitted ended
      cases outcome with
      | error stop => exact ⟨uncommitted, fun _ same => by cases same⟩
      | ok result =>
          refine ⟨uncommitted, fun value same => ?_⟩
          cases same
          exact ended value rfl

theorem follows_conclude_ok (h : Uncommitted s history) {value : α}
    (hv : post s history value) :
    (conclude s (.ok value)).Follows (conduct post) history := by
  refine ⟨.inr (.inl ⟨s, h⟩), fun _ => .inr ⟨s, h⟩, ?_⟩
  intro reply _
  cases reply with
  | ok _ =>
      refine ⟨.inr (.inr ⟨s, history, value, hv, .inl rfl⟩), (fun no => by cases no), ?_⟩
      intro reply _
      exact ⟨.inr (.inr ⟨s, history, value, hv, .inr rfl⟩), s, history, hv, rfl⟩
  | error e =>
      change Follows (conduct post) (history ++ []) _
      rw [List.append_nil]
      refine ⟨.inr (.inl ⟨s, h⟩), (fun no => by cases no), ?_⟩
      intro reply _
      refine ⟨.inr (.inl ⟨s, h.abandoned⟩), .inr ⟨s, h.abandoned, ?_⟩⟩
      exact List.mem_append_right _ (List.mem_singleton_self _)

theorem follows_conclude_error (h : Uncommitted s history) (e : LedgerError) :
    (conclude (α := α) s (.error e)).Follows (conduct post) history := by
  have last : ∀ history, Uncommitted s history → ∀ e : LedgerError,
      (ask (I := Timed LedgerStore) (.free (.call (.abandon s))) fun _ =>
        done (Except.error (α := α) e)).Follows (conduct post) history := by
    intro history h e
    refine ⟨.inr (.inl ⟨s, h⟩), (fun no => by cases no), ?_⟩
    intro reply _
    refine ⟨.inr (.inl ⟨s, h.abandoned⟩), .inr ⟨s, h.abandoned, ?_⟩⟩
    exact List.mem_append_right _ (List.mem_singleton_self _)
  refine ⟨.inr (.inl ⟨s, h⟩), (fun no => by cases no), ?_⟩
  intro reply _
  cases reply with
  | ok _ => exact last _ h.rolledBack e
  | error undo =>
      change Follows (conduct post) (history ++ []) _
      rw [List.append_nil]
      exact last _ h _

theorem follows_execute {u : UnitOfWork} {cancelAt : Option Nat}
    {body : SessionId → Action (Paced LedgerStore) α}
    (works : cancelAt ≠ some 0 → ∀ s w, Works s w [.began s] (body s) (post s)) :
    (u.execute cancelAt fun s => body s).Follows (conduct post) [] := by
  refine ⟨.inl rfl, (fun no => by cases no), ?_⟩
  intro reply _
  cases reply with
  | error e => exact ⟨.inl rfl, .inl rfl⟩
  | ok s =>
      have bounded : (u.bounded cancelAt (body s)).Follows (boundedConduct s (post s))
          [.began s] := follows_bounded (Uncommitted.began s) fun open_ => works open_ s
      change ((u.bounded cancelAt (body s)).bind fun outcome => conclude s outcome).Follows
        (conduct post) [.began s]
      refine follows_bind_of bounded (fun _ h => .inr (.inl ⟨s, h⟩))
        (fun _ (h : Uncommitted s _) => .inr ⟨s, h⟩) ?_
      intro history outcome uncommitted ended
      cases outcome with
      | ok value => exact follows_conclude_ok uncommitted (ended value rfl)
      | error e => exact follows_conclude_error uncommitted e

end UnitOfWork
end DoubleEntry
