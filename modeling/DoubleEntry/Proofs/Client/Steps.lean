import DoubleEntry.Proofs.Client.Coherence
import DoubleEntry.Proofs.Store.Kept
import DoubleEntry.Proofs.Store.Presence

/-!
The steps of one client in a run of all of them: what each of them does, that nothing which is done
is forgotten, and that everything was done in some step.
-/

namespace DoubleEntry

def Tables.content (t : Tables) : List Account × List Entry × List Transaction :=
  (t.accounts, t.entries, t.transactions)

/-- The deeds that change what is committed. -/
def Deed.publishes : Deed → Bool
  | committed _ | opened _ | deleted _ => true
  | _ => false

namespace Books

theorem content_after (b : Books) {d : Deed} (quiet : d.publishes = false) :
    (b.after d).tables.content = b.tables.content := by
  cases d <;> first | rfl | cases quiet

theorem content_append (ds : List Deed) {es : List Deed} (quiet : ∀ d ∈ es, d.publishes = false) :
    (replay (ds ++ es)).tables.content = (replay ds).tables.content := by
  induction es generalizing ds with
  | nil => rw [List.append_nil]
  | cons d es ih =>
      rw [List.append_cons, ih (ds ++ [d]) fun e he => quiet e (List.mem_cons_of_mem d he),
        replay_snoc]
      exact content_after _ (quiet d List.mem_cons_self)

end Books

namespace Client

variable {α : Type} {c c' : Client α} {d d' : Desk}

theorem deeds_prefix (h : Turned c d c' d') : c.deeds <+: c'.deeds := by
  cases h with
  | noted at_ => exact List.prefix_refl _
  | queued at_ call owns done => exact List.prefix_refl _
  | _ => exact List.prefix_append _ _

theorem present_turned (h : Turned c d c' d') (order : d.Orderly) (present : d.Present) :
    d'.Present := by
  cases h with
  | noted at_ => exact present
  | idle at_ quiet => exact present
  | answered at_ call owns done => exact Desk.present_submit? order present done
  | queued at_ call owns done => exact Desk.present_submit? order present done
  | resumed at_ call done => exact Desk.present_resume? order present done
  | expired at_ call done => exact Desk.present_expire? order present done
  | stopped at_ quiet => exact Desk.present_desert present _
  | dropped now at_ suspends => exact Desk.present_abandonAll order present now _
  | halted now at_ => exact Desk.present_abandonAll order present now _
  | deserted now at_ =>
      exact Desk.present_abandonAll (Desk.orderly_desert order _) (Desk.present_desert present _)
        now _

/-- What the critical sections of a store keep, a turn keeps. -/
theorem kept_turned {P : MemoryStore → Prop} (k : MemoryStore.Kept P) (h : Turned c d c' d')
    (before : P d.store) : P d'.store := by
  have all : ∀ d : Desk, P d.store → ∀ now, P (d.abandonAll now c.begun).store := by
    intro d hd now
    exact List.foldlRecOn (motive := fun d : Desk => P d.store) c.begun _ hd
      fun d hd s _ => k.step hd (.submit now (.abandon s))
  cases h with
  | noted at_ => exact before
  | idle at_ quiet => exact before
  | answered at_ call owns done => exact k.submit? before done
  | queued at_ call owns done => exact k.submit? before done
  | resumed at_ call done => exact k.resume? before done
  | expired at_ call done => exact k.expire? before done
  | stopped at_ quiet => exact k.desert before _
  | dropped now at_ suspends => exact all d before now
  | halted now at_ => exact all d before now
  | deserted now at_ => exact all _ (k.desert before _) now

end Client

namespace Traffic

def tables (w : Traffic) : Tables := w.desk.store.tables

variable {w : Traffic} {i : Nat}

theorem tables_eq (h : w.Coherent) : w.tables = (Books.replay w.desk.deeds).tables :=
  congrArg Books.tables h.order.books

theorem runFrom_append (w : Traffic) (first second : List Choice) :
    w.runFrom (first ++ second) = (w.runFrom first).runFrom second :=
  List.foldl_append

/-- A run in two parts, with a step between them. -/
theorem run_split (before after : List Choice) (choice : Choice) :
    run (before ++ choice :: after) = ((run before).step choice).runFrom after :=
  runFrom_append {} before _

/-- A turn changes nothing, or one client takes it. -/
theorem step_turn (w : Traffic) (i : Nat) (t : Turn) :
    w.step (.turn i t) = w ∨ ∃ (α : Type) (c c' : Client α), w.clients[i]? = some ⟨α, c⟩ ∧
      Client.Turned c w.desk c' (w.step (.turn i t)).desk ∧
      (w.step (.turn i t)).clients = w.clients.set i ⟨α, c'⟩ := by
  simp only [step]
  split
  · exact .inl rfl
  · rename_i α c there
    split
    · exact .inl rfl
    · rename_i c' d' turned
      exact .inr ⟨α, c, c', there, Client.turned_of_turn turned, rfl⟩

theorem present_runFrom (h : w.Coherent) (present : w.desk.Present) (choices : List Choice) :
    (w.runFrom choices).desk.Present := by
  induction choices generalizing w with
  | nil => exact present
  | cons choice choices ih =>
      refine ih (coherent_step h choice) ?_
      cases choice with
      | spawn p => exact present
      | turn i t =>
          cases step_turn w i t with
          | inl same =>
              rw [same]
              exact present
          | inr took =>
              obtain ⟨α, c, c', _, turned, _⟩ := took
              exact Client.present_turned turned h.order present

theorem present_run (choices : List Choice) : (run choices).desk.Present :=
  present_runFrom coherent_empty (fun _ => rfl) choices

theorem kept_run {P : MemoryStore → Prop} (k : MemoryStore.Kept P) (empty : P {})
    (choices : List Choice) : P (run choices).desk.store := by
  refine List.foldlRecOn (motive := fun w : Traffic => P w.desk.store) choices step empty ?_
  intro w before choice _
  cases choice with
  | spawn p => exact before
  | turn i t =>
      cases step_turn w i t with
      | inl same =>
          rw [same]
          exact before
      | inr took =>
          obtain ⟨α, c, c', _, turned, _⟩ := took
          exact Client.kept_turned k turned before

/-- What a client is, it stays, and what it has done stays done. -/
theorem client_step {α : Type} {c : Client α} (hc : w.clients[i]? = some ⟨α, c⟩)
    (choice : Choice) : ∃ c' : Client α, (w.step choice).clients[i]? = some ⟨α, c'⟩ ∧
      c.deeds <+: c'.deeds ∧ c'.program = c.program := by
  have hi : i < w.clients.length := (List.getElem?_eq_some_iff.mp hc).1
  cases choice with
  | spawn p =>
      refine ⟨c, ?_, List.prefix_refl _, rfl⟩
      exact (List.getElem?_append_left hi).trans hc
  | turn j t =>
      cases step_turn w j t with
      | inl same =>
          rw [same]
          exact ⟨c, hc, List.prefix_refl _, rfl⟩
      | inr took =>
          obtain ⟨β, k, k', hk, turned, clients⟩ := took
          rw [clients]
          by_cases same : j = i
          · subst same
            rw [hc] at hk
            cases hk
            exact ⟨k', List.getElem?_set_self hi, Client.deeds_prefix turned,
              Client.program_turned turned⟩
          · rw [List.getElem?_set_ne same]
            exact ⟨c, hc, List.prefix_refl _, rfl⟩

theorem client_runFrom {α : Type} {c : Client α} (hc : w.clients[i]? = some ⟨α, c⟩)
    (choices : List Choice) : ∃ c' : Client α, (w.runFrom choices).clients[i]? = some ⟨α, c'⟩ ∧
      c.deeds <+: c'.deeds ∧ c'.program = c.program := by
  induction choices generalizing w c with
  | nil => exact ⟨c, hc, List.prefix_refl _, rfl⟩
  | cons choice choices ih =>
      obtain ⟨k, hk, first, same⟩ := client_step hc choice
      obtain ⟨c', hc', rest, same'⟩ := ih hk
      exact ⟨c', hc', first.trans rest, same'.trans same⟩

/-- The client that runs a program that was started. -/
theorem client_of_spawn {choices before after : List Choice} {α : Type}
    {p : Program (Timed LedgerStore) α} (split : choices = before ++ .spawn p :: after) :
    ∃ c : Client α, (run choices).clients[(run before).clients.length]? = some ⟨α, c⟩ ∧
      c.program = p := by
  have started : ((run before).step (.spawn p)).clients[(run before).clients.length]? =
      some ⟨α, Client.start p⟩ := List.getElem?_concat_length
  obtain ⟨c, hc, _, program⟩ := client_runFrom started after
  rw [split, run_split]
  exact ⟨c, hc, program⟩

/-- The turn of a client, in a run that goes on after it. -/
theorem turn_of_run {choices before after : List Choice} {t : Turn} {α : Type} {c : Client α}
    (split : choices = before ++ .turn i t :: after)
    (hc : (run choices).clients[i]? = some ⟨α, c⟩) :
    (run before).step (.turn i t) = run before ∨ ∃ c₀ c₁ : Client α,
      (run before).clients[i]? = some ⟨α, c₀⟩ ∧
      ((run before).step (.turn i t)).clients[i]? = some ⟨α, c₁⟩ ∧
      Client.Turned c₀ (run before).desk c₁ ((run before).step (.turn i t)).desk ∧
      c₁.deeds <+: c.deeds ∧ c.program = c₁.program := by
  rw [split, run_split] at hc
  cases step_turn (run before) i t with
  | inl same => exact .inl same
  | inr took =>
      obtain ⟨β, c₀, c₁, h₀, turned, clients⟩ := took
      have hi : i < (run before).clients.length := (List.getElem?_eq_some_iff.mp h₀).1
      have h₁ : ((run before).step (.turn i t)).clients[i]? = some ⟨β, c₁⟩ := by
        rw [clients]
        exact List.getElem?_set_self hi
      obtain ⟨k, hk, deeds, program⟩ := client_runFrom h₁ after
      rw [hc] at hk
      cases hk
      exact .inr ⟨c₀, c₁, h₀, h₁, turned, deeds, program⟩

/-- What the store has done stays done. -/
theorem deeds_runFrom (h : w.Coherent) (choices : List Choice) :
    w.desk.deeds <+: (w.runFrom choices).desk.deeds := by
  induction choices generalizing w with
  | nil => exact List.prefix_refl _
  | cons choice choices ih =>
      refine List.IsPrefix.trans ?_ (ih (coherent_step h choice))
      cases choice with
      | spawn p => exact List.prefix_refl _
      | turn j t =>
          cases step_turn w j t with
          | inl same =>
              have still : (w.step (.turn j t)).desk.deeds = w.desk.deeds := by rw [same]
              exact still ▸ List.prefix_refl _
          | inr took =>
              obtain ⟨α, c, c', hc, turned, _⟩ := took
              obtain ⟨ds, _, all⟩ := adds_of_turned h hc turned
              exact ⟨ds, all.symm⟩

/-- What a client has done it has done in one of its turns. -/
theorem exists_turn_of_mem {choices : List Choice} {α : Type} {c : Client α} {e : Deed}
    (hc : (w.runFrom choices).clients[i]? = some ⟨α, c⟩) (he : e ∈ c.deeds)
    (fresh : ∀ c₀ : Client α, w.clients[i]? = some ⟨α, c₀⟩ → e ∉ c₀.deeds) :
    ∃ before t after, choices = before ++ .turn i t :: after ∧
      (∀ c₀ : Client α, (w.runFrom before).clients[i]? = some ⟨α, c₀⟩ → e ∉ c₀.deeds) ∧
      ∃ c₁ : Client α, ((w.runFrom before).step (.turn i t)).clients[i]? = some ⟨α, c₁⟩ ∧
        e ∈ c₁.deeds := by
  induction choices generalizing w with
  | nil => exact absurd he (fresh c hc)
  | cons choice choices ih =>
      by_cases now : ∃ c₁ : Client α, (w.step choice).clients[i]? = some ⟨α, c₁⟩ ∧ e ∈ c₁.deeds
      · obtain ⟨c₁, h₁, mem⟩ := now
        cases choice with
        | spawn p =>
            cases getElem?_concat h₁ with
            | inl old => exact absurd mem (fresh c₁ old)
            | inr new =>
                cases new
                cases mem
        | turn j t =>
            by_cases same : j = i
            · subst same
              exact ⟨[], t, choices, rfl, fresh, c₁, h₁, mem⟩
            · cases step_turn w j t with
              | inl still =>
                  rw [still] at h₁
                  exact absurd mem (fresh c₁ h₁)
              | inr took =>
                  obtain ⟨β, k, k', _, _, clients⟩ := took
                  rw [clients, List.getElem?_set_ne same] at h₁
                  exact absurd mem (fresh c₁ h₁)
      · obtain ⟨before, t, after, split, notYet, found⟩ :=
          ih hc fun c₀ h₀ mem => now ⟨c₀, h₀, mem⟩
        exact ⟨choice :: before, t, after, by rw [split]; rfl, notYet, found⟩

/-- Clients that take no turns stay as they are. -/
theorem client_of_late {n : Nat} {choices : List Choice}
    (late : ∀ j t, .turn j t ∈ choices → n ≤ j) {x : AnyClient} (hx : w.clients[i]? = some x)
    (hi : i < n) : (w.runFrom choices).clients[i]? = some x := by
  induction choices generalizing w with
  | nil => exact hx
  | cons choice choices ih =>
      refine ih (fun j t hj => late j t (List.mem_cons_of_mem choice hj)) ?_
      cases choice with
      | spawn p => exact (List.getElem?_append_left (List.getElem?_eq_some_iff.mp hx).1).trans hx
      | turn j t =>
          cases step_turn w j t with
          | inl same =>
              rw [same]
              exact hx
          | inr took =>
              obtain ⟨α, c, c', _, _, clients⟩ := took
              have bound := Nat.lt_of_lt_of_le hi (late j t List.mem_cons_self)
              have other : j ≠ i := Nat.ne_of_gt bound
              rw [clients, List.getElem?_set_ne other]
              exact hx

/-- While the first clients take no turns, all that is done the other ones do. -/
theorem deeds_of_late {n : Nat} (h : w.Coherent) {choices : List Choice}
    (late : ∀ j t, .turn j t ∈ choices → n ≤ j) :
    ∃ new, (w.runFrom choices).desk.deeds = w.desk.deeds ++ new ∧
      ∀ e ∈ new, ∃ j x, n ≤ j ∧ (w.runFrom choices).clients[j]? = some x ∧ e ∈ x.2.deeds := by
  induction choices generalizing w with
  | nil => exact ⟨[], (List.append_nil _).symm, fun e he => by cases he⟩
  | cons choice choices ih =>
      obtain ⟨new, deeds, mine⟩ := ih (coherent_step h choice) fun j t hj =>
        late j t (List.mem_cons_of_mem choice hj)
      cases choice with
      | spawn p => exact ⟨new, deeds, mine⟩
      | turn j t =>
          cases step_turn w j t with
          | inl same =>
              rw [same] at deeds mine
              refine ⟨new, ?_, ?_⟩
              · simpa [runFrom, same] using deeds
              · simpa [runFrom, same] using mine
          | inr took =>
              obtain ⟨α, c, c', hc, turned, clients⟩ := took
              obtain ⟨ds, adds, all⟩ := adds_of_turned h hc turned
              have hj : j < w.clients.length := (List.getElem?_eq_some_iff.mp hc).1
              have hc' : (w.step (.turn j t)).clients[j]? = some ⟨α, c'⟩ := by
                rw [clients]
                exact List.getElem?_set_self hj
              obtain ⟨k, hk, more, _⟩ := client_runFrom hc' choices
              refine ⟨ds ++ new, ?_, ?_⟩
              · rw [← List.append_assoc, ← all]
                exact deeds
              · intro e he
                cases List.mem_append.mp he with
                | inl now =>
                    refine ⟨j, _, late j t List.mem_cons_self, hk, more.subset ?_⟩
                    rw [adds.deeds]
                    exact List.mem_append_right _ now
                | inr later => exact mine e later

theorem clients_of_spawns {α ι : Type} (p : ι → Program (Timed LedgerStore) α) (xs : List ι)
    (w : Traffic) : (w.runFrom (xs.map fun x => .spawn (p x))).clients =
      w.clients ++ xs.map fun x => ⟨α, Client.start (p x)⟩ := by
  induction xs generalizing w with
  | nil => exact (List.append_nil _).symm
  | cons x xs ih =>
      refine (ih (w.step (.spawn (p x)))).trans ?_
      exact List.append_assoc _ _ _

theorem length_of_turns {choices : List Choice}
    (turns : ∀ choice ∈ choices, ∃ j t, choice = .turn j t) (w : Traffic) :
    (w.runFrom choices).clients.length = w.clients.length := by
  induction choices generalizing w with
  | nil => rfl
  | cons choice choices ih =>
      obtain ⟨j, t, rfl⟩ := turns choice List.mem_cons_self
      refine (ih (fun c hc => turns c (List.mem_cons_of_mem _ hc)) _).trans ?_
      cases step_turn w j t with
      | inl same => rw [same]
      | inr took =>
          obtain ⟨α, c, c', _, _, clients⟩ := took
          rw [clients, List.length_set]

end Traffic
end DoubleEntry
