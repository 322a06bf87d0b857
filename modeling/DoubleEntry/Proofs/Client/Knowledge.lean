import DoubleEntry.Proofs.Client.Tickets
import DoubleEntry.Proofs.Client.Reliance

/-!
What a client knows of its sessions. As long as nobody else uses them the store has drafted in each
what the client has done there. So it never refuses to begin a session, to undo one that is still
worked in, or to commit one that has changed every account which its rows are for.
-/

namespace DoubleEntry

namespace Books

variable {b b' : Books} {s : SessionId}

/-- A deed makes the same of the same draft. -/
theorem drafts_after_congr (same : b.drafts s = b'.drafts s) (d : Deed) :
    (b.after d).drafts s = (b'.after d).drafts s := by
  have set : ∀ t draft draft', (s = t → draft = draft') →
      (b.setDraft t draft).drafts s = (b'.setDraft t draft').drafts s := by
    intro t draft draft' alike
    rw [drafts_setDraft, drafts_setDraft]
    split
    · rename_i mine
      exact alike mine
    · exact same
  have map : ∀ t f, (b.mapDraft t f).drafts s = (b'.mapDraft t f).drafts s :=
    fun t f => set t _ _ fun mine => by rw [← mine, same]
  cases d with
  | began t => exact set t _ _ fun _ => rfl
  | drewTransaction t row => exact map t _
  | drewEntry t row => exact map t _
  | changedBalance t delta row => exact map t _
  | rolledBack t => exact set t _ _ fun _ => rfl
  | abandoned t => exact set t _ _ fun _ => rfl
  | opened account => exact same
  | deleted a => exact same
  | committed t =>
      -- A commit without a draft does nothing, and there is no draft then either.
      have done : ∀ b : Books, (b.after (.committed t)).drafts s =
          if s = t then none else b.drafts s := by
        intro b
        cases drafted : b.drafts t with
        | none =>
            simp only [after, drafted]
            split
            · rename_i mine
              rw [mine, drafted]
            · rfl
        | some x =>
            simp only [after, drafted]
            rfl
      rw [done, done, same]

theorem drafts_after_of_other {d : Deed} (other : d.session? ≠ some s) :
    (b.after d).drafts s = b.drafts s := by
  have apart : ∀ t, d.session? = some t → s ≠ t := fun t is same => other (same ▸ is)
  cases d with
  | opened account => rfl
  | deleted a => rfl
  | committed t =>
      simp only [after]
      split
      · exact if_neg (apart t rfl)
      · rfl
  | _ => exact if_neg (apart _ rfl)

theorem drafts_foldl_congr (same : b.drafts s = b'.drafts s) (ds : List Deed) :
    (ds.foldl after b).drafts s = (ds.foldl after b').drafts s := by
  induction ds generalizing b b' with
  | nil => exact same
  | cons d ds ih => exact ih (drafts_after_congr same d)

theorem replay_append (ds es : List Deed) : replay (ds ++ es) = es.foldl after (replay ds) :=
  List.foldl_append

end Books

namespace Desk

open Books

variable {d d' : Desk} {history ds : List Deed}

/-- The store has in the sessions begun in a history what was done there, and nothing else. -/
structure Knows (d : Desk) (history : List Deed) : Prop where
  early : ∀ s, .began s ∈ history → s < (replay d.deeds).nextSession
  drafts : ∀ s, .began s ∈ history → (replay d.deeds).drafts s = (replay history).drafts s

theorem knows_nil (d : Desk) : d.Knows [] := ⟨fun _ no => (by cases no), fun _ no => by cases no⟩

/-- The next session is later than one that was just begun. -/
theorem early_append (lawful : Lawful (ds ++ history)) {s : SessionId}
    (begun : .began s ∈ history) : s < (replay (ds ++ history)).nextSession := by
  obtain ⟨before, after, rfl⟩ := List.append_of_mem begun
  rw [List.append_cons, ← List.append_assoc, ← List.append_assoc] at lawful ⊢
  have later := nextSession_le_append lawful
  rw [replay_snoc] at later
  exact later

/-- What the client does next, the store takes down as well. -/
theorem Knows.append (h : d.Knows history) (order : d'.Orderly) (deeds : d'.deeds = d.deeds ++ ds) :
    d'.Knows (history ++ ds) := by
  have lawful := order.lawful
  rw [deeds] at lawful
  refine ⟨fun s begun => ?_, fun s begun => ?_⟩
  · rw [deeds]
    rcases List.mem_append.mp begun with old | new
    · exact Nat.lt_of_lt_of_le (h.early s old) (nextSession_le_append lawful)
    · exact early_append lawful new
  · rw [deeds, replay_append, replay_append]
    rcases List.mem_append.mp begun with old | new
    · exact drafts_foldl_congr (h.drafts s old) ds
    · -- A session begins with the empty draft, whatever there was before.
      obtain ⟨before, after, rfl⟩ := List.append_of_mem new
      rw [List.foldl_append, List.foldl_append, List.foldl_cons, List.foldl_cons]
      refine drafts_foldl_congr ?_ after
      rw [Books.after, Books.after]
      exact (if_pos rfl).trans (if_pos rfl).symm

/-- What others do makes no difference, as long as they do it elsewhere. -/
theorem Knows.beside (h : d.Knows history) (order : d'.Orderly) {o : Option Deed}
    (deeds : d'.deeds = d.deeds ++ o.toList)
    (elsewhere : ∀ e ∈ o, ∀ s, .began s ∈ history → e.session? = some s → e = .began s) :
    d'.Knows history := by
  have lawful := order.lawful
  rw [deeds] at lawful
  refine ⟨fun s begun => ?_, fun s begun => ?_⟩
  · rw [deeds]
    exact Nat.lt_of_lt_of_le (h.early s begun) (nextSession_le_append lawful)
  · rw [deeds, ← h.drafts s begun]
    cases o with
    | none => rw [Option.toList_none, List.append_nil]
    | some e =>
        rw [Option.toList_some] at lawful ⊢
        rw [replay_snoc]
        refine drafts_after_of_other fun mine => ?_
        -- The sessions that begin are new.
        cases elsewhere e rfl s begun mine
        have new : s = (replay d.deeds).nextSession := (lawful_snoc lawful).2
        exact Nat.ne_of_lt (h.early s begun) new

end Desk

/-- The session that a move makes a request in. -/
def Move.session? : Move → Option SessionId
  | submit _ r => r.session?
  | resume _ _ | expire _ | desert _ => none

/-- The ticket that a move takes up. -/
def Move.ticket? : Move → Option Nat
  | submit _ _ => none
  | resume _ ticket | expire ticket | desert ticket => some ticket

namespace Desk

/-- What a move comes to. -/
inductive Stepped (d : Desk) : Move → Desk → Prop where
  | still (m : Move) : Stepped d m d
  | answered {now r answer d'} (h : d.submit? now r = some (.answered answer, d')) :
      Stepped d (.submit now r) d'
  | queued {now r ticket d'} (h : d.submit? now r = some (.waiting ticket, d')) :
      Stepped d (.submit now r) d'
  | resumed {now d'} {q : Pending} {answer : q.request.Reply} (there : q ∈ d.waiting)
      (h : d.resume? now q.request q.ticket = some (answer, d')) :
      Stepped d (.resume now q.ticket) d'
  | expired {d'} {q : Pending} {answer : q.request.Reply} (there : q ∈ d.waiting)
      (h : d.expire? q.request q.ticket = some (answer, d')) : Stepped d (.expire q.ticket) d'
  | deserted (ticket : Nat) : Stepped d (.desert ticket) (d.desert ticket)

variable {d d' : Desk} {m : Move} {p : Pending}

theorem stepped_step (d : Desk) (m : Move) : Stepped d m (d.step m) := by
  cases m with
  | submit now r =>
      simp only [step]
      cases given : d.submit? now r with
      | none => exact .still _
      | some x =>
          obtain ⟨answer | ticket, d'⟩ := x
          · exact .answered given
          · exact .queued given
  | resume now ticket =>
      simp only [step]
      split
      · rename_i q found
        have same := List.find?_some found
        cases eq_of_beq same
        cases given : d.resume? now q.request q.ticket with
        | none => exact .still _
        | some x => exact .resumed (List.mem_of_find?_eq_some found) given
      · exact .still _
  | expire ticket =>
      simp only [step]
      split
      · rename_i q found
        have same := List.find?_some found
        cases eq_of_beq same
        cases given : d.expire? q.request q.ticket with
        | none => exact .still _
        | some x => exact .expired (List.mem_of_find?_eq_some found) given
      · exact .still _
  | desert ticket => exact .deserted ticket

/-- What a move does is done in its own session, or in that of the request whose ticket it takes up,
or begins a session. -/
theorem Stepped.deeds (h : Stepped d m d') :
    ∃ o : Option Deed, d'.deeds = d.deeds ++ o.toList ∧ ∀ e ∈ o,
      (∃ s, e = .began s) ∨ e.session? = m.session? ∨
        ∃ q ∈ d.waiting, m.ticket? = some q.ticket ∧ e.session? = q.request.session? := by
  cases h with
  | still => exact ⟨none, (List.append_nil _).symm, fun _ no => by cases no⟩
  | queued h =>
      exact ⟨none, (waiting_submit? h).1.trans (List.append_nil _).symm, fun _ no => by cases no⟩
  | deserted ticket =>
      exact ⟨none, (deeds_desert d ticket).trans (List.append_nil _).symm, fun _ no => by cases no⟩
  | answered h =>
      refine ⟨_, (answered_submit? h).1, fun e he => ?_⟩
      exact (Deed.session?_of? he).elim (fun same => .inr (.inl same)) .inl
  | resumed there h =>
      refine ⟨_, (answered_resume? h).1, fun e he => ?_⟩
      exact (Deed.session?_of? he).elim (fun same => .inr (.inr ⟨_, there, rfl, same⟩)) .inl
  | expired there h =>
      refine ⟨_, (answered_expire? h).1, fun e he => ?_⟩
      exact (Deed.session?_of? he).elim (fun same => .inr (.inr ⟨_, there, rfl, same⟩)) .inl

/-- What waits after a move waited before, or is its request. -/
theorem Stepped.mem_waiting (h : Stepped d m d') (hp : p ∈ d'.waiting) :
    p ∈ d.waiting ∨ ∃ now, m = .submit now p.request := by
  cases h with
  | still => exact .inl hp
  | answered h => exact .inl ((answered_submit? h).2 ▸ hp)
  | queued h =>
      rw [(waiting_submit? h).2] at hp
      rcases List.mem_append.mp hp with old | new
      · exact .inl old
      · cases List.mem_singleton.mp new
        exact .inr ⟨_, rfl⟩
  | resumed there h => exact .inl (List.mem_of_mem_filter ((answered_resume? h).2 ▸ hp))
  | expired there h => exact .inl (List.mem_of_mem_filter ((answered_expire? h).2 ▸ hp))
  | deserted ticket => exact .inl (mem_desert hp).1

/-- What waits goes on waiting, but for what is taken up. -/
theorem Stepped.waits (h : Stepped d m d') (hp : p ∈ d.waiting)
    (other : m.ticket? ≠ some p.ticket) : p ∈ d'.waiting := by
  have left {ticket : Nat} (apart : some ticket ≠ some p.ticket) :
      p ∈ d.waiting.filter (·.ticket != ticket) :=
    List.mem_filter.mpr ⟨hp, bne_iff_ne.mpr fun same => apart (congrArg some same.symm)⟩
  cases h with
  | still => exact hp
  | answered h => exact (answered_submit? h).2 ▸ hp
  | queued h => exact (waiting_submit? h).2 ▸ List.mem_append_left _ hp
  | resumed there h => exact (answered_resume? h).2 ▸ left other
  | expired there h => exact (answered_expire? h).2 ▸ left other
  | deserted ticket =>
      simp only [desert]
      split
      · exact left other
      · exact hp

end Desk

namespace Client

variable {α : Type} {c c' : Client α} {d d' : Desk}

/-- A move is in none of the client's sessions, and does not take up the ticket it waits with. -/
def Permits (c : Client α) (m : Move) : Prop :=
  (∀ s ∈ c.begun, m.session? ≠ some s) ∧ ∀ ticket ∈ c.ticket?, m.ticket? ≠ some ticket

instance (c : Client α) (m : Move) : Decidable (c.Permits m) := inferInstanceAs (Decidable (_ ∧ _))

/-- The sessions of a client are its own: only the client waits for them, and it knows what is in
them. -/
structure KeepsApart (c : Client α) (d : Desk) : Prop where
  order : d.Orderly
  alone : c.UsesAlone d
  asked : ∀ ticket q next, c.stage = .waiting ticket q next → ∀ r reply,
    q.call? = some ⟨r, reply⟩ → c.owns r = true
  knows : d.Knows c.deeds

theorem mem_begun {s : SessionId} : s ∈ c.begun ↔ .began s ∈ c.deeds := by
  refine ⟨fun begun => ?_, fun begun => List.mem_filterMap.mpr ⟨_, begun, rfl⟩⟩
  obtain ⟨e, he, same⟩ := List.mem_filterMap.mp begun
  cases e <;> cases same
  exact he

theorem keepsApart_start (p : Program (Timed LedgerStore) α) (order : d.Orderly) :
    (start p).KeepsApart d where
  order := order
  alone _ _ _ begun := by cases begun
  asked _ _ _ at_ := by cases at_
  knows := Desk.knows_nil d

theorem keepsApart_turned (h : c.KeepsApart d) (turned : Turned c d c' d') : c'.KeepsApart d' := by
  obtain ⟨ds, adds, deeds⟩ := adds_turned turned h.alone h.asked
  have order := orderly_turned turned h.order
  refine ⟨order, fun p hp s begun mine => ?_, owned_turned turned, ?_⟩
  · rcases waiting_turned turned h.alone hp with now | ⟨before, other⟩
    · exact now
    · rcases adds.begun_cases begun with old | rfl
      · exact absurd (h.alone p before s old mine) other
      · -- What waited before waits in a session that was there.
        obtain ⟨x, open_⟩ := h.order.still p before s mine
        have lawful := order.lawful
        rw [deeds] at lawful
        have new : s = (Books.replay d.deeds).nextSession := (Books.lawful_snoc lawful).2
        rw [← h.order.books] at new
        have there := (MemoryStore.openSession?_eq_some.mp open_).1
        have late := h.order.store.fresh _ (MemoryStore.mem_of_session? there)
        exact absurd new (Nat.ne_of_lt late)
  · rw [adds.deeds]
    exact h.knows.append order deeds

theorem keepsApart_step (h : c.KeepsApart d) {m : Move} (permitted : c.Permits m) :
    c.KeepsApart (d.step m) := by
  have stepped := Desk.stepped_step d m
  have order := Desk.orderly_step h.order m
  refine ⟨order, fun p hp s begun mine => ?_, h.asked, ?_⟩
  · rcases stepped.mem_waiting hp with old | ⟨now, rfl⟩
    · exact h.alone p old s begun mine
    · exact absurd mine (permitted.1 s begun)
  · obtain ⟨o, deeds, known⟩ := stepped.deeds
    refine h.knows.beside order deeds fun e he s begun mine => ?_
    have begun := mem_begun.mpr begun
    rcases known e he with ⟨t, rfl⟩ | same | ⟨q, there, ticket, same⟩
    · cases mine
      rfl
    · exact absurd (same.symm.trans mine) (permitted.1 s begun)
    · obtain ⟨q', next, _, waits, _⟩ := h.alone q there s begun (same.symm.trans mine)
      exact absurd ticket (permitted.2 q.ticket (ticket?_eq_some.mpr ⟨q', next, waits⟩))

end Client

namespace MemoryStore

/-- A store finds fault with what it has, and never with the shape of a request. -/
theorem perform_errorClass {st : MemoryStore} {now : Timestamp} {s : SessionId}
    {op : SessionRequest} {e : LedgerError} (h : (st.perform now s op).1 = .error e) :
    e.errorClass ≠ .invalid := by
  simp only [perform] at h
  split at h
  · cases h
    decide
  · cases op with
    | insertTransaction new =>
        simp only [insertTransaction] at h
        split at h <;> cases h
        exact fun no => by cases no
    | insertEntry a amount =>
        simp only [insertEntry] at h
        split at h <;> cases h
        exact fun no => by cases no
    | addBalance a delta =>
        simp only [addBalance] at h
        split at h
        · cases h
        · split at h <;> cases h
          exact fun no => by cases no
    | commit =>
        simp only [commit] at h
        split at h <;> cases h
        exact fun no => by cases no
    | rollback => cases h

end MemoryStore

theorem Desk.Replies.errorClass {d d' : Desk} (order : d.Orderly) {s : SessionId}
    {op : SessionRequest} {e : LedgerError} (h : d.Replies (.perform s op) (.error e) d') :
    e.errorClass ≠ .invalid := by
  cases h with
  | submitted h => exact MemoryStore.perform_errorClass (Answers.reply_eq order (.inl h)).symm
  | resumed h => exact MemoryStore.perform_errorClass (Answers.reply_eq order (.inr ⟨_, h⟩)).symm
  | expired h =>
      simp only [expire?] at h
      split at h
      · cases h
        exact fun no => by cases no
      · cases h

/-- A session has changed every account that the rows it has staged are for. -/
structure Session.Covers (x : Session) : Prop where
  entries : ∀ e ∈ x.entries, ∃ a, Table.find? e.accountId x.accounts = some a
  transactions : ∀ t ∈ x.transactions, (∃ a, Table.find? t.fromId x.accounts = some a) ∧
    ∃ a, Table.find? t.toId x.accounts = some a

namespace Moment

/-- What is heard of a store, it has replied at a time when it had in the client's sessions what the
client has done there. -/
def Given (history : List Deed) (m : Moment) : Prop :=
  ∀ r answer, m.answer? = some ⟨r, answer⟩ →
    ∃ d d' : Desk, d.Orderly ∧ d.Knows history ∧ d.Replies r answer d'

variable {history : List Deed} {m : Moment} {s : SessionId}

theorem Given.begins (given : m.Given history) {answer : StoreRequest.begin.Reply}
    (heard : m.answer? = some ⟨.begin, answer⟩) : ∃ s, answer = .ok s := by
  obtain ⟨d, d', order, _, replies⟩ := given _ _ heard
  obtain ⟨now, answer⟩ := replies.answer order rfl
  exact ⟨_, answer⟩

theorem Given.undoes (given : m.Given history)
    {answer : (StoreRequest.perform s .rollback).Reply}
    (heard : m.answer? = some ⟨.perform s .rollback, answer⟩) (working : Working s history) :
    answer = .ok () := by
  obtain ⟨d, d', order, knows, replies⟩ := given _ _ heard
  obtain ⟨now, answer⟩ := replies.answer order rfl
  have draft := Books.isSome_drafts_of_working working
  rw [← knows.drafts s working.1, ← order.books] at draft
  obtain ⟨y, hy⟩ := Option.isSome_iff_exists.mp draft
  obtain ⟨x, open_, _⟩ := MemoryStore.openSession?_of_drafts hy
  rw [answer]
  simp only [MemoryStore.answer, MemoryStore.perform, open_]

theorem Given.errorClass (given : m.Given history) {op : SessionRequest} {e : LedgerError}
    (heard : m.answer? = some ⟨.perform s op, .error e⟩) : e.errorClass ≠ .invalid := by
  obtain ⟨d, d', order, _, replies⟩ := given _ _ heard
  exact replies.errorClass order

/-- The accounts that a session has changed are there as long as it has not ended. -/
theorem Given.commits (given : m.Given history) {answer : (StoreRequest.perform s .commit).Reply}
    (heard : m.answer? = some ⟨.perform s .commit, answer⟩) (begun : .began s ∈ history)
    {x : Session} (drafted : (Books.replay history).drafts s = some x) (covers : x.Covers) :
    answer = .ok () := by
  obtain ⟨d, d', order, knows, replies⟩ := given _ _ heard
  obtain ⟨now, answer⟩ := replies.answer order rfl
  rw [← knows.drafts s begun] at drafted
  have there : ∀ a, (∃ row, Table.find? a x.accounts = some row) →
      d.store.tables.hasAccount a = true := by
    rintro a ⟨row, found⟩
    obtain ⟨_, c, committed, _⟩ := (Books.sound_replay order.lawful).drafted s x drafted row
      (Table.mem_of_find? found)
    have id : row.id = a := Table.id_of_find? found
    rw [id, ← Desk.tables_eq order] at committed
    exact Table.contains_iff_find?.mpr ⟨c, committed⟩
  rw [← order.books] at drafted
  obtain ⟨x', open_, rfl⟩ := MemoryStore.openSession?_of_drafts drafted
  have check : MemoryStore.checkStaged d.store.tables x' = .ok () :=
    MemoryStore.checkStaged_eq_ok.mpr ⟨fun e he => there _ (covers.entries e he),
      fun t ht => (covers.transactions t ht).imp (there _) (there _)⟩
  rw [answer]
  simp only [MemoryStore.answer, MemoryStore.perform, open_, MemoryStore.commit, check]

end Moment

/-- What is heard in the moments that follow some deeds is given by the store. -/
def AllGiven (history : List Deed) : List Moment → Prop
  | [] => True
  | m :: ms => m.Given history ∧ AllGiven (history ++ m.deeds) ms

theorem allGiven_append {history : List Deed} {ms ns : List Moment} :
    AllGiven history (ms ++ ns) ↔
      AllGiven history ms ∧ AllGiven (history ++ ms.flatMap Moment.deeds) ns := by
  induction ms generalizing history with
  | nil => simp [AllGiven]
  | cons m ms ih =>
      simp only [List.cons_append, AllGiven, ih, List.flatMap_cons, and_assoc, List.append_assoc]

end DoubleEntry
