import DoubleEntry.Proofs.Client.Coherence
import DoubleEntry.Proofs.Store.Records

/-!
What only grows. Ids are drawn in ascending order, and none is drawn twice; entries and transactions
stay as they were committed; an account changes in nothing but its balance until it is deleted, and
its id does not come back.
-/

namespace DoubleEntry

def Deed.opened? : Deed → Option Account
  | opened account => some account
  | _ => none

namespace Books

variable {b : Books} {d : Deed} {ds es : List Deed} {a : Int}

/-- The accounts that were opened, the oldest first. -/
def openings (ds : List Deed) : List Account := ds.filterMap Deed.opened?

theorem openings_snoc (ds : List Deed) (d : Deed) :
    openings (ds ++ [d]) = openings ds ++ d.opened?.toList := by
  cases h : d.opened? <;> simp [openings, h]

/-- Accounts are opened under ascending ids, the last of which the sequence is at. -/
theorem ascending_openings (h : Lawful ds) :
    ((openings ds).map Account.id).Pairwise (· < ·) ∧
      ∀ c ∈ openings ds, c.id ≤ (replay ds).tables.accountSeq := by
  induction h with
  | nil => exact ⟨List.Pairwise.nil, fun _ no => by cases no⟩
  | @snoc ds d before allowed ih =>
      obtain ⟨ascending, early⟩ := ih
      rw [openings_snoc, replay_snoc]
      cases d with
      | opened account =>
          have new : account.id = (replay ds).tables.accountSeq + 1 := allowed.1
          rw [show (Deed.opened account).opened?.toList = [account] from rfl]
          refine ⟨?_, fun c hc => ?_⟩
          · rw [List.map_append]
            refine List.pairwise_append.mpr ⟨ascending, List.pairwise_singleton _ _, ?_⟩
            intro i hi j hj
            obtain ⟨c, hc, rfl⟩ := List.mem_map.mp hi
            rw [show j = account.id from List.mem_singleton.mp hj, new]
            exact Int.lt_add_one_of_le (early c hc)
          · change c.id ≤ account.id
            cases List.mem_append.mp hc with
            | inl old =>
                rw [new]
                exact Int.le_trans (early c old) (Int.le_of_lt (Int.lt_succ _))
            | inr last =>
                rw [List.mem_singleton.mp last]
      | _ =>
          rw [show Deed.opened? _ = none from rfl, Option.toList_none, List.append_nil]
          exact ⟨ascending, fun c hc => Int.le_trans (early c hc) (accountSeq_le_after allowed)⟩

theorem opening?_append (ds es : List Deed) (a : Int) :
    opening? (ds ++ es) a = (opening? ds a).or (opening? es a) := by
  simp [opening?, List.findSome?_append]

/-- An account is what it was opened as, but for its balance. -/
theorem opening?_of_lawful (h : Lawful ds) : ∀ c ∈ (replay ds).tables.accounts,
    ∃ o, opening? ds c.id = some o ∧ c = { o with balance := c.balance } := by
  induction h with
  | nil => exact fun c no => by cases no
  | @snoc ds d before allowed ih =>
      have kept : ∀ c ∈ (replay ds).tables.accounts,
          ∃ o, opening? (ds ++ [d]) c.id = some o ∧ c = { o with balance := c.balance } := by
        intro c hc
        obtain ⟨o, ho, same⟩ := ih c hc
        exact ⟨o, opening?_mono ho d, same⟩
      rw [replay_snoc]
      cases d with
      | committed s =>
          obtain ⟨x, hx, _⟩ := allowed
          intro c hc
          rw [accounts_committed (sound_replay before) hx] at hc
          obtain ⟨c, mem, rfl⟩ := List.mem_map.mp hc
          obtain ⟨o, ho, same⟩ := kept c mem
          refine ⟨o, (Account.id_settled x.accounts c).symm ▸ ho, ?_⟩
          -- Settling sets the balance, and everything else is the opened account's already.
          simp only [Account.settled]
          split
          · rw [same]
          · exact same
      | opened account =>
          intro c hc
          cases Table.mem_insert hc with
          | inr old => exact kept c old
          | inl new =>
              subst new
              have late : (replay ds).tables.accountSeq < c.id := by
                rw [allowed.1]
                exact Int.lt_succ _
              refine ⟨c, ?_, rfl⟩
              rw [opening?_snoc, opening?_of_late before late, Option.none_or]
              exact if_pos rfl
      | deleted b => exact fun c hc => kept c (Table.mem_erase.mp hc).1
      | _ => exact kept

/-- Of an account that is there at two times, nothing but the balance is different. -/
theorem eq_of_id_append (h : Lawful (ds ++ es)) {c c' : Account}
    (hc : c ∈ (replay ds).tables.accounts) (hc' : c' ∈ (replay (ds ++ es)).tables.accounts)
    (same : c'.id = c.id) : c' = { c with balance := c'.balance } := by
  obtain ⟨o, ho, first⟩ := opening?_of_lawful (lawful_of_append h) c hc
  obtain ⟨o', ho', last⟩ := opening?_of_lawful h c' hc'
  rw [same, opening?_append, ho, Option.some_or] at ho'
  cases ho'
  rw [last, first]

/-- An id that was drawn long ago does not come back. -/
theorem hasAccount_after_eq_false (sound : b.Sound) (allowed : b.Allows d)
    (old : a ≤ b.tables.accountSeq) (gone : b.tables.hasAccount a = false) :
    (b.after d).tables.hasAccount a = false := by
  have missing : ∀ c ∈ b.tables.accounts, c.id ≠ a := fun c hc same =>
    absurd (Table.contains_iff.mpr ⟨c, hc, same⟩) (Bool.eq_false_iff.mp gone)
  refine Bool.eq_false_iff.mpr fun there => ?_
  obtain ⟨c, hc, same⟩ := Table.contains_iff.mp there
  change c.id = a at same
  cases d with
  | committed s =>
      obtain ⟨x, hx, _⟩ := allowed
      rw [accounts_committed sound hx] at hc
      obtain ⟨c, mem, rfl⟩ := List.mem_map.mp hc
      exact missing c mem ((Account.id_settled x.accounts c).symm.trans same)
  | opened account =>
      cases Table.mem_insert hc with
      | inl new =>
          have drawn := allowed.1
          rw [new] at same
          omega
      | inr before => exact missing c before same
  | deleted b => exact missing c (Table.mem_erase.mp hc).1 same
  | _ => exact missing c hc same

/-- An account that was deleted is not there, and never will be. -/
theorem hasAccount_of_deleted (h : Lawful ds) (hd : .deleted a ∈ ds) :
    a ≤ (replay ds).tables.accountSeq ∧ (replay ds).tables.hasAccount a = false := by
  induction h with
  | nil => cases hd
  | @snoc ds d before allowed ih =>
      have sound := sound_replay before
      rw [replay_snoc]
      cases List.mem_append.mp hd with
      | inl old =>
          obtain ⟨early, gone⟩ := ih old
          exact ⟨Int.le_trans early (accountSeq_le_after allowed),
            hasAccount_after_eq_false sound allowed early gone⟩
      | inr now =>
          cases List.mem_singleton.mp now
          obtain ⟨c, hc, same⟩ := Table.contains_iff.mp allowed.1
          refine ⟨same ▸ sound.known c hc, Bool.eq_false_iff.mpr fun there => ?_⟩
          obtain ⟨c, hc, same⟩ := Table.contains_iff.mp there
          exact (Table.mem_erase.mp hc).2 same

theorem commits_append (ds es : List Deed) : commits (ds ++ es) = commits ds ++ commits es :=
  List.filterMap_append

end Books

namespace Drawing

open Books

variable {ρ : Type} [HasId ρ] {k : Drawing ρ} {row : ρ} {ds es : List Deed} {s : SessionId}

/-- The ids that were drawn, the oldest first. -/
def ids (k : Drawing ρ) (ds : List Deed) : List Int := (k.all ds).map fun p => HasId.id p.2

theorem ascending_ids (reg : k.Regular) (h : Lawful ds) : (k.ids ds).Pairwise (· < ·) := by
  induction h with
  | nil => exact List.Pairwise.nil
  | @snoc ds d before allowed ih =>
      rw [ids, all_snoc, List.map_append]
      refine List.pairwise_append.mpr ⟨ih, ?_, ?_⟩
      · cases k.row? d with
        | none => exact List.Pairwise.nil
        | some p => exact List.pairwise_singleton _ _
      · intro i hi j hj
        obtain ⟨p, hp, rfl⟩ := List.mem_map.mp hi
        obtain ⟨⟨s, row⟩, hd, rfl⟩ := List.mem_map.mp hj
        obtain ⟨_, _, _, id, _⟩ := reg.drawn (Option.mem_toList.mp hd) allowed
        rw [id]
        exact Int.lt_add_one_of_le ((numbered reg before).2 p hp).2

theorem ascending_rows (reg : k.Regular) (h : Lawful ds) :
    Table.Ascending (k.rows (replay ds).tables) := by
  induction h with
  | nil =>
      rw [show (replay []).tables = {} from rfl, reg.empty.1]
      exact Table.ascending_nil
  | @snoc ds d before allowed ih =>
      rw [replay_snoc]
      cases hd : k.row? d with
      | some p =>
          obtain ⟨_, _, _, _, _, rows, _⟩ := reg.drawn hd allowed
          exact rows ▸ ih
      | none =>
          cases noCommit : d.commit? with
          | none => exact (reg.other hd allowed).2.1 noCommit ▸ ih
          | some s =>
              cases d <;> cases noCommit
              obtain ⟨x, hx, _⟩ := allowed
              rw [reg.published hx]
              exact Table.ascending_foldl_insert ih

omit [HasId ρ] in
theorem of_append (ds es : List Deed) (s : SessionId) :
    k.of (ds ++ es) s = k.of ds s ++ k.of es s := by
  simp [of, all]

/-- What is committed stays. -/
theorem rows_append (reg : k.Regular) (h : Lawful (ds ++ es))
    (hr : row ∈ k.rows (replay ds).tables) : row ∈ k.rows (replay (ds ++ es)).tables := by
  have before := (rows_perm reg (lawful_of_append h)).mem_iff.mp hr
  obtain ⟨s, hs, drawn⟩ := List.mem_flatMap.mp before
  refine mem_rows reg h (s := s) ?_ ?_
  · rw [commits_append]
    exact List.mem_append_left _ hs
  · rw [of_append]
    exact List.mem_append_left _ drawn

/-- Different sessions have drawn different ids. -/
theorem nodup_of_sessions (reg : k.Regular) (h : Lawful ds) {ss : List SessionId}
    (distinct : ss.Nodup) : ((ss.flatMap (k.of ds)).map HasId.id).Nodup := by
  induction ss with
  | nil => exact List.nodup_nil
  | cons s ss ih =>
      have ⟨first, rest⟩ := List.nodup_cons.mp distinct
      rw [List.flatMap_cons, List.map_append]
      refine List.nodup_append.mpr ⟨?_, ih rest, ?_⟩
      · rw [of, List.map_map]
        exact (numbered reg h).1.sublist (List.filter_sublist.map _)
      · intro i hi j hj same
        obtain ⟨row, hr, rfl⟩ := List.mem_map.mp hi
        obtain ⟨row', hr', rfl⟩ := List.mem_map.mp hj
        obtain ⟨t, ht, hr'⟩ := List.mem_flatMap.mp hr'
        exact first ((eq_of_id reg h hr hr' same).1 ▸ ht)

/-- What is staged does not depend on what is locked. -/
def Plain (k : Drawing ρ) : Prop :=
  ∀ (x : Session) guards finished,
    k.staged { x with guards := guards, finished := finished } = k.staged x

variable {st : MemoryStore} {loose waits : List (Int × Nat)}

/-- A session has staged what it has drawn, until it is finished. -/
theorem staged_eq (reg : k.Regular) (plain : k.Plain) (order : st.Orderly loose waits)
    (h : Lawful ds) (books : st.books = replay ds) {p : SessionId × Session}
    (hp : p ∈ st.sessions) : k.staged p.2 = if p.2.finished then [] else k.of ds p.1 := by
  cases ended : p.2.finished with
  | true =>
      rw [if_pos rfl, (order.tidy p hp).cleared ended]
      exact (plain {} [] true).trans reg.empty.2
  | false =>
      have found := MemoryStore.session?_of_mem order.distinct hp
      have draft := MemoryStore.drafts_of_open
        (MemoryStore.openSession?_eq_some.mpr ⟨found, ended⟩)
      rw [books] at draft
      rw [if_neg Bool.false_ne_true, ← staged_of_drafts reg h draft]
      exact (plain p.2 [] p.2.finished).symm

/-- No two rows that are committed or staged have one id. -/
theorem nodup_committed_staged (reg : k.Regular) (plain : k.Plain)
    (order : st.Orderly loose waits) (h : Lawful ds) (books : st.books = replay ds) :
    ((k.rows st.tables ++ st.sessions.flatMap fun p => k.staged p.2).map HasId.id).Nodup := by
  let opened := (st.sessions.filter fun p => !p.2.finished).map (·.1)
  have staged : st.sessions.flatMap (fun p => k.staged p.2) = opened.flatMap (k.of ds) := by
    have each : ∀ p ∈ st.sessions, k.staged p.2 = if p.2.finished then [] else k.of ds p.1 :=
      fun p hp => staged_eq reg plain order h books hp
    rw [List.flatMap_congr each]
    simp only [opened]
    induction st.sessions with
    | nil => rfl
    | cons p ps ih => cases ended : p.2.finished <;> simp [ended, ih]
  have tables : st.tables = (replay ds).tables := congrArg Books.tables books
  have uncommitted : ∀ s ∈ opened, s ∉ commits ds := by
    intro s hs
    obtain ⟨p, hp, rfl⟩ := List.mem_map.mp hs
    obtain ⟨mem, still⟩ := List.mem_filter.mp hp
    have found := MemoryStore.session?_of_mem order.distinct mem
    have draft := MemoryStore.drafts_of_open
      (MemoryStore.openSession?_eq_some.mpr ⟨found, by simpa using still⟩)
    exact not_mem_commits h (books ▸ draft)
  have sessions : (commits ds ++ opened).Nodup := by
    refine List.nodup_append.mpr ⟨commits_nodup h, ?_, ?_⟩
    · exact order.distinct.sublist (List.filter_sublist.map _)
    · exact fun s hs t ht same => uncommitted t ht (same ▸ hs)
  have all := nodup_of_sessions reg h sessions
  rw [List.flatMap_append, ← staged] at all
  refine (List.Perm.nodup_iff ?_).mpr all
  rw [tables]
  exact ((rows_perm reg h).append_right _).map HasId.id

theorem plain_entries : entries.Plain := fun _ _ _ => rfl

theorem plain_transactions : transactions.Plain := fun _ _ _ => rfl

/-- To publish what a session has staged is to add it: no row that is there gives way. -/
theorem published_perm (reg : k.Regular) (plain : k.Plain) (order : st.Orderly loose waits)
    (h : Lawful ds) (books : st.books = replay ds) {p : SessionId × Session}
    (hp : p ∈ st.sessions) :
    ((k.staged p.2).foldl (fun rows n => Table.insert n rows) (k.rows st.tables)).Perm
      (k.rows st.tables ++ k.staged p.2) := by
  have apart := nodup_committed_staged reg plain order h books
  rw [List.map_append] at apart
  obtain ⟨_, staged, disjoint⟩ := List.nodup_append.mp apart
  have mine : (k.staged p.2).Sublist (st.sessions.flatMap fun p => k.staged p.2) :=
    List.sublist_flatten_of_mem (List.mem_map_of_mem hp)
  refine Table.foldl_insert_perm (staged.sublist (mine.map _)) fun n hn r hr => ?_
  exact disjoint _ (List.mem_map_of_mem hr) _ (List.mem_map_of_mem (mine.subset hn))

end Drawing

namespace Tables

/-- A later state of the same tables. -/
structure Extends (before after : Tables) : Prop where
  entries : ∀ {i e}, Table.find? i before.entries = some e → Table.find? i after.entries = some e
  transactions : ∀ {i t}, Table.find? i before.transactions = some t →
    Table.find? i after.transactions = some t
  accounts : ∀ {i c c'}, Table.find? i before.accounts = some c →
    Table.find? i after.accounts = some c' → c' = { c with balance := c'.balance }

end Tables

open Books in
theorem Books.extends_append {ds es : List Deed} (h : Lawful (ds ++ es)) :
    (replay ds).tables.Extends (replay (ds ++ es)).tables where
  entries found := by
    have kept := Drawing.rows_append Drawing.regular_entries h (Table.mem_of_find? found)
    rw [← Table.id_of_find? found]
    exact Table.find?_of_mem (Drawing.ascending_rows Drawing.regular_entries h) kept
  transactions found := by
    have kept := Drawing.rows_append Drawing.regular_transactions h (Table.mem_of_find? found)
    rw [← Table.id_of_find? found]
    exact Table.find?_of_mem (Drawing.ascending_rows Drawing.regular_transactions h) kept
  accounts found found' :=
    eq_of_id_append h (Table.mem_of_find? found) (Table.mem_of_find? found')
      ((Table.id_of_find? found').trans (Table.id_of_find? found).symm)

namespace Desk

variable {d : Desk}

/-- A move does one deed, or none. -/
theorem deeds_step (d : Desk) (m : Move) :
    ∃ o : Option Deed, (d.step m).deeds = d.deeds ++ o.toList := by
  have still : ∃ o : Option Deed, d.deeds = d.deeds ++ o.toList := ⟨none, (List.append_nil _).symm⟩
  cases m with
  | submit now r =>
      simp only [step]
      cases done : d.submit? now r with
      | none => exact still
      | some result =>
          obtain ⟨answer | ticket, d'⟩ := result
          · exact ⟨_, (answered_submit? done).1⟩
          · exact ⟨none, (waiting_submit? done).1.trans (List.append_nil _).symm⟩
  | resume now ticket =>
      simp only [step]
      split
      · rename_i p _
        cases done : d.resume? now p.request ticket with
        | none => exact still
        | some result => exact ⟨_, (answered_resume? done).1⟩
      · exact still
  | expire ticket =>
      simp only [step]
      split
      · rename_i p _
        cases done : d.expire? p.request ticket with
        | none => exact still
        | some result => exact ⟨_, (answered_expire? done).1⟩
      · exact still
  | desert ticket => exact ⟨none, (deeds_desert d ticket).trans (List.append_nil _).symm⟩

/-- What was done stays done. -/
theorem deeds_run_append (moves more : List Move) :
    ∃ es, (run (moves ++ more)).deeds = (run moves).deeds ++ es := by
  rw [run, List.foldl_append]
  change ∃ es, (more.foldl step (run moves)).deeds = (run moves).deeds ++ es
  induction more generalizing moves with
  | nil => exact ⟨[], (List.append_nil _).symm⟩
  | cons m more ih =>
      obtain ⟨o, first⟩ := deeds_step (run moves) m
      obtain ⟨es, rest⟩ := ih (moves ++ [m])
      rw [run_concat, first, List.append_assoc] at rest
      exact ⟨_, rest⟩

/-- Each id is drawn once, after all smaller ones; a row that is staged shares its id with no other
row, and is only added when it is published. -/
structure Numbered (d : Desk) : Prop where
  accountIds : ((Books.openings d.deeds).map Account.id).Pairwise (· < ·)
  entryIds : (Drawing.entries.ids d.deeds).Pairwise (· < ·)
  transactionIds : (Drawing.transactions.ids d.deeds).Pairwise (· < ·)
  entries :
    ((d.store.tables.entries ++ d.store.sessions.flatMap fun p => p.2.entries).map Entry.id).Nodup
  transactions :
    ((d.store.tables.transactions ++ d.store.sessions.flatMap fun p => p.2.transactions).map
      fun t => t.id).Nodup
  published : ∀ p ∈ d.store.sessions,
    (MemoryStore.published d.store.tables p.2).entries.Perm
        (d.store.tables.entries ++ p.2.entries) ∧
      (MemoryStore.published d.store.tables p.2).transactions.Perm
        (d.store.tables.transactions ++ p.2.transactions)

theorem numbered_of_orderly (h : d.Orderly) : d.Numbered where
  accountIds := (Books.ascending_openings h.lawful).1
  entryIds := Drawing.ascending_ids Drawing.regular_entries h.lawful
  transactionIds := Drawing.ascending_ids Drawing.regular_transactions h.lawful
  entries := Drawing.nodup_committed_staged Drawing.regular_entries Drawing.plain_entries h.store
    h.lawful h.books
  transactions := Drawing.nodup_committed_staged Drawing.regular_transactions
    Drawing.plain_transactions h.store h.lawful h.books
  published _ hp :=
    ⟨Drawing.published_perm Drawing.regular_entries Drawing.plain_entries h.store h.lawful h.books
        hp,
      Drawing.published_perm Drawing.regular_transactions Drawing.plain_transactions h.store
        h.lawful h.books hp⟩

/-- The desk at a later time. -/
structure Continues (d d' : Desk) : Prop where
  tables : d.store.tables.Extends d'.store.tables
  deleted : ∀ {a}, .deleted a ∈ d.deeds → d'.store.tables.hasAccount a = false

/-- At any time in the use of a store its ids are fresh, and from then on nothing that is committed
is lost or rewritten but the balances of accounts. -/
theorem history_grows (moves more : List Move) :
    (run moves).Numbered ∧ (run moves).Continues (run (moves ++ more)) := by
  have later := orderly_run (moves ++ more)
  obtain ⟨es, deeds⟩ := deeds_run_append moves more
  refine ⟨numbered_of_orderly (orderly_run moves), ?_, fun gone => ?_⟩
  · rw [tables_eq (orderly_run moves), tables_eq later, deeds]
    exact Books.extends_append (deeds ▸ later.lawful)
  · rw [tables_eq later]
    refine (Books.hasAccount_of_deleted later.lawful ?_).2
    rw [deeds]
    exact List.mem_append_left _ gone

end Desk
end DoubleEntry
