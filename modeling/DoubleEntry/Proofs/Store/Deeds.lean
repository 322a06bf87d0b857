import DoubleEntry.Proofs.Store.Sessions

/-!
What requests do to a store, with its locks left aside. An answer that changes anything is a deed,
and the books, which are the tables and what the open sessions have drafted, follow from the deeds
alone. A deed is allowed only under conditions that the books themselves satisfy; that no other
session has drafted the account of a changed balance is the one that the row locks are there for.
-/

namespace DoubleEntry

/-- What an answered request did, with what it gave. -/
inductive Deed where
  | began (s : SessionId)
  | drewTransaction (s : SessionId) (t : Transaction)
  | drewEntry (s : SessionId) (e : Entry)
  /-- A delta was added to a balance; the account is given as it is afterwards. -/
  | changedBalance (s : SessionId) (delta : Decimal) (after : Account)
  | committed (s : SessionId)
  | rolledBack (s : SessionId)
  | abandoned (s : SessionId)
  | opened (account : Account)
  | deleted (accountId : Int)
  deriving DecidableEq

/-- A request that is refused, that only reads, or that finds nothing to change, does nothing. -/
def Deed.of? : (r : StoreRequest) → r.Reply → Option Deed
  | .begin, .ok s => some (.began s)
  | .perform s (.insertTransaction _), .ok t => some (.drewTransaction s t)
  | .perform s (.insertEntry _ _), .ok e => some (.drewEntry s e)
  | .perform s (.addBalance _ delta), .ok (some after) => some (.changedBalance s delta after)
  | .perform s .commit, .ok () => some (.committed s)
  | .perform s .rollback, .ok () => some (.rolledBack s)
  | .abandon s, _ => some (.abandoned s)
  | .query (.createAccount _), .ok account => some (.opened account)
  | .query (.deleteAccount a), .ok true => some (.deleted a)
  | _, _ => none

/-- The session that a deed was done in. -/
def Deed.session? : Deed → Option SessionId
  | began s | drewTransaction s _ | drewEntry s _ | changedBalance s _ _ => some s
  | committed s | rolledBack s | abandoned s => some s
  | opened _ | deleted _ => none

def Deed.isOf (s : SessionId) (d : Deed) : Bool := d.session? == some s

/-- What is read off the deeds of one session is read off those alone. -/
theorem Deed.filterMap_isOf {β : Type} {s : SessionId} {f : Deed → Option β}
    (own : ∀ d b, f d = some b → d.session? = some s) (ds : List Deed) :
    (ds.filter (·.isOf s)).filterMap f = ds.filterMap f := by
  rw [List.filterMap_filter]
  refine List.filterMap_congr fun d _ => ?_
  split
  · rfl
  · rename_i other
    cases found : f d with
    | none => rfl
    | some b => exact absurd (beq_iff_eq.mpr (own d b found)) other

/-- A store without its locks: a session is there while it is open, with what it has drafted. -/
@[ext]
structure Books where
  tables : Tables := {}
  drafts : SessionId → Option Session := fun _ => none
  nextSession : SessionId := 0

namespace Books

def setDraft (b : Books) (s : SessionId) (draft : Option Session) : Books :=
  { b with drafts := fun t => if t = s then draft else b.drafts t }

def mapDraft (b : Books) (s : SessionId) (f : Session → Session) : Books :=
  b.setDraft s ((b.drafts s).map f)

/-- The books after a deed. -/
def after (b : Books) : Deed → Books
  | .began s => { b.setDraft s (some {}) with nextSession := s + 1 }
  | .drewTransaction s t =>
      { b.mapDraft s fun x => { x with transactions := x.transactions ++ [t] } with
        tables := { b.tables with transactionSeq := t.id } }
  | .drewEntry s e =>
      { b.mapDraft s fun x => { x with entries := x.entries ++ [e] } with
        tables := { b.tables with entrySeq := e.id } }
  | .changedBalance s _ row =>
      b.mapDraft s fun x => { x with accounts := Table.insert row x.accounts }
  | .committed s =>
      match b.drafts s with
      | some x => { b.setDraft s none with tables := MemoryStore.published b.tables x }
      | none => b
  | .rolledBack s => b.setDraft s none
  | .abandoned s => b.setDraft s none
  | .opened account =>
      { b with tables := { b.tables with
          accounts := Table.insert account b.tables.accounts
          accountSeq := account.id } }
  | .deleted a =>
      { b with tables := { b.tables with accounts := Table.erase a b.tables.accounts } }

/-- The account as a draft has it, else as it is committed. -/
def current? (b : Books) (x : Session) (a : Int) : Option Account :=
  Table.find? a x.accounts <|> Table.find? a b.tables.accounts

/-- No session but perhaps one has drafted the account. -/
def FreeFor (b : Books) (a : Int) (s : Option SessionId) : Prop :=
  ∀ t x, some t ≠ s → b.drafts t = some x → Table.find? a x.accounts = none

/-- When a deed can be done. -/
def Allows (b : Books) : Deed → Prop
  | .began s => s = b.nextSession
  | .drewTransaction s t =>
      (∃ x, b.drafts s = some x) ∧ t.id = b.tables.transactionSeq + 1 ∧
        t.toNewTransaction.check = .ok () ∧ b.tables.hasAccount t.fromId = true ∧
        b.tables.hasAccount t.toId = true
  | .drewEntry s e =>
      (∃ x, b.drafts s = some x) ∧ e.id = b.tables.entrySeq + 1 ∧ e.amount.FitsColumn ∧
        b.tables.hasAccount e.accountId = true
  | .changedBalance s delta after =>
      (∃ x row, b.drafts s = some x ∧ b.current? x after.id = some row ∧
        MemoryStore.changed row delta = .ok after) ∧ b.FreeFor after.id (some s)
  | .committed s => ∃ x, b.drafts s = some x ∧ MemoryStore.checkStaged b.tables x = .ok ()
  | .rolledBack s => ∃ x, b.drafts s = some x
  | .abandoned _ => True
  | .opened account =>
      account.id = b.tables.accountSeq + 1 ∧ Decimal.zero ≤ account.balance ∧
        account.balance.FitsColumn
  | .deleted a =>
      b.tables.hasAccount a = true ∧ b.tables.isReferenced a = false ∧ b.FreeFor a none

/-- What a request with or without a deed turns books into. -/
def Turns (b : Books) : Option Deed → Books → Prop
  | some d, b' => b.Allows d ∧ b' = b.after d
  | none, b' => b' = b

/-- The books after deeds, from empty ones on. -/
def replay (ds : List Deed) : Books := ds.foldl after {}

theorem replay_snoc (ds : List Deed) (d : Deed) : replay (ds ++ [d]) = (replay ds).after d := by
  rw [replay, List.foldl_append]
  rfl

/-- Each deed was allowed when it was done. -/
inductive Lawful : List Deed → Prop where
  | nil : Lawful []
  | snoc {ds : List Deed} {d : Deed} (before : Lawful ds) (allowed : (replay ds).Allows d) :
      Lawful (ds ++ [d])

theorem lawful_snoc {ds : List Deed} {d : Deed} (h : Lawful (ds ++ [d])) :
    Lawful ds ∧ (replay ds).Allows d := by
  generalize hds : ds ++ [d] = all at h
  cases h with
  | nil => simp at hds
  | snoc before allowed =>
      obtain ⟨rfl, same⟩ := List.append_inj' hds rfl
      cases same
      exact ⟨before, allowed⟩

theorem lawful_of_append {ds es : List Deed} (h : Lawful (ds ++ es)) : Lawful ds := by
  induction es generalizing ds with
  | nil =>
      rw [List.append_nil] at h
      exact h
  | cons e es ih =>
      rw [List.append_cons] at h
      exact (lawful_snoc (ih h)).1

theorem lawful_turn {ds : List Deed} {d : Option Deed} {b : Books} (before : Lawful ds)
    (turn : (replay ds).Turns d b) : Lawful (ds ++ d.toList) ∧ b = replay (ds ++ d.toList) := by
  cases d with
  | none =>
      rw [Option.toList_none, List.append_nil]
      exact ⟨before, turn⟩
  | some d => exact ⟨Lawful.snoc before turn.1, turn.2.trans (replay_snoc ds d).symm⟩

end Books

namespace Books

theorem nextSession_le_after {b : Books} {d : Deed} (allowed : b.Allows d) :
    b.nextSession ≤ (b.after d).nextSession := by
  cases d with
  | began s =>
      cases allowed
      exact Nat.le_succ _
  | committed s =>
      obtain ⟨x, hx, _⟩ := allowed
      simp only [after, hx]
      exact Nat.le_refl _
  | _ => exact Nat.le_refl _

theorem nextSession_le_append {ds es : List Deed} (h : Lawful (ds ++ es)) :
    (replay ds).nextSession ≤ (replay (ds ++ es)).nextSession := by
  induction es generalizing ds with
  | nil => exact Nat.le_of_eq (by rw [List.append_nil])
  | cons e es ih =>
      rw [List.append_cons] at h ⊢
      have first := nextSession_le_after (lawful_snoc (lawful_of_append h)).2
      rw [← replay_snoc] at first
      exact Nat.le_trans first (ih h)

end Books

def Session.draft (x : Session) : Session := { x with guards := [] }

namespace MemoryStore

def books (st : MemoryStore) : Books where
  tables := st.tables
  drafts s := (st.openSession? s).map Session.draft
  nextSession := st.nextSession

variable {st : MemoryStore} {loose waits : List (Int × Nat)} {s : SessionId} {x y : Session}

theorem drafts_of_open (hx : st.openSession? s = some x) : st.books.drafts s = some x.draft := by
  simp [books, hx]

theorem openSession?_of_drafts (h : st.books.drafts s = some y) :
    ∃ x, st.openSession? s = some x ∧ x.draft = y := by
  simpa [books, Option.map_eq_some_iff] using h

/-- The row of an account that a session has locked is locked by no other. -/
theorem not_holds_of_holds (h : st.Orderly loose waits) (hs : st.session? s = some x) {a : Int}
    (holds : x.holds a = true) {p : SessionId × Session} (hp : p ∈ st.others s) :
    p.2.holds a = false := by
  have rows := ((h.held.map (·.1)).nodup_iff.mp (LockTable.held_nodup h.sound))
  rw [List.map_append] at rows
  have apart := ((guards_perm h.distinct hs).map (·.1)).nodup_iff.mp rows.of_append_right
  rw [List.map_append] at apart
  obtain ⟨g, hg, same⟩ := List.any_eq_true.mp holds
  refine List.any_eq_false.mpr fun g' hg' same' => ?_
  refine (List.nodup_append.mp apart).2.2 g.1 (List.mem_map_of_mem hg) g'.1 ?_ ?_
  · exact List.mem_map_of_mem (List.mem_flatMap.mpr ⟨p, hp, hg'⟩)
  · exact (eq_of_beq same).trans (eq_of_beq same').symm

/-- The row of an account that a loose ticket has locked is locked by no session. -/
theorem not_holds_of_loose (h : st.Orderly loose waits) {a : Int} {n : Nat}
    (hn : (a, n) ∈ loose) {p : SessionId × Session} (hp : p ∈ st.sessions) :
    p.2.holds a = false := by
  have rows := ((h.held.map (·.1)).nodup_iff.mp (LockTable.held_nodup h.sound))
  rw [List.map_append] at rows
  refine List.any_eq_false.mpr fun g hg same => ?_
  refine (List.nodup_append.mp rows).2.2 a (List.mem_map.mpr ⟨(a, n), hn, rfl⟩) g.1 ?_ ?_
  · exact List.mem_map_of_mem (List.mem_flatMap.mpr ⟨p, hp, hg⟩)
  · exact (eq_of_beq same).symm

/-- Only what is guarded is staged. -/
theorem find?_of_not_holds (tidy : x.Tidy) {a : Int} (h : x.holds a = false) :
    Table.find? a x.accounts = none := by
  refine Table.find?_eq_none_iff.mpr fun row hr same => ?_
  have guarded := tidy.guarded row hr
  change row.id = a at same
  rw [same, h] at guarded
  cases guarded

theorem freeFor_of_holds (h : st.Orderly loose waits) (hx : st.openSession? s = some x) {a : Int}
    (holds : x.holds a = true) : st.books.FreeFor a (some s) := by
  intro t y ne hy
  obtain ⟨z, hz, rfl⟩ := openSession?_of_drafts hy
  have ⟨ht, _⟩ := openSession?_eq_some.mp hz
  have mem := mem_of_session? ht
  have other : (t, z) ∈ st.others s :=
    List.mem_filter.mpr ⟨mem, bne_iff_ne.mpr fun same => ne (congrArg some same)⟩
  have free := not_holds_of_holds h (openSession?_eq_some.mp hx).1 holds other
  exact find?_of_not_holds (h.tidy _ mem) free

theorem freeFor_of_loose (h : st.Orderly loose waits) {a : Int} {n : Nat} (hn : (a, n) ∈ loose) :
    st.books.FreeFor a none := by
  intro t y _ hy
  obtain ⟨z, hz, rfl⟩ := openSession?_of_drafts hy
  have ⟨ht, _⟩ := openSession?_eq_some.mp hz
  have mem := mem_of_session? ht
  exact find?_of_not_holds (h.tidy _ mem) (not_holds_of_loose h hn mem)

theorem books_setSession (hs : st.session? s = some x) (y : Session) :
    (st.setSession s y).books =
      st.books.setDraft s (if y.finished then none else some y.draft) := by
  refine Books.ext rfl (funext fun t => ?_) rfl
  change ((st.setSession s y).openSession? t).map Session.draft = _
  simp only [openSession?, session?_setSession, Books.setDraft]
  by_cases same : t = s
  · subst same
    rw [if_pos rfl, if_pos rfl, hs]
    cases still : y.finished <;> simp [still]
  · rw [if_neg same, if_neg same]
    rfl

theorem books_setSession_open (hx : st.openSession? s = some x) {f : Session → Session}
    (still : (f x).finished = false) (hf : (f x).draft = f x.draft) :
    (st.setSession s (f x)).books = st.books.mapDraft s f := by
  rw [books_setSession (openSession?_eq_some.mp hx).1, Books.mapDraft, drafts_of_open hx, still, hf]
  rfl

theorem books_setGuards (hx : st.openSession? s = some x) (gs : List (Int × Nat)) :
    (st.setSession s { x with guards := gs }).books = st.books := by
  have ⟨hs, still⟩ := openSession?_eq_some.mp hx
  have mine : (if ({ x with guards := gs } : Session).finished then none
      else some ({ x with guards := gs } : Session).draft) = some x.draft := by
    refine if_neg ?_
    rw [still]
    exact Bool.false_ne_true
  refine (books_setSession hs _).trans (Books.ext rfl (funext fun t => ?_) rfl)
  simp only [Books.setDraft, mine]
  split
  · rename_i same
    rw [same, drafts_of_open hx]
  · rfl

theorem books_finish (hs : st.session? s = some x) :
    (st.finish s x).books = st.books.setDraft s none :=
  books_setSession hs { finished := true }

theorem books_abandon (st : MemoryStore) (s : SessionId) :
    (st.abandon s).books = st.books.setDraft s none := by
  simp only [abandon]
  cases hs : st.session? s with
  | none =>
      refine Books.ext rfl (funext fun t => ?_) rfl
      simp only [Books.setDraft]
      split
      · rename_i same
        subst same
        simp [books, openSession?, hs]
      · rfl
  | some x =>
      refine Books.ext rfl (funext fun t => ?_) rfl
      have kept : ((st.finish s x).sessions.filter (·.1 != s)).lookup t =
          if t = s then none else (st.finish s x).session? t := lookup_filter_ne s t _
      simp only [books, openSession?, Books.setDraft, session?]
      rw [kept]
      split
      · rfl
      · rename_i other
        have found := session?_setSession st s t { finished := true }
        rw [if_neg other] at found
        change (Option.filter _ ((st.setSession s { finished := true }).session? t)).map _ = _
        rw [found]
        rfl

theorem session?_begin (h : st.Orderly loose waits) (t : SessionId) :
    st.begin.2.session? t = if t = st.nextSession then some {} else st.session? t := by
  simp only [begin, session?, List.lookup_append]
  by_cases same : t = st.nextSession
  · have new : st.sessions.lookup t = none := by
      refine List.lookup_eq_none_iff.mpr fun p hp => bne_iff_ne.mpr fun eq => ?_
      have older := h.fresh p hp
      exact Nat.ne_of_lt older (eq.symm.trans same)
    rw [new, if_pos same, same]
    simp
  · have missing : [(st.nextSession, ({} : Session))].lookup t = none := by
      rw [List.lookup_cons, beq_false_of_ne same]
      rfl
    rw [missing, if_neg same, Option.or_none]

theorem books_begin (h : st.Orderly loose waits) :
    st.begin.2.books = st.books.after (.began st.nextSession) := by
  refine Books.ext rfl (funext fun t => ?_) rfl
  change ((st.begin.2.session? t).filter _).map Session.draft =
    if t = st.nextSession then some {} else st.books.drafts t
  rw [session?_begin h]
  split <;> rfl

theorem books_insertTransaction (hx : st.openSession? s = some x) (now : Timestamp)
    (new : NewTransaction) :
    st.books.Turns (Deed.of? (.perform s (.insertTransaction new))
      (st.insertTransaction now s x new).1) (st.insertTransaction now s x new).2.books := by
  simp only [insertTransaction]
  split
  · rename_i row tables drawn
    obtain ⟨check, source, destination, shape, rfl⟩ := Tables.drawTransaction_eq_ok.mp drawn
    have still := (openSession?_eq_some.mp hx).2
    have kept := books_setSession_open hx
      (f := fun x => { x with transactions := x.transactions ++ [row] }) still rfl
    have id : row.id = st.tables.transactionSeq + 1 := by rw [shape]
    have same : row.toNewTransaction = new := by rw [shape]
    refine ⟨⟨⟨_, drafts_of_open hx⟩, id, same ▸ check, same ▸ source, same ▸ destination⟩, ?_⟩
    rw [Books.after, ← kept, id]
    rfl
  · rfl

theorem books_insertEntry (hx : st.openSession? s = some x) (now : Timestamp) (a : Int)
    (amount : Decimal) :
    st.books.Turns (Deed.of? (.perform s (.insertEntry a amount))
      (st.insertEntry now s x a amount).1) (st.insertEntry now s x a amount).2.books := by
  simp only [insertEntry]
  split
  · rename_i row tables drawn
    obtain ⟨fits, there, shape, rfl⟩ := Tables.drawEntry_eq_ok.mp drawn
    have still := (openSession?_eq_some.mp hx).2
    have kept := books_setSession_open hx
      (f := fun x => { x with entries := x.entries ++ [row] }) still rfl
    have id : row.id = st.tables.entrySeq + 1 := by rw [shape]
    have amountSame : row.amount = amount := by rw [shape]
    have accountSame : row.accountId = a := by rw [shape]
    refine ⟨⟨⟨_, drafts_of_open hx⟩, id, amountSame ▸ fits, accountSame ▸ there⟩, ?_⟩
    rw [Books.after, ← kept, id]
    rfl
  · rfl

theorem books_addBalance (h : st.Orderly loose waits) (hx : st.openSession? s = some x) {a : Int}
    (guarded : x.holds a = true) (delta : Decimal) :
    st.books.Turns (Deed.of? (.perform s (.addBalance a delta)) (st.addBalance s x a delta).1)
      (st.addBalance s x a delta).2.books := by
  have ⟨hs, still⟩ := openSession?_eq_some.mp hx
  simp only [addBalance]
  split
  · exact books_setGuards hx _
  · rename_i account found
    split
    · rename_i after ok
      have same : after.id = a := (id_of_changed ok).trans (id_of_current? found)
      refine ⟨⟨⟨_, account, drafts_of_open hx, ?_, ok⟩, ?_⟩, ?_⟩
      · rw [same]
        exact found
      · rw [same]
        exact freeFor_of_holds h hx guarded
      · exact books_setSession_open hx
          (f := fun x => { x with accounts := Table.insert after x.accounts }) still rfl
    · rfl

theorem books_commit (hx : st.openSession? s = some x) :
    st.books.Turns (Deed.of? (.perform s .commit) (st.commit s x).1) (st.commit s x).2.books := by
  have ⟨hs, _⟩ := openSession?_eq_some.mp hx
  simp only [commit]
  split
  · rename_i check
    refine ⟨⟨_, drafts_of_open hx, check⟩, ?_⟩
    have gone : (finish s x { st with tables := published st.tables x }).books =
        ({ st with tables := published st.tables x } : MemoryStore).books.setDraft s none :=
      books_finish hs
    refine gone.trans ?_
    rw [Books.after, drafts_of_open hx]
    rfl
  · rfl

theorem books_perform (h : st.Orderly loose waits) (now : Timestamp) (s : SessionId)
    (op : SessionRequest) (guarded : ∀ x a delta, st.openSession? s = some x →
      op = .addBalance a delta → x.holds a = true) :
    st.books.Turns (Deed.of? (.perform s op) (st.perform now s op).1)
      (st.perform now s op).2.books := by
  simp only [perform]
  cases hx : st.openSession? s with
  | none => cases op <;> rfl
  | some x =>
      cases op with
      | insertTransaction new => exact books_insertTransaction hx now new
      | insertEntry a amount => exact books_insertEntry hx now a amount
      | addBalance a delta => exact books_addBalance h hx (guarded x a delta hx rfl) delta
      | commit => exact books_commit hx
      | rollback =>
          have hs := (openSession?_eq_some.mp hx).1
          exact ⟨⟨_, drafts_of_open hx⟩, books_finish hs⟩

theorem books_query (h : st.Orderly loose waits) (now : Timestamp) (q : Query)
    (locked : ∀ a, q = .deleteAccount a → ∃ n, (a, n) ∈ loose) :
    st.books.Turns (Deed.of? (.query q) (st.query now q).1) (st.query now q).2.books := by
  simp only [query]
  cases q <;> dsimp only
  case createAccount new =>
    split
    · rename_i account tables created
      obtain ⟨check, rfl, rfl⟩ := Tables.createAccount_eq_ok created
      exact ⟨⟨rfl, NewAccount.check_eq_ok check⟩, rfl⟩
    · rfl
  case deleteAccount a =>
    split
    · rename_i found tables deleted
      cases found with
      | false =>
          cases Tables.deleteAccount_of_false deleted
          rfl
      | true =>
          obtain ⟨n, hn⟩ := locked a rfl
          obtain ⟨there, free, rfl⟩ := Tables.deleteAccount_eq_ok deleted
          exact ⟨⟨there, free, freeFor_of_loose h hn⟩, rfl⟩
    · rfl
  all_goals rfl

/-- Every answer turns the books as its deed says, and only if the deed is allowed. -/
theorem books_answer (h : st.Orderly loose waits) (now : Timestamp) (r : StoreRequest)
    (guarded : ∀ s x a delta, st.openSession? s = some x → r = .perform s (.addBalance a delta) →
      x.holds a = true)
    (locked : ∀ a, r = .query (.deleteAccount a) → ∃ n, (a, n) ∈ loose) :
    st.books.Turns (Deed.of? r (st.answer now r).1) (st.answer now r).2.books := by
  cases r with
  | begin => exact ⟨rfl, books_begin h⟩
  | perform s op =>
      refine books_perform h now s op fun x a delta hx same => ?_
      exact guarded s x a delta hx (by rw [same])
  | abandon s => exact ⟨trivial, books_abandon st s⟩
  | query q =>
      refine books_query h now q fun a same => ?_
      exact locked a (by rw [same])

theorem books_addGuard (hx : st.openSession? s = some x) (a : Int) (n : Nat) :
    (st.addGuard s a n).books = st.books := by
  rw [addGuard, (openSession?_eq_some.mp hx).1]
  exact books_setGuards hx _

theorem books_answerLocked {a : Int} {n : Nat} (h : st.Orderly [(a, n)] waits) (now : Timestamp)
    {r : StoreRequest} (row : r.row? = some a)
    (still : ∀ s, r.session? = some s → ∃ x, st.openSession? s = some x) :
    st.books.Turns (Deed.of? r (st.answerLocked now r a n).1)
      (st.answerLocked now r a n).2.books := by
  cases r with
  | begin => cases row
  | abandon s => cases row
  | perform s op =>
      obtain ⟨x, hx⟩ := still s rfl
      have ⟨hs, notFinished⟩ := openSession?_eq_some.mp hx
      have same := books_addGuard hx a n
      rw [← same]
      refine books_perform (orderly_addGuard h hs notFinished) now s op ?_
      intro y b delta hy eq
      rw [openSession?_addGuard hx] at hy
      cases hy
      subst eq
      cases row
      exact List.any_eq_true.mpr ⟨(a, n), List.mem_append_right _ (List.mem_singleton_self _),
        beq_self_eq_true a⟩
  | query q =>
      refine books_query h now q fun b same => ?_
      subst same
      cases row
      exact ⟨n, List.mem_singleton_self _⟩

end MemoryStore
end DoubleEntry
