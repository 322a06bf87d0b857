import DoubleEntry.Proofs.Store.Guards
import DoubleEntry.Proofs.Store.UncommittedWrites

/-!
A store with all balances and amounts taken out of it. What has to be known of a store to tell which
requests wait, which ids are drawn and which rows are locked is still there: a request leaves two
stores alike that were alike but for balances and amounts, whether or not it is refused for a
balance in one of them.
-/

namespace DoubleEntry

def Account.veiled (a : Account) : Account := { a with balance := Decimal.zero }

def Entry.veiled (e : Entry) : Entry := { e with amount := Decimal.zero }

def Transaction.veiled (t : Transaction) : Transaction := { t with amount := Decimal.zero }

def Tables.veiled (t : Tables) : Tables :=
  { t with
    accounts := t.accounts.map Account.veiled
    entries := t.entries.map Entry.veiled
    transactions := t.transactions.map Transaction.veiled }

/-- Nothing is left of staged balances. -/
def Session.veiled (x : Session) : Session :=
  { x with
    accounts := []
    entries := x.entries.map Entry.veiled
    transactions := x.transactions.map Transaction.veiled }

/-- What stands for all amounts that a column keeps. -/
def unitAmount : Decimal := .ofSmall 1 (by decide)

/-- An amount that a column keeps does not show. -/
def Decimal.veiled (d : Decimal) : Decimal := if d.FitsColumn then unitAmount else d

def NewTransaction.veiled (new : NewTransaction) : NewTransaction :=
  match new.check with
  | .ok _ => { new with amount := unitAmount }
  | .error _ => new

/-- A request of which no amount shows but one that is refused for what it is. -/
def SessionRequest.veiled : SessionRequest → SessionRequest
  | insertTransaction new => insertTransaction new.veiled
  | insertEntry a amount => insertEntry a amount.veiled
  | addBalance a _ => addBalance a Decimal.zero
  | commit => commit
  | rollback => rollback

/-- The ticket of a request that waits. -/
def Submission.ticket? {τ α : Type} : Submission τ α → Option τ
  | answered _ => none
  | waiting ticket => some ticket

def StoreRequest.veiled : StoreRequest → StoreRequest
  | perform s op => perform s op.veiled
  | r => r

theorem NewTransaction.check_unit {new : NewTransaction} (h : new.check = .ok ()) :
    { new with amount := unitAmount }.check = .ok () := by
  have positive : ¬ unitAmount ≤ Decimal.zero := by decide
  have fits : checkColumn "amount" unitAmount = .ok () := by decide
  simp only [check] at h ⊢
  rw [if_neg positive, fits]
  revert h
  split
  · exact fun h => by cases h
  · split
    · exact fun h => by cases h
    · cases checkColumn "amount" new.amount with
      | error c => exact fun h => by cases h
      | ok _ => exact id

theorem checkColumn_veiled (column : String) (d : Decimal) :
    checkColumn column d.veiled = checkColumn column d := by
  have fits : unitAmount.FitsColumn := by decide
  simp only [Decimal.veiled]
  split
  · rename_i room
    simp only [checkColumn, if_pos fits, if_pos room]
  · rfl

theorem Session.veiled_veiled (x : Session) : x.veiled.veiled = x.veiled := by
  simp only [veiled, List.map_map]
  rfl

namespace Table

variable {α : Type} [HasId α] {f : α → α}

theorem keepsOrder_of_id (hf : ∀ x, HasId.id (f x) = HasId.id x) (rows : List α) :
    KeepsOrder f rows := fun r _ r' _ => by rw [hf, hf]

theorem map_insert_of_id (hf : ∀ x, HasId.id (f x) = HasId.id x) (row : α) (rows : List α) :
    (insert row rows).map f = insert (f row) (rows.map f) :=
  map_insert (keepsOrder_of_id hf (row :: rows)) List.mem_cons_self (List.subset_cons_self row rows)

theorem map_foldl_insert_of_id (hf : ∀ x, HasId.id (f x) = HasId.id x) (news rows : List α) :
    (news.foldl (fun rows n => insert n rows) rows).map f =
      (news.map f).foldl (fun rows n => insert n rows) (rows.map f) :=
  map_foldl_insert (keepsOrder_of_id hf (news ++ rows)) (List.subset_append_left news rows)
    (List.subset_append_right news rows)

theorem map_erase (hf : ∀ x, HasId.id (f x) = HasId.id x) (a : Int) (rows : List α) :
    (erase a rows).map f = erase a (rows.map f) := by
  simp only [erase, List.filter_map]
  congr 2
  funext row
  simp only [Function.comp, hf]

theorem contains_map (hf : ∀ x, HasId.id (f x) = HasId.id x) (a : Int) (rows : List α) :
    contains a (rows.map f) = contains a rows := by
  simp only [contains, List.any_map, Function.comp_def, hf]

end Table

namespace Tables

variable {t : Tables}

theorem veiled_veiled (t : Tables) : t.veiled.veiled = t.veiled := by
  simp only [veiled, List.map_map]
  rfl

@[simp] theorem hasAccount_veiled (t : Tables) (a : Int) :
    t.veiled.hasAccount a = t.hasAccount a :=
  Table.contains_map (f := Account.veiled) (fun _ => rfl) a _

@[simp] theorem isReferenced_veiled (t : Tables) (a : Int) :
    t.veiled.isReferenced a = t.isReferenced a := by
  simp only [isReferenced, veiled, List.any_map]
  rfl

@[simp] theorem checkAccount_veiled (t : Tables) (table : TableName) (a : Int) :
    t.veiled.checkAccount table a = t.checkAccount table a := by
  simp only [checkAccount, hasAccount_veiled]

@[simp] theorem checkSides_veiled (t : Tables) (new : NewTransaction) :
    t.veiled.checkSides new = t.checkSides new := by
  simp only [checkSides, checkAccount_veiled]

theorem veiled_setBalance (a : Int) (balance : Decimal) (rows : List Account) :
    (setBalance a balance rows).map Account.veiled = rows.map Account.veiled := by
  simp only [setBalance, List.map_map]
  refine List.map_congr_left fun row _ => ?_
  simp only [Function.comp]
  split <;> rfl

theorem veiled_setBalances (staged rows : List Account) :
    (staged.foldl (fun rows a => setBalance a.id a.balance rows) rows).map Account.veiled =
      rows.map Account.veiled := by
  induction staged generalizing rows with
  | nil => rfl
  | cons a staged ih => rw [List.foldl_cons, ih, veiled_setBalance]

/-- An id is drawn, or is not, whatever the amounts are. -/
theorem drawTransaction_veiled (now : Timestamp) (new : NewTransaction) (t : Tables) :
    (t.veiled.drawTransaction now new.veiled).map (fun p => (p.1.veiled, p.2.veiled)) =
      (t.drawTransaction now new).map fun p => (p.1.veiled, p.2.veiled) := by
  have same : t.checkSides { new with amount := unitAmount } = t.checkSides new := rfl
  simp only [drawTransaction, checkSides_veiled, NewTransaction.veiled]
  cases checked : new.check with
  | error c =>
      simp only [checked]
      rfl
  | ok _ =>
      simp only [NewTransaction.check_unit checked, same]
      cases t.checkSides new with
      | error c => rfl
      | ok _ =>
          have twice := veiled_veiled { t with transactionSeq := t.transactionSeq + 1 }
          exact congrArg Except.ok (congrArg (Prod.mk _) twice)

theorem drawEntry_veiled (now : Timestamp) (a : Int) (amount : Decimal) (t : Tables) :
    (t.veiled.drawEntry now a (Decimal.veiled amount)).map (fun p => (p.1.veiled, p.2.veiled)) =
      (t.drawEntry now a amount).map fun p => (p.1.veiled, p.2.veiled) := by
  simp only [drawEntry, checkAccount_veiled, checkColumn_veiled]
  cases checkColumn "amount" amount with
  | error c => rfl
  | ok _ =>
      cases t.checkAccount .entries a with
      | error c => rfl
      | ok _ =>
          have twice := veiled_veiled { t with entrySeq := t.entrySeq + 1 }
          exact congrArg Except.ok (congrArg (Prod.mk _) twice)

theorem createAccount_veiled (now : Timestamp) (new : NewAccount) (t : Tables) :
    (t.veiled.createAccount now new).map (fun p => (p.1, p.2.veiled)) =
      (t.createAccount now new).map fun p => (p.1, p.2.veiled) := by
  have inserted (row : Account) (rows : List Account) :
      (Table.insert row (rows.map Account.veiled)).map Account.veiled =
        (Table.insert row rows).map Account.veiled := by
    simp only [Table.map_insert_of_id (f := Account.veiled) fun _ => rfl, List.map_map]
    rfl
  simp only [createAccount]
  cases new.check with
  | error c => rfl
  | ok _ =>
      have twice := veiled_veiled t
      simp only [veiled, Tables.mk.injEq] at twice
      simp only [veiled, Except.map, bind, Except.bind, pure, Except.pure, inserted,
        twice.2.1, twice.2.2.1]

theorem deleteAccount_veiled (a : Int) (t : Tables) :
    t.veiled.deleteAccount a = (t.deleteAccount a).map fun p => (p.1, p.2.veiled) := by
  simp only [deleteAccount, hasAccount_veiled, isReferenced_veiled]
  split
  · rfl
  · split
    · rfl
    · simp only [veiled, Except.map, Table.map_erase (f := Account.veiled) fun _ => rfl]

end Tables

/-- Results that look alike are refusals for the same reason, or values that look alike. -/
theorem results_alike {ε α β : Type} {f : α → β} {r r' : Except ε α}
    (h : r.map f = r'.map f) :
    (∃ e, r = .error e ∧ r' = .error e) ∨ ∃ a a', r = .ok a ∧ r' = .ok a' ∧ f a = f a' := by
  cases r with
  | error e =>
      cases r' with
      | error e' => exact .inl ⟨e, rfl, congrArg Except.error (Except.error.inj h).symm⟩
      | ok a' => cases h
  | ok a =>
      cases r' with
      | error e' => cases h
      | ok a' => exact .inr ⟨a, a', rfl, rfl, Except.ok.inj h⟩

namespace MemoryStore

variable {st st' : MemoryStore} {s : SessionId} {x : Session} {a : Int}

/-- The store as it looks without balances and amounts. -/
def veiled (st : MemoryStore) : MemoryStore :=
  { st with
    tables := st.tables.veiled
    sessions := st.sessions.map fun p => (p.1, p.2.veiled) }

theorem map_veiled_veiled (sessions : List (SessionId × Session)) :
    (sessions.map fun p => (p.1, p.2.veiled)).map (fun p => (p.1, p.2.veiled)) =
      sessions.map fun p => (p.1, p.2.veiled) := by
  rw [List.map_map]
  exact List.map_congr_left fun p _ => congrArg (Prod.mk p.1) p.2.veiled_veiled

theorem veiled_veiled (st : MemoryStore) : st.veiled.veiled = st.veiled := by
  simp only [veiled, Tables.veiled_veiled, map_veiled_veiled]

theorem session?_veiled (st : MemoryStore) (s : SessionId) :
    st.veiled.session? s = (st.session? s).map Session.veiled := by
  simp only [session?, veiled]
  induction st.sessions with
  | nil => rfl
  | cons p rest ih =>
      rw [List.map_cons, List.lookup_cons, List.lookup_cons, ih]
      cases s == p.1 <;> rfl

theorem openSession?_veiled (st : MemoryStore) (s : SessionId) :
    st.veiled.openSession? s = (st.openSession? s).map Session.veiled := by
  simp only [openSession?, session?_veiled]
  cases st.session? s with
  | none => rfl
  | some x => cases still : x.finished <;> simp [Session.veiled, still, Option.filter]

theorem veiled_setSession (st : MemoryStore) (s : SessionId) (x : Session) :
    (st.setSession s x).veiled = st.veiled.setSession s x.veiled := by
  simp only [veiled, setSession, List.map_map]
  congr 1
  refine List.map_congr_left fun p _ => ?_
  simp only [Function.comp]
  split <;> rfl

theorem veiled_finish (st : MemoryStore) (s : SessionId) (x : Session) :
    (st.finish s x).veiled = st.veiled.finish s x.veiled := by
  have locks (st : MemoryStore) (locks : LockTable) :
      { st with locks := locks }.veiled = { st.veiled with locks := locks } := rfl
  rw [finish, locks, veiled_setSession]
  rfl

theorem veiled_abandon (st : MemoryStore) (s : SessionId) :
    (st.abandon s).veiled = st.veiled.abandon s := by
  have forgets (st : MemoryStore) :
      { st with sessions := st.sessions.filter (·.1 != s) }.veiled =
        { st.veiled with sessions := st.veiled.sessions.filter (·.1 != s) } := by
    simp only [veiled, List.filter_map]
    rfl
  simp only [abandon, session?_veiled]
  cases st.session? s with
  | none => rfl
  | some x =>
      dsimp only [Option.map_some]
      rw [forgets, veiled_finish]

theorem veiled_addGuard (st : MemoryStore) (s : SessionId) (a : Int) (n : Nat) :
    (st.addGuard s a n).veiled = st.veiled.addGuard s a n := by
  simp only [addGuard, session?_veiled]
  cases st.session? s with
  | none => rfl
  | some x => exact veiled_setSession st s _

theorem checkStaged_veiled (t : Tables) (x : Session) :
    checkStaged t.veiled x.veiled = checkStaged t x := by
  simp only [checkStaged, Session.veiled, List.forM_eq_forM, List.forM_map,
    Tables.checkAccount_veiled, Tables.checkSides_veiled]
  rfl

theorem published_veiled (t : Tables) (x : Session) :
    (published t x).veiled = published t.veiled x.veiled := by
  simp only [published, Tables.veiled, Session.veiled, Tables.veiled_setBalances,
    Table.map_foldl_insert_of_id (f := Entry.veiled) fun _ => rfl,
    Table.map_foldl_insert_of_id (f := Transaction.veiled) fun _ => rfl, List.foldl_nil]

/-- What is staged is staged for accounts that are there. -/
structure Rooted (st : MemoryStore) : Prop where
  distinct : (st.sessions.map (·.1)).Nodup
  staged : ∀ s x, st.session? s = some x → ∀ row ∈ x.accounts, st.tables.hasAccount row.id = true

theorem rooted_of_orderly {loose waits : List (Int × Nat)} (h : st.Orderly loose waits)
    (sound : st.books.Sound) : st.Rooted where
  distinct := h.distinct
  staged s x hx row hr := by
    have tidy := h.tidy _ (mem_of_session? hx)
    cases ended : x.finished with
    | true =>
        have same : x = { finished := true } := tidy.cleared ended
        rw [same] at hr
        cases hr
    | false =>
        have open_ : st.openSession? s = some x := openSession?_eq_some.mpr ⟨hx, ended⟩
        obtain ⟨_, c, hc, _⟩ := sound.drafted s _ (drafts_of_open open_) row hr
        exact Table.contains_iff_find?.mpr ⟨c, hc⟩

theorem rooted_veiled (rooted : st.Rooted) : st.veiled.Rooted where
  distinct := by
    simp only [veiled, List.map_map]
    exact rooted.distinct
  staged s x hx row hr := by
    rw [session?_veiled] at hx
    obtain ⟨y, _, rfl⟩ := Option.map_eq_some_iff.mp hx
    cases hr

theorem isSome_current? (rooted : st.Rooted) (hx : st.session? s = some x) (a : Int) :
    (st.current? x a).isSome = st.tables.hasAccount a := by
  rw [Bool.eq_iff_iff, Option.isSome_iff_exists]
  constructor
  · rintro ⟨account, found⟩
    rcases current?_eq_some.mp found with staged | ⟨_, committed⟩
    · have there := rooted.staged s x hx account (Table.mem_of_find? staged)
      have id : account.id = a := Table.id_of_find? staged
      rwa [id] at there
    · exact Table.contains_iff_find?.mpr ⟨account, committed⟩
  · intro there
    obtain ⟨c, hc⟩ := Table.contains_iff_find?.mp there
    cases staged : Table.find? a x.accounts with
    | some row => exact ⟨row, current?_eq_some.mpr (.inl staged)⟩
    | none => exact ⟨c, current?_eq_some.mpr (.inr ⟨staged, hc⟩)⟩

/-- A session that is set to what it is already. -/
theorem setSession_self (distinct : (st.sessions.map (·.1)).Nodup) (hx : st.session? s = some x) :
    st.setSession s x = st := by
  have kept : ∀ p ∈ st.sessions, (if p.1 = s then (p.1, x) else (p.1, p.2)) = p := by
    intro p hp
    split
    · rename_i mine
      have same : p.2 = x := Option.some.inj <|
        (session?_of_mem distinct (s := p.1) hp).symm.trans (mine ▸ hx)
      rw [← same]
    · rfl
  have whole : st.sessions.map (fun p => if p.1 = s then (p.1, x) else (p.1, p.2)) = st.sessions :=
    (List.map_congr_left kept).trans (List.map_id _)
  simp only [setSession, whole]

/-- What is staged of balances does not show. -/
theorem veiled_setSession_staged (rooted : st.Rooted) (hx : st.session? s = some x)
    (accounts : List Account) :
    (st.setSession s { x with accounts := accounts }).veiled = st.veiled := by
  have there : st.veiled.session? s = some x.veiled := by rw [session?_veiled, hx]; rfl
  rw [veiled_setSession]
  exact setSession_self (rooted_veiled rooted).distinct there

theorem veiled_begin (st : MemoryStore) : st.begin.2.veiled = st.veiled.begin.2.veiled := by
  simp only [begin, veiled, Tables.veiled_veiled, List.map_append, map_veiled_veiled]

theorem veiled_with (st : MemoryStore) (tables : Tables) (locks : LockTable) :
    { st with tables := tables, locks := locks }.veiled =
      { st.veiled with tables := tables.veiled, locks := locks } := rfl

theorem veiled_tables (st : MemoryStore) {tables tables' : Tables}
    (alike : tables.veiled = tables'.veiled) :
    { st with tables := tables }.veiled = { st.veiled with tables := tables' }.veiled := by
  refine (veiled_with st tables _).trans (Eq.trans ?_ (veiled_with st.veiled tables' _).symm)
  rw [veiled_veiled, alike]
  rfl

/-- What is staged and drawn shows only as far as the rows do. -/
theorem veiled_stage (st : MemoryStore) (s : SessionId) {y z : Session} (same : y.veiled = z.veiled)
    {tables tables' : Tables} (alike : tables.veiled = tables'.veiled) :
    { st.setSession s y with tables := tables }.veiled =
      { st.veiled.setSession s z with tables := tables' }.veiled := by
  rw [veiled_tables (st.setSession s y) alike, veiled_setSession, same]
  refine (veiled_with _ tables' _).trans (Eq.trans ?_ (veiled_with _ tables' _).symm)
  rw [veiled_setSession, veiled_setSession, Session.veiled_veiled, veiled_veiled]
  rfl

/-- The store once a session has given the lock of an account back. -/
def unguard (st : MemoryStore) (s : SessionId) (x : Session) (a : Int) : MemoryStore :=
  { st.setSession s { x with guards := x.guards.filter (·.1 != a) } with
    locks := releaseAll (x.guards.filter (·.1 == a)) st.locks }

theorem veiled_unguard (st : MemoryStore) (s : SessionId) (x : Session) (a : Int) :
    (st.unguard s x a).veiled = st.veiled.unguard s x.veiled a := by
  refine (veiled_with _ st.tables _).trans ?_
  rw [veiled_setSession]
  rfl

theorem veiled_addBalance_missing (missing : st.current? x a = none) (delta : Decimal) :
    (st.addBalance s x a delta).2.veiled = st.veiled.unguard s x.veiled a := by
  rw [← veiled_unguard]
  simp only [addBalance, missing]
  rfl

/-- Of a change of a balance nothing shows, whether it is made or refused. -/
theorem veiled_addBalance_found (rooted : st.Rooted) (hx : st.session? s = some x) {c : Account}
    (found : st.current? x a = some c) (delta : Decimal) :
    (st.addBalance s x a delta).2.veiled = st.veiled := by
  simp only [addBalance, found]
  cases changed c delta with
  | ok row => exact veiled_setSession_staged rooted hx _
  | error e => rfl

theorem veiled_addBalance (rooted : st.Rooted) (hx : st.session? s = some x) (a : Int)
    (delta : Decimal) :
    (st.addBalance s x a delta).2.veiled =
      (st.veiled.addBalance s x.veiled a Decimal.zero).2.veiled := by
  have there : st.veiled.session? s = some x.veiled := by rw [session?_veiled, hx]; rfl
  have present : (st.veiled.current? x.veiled a).isSome = (st.current? x a).isSome := by
    rw [isSome_current? rooted hx, isSome_current? (rooted_veiled rooted) there]
    exact Tables.hasAccount_veiled st.tables a
  cases found : st.current? x a with
  | none =>
      rw [found, Option.isSome_none, Option.isSome_eq_false_iff, Option.isNone_iff_eq_none]
        at present
      rw [veiled_addBalance_missing found, veiled_addBalance_missing present, veiled_veiled,
        Session.veiled_veiled]
  | some c =>
      rw [found, Option.isSome_some, Option.isSome_iff_exists] at present
      obtain ⟨c', found'⟩ := present
      rw [veiled_addBalance_found rooted hx found,
        veiled_addBalance_found (rooted_veiled rooted) there found', veiled_veiled]

theorem veiled_publish (st : MemoryStore) (x : Session) :
    { st with tables := published st.tables x }.veiled =
      { st.veiled with tables := published st.veiled.tables x.veiled } :=
  (veiled_with st _ _).trans
    (congrArg (fun t => { st.veiled with tables := t }) (published_veiled _ x))

theorem veiled_perform (rooted : st.Rooted) (now : Timestamp) (s : SessionId)
    (op : SessionRequest) :
    (st.perform now s op).2.veiled = (st.veiled.perform now s op.veiled).2.veiled := by
  have twice := (veiled_veiled st).symm
  have tables : st.veiled.tables = st.tables.veiled := rfl
  simp only [perform, openSession?_veiled]
  cases hx : st.openSession? s with
  | none => exact twice
  | some x =>
      cases op <;> simp only [Option.map_some, SessionRequest.veiled]
      case insertTransaction new =>
        simp only [insertTransaction, tables]
        rcases results_alike (st.tables.drawTransaction_veiled now new) with
          ⟨c, drawn', drawn⟩ | ⟨p', p, drawn', drawn, same⟩
        · rw [drawn, drawn']
          exact twice
        · rw [drawn, drawn']
          obtain ⟨row, rest⟩ := Prod.mk.inj same
          refine veiled_stage st s ?_ rest.symm
          simp only [Session.veiled, List.map_append, List.map_map, List.map_cons, row]
          rfl
      case insertEntry a amount =>
        simp only [insertEntry, tables]
        rcases results_alike (st.tables.drawEntry_veiled now a amount) with
          ⟨c, drawn', drawn⟩ | ⟨p', p, drawn', drawn, same⟩
        · rw [drawn, drawn']
          exact twice
        · rw [drawn, drawn']
          obtain ⟨row, rest⟩ := Prod.mk.inj same
          refine veiled_stage st s ?_ rest.symm
          simp only [Session.veiled, List.map_append, List.map_map, List.map_cons, row]
          rfl
      case addBalance a delta =>
        exact veiled_addBalance rooted (openSession?_eq_some.mp hx).1 a delta
      case commit =>
        simp only [commit, tables, checkStaged_veiled]
        cases checkStaged st.tables x with
        | error c => exact twice
        | ok _ =>
            have made := veiled_publish st x
            have again := veiled_publish st.veiled x.veiled
            simp only [veiled_veiled, Session.veiled_veiled, tables] at made again
            simp only [veiled_finish, made, again, Session.veiled_veiled]
      case rollback => simp only [veiled_finish, veiled_veiled, Session.veiled_veiled]

theorem veiled_answer (rooted : st.Rooted) (now : Timestamp) (r : StoreRequest) :
    (st.answer now r).2.veiled = (st.veiled.answer now r.veiled).2.veiled := by
  have twice := (veiled_veiled st).symm
  have tables : st.veiled.tables = st.tables.veiled := rfl
  cases r with
  | begin => exact veiled_begin st
  | perform s op => exact veiled_perform rooted now s op
  | abandon s =>
      simp only [answer, StoreRequest.veiled, veiled_abandon, veiled_veiled]
  | query q =>
      cases q
      case createAccount new =>
        simp only [answer, query, StoreRequest.veiled, tables]
        rcases results_alike (st.tables.createAccount_veiled now new) with
          ⟨c, made', made⟩ | ⟨p', p, made', made, same⟩
        · rw [made, made']
          exact twice
        · rw [made, made']
          exact veiled_tables st (Prod.mk.inj same).2.symm
      case deleteAccount a =>
        simp only [answer, query, StoreRequest.veiled, tables, Tables.deleteAccount_veiled]
        cases st.tables.deleteAccount a with
        | error c => exact twice
        | ok p => exact veiled_tables st (Tables.veiled_veiled p.2).symm
      all_goals exact twice

theorem rooted_locks (rooted : st.Rooted) (locks : LockTable) :
    Rooted { st with locks := locks } where
  distinct := rooted.distinct
  staged := rooted.staged

theorem rooted_addGuard (rooted : st.Rooted) (s : SessionId) (a : Int) (n : Nat) :
    (st.addGuard s a n).Rooted := by
  simp only [addGuard]
  cases hx : st.session? s with
  | none => exact rooted
  | some x =>
      refine ⟨?_, fun t y hy row hr => ?_⟩
      · rw [map_fst_setSession]
        exact rooted.distinct
      · rw [session?_setSession] at hy
        split at hy
        · rename_i same
          rw [same, hx] at hy
          cases hy
          exact rooted.staged s x hx row hr
        · exact rooted.staged t y hy row hr

theorem wantedRow?_veiled (st : MemoryStore) (r : StoreRequest) :
    st.veiled.wantedRow? r.veiled = st.wantedRow? r := by
  cases r with
  | perform s op =>
      cases op with
      | addBalance a delta =>
          simp only [wantedRow?, StoreRequest.veiled, SessionRequest.veiled, openSession?_veiled]
          cases st.openSession? s <;> rfl
      | _ => rfl
  | query q => cases q <;> rfl
  | _ => rfl

theorem veiled_answerLocked (rooted : st.Rooted) (now : Timestamp) (r : StoreRequest) (a : Int)
    (n : Nat) :
    (st.answerLocked now r a n).2.veiled =
      (st.veiled.answerLocked now r.veiled a n).2.veiled := by
  have released {left left' : MemoryStore} (alike : left.veiled = left'.veiled) :
      { left with locks := left.locks.release a n }.veiled =
        { left' with locks := left'.locks.release a n }.veiled :=
    congrArg (fun st : MemoryStore => { st with locks := st.locks.release a n }) alike
  cases r with
  | perform s op =>
      simp only [answerLocked, StoreRequest.veiled, ← veiled_addGuard]
      exact veiled_answer (rooted_addGuard rooted s a n) now (.perform s op)
  | begin => exact released (veiled_answer rooted now .begin)
  | abandon s => exact released (veiled_answer rooted now (.abandon s))
  | query q => exact released (veiled_answer rooted now (.query q))

/-- Whether a request waits, and what it leaves, depends on nothing that does not show. -/
theorem veiled_submit (rooted : st.Rooted) (now : Timestamp) (r : StoreRequest) :
    ((st.submit now r).1.ticket?, (st.submit now r).2.veiled) =
      ((st.veiled.submit now r.veiled).1.ticket?, (st.veiled.submit now r.veiled).2.veiled) := by
  simp only [submit, wantedRow?_veiled]
  cases st.wantedRow? r with
  | none => exact congrArg (Prod.mk none) (veiled_answer rooted now r)
  | some a =>
      have locks : st.veiled.locks = st.locks := rfl
      simp only [locks]
      split
      · exact congrArg (Prod.mk none)
          (veiled_answerLocked (rooted_locks rooted (st.locks.request a).2) now r a _)
      · have twice := (veiled_veiled { st with locks := (st.locks.request a).2 }).symm
        exact congrArg (Prod.mk _) twice

theorem veiled_resume (rooted : st.Rooted) (now : Timestamp) (r : StoreRequest) (n : Nat) :
    (st.resume now r n).2.veiled = (st.veiled.resume now r.veiled n).2.veiled :=
  veiled_answerLocked (rooted_locks rooted (st.locks.claim n)) now r (st.awaitedRow n) n

theorem veiled_expire (st : MemoryStore) (r : StoreRequest) (n : Nat) :
    (st.expire r n).2.veiled = (st.veiled.expire r.veiled n).2.veiled :=
  (veiled_veiled { st with locks := st.locks.release (st.awaitedRow n) n }).symm

end MemoryStore
end DoubleEntry
