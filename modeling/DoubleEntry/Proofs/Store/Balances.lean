import DoubleEntry.Proofs.Store.Books
import DoubleEntry.Proofs.Store.Desk
import Mathlib.Algebra.Order.Ring.Int

/-!
No update is lost. A commit overwrites balances with what its session has drafted; yet every balance
is the opening balance and the sum of all deltas of the sessions that have committed, because what a
session has drafted is at any time the committed balance and the session's own deltas. Sums are
taken of exact values, in the smallest units of a decimal.
-/

namespace DoubleEntry

namespace Deed

/-- What a deed adds to an account in a session, in units. -/
def shift (s : SessionId) (a : Int) : Deed → Int
  | changedBalance t delta row => if t = s ∧ row.id = a then delta.units else 0
  | _ => 0

def delta? (s : SessionId) (a : Int) : Deed → Option Decimal
  | changedBalance t delta row => if t = s ∧ row.id = a then some delta else none
  | _ => none

theorem delta?_eq_some {s : SessionId} {a : Int} {d : Deed} {delta : Decimal} :
    d.delta? s a = some delta ↔ ∃ row, d = changedBalance s delta row ∧ row.id = a := by
  constructor
  · intro found
    cases d with
    | changedBalance t delta' row =>
        simp only [delta?] at found
        split at found
        · rename_i same
          cases found
          exact ⟨row, by rw [same.1], same.2⟩
        · cases found
    | _ => cases found
  · intro h
    obtain ⟨row, rfl, same⟩ := h
    exact if_pos ⟨rfl, same⟩

theorem shift_eq (s : SessionId) (a : Int) (d : Deed) :
    d.shift s a = ((d.delta? s a).map Decimal.units).getD 0 := by
  cases d with
  | changedBalance t delta row =>
      simp only [shift, delta?]
      split <;> rfl
  | _ => rfl

/-- A draft changes only by deltas of its own session. -/
theorem find?_drafting {s : SessionId} {a : Int} {d : Deed} (none : d.delta? s a = none)
    (mine : d.session? = some s) (x : Session) :
    Table.find? a (d.drafting x).accounts = Table.find? a x.accounts := by
  cases d with
  | changedBalance t delta row =>
      cases mine
      refine (Table.find?_insert a row x.accounts).trans (if_neg fun same => ?_)
      rw [delta?_eq_some.mpr ⟨row, rfl, same⟩] at none
      cases none
  | _ => rfl

def commit? : Deed → Option SessionId
  | committed s => some s
  | _ => none

def opening? (a : Int) : Deed → Option Account
  | opened account => if account.id = a then some account else none
  | _ => none

end Deed

namespace Books

/-- The sum of the deltas that a session has added to an account, in units. -/
def drafted (ds : List Deed) (s : SessionId) (a : Int) : Int := (ds.map (Deed.shift s a)).sum

/-- The sessions that have committed, in the order of their commits. -/
def commits (ds : List Deed) : List SessionId := ds.filterMap Deed.commit?

/-- The sum of the deltas that all committed sessions have added to an account, in units. -/
def settled (ds : List Deed) (a : Int) : Int := ((commits ds).map fun s => drafted ds s a).sum

def opening? (ds : List Deed) (a : Int) : Option Account := ds.findSome? (Deed.opening? a)

variable {ds : List Deed} {d : Deed} {s t : SessionId} {x y : Session} {a : Int}

theorem drafted_snoc (ds : List Deed) (d : Deed) (s : SessionId) (a : Int) :
    drafted (ds ++ [d]) s a = drafted ds s a + d.shift s a := by
  simp [drafted]

theorem commits_snoc (ds : List Deed) (d : Deed) :
    commits (ds ++ [d]) = commits ds ++ d.commit?.toList := by
  cases hd : d.commit? <;> simp [commits, hd]

theorem settled_snoc (quiet : ∀ s ∈ commits ds, d.shift s a = 0) (none : d.commit? = none) :
    settled (ds ++ [d]) a = settled ds a := by
  have same : ∀ s ∈ commits ds, drafted (ds ++ [d]) s a = drafted ds s a := by
    intro s hs
    rw [drafted_snoc, quiet s hs, Int.add_zero]
  simp only [settled, commits_snoc, none, Option.toList_none, List.append_nil]
  rw [List.map_congr_left same]

theorem settled_committed (ds : List Deed) (s : SessionId) (a : Int) :
    settled (ds ++ [.committed s]) a = settled ds a + drafted ds s a := by
  have same : (fun t => drafted (ds ++ [.committed s]) t a) = fun t => drafted ds t a := by
    funext t
    rw [drafted_snoc]
    exact Int.add_zero _
  simp [settled, commits_snoc, same, Deed.commit?]

theorem opening?_snoc (ds : List Deed) (d : Deed) (a : Int) :
    opening? (ds ++ [d]) a = (opening? ds a).or (d.opening? a) := by
  simp [opening?, List.findSome?_append]

theorem opening?_mono {o : Account} (h : opening? ds a = some o) (d : Deed) :
    opening? (ds ++ [d]) a = some o := by
  rw [opening?_snoc, h]
  rfl

/-- What is true after a deed of a session that is over before it. -/
theorem over_of_commits (h : Lawful ds) (hs : s ∈ commits ds) :
    s < (replay ds).nextSession ∧ (replay ds).drafts s = none := by
  induction h with
  | nil => cases hs
  | @snoc ds d before allowed ih =>
      rw [replay_snoc]
      rw [commits_snoc] at hs
      cases List.mem_append.mp hs with
      | inl old =>
          have ⟨begun, gone⟩ := ih old
          exact ⟨Nat.lt_of_lt_of_le begun (nextSession_le_after allowed),
            drafts_after_of_none allowed begun gone⟩
      | inr new =>
          cases d with
          | committed t =>
              cases List.mem_singleton.mp new
              obtain ⟨x, hx, _⟩ := allowed
              have begun := lt_of_drafts (sound_replay before) hx
              simp only [after, hx, drafts_setDraft, if_true]
              exact ⟨begun, trivial⟩
          | _ => cases new

theorem not_mem_commits (h : Lawful ds) (hx : (replay ds).drafts s = some x) : s ∉ commits ds := by
  intro hs
  rw [(over_of_commits h hs).2] at hx
  cases hx

theorem commits_nodup (h : Lawful ds) : (commits ds).Nodup := by
  induction h with
  | nil => exact List.nodup_nil
  | @snoc ds d before allowed ih =>
      rw [commits_snoc]
      cases d with
      | committed s =>
          obtain ⟨x, hx, _⟩ := allowed
          refine List.nodup_append.mpr ⟨ih, List.nodup_singleton s, ?_⟩
          intro t ht u hu same
          rw [same, List.mem_singleton.mp hu] at ht
          exact not_mem_commits before hx ht
      | _ =>
          rw [show Deed.commit? _ = none from rfl, Option.toList_none, List.append_nil]
          exact ih

/-- Balances are changed in sessions that have begun, on accounts that have been opened. -/
theorem begun_of_changed (h : Lawful ds) {delta : Decimal} {row : Account}
    (hd : .changedBalance s delta row ∈ ds) :
    s < (replay ds).nextSession ∧ row.id ≤ (replay ds).tables.accountSeq := by
  induction h with
  | nil => cases hd
  | @snoc ds d before allowed ih =>
      rw [replay_snoc]
      have ⟨sessions, ids⟩ : s < (replay ds).nextSession ∧
          row.id ≤ (replay ds).tables.accountSeq := by
        cases List.mem_append.mp hd with
        | inl old => exact ih old
        | inr new =>
            cases List.mem_singleton.mp new
            obtain ⟨⟨x, base, hx, hbase, change⟩, _⟩ := allowed
            have sound := sound_replay before
            have id : base.id = row.id := (MemoryStore.id_of_changed change).symm
            refine ⟨lt_of_drafts sound hx, id ▸ ?_⟩
            cases current?_cases hbase with
            | inl staged =>
                obtain ⟨_, c, hc, _⟩ := sound.drafted s x hx base (Table.mem_of_find? staged)
                have same : c.id = base.id := Table.id_of_find? hc
                exact same ▸ sound.known c (Table.mem_of_find? hc)
            | inr committed => exact sound.known base (Table.mem_of_find? committed.2)
      exact ⟨Nat.lt_of_lt_of_le sessions (nextSession_le_after allowed),
        Int.le_trans ids (accountSeq_le_after allowed)⟩

/-- What an open session has changed it has drafted. -/
theorem find?_of_changed (h : Lawful ds) (hx : (replay ds).drafts s = some x) {delta : Decimal}
    {row : Account} (hd : .changedBalance s delta row ∈ ds) :
    ∃ r, Table.find? row.id x.accounts = some r := by
  induction h generalizing x with
  | nil => cases hd
  | @snoc ds d before allowed ih =>
      rw [replay_snoc] at hx
      cases drafts_after allowed hx with
      | inr new =>
          cases new.2.2
          cases List.mem_append.mp hd with
          | inl old =>
              have begun := (begun_of_changed before old).1
              exact absurd begun (Nat.not_lt.mpr (Nat.le_of_eq new.2.1.symm))
          | inr now => cases List.mem_singleton.mp now
      | inl old =>
          obtain ⟨y, hy, same⟩ := old
          cases List.mem_append.mp hd with
          | inr now =>
              cases List.mem_singleton.mp now
              have mine : (Deed.changedBalance s delta row).session? = some s := rfl
              refine ⟨row, ?_⟩
              rw [same, if_pos mine]
              exact (Table.find?_insert row.id row y.accounts).trans (if_pos rfl)
          | inl older =>
              obtain ⟨r, hr⟩ := ih hy older
              rw [same]
              split
              · cases d with
                | changedBalance t delta' row' =>
                    simp only [Deed.drafting, Table.find?_insert]
                    split
                    · exact ⟨row', rfl⟩
                    · exact ⟨r, hr⟩
                | _ => exact ⟨r, hr⟩
              · exact ⟨r, hr⟩

theorem opening?_of_late (h : Lawful ds) (late : (replay ds).tables.accountSeq < a) :
    opening? ds a = none := by
  induction h with
  | nil => rfl
  | @snoc ds d before allowed ih =>
      rw [replay_snoc] at late
      rw [opening?_snoc, ih (Int.lt_of_le_of_lt (accountSeq_le_after allowed) late),
        Option.none_or]
      cases d with
      | opened account => exact if_neg (Int.ne_of_lt late)
      | _ => rfl

/-- What an open session has drafted no other deed changes in the tables. -/
theorem find?_accounts_after {b : Books} (sound : b.Sound) (allowed : b.Allows d)
    (hx : b.drafts s = some x) {row : Account} (hr : Table.find? a x.accounts = some row)
    (hy : (b.after d).drafts s = some y) :
    Table.find? a (b.after d).tables.accounts = Table.find? a b.tables.accounts := by
  obtain ⟨_, c, hc, _⟩ := sound.drafted s x hx row (Table.mem_of_find? hr)
  have id : row.id = a := Table.id_of_find? hr
  rw [id] at hc
  cases d with
  | committed t =>
      obtain ⟨z, hz, _⟩ := allowed
      have ne : s ≠ t := by
        intro same
        simp only [after, hz, drafts_setDraft, same, if_true] at hy
        cases hy
      rw [accounts_committed sound hz,
        Table.find?_map (fun c => Account.id_settled z.accounts c), hc]
      have same : c.id = row.id := (Table.id_of_find? hc).trans id.symm
      exact congrArg some (settled_of_drafted sound hz hx ne (Table.mem_of_find? hr) same)
  | opened account =>
      have early := sound.known c (Table.mem_of_find? hc)
      have same : c.id = a := Table.id_of_find? hc
      refine (Table.find?_insert a account _).trans (if_neg ?_)
      have new : account.id = b.tables.accountSeq + 1 := allowed.1
      change account.id ≠ a
      omega
  | deleted a' =>
      have free := allowed.2.2 s x (by simp) hx
      refine (Table.find?_erase a' a _).trans (if_neg fun same => ?_)
      rw [← same, hr] at free
      cases free
  | _ => rfl

/-- The deltas that a session has added to an account, in their order. -/
def deltas (ds : List Deed) (s : SessionId) (a : Int) : List Decimal :=
  ds.filterMap (Deed.delta? s a)

theorem deltas_snoc (ds : List Deed) (d : Deed) (s : SessionId) (a : Int) :
    deltas (ds ++ [d]) s a = deltas ds s a ++ (d.delta? s a).toList := by
  cases h : d.delta? s a <;> simp [deltas, h]

theorem mem_deltas {delta : Decimal} :
    delta ∈ deltas ds s a ↔ ∃ row, .changedBalance s delta row ∈ ds ∧ row.id = a := by
  refine List.mem_filterMap.trans ⟨fun h => ?_, fun h => ?_⟩
  · obtain ⟨d, hd, found⟩ := h
    obtain ⟨row, rfl, same⟩ := Deed.delta?_eq_some.mp found
    exact ⟨row, hd, same⟩
  · obtain ⟨row, hd, same⟩ := h
    exact ⟨_, hd, Deed.delta?_eq_some.mpr ⟨row, rfl, same⟩⟩

theorem deltas_eq_nil_iff :
    deltas ds s a = [] ↔ ∀ delta row, .changedBalance s delta row ∈ ds → row.id ≠ a := by
  rw [List.eq_nil_iff_forall_not_mem]
  constructor
  · exact fun h delta row hd same => h delta (mem_deltas.mpr ⟨row, hd, same⟩)
  · intro h delta mem
    obtain ⟨row, hd, same⟩ := mem_deltas.mp mem
    exact h delta row hd same

theorem deltas_filter (ds : List Deed) (s : SessionId) (a : Int) :
    deltas (ds.filter (·.isOf s)) s a = deltas ds s a := by
  refine Deed.filterMap_isOf (fun d delta found => ?_) ds
  obtain ⟨row, rfl, _⟩ := Deed.delta?_eq_some.mp found
  rfl

theorem drafted_eq (ds : List Deed) (s : SessionId) (a : Int) :
    drafted ds s a = ((deltas ds s a).map Decimal.units).sum := by
  induction ds with
  | nil => rfl
  | cons d ds ih =>
      simp only [drafted, deltas, List.map_cons, List.sum_cons] at ih ⊢
      rw [ih, Deed.shift_eq]
      cases found : d.delta? s a with
      | none =>
          rw [List.filterMap_cons_none found]
          exact Int.zero_add _
      | some delta =>
          rw [List.filterMap_cons_some found]
          rfl

theorem drafted_filter (ds : List Deed) (s : SessionId) (a : Int) :
    drafted (ds.filter (·.isOf s)) s a = drafted ds s a := by
  rw [drafted_eq, deltas_filter, ← drafted_eq]

theorem drafted_eq_zero (h : ∀ delta row, .changedBalance s delta row ∈ ds → row.id ≠ a) :
    drafted ds s a = 0 := by
  rw [drafted_eq, deltas_eq_nil_iff.mpr h]
  rfl

theorem deltas_eq_nil (h : Lawful ds) (hx : (replay ds).drafts s = some x)
    (none : Table.find? a x.accounts = none) : deltas ds s a = [] := by
  refine deltas_eq_nil_iff.mpr fun delta row hd same => ?_
  obtain ⟨r, found⟩ := find?_of_changed h hx hd
  rw [same, none] at found
  cases found

/-- What a session has drafted is what its deltas make of the account that is committed now. This
is what the row locks are kept for until a session ends. -/
theorem redone_of_lawful (h : Lawful ds) (hx : (replay ds).drafts s = some x) {row : Account}
    (hr : Table.find? a x.accounts = some row) :
    ∃ c, Table.find? a (replay ds).tables.accounts = some c ∧
      (deltas ds s a).foldlM MemoryStore.changed c = .ok row := by
  induction h generalizing x row with
  | nil => cases hx
  | @snoc ds d before allowed ih =>
      rw [replay_snoc] at hx ⊢
      rw [deltas_snoc]
      cases drafts_after allowed hx with
      | inr new =>
          rw [new.1] at hr
          cases hr
      | inl old =>
          obtain ⟨y, hy, same⟩ := old
          cases added : d.delta? s a with
          | none =>
              -- Neither the draft of the account nor the committed one is another than before.
              have kept : Table.find? a y.accounts = some row := by
                rw [same] at hr
                split at hr
                · rename_i mine
                  exact (Deed.find?_drafting added mine y).symm.trans hr
                · exact hr
              rw [find?_accounts_after (sound_replay before) allowed hy kept hx,
                Option.toList_none, List.append_nil]
              exact ih hy kept
          | some delta =>
              obtain ⟨after, rfl, id⟩ := Deed.delta?_eq_some.mp added
              have mine : (Deed.changedBalance s delta after).session? = some s := rfl
              rw [same, if_pos mine] at hr
              have drafted := (Table.find?_insert a after y.accounts).trans (if_pos id)
              cases drafted.symm.trans hr
              obtain ⟨⟨z, base, hz, hbase, made⟩, _⟩ := allowed
              rw [hy] at hz
              cases hz
              rw [id] at hbase
              rw [Option.toList_some]
              cases current?_cases hbase with
              | inl staged =>
                  obtain ⟨c, hc, first⟩ := ih hy staged
                  refine ⟨c, hc, ?_⟩
                  simp only [List.foldlM_append, first]
                  change (MemoryStore.changed base delta >>= pure) = _
                  rw [made]
                  rfl
              | inr committed =>
                  refine ⟨base, committed.2, ?_⟩
                  simp [deltas_eq_nil before hy committed.1, made]

/-- Adding a delta to a balance is exact, as both fit the column. -/
theorem units_of_changed {base row : Account} {delta : Decimal} (baseFits : base.balance.FitsColumn)
    (deltaFits : delta.FitsColumn) (h : MemoryStore.changed base delta = .ok row) :
    row.balance.FitsColumn ∧ row.balance.units = base.balance.units + delta.units := by
  obtain ⟨balance, sum, fits, _, rfl⟩ := MemoryStore.changed_eq_ok h
  obtain ⟨total, exact_, units⟩ := Decimal.exists_add?_of_fitsColumn baseFits deltaFits
  rw [sum] at exact_
  cases exact_
  exact ⟨fits, units⟩

theorem units_of_foldlM {base row : Account} {deltas : List Decimal}
    (baseFits : base.balance.FitsColumn) (fits : ∀ delta ∈ deltas, delta.FitsColumn)
    (h : deltas.foldlM MemoryStore.changed base = .ok row) :
    row.balance.units = base.balance.units + (deltas.map Decimal.units).sum := by
  induction deltas generalizing base with
  | nil =>
      cases h
      exact (Int.add_zero _).symm
  | cons delta deltas ih =>
      rw [List.foldlM_cons] at h
      cases first : MemoryStore.changed base delta with
      | error e =>
          rw [first] at h
          cases h
      | ok next =>
          rw [first] at h
          have ⟨nextFits, step⟩ := units_of_changed baseFits (fits delta List.mem_cons_self) first
          rw [ih nextFits (fun d hd => fits d (List.mem_cons_of_mem delta hd)) h, step,
            List.map_cons, List.sum_cons, Int.add_assoc]

def DeltasFit (ds : List Deed) : Prop :=
  ∀ s delta row, .changedBalance s delta row ∈ ds → delta.FitsColumn

theorem staged_of_lawful (h : Lawful ds) (fits : DeltasFit ds) (hx : (replay ds).drafts s = some x)
    {row : Account} (hr : row ∈ x.accounts) :
    ∃ c, Table.find? row.id (replay ds).tables.accounts = some c ∧
      row.balance.units = c.balance.units + drafted ds s row.id := by
  have sound := sound_replay h
  obtain ⟨c, hc, made⟩ := redone_of_lawful h hx (Table.find?_of_mem (sound.sorted s x hx) hr)
  refine ⟨c, hc, ?_⟩
  rw [drafted_eq]
  refine units_of_foldlM (sound.fits c (Table.mem_of_find? hc)) (fun delta mem => ?_) made
  obtain ⟨row, hd, _⟩ := mem_deltas.mp mem
  exact fits s delta row hd

theorem settled_of_committed (before : Lawful ds) (fits : DeltasFit ds)
    (hx : (replay ds).drafts s = some x) {c : Account} (hc : c ∈ (replay ds).tables.accounts) :
    (c.settled x.accounts).balance.units = c.balance.units + drafted ds s c.id := by
  cases staged : Table.find? c.id x.accounts with
  | none =>
      rw [Account.settled_of_none staged, drafted_eq, deltas_eq_nil before hx staged]
      exact (Int.add_zero _).symm
  | some row =>
      have id : row.id = c.id := Table.id_of_find? staged
      obtain ⟨k, hk, total⟩ := staged_of_lawful before fits hx (Table.mem_of_find? staged)
      have there : Table.find? c.id (replay ds).tables.accounts = some c :=
        Table.find?_of_mem (sound_replay before).ascending hc
      rw [id, there] at hk
      cases hk
      rw [Account.settled_of_find? staged, ← id]
      exact total

/-- Every committed balance is the opening balance and the deltas of the sessions that have
committed. -/
theorem settled_of_lawful (h : Lawful ds) (fits : DeltasFit ds) :
    ∀ c ∈ (replay ds).tables.accounts, ∃ o, opening? ds c.id = some o ∧
      c.balance.units = o.balance.units + settled ds c.id := by
  induction h with
  | nil =>
      intro c hc
      cases hc
  | @snoc ds d before allowed ih =>
      have earlier := fun s delta row hr => fits s delta row (List.mem_append_left [d] hr)
      have old := ih earlier
      intro c hc
      rw [replay_snoc] at hc
      have kept : c ∈ (replay ds).tables.accounts → d.commit? = none →
          ∃ o, opening? (ds ++ [d]) c.id = some o ∧
            c.balance.units = o.balance.units + settled (ds ++ [d]) c.id := by
        intro mem none
        obtain ⟨o, ho, sum⟩ := old c mem
        refine ⟨o, opening?_mono ho d, ?_⟩
        rw [settled_snoc (fun s hs => ?_) none]
        · exact sum
        · cases d with
          | changedBalance t delta row =>
              obtain ⟨⟨x, _, hx, _⟩, _⟩ := allowed
              refine if_neg fun same => ?_
              exact not_mem_commits before hx (same.1 ▸ hs)
          | _ => rfl
      cases d with
      | committed s =>
          obtain ⟨x, hx, _⟩ := allowed
          rw [accounts_committed (sound_replay before) hx] at hc
          obtain ⟨c, mem, rfl⟩ := List.mem_map.mp hc
          obtain ⟨o, ho, sum⟩ := old c mem
          rw [Account.id_settled, settled_committed]
          refine ⟨o, opening?_mono ho _, ?_⟩
          rw [settled_of_committed before earlier hx mem, sum, Int.add_assoc]
      | opened account =>
          cases Table.mem_insert hc with
          | inr mem => exact kept mem rfl
          | inl same =>
              subst same
              have new : c.id = (replay ds).tables.accountSeq + 1 := allowed.1
              refine ⟨c, ?_, ?_⟩
              · rw [opening?_snoc, opening?_of_late before (by omega), Option.none_or]
                exact if_pos rfl
              · have nothing : ∀ s ∈ commits ds, drafted ds s c.id = 0 := by
                  intro s _
                  refine drafted_eq_zero fun delta row hr same => ?_
                  have early := (begun_of_changed before hr).2
                  omega
                rw [settled_snoc (fun _ _ => rfl) rfl, settled, List.map_congr_left nothing]
                simp
      | deleted a => exact kept (Table.mem_erase.mp hc).1 rfl
      | _ => exact kept hc rfl

end Books

def StoreRequest.DeltaFits : StoreRequest → Prop
  | perform _ (.addBalance _ delta) => delta.FitsColumn
  | _ => True

instance (r : StoreRequest) : Decidable r.DeltaFits :=
  match r with
  | .perform _ (.addBalance _ delta) => inferInstanceAs (Decidable delta.FitsColumn)
  | .perform _ (.insertTransaction _) => isTrue trivial
  | .perform _ (.insertEntry _ _) => isTrue trivial
  | .perform _ .commit => isTrue trivial
  | .perform _ .rollback => isTrue trivial
  | .begin => isTrue trivial
  | .abandon _ => isTrue trivial
  | .query _ => isTrue trivial

def Move.DeltaFits : Move → Prop
  | submit _ r => r.DeltaFits
  | _ => True

instance (m : Move) : Decidable m.DeltaFits :=
  match m with
  | .submit _ r => inferInstanceAs (Decidable r.DeltaFits)
  | .resume _ _ => isTrue trivial
  | .expire _ => isTrue trivial
  | .desert _ => isTrue trivial

theorem Deed.deltaFits_of? {r : StoreRequest} {reply : r.Reply} (fits : r.DeltaFits)
    {s : SessionId} {delta : Decimal} {row : Account}
    (h : Deed.of? r reply = some (.changedBalance s delta row)) : delta.FitsColumn := by
  simp only [Deed.of?] at h
  split at h
  case h_4 =>
    cases h
    exact fits
  all_goals cases h

namespace Desk

variable {d : Desk}

/-- All deltas fit, those that were added and those that are waited with. -/
structure DeltasFit (d : Desk) : Prop where
  waiting : ∀ p ∈ d.waiting, p.request.DeltaFits
  deeds : ∀ s delta row, .changedBalance s delta row ∈ d.deeds → delta.FitsColumn

theorem deltasFit_run {moves : List Move} (fits : ∀ m ∈ moves, m.DeltaFits) :
    (run moves).DeltasFit := by
  have asked : (run moves).Asked StoreRequest.DeltaFits := asked_run fun m hm => by
    have fits := fits m hm
    cases m <;> exact fits
  refine ⟨asked.waiting, fun s delta row hr => ?_⟩
  obtain ⟨r, now, st, fits, done_⟩ := asked.deeds _ hr
  exact Deed.deltaFits_of? fits done_

/-- Whatever clients do with a store, every committed balance is exactly the opening balance and the
deltas of the sessions that have committed, and every balance that an open session has staged is
exactly the committed one and the session's own deltas, from its first one on. -/
theorem balances_exact (moves : List Move) (fits : ∀ m ∈ moves, m.DeltaFits) :
    (∀ c ∈ (run moves).store.tables.accounts, ∃ o,
      Books.opening? (run moves).deeds c.id = some o ∧
        c.balance.units = o.balance.units + Books.settled (run moves).deeds c.id) ∧
    ∀ s x, (run moves).store.openSession? s = some x →
      (∀ row ∈ x.accounts, ∃ c,
        Table.find? row.id (run moves).store.tables.accounts = some c ∧
          row.balance.units = c.balance.units + Books.drafted (run moves).deeds s row.id) ∧
      ∀ delta after, .changedBalance s delta after ∈ (run moves).deeds →
        ∃ row, Table.find? after.id x.accounts = some row := by
  have deltas := (deltasFit_run fits).deeds
  have lawful := (orderly_run moves).lawful
  have books := (orderly_run moves).books
  have tables : (run moves).store.tables = (Books.replay (run moves).deeds).tables :=
    congrArg Books.tables books
  refine ⟨?_, ?_⟩
  · rw [tables]
    exact Books.settled_of_lawful lawful deltas
  · intro s x hx
    have draft := MemoryStore.drafts_of_open hx
    rw [books] at draft
    refine ⟨?_, ?_⟩
    · rw [tables]
      exact fun row hr => Books.staged_of_lawful lawful deltas draft hr
    · intro delta after hd
      exact Books.find?_of_changed lawful draft hd

/-- Two sessions change one account; the second waits for the first to commit. -/
def contended : List Move :=
  let now := Timestamp.ofMillis 0
  [.submit now (.query (.createAccount ⟨"ada", "USD", .whole 100⟩)),
    .submit now (.query (.createAccount ⟨"bob", "USD", .whole 50⟩)),
    .submit now .begin, .submit now .begin,
    .submit now (.perform 0 (.addBalance 1 (.whole 5))),
    .submit now (.perform 1 (.addBalance 1 (-.whole 7))),
    .submit now (.perform 0 .commit), .resume now 1,
    .submit now (.perform 1 (.addBalance 2 (.whole 7)))]

theorem balances_exact_contended :
    (∀ c ∈ (run contended).store.tables.accounts, ∃ o,
      Books.opening? (run contended).deeds c.id = some o ∧
        c.balance.units = o.balance.units + Books.settled (run contended).deeds c.id) ∧
    Books.commits (run contended).deeds = [0] ∧
    Books.drafted (run contended).deeds 1 1 = (-Decimal.whole 7).units ∧
    Books.settled (run contended).deeds 1 = (Decimal.whole 5).units :=
  ⟨(balances_exact contended (by decide)).1, by decide, by decide, by decide⟩

end Desk
end DoubleEntry
