import DoubleEntry.Proofs.Client.Reliance
import DoubleEntry.Proofs.Transfer.Outcome

/-!
What can become of a transfer that nothing cuts short, among any number of other clients. While its
accounts are there, the store refuses nothing that it asks for but a change of a balance, and that
only for what the account is at that time. So the transfer succeeds, or ends in the conflict that
the store has refused one of its two changes with.
-/

namespace DoubleEntry

/-- What a transfer may have done before it ends its session. -/
def Deed.Suits (r : TransferRequest) (s : SessionId) : Deed → Prop
  | drewTransaction _ t => t.fromId = r.fromId ∧ t.toId = r.toId
  | drewEntry _ e => e.accountId = r.fromId ∨ e.accountId = r.toId
  | committed t | rolledBack t | abandoned t => t ≠ s
  | began _ | changedBalance _ _ _ | opened _ | deleted _ => True

/-- What a transfer asks for besides the changes of its balances. -/
def SessionRequest.Suits (r : TransferRequest) : SessionRequest → Prop
  | insertTransaction new => new = r.toNewTransaction
  | insertEntry a amount => (a = r.fromId ∨ a = r.toId) ∧ amount.FitsColumn
  | commit | rollback => True
  | addBalance _ _ => False

namespace TransferRequest

open MemoryStore

/-- The session of the transfer was begun, and goes on. -/
structure IsUnderway (r : TransferRequest) (s : SessionId) (history : List Deed) : Prop where
  began : .began s ∈ history
  suits : ∀ d ∈ history, d.Suits r s

/-- A change of one of the balances was refused, for an account that was seen. -/
def Refused (r : TransferRequest) (seen : Int → Account → Prop) (e : Conflict) : Prop :=
  (∃ c, seen r.fromId c ∧ changed c (-r.amount) = .error e) ∨
    ∃ k, seen r.toId k ∧ changed k r.amount = .error e

variable {r : TransferRequest} {s : SessionId} {history : List Deed}

theorem isUnderway_began (r : TransferRequest) (s : SessionId) : r.IsUnderway s [.began s] where
  began := List.mem_singleton_self _
  suits d hd := by
    cases List.mem_singleton.mp hd
    trivial

theorem IsUnderway.append (h : r.IsUnderway s history) {ds : List Deed}
    (suits : ∀ d ∈ ds, d.Suits r s) : r.IsUnderway s (history ++ ds) where
  began := List.mem_append_left _ h.began
  suits := List.forall_mem_append.mpr ⟨h.suits, suits⟩

theorem IsUnderway.working (h : r.IsUnderway s history) : Working s history := by
  refine ⟨h.began, fun d hd ends => ?_⟩
  have suits := h.suits d hd
  cases d <;> first | exact suits ends | exact ends.elim

end TransferRequest

open MemoryStore in
/-- What the store promises a transfer: it goes on, it refuses nothing but a change of a balance,
and a first change of a balance it answers from the account that it has, which is one of those that
can be seen. -/
structure Moment.Favours (r : TransferRequest) (cancelAt : Option Nat)
    (seen : Int → Account → Prop) (history : List Deed) (m : Moment) : Prop where
  opens : ∀ timeout reply, m = .heard (.openWindow cancelAt timeout) reply → ∃ w, reply = .ok w
  goesOn : ∀ w p reply, m = .heard (.within w p) reply → ∃ answer, reply = .ok answer
  begins : ∀ answer : StoreRequest.begin.Reply, m.answer? = some ⟨.begin, answer⟩ →
    ∃ s, answer = .ok s
  serves : ∀ s op (answer : (StoreRequest.perform s op).Reply),
    m.answer? = some ⟨.perform s op, answer⟩ → op.Suits r → r.IsUnderway s history →
    ∃ value, answer = .ok value
  changes : ∀ s a delta (answer : (StoreRequest.perform s (.addBalance a delta)).Reply),
    m.answer? = some ⟨.perform s (.addBalance a delta), answer⟩ → a = r.fromId ∨ a = r.toId →
    r.IsUnderway s history → Books.deltas history s a = [] →
    ∃ c, seen a c ∧ answer = replyOf (changed c delta)

namespace Transfer

open Program MemoryStore UnitOfWork

variable {verbose : Bool} {r : TransferRequest} {cancelAt : Option Nat}
  {seen : Int → Account → Prop} {s : SessionId} {w : Window} {history : List Deed} {α β : Type}

/-- How the part of a body ends that the store favours: with a value, or with a conflict that the
store has refused a change of a balance with. The session goes on in both cases. -/
def Favoured (r : TransferRequest) (cancelAt : Option Nat) (seen : Int → Account → Prop)
    (s : SessionId) (w : Window) (history : List Deed) (body : Action (Paced LedgerStore) α)
    (post : List Deed → α → Prop) : Prop :=
  (body.toProgram.within w).Relies (Moment.Favours r cancelAt seen) (fun history outcome =>
    r.IsUnderway s history ∧ ((∃ value, outcome = .ok (.ok value) ∧ post history value) ∨
      ∃ e, outcome = .ok (.error (.conflict e)) ∧ r.Refused seen e)) history

theorem favoured_pure {post : List Deed → α → Prop} (h : r.IsUnderway s history) {value : α}
    (hv : post history value) : Favoured r cancelAt seen s w history (pure value) post :=
  ⟨h, .inl ⟨value, rfl, hv⟩⟩

theorem favoured_bind {mid : List Deed → β → Prop} {post : List Deed → α → Prop}
    {a : Action (Paced LedgerStore) β} {f : β → Action (Paced LedgerStore) α}
    (first : Favoured r cancelAt seen s w history a mid)
    (rest : ∀ history b, r.IsUnderway s history → mid history b →
      Favoured r cancelAt seen s w history (f b) post) :
    Favoured r cancelAt seen s w history (a >>= f) post := by
  have shape : (a >>= f).toProgram = a.toProgram.bind (ExceptT.bindCont f) := rfl
  rw [Favoured, shape, within_bind]
  refine relies_bind (relies_mono ?_ first)
  rintro history _ ⟨underway, ⟨b, rfl, known⟩ | ⟨e, rfl, refused⟩⟩
  · exact rest history b underway known
  · exact ⟨underway, .inr ⟨e, rfl, refused⟩⟩

/-- A row is written, which the store does not refuse. -/
theorem favoured_insert {op : SessionRequest} (h : r.IsUnderway s history) (suits : op.Suits r)
    (works : ∀ value, StoreRequest.Fits (.perform s op) (.ok value) →
      ∀ d ∈ (Deed.of? (.perform s op) (.ok value)).toList, d.Suits r s ∧ ∀ b, d.delta? s b = none) :
    Favoured r cancelAt seen s w history (op.ask s) fun after _ =>
      ∀ b, Books.deltas after s b = Books.deltas history s b := by
  have shape : (op.ask s).toProgram =
      ask (I := Paced LedgerStore) (.call (.perform s op)) done := rfl
  rw [Favoured, shape]
  simp only [within, Relies]
  intro reply fits favours
  cases reply with
  | error stop =>
      obtain ⟨_, no⟩ := favours.goesOn _ _ _ rfl
      cases no
  | ok answer =>
      obtain ⟨value, rfl⟩ := favours.serves s op answer rfl suits h
      have done_ := works value fits
      refine ⟨h.append fun d hd => (done_ d hd).1, .inl ⟨value, rfl, fun b => ?_⟩⟩
      change Books.deltas (history ++ (Deed.of? (.perform s op) (.ok value)).toList) s b = _
      rw [Books.deltas, List.filterMap_append,
        List.filterMap_eq_nil_iff.mpr fun d hd => (done_ d hd).2 b, List.append_nil]
      rfl

/-- Texts of all balances that can be seen, and of the amount. -/
structure Legible (r : TransferRequest) (seen : Int → Account → Prop) : Prop where
  amount : r.amount.HasText
  balances : ∀ a c, seen a c → c.balance.HasText

/-- A side of a transfer: an account, and what is added to its balance. -/
def IsSide (r : TransferRequest) (a : Int) (delta : Decimal) : Prop :=
  a = r.fromId ∧ delta = -r.amount ∨ a = r.toId ∧ delta = r.amount

theorem IsSide.refused {a : Int} {delta : Decimal} (side : IsSide r a delta) {c : Account}
    {e : Conflict} (sees : seen a c) (refused : changed c delta = .error e) : r.Refused seen e := by
  rcases side with ⟨rfl, rfl⟩ | ⟨rfl, rfl⟩
  · exact .inl ⟨c, sees, refused⟩
  · exact .inr ⟨c, sees, refused⟩

theorem IsSide.hasText {a : Int} {delta : Decimal} (side : IsSide r a delta)
    (text : r.amount.HasText) : delta.HasText := by
  rcases side with ⟨_, rfl⟩ | ⟨_, rfl⟩ <;> exact text

theorem favoured_applyDelta (legible : Legible r seen) (h : r.IsUnderway s history) {a : Int}
    {delta : Decimal} (side : IsSide r a delta) (untouched : Books.deltas history s a = []) :
    Favoured r cancelAt seen s w history (Balance.applyDelta verbose s a delta) fun after _ =>
      ∀ b, a ≠ b → Books.deltas after s b = Books.deltas history s b := by
  have asked : Favoured r cancelAt seen s w history ((SessionRequest.addBalance a delta).ask s)
      fun after found => ∃ row, found = some row ∧ row.balance.HasText ∧
        ∀ b, a ≠ b → Books.deltas after s b = Books.deltas history s b := by
    have shape : ((SessionRequest.addBalance a delta).ask s).toProgram =
        ask (I := Paced LedgerStore) (.call (.perform s (.addBalance a delta))) done := rfl
    rw [Favoured, shape]
    simp only [within, Relies]
    intro reply fits favours
    cases reply with
    | error stop =>
        obtain ⟨_, no⟩ := favours.goesOn _ _ _ rfl
        cases no
    | ok answer =>
        obtain ⟨c, sees, rfl⟩ :=
          favours.changes s a delta answer rfl (side.imp And.left And.left) h untouched
        cases made : changed c delta with
        | error e =>
            refine ⟨h.append fun d hd => ?_, .inr ⟨e, rfl, side.refused sees made⟩⟩
            cases hd
        | ok row =>
            rw [made] at fits
            have id : row.id = a := fits
            have text := hasText_changed (legible.balances a c sees)
              (side.hasText legible.amount) made
            refine ⟨h.append fun d hd => ?_, .inl ⟨some row, rfl, row, rfl, text, fun b ne => ?_⟩⟩
            · cases List.mem_singleton.mp hd
              trivial
            · change Books.deltas (history ++ [.changedBalance s delta row]) s b = _
              have other : Deed.delta? s b (.changedBalance s delta row) = none := by
                simp [Deed.delta?, id, ne]
              rw [Books.deltas_snoc, other, Option.toList_none, List.append_nil]
  refine favoured_bind asked ?_
  rintro history _ underway ⟨row, rfl, text, others⟩
  have told : Balance.reportBalance verbose a row.balance =
      Program.report (.balanceUpdated a row.balance) :=
    if_pos (Decimal.isLoggable_of_hasText text verbose)
  simp only [told]
  exact ⟨underway, .inl ⟨row, rfl, others⟩⟩

/-- In either order of the two accounts. -/
theorem favoured_applyTransfer (legible : Legible r seen) (valid : r.Valid)
    (h : r.IsUnderway s history) (untouched : ∀ a, Books.deltas history s a = []) :
    Favoured r cancelAt seen s w history (Balance.applyTransfer verbose s r.fromId r.toId r.amount)
      fun _ _ => True := by
  have debit : IsSide r r.fromId (-r.amount) := .inl ⟨rfl, rfl⟩
  have credit : IsSide r r.toId r.amount := .inr ⟨rfl, rfl⟩
  have both : ∀ {a b : Int} {first second : Decimal} (pair : Account → Account → Account × Account),
      IsSide r a first → IsSide r b second → a ≠ b →
      Favoured r cancelAt seen s w history (do
        let one ← Balance.applyDelta verbose s a first
        let other ← Balance.applyDelta verbose s b second
        pure (pair one other)) fun _ _ => True := by
    intro a b first second pair side side' ne
    refine favoured_bind (favoured_applyDelta legible h side (untouched a)) ?_
    intro history one underway others
    have still : Books.deltas history s b = [] := (others b ne).trans (untouched b)
    refine favoured_bind (favoured_applyDelta legible underway side' still) ?_
    exact fun history other underway _ => favoured_pure underway trivial
  simp only [Balance.applyTransfer]
  split
  · exact both Prod.mk debit credit valid.apart
  · exact both (fun destination source => (source, destination)) credit debit valid.apart.symm

theorem favoured_record (legible : Legible r seen) (valid : r.Valid) (s : SessionId) (w : Window) :
    Favoured r cancelAt seen s w [.began s] (record verbose r s) fun _ _ => True := by
  have begun := r.isUnderway_began s
  have drew : (SessionRequest.insertTransaction r.toNewTransaction).Suits r := rfl
  have debit : (SessionRequest.insertEntry r.fromId (-r.amount)).Suits r :=
    ⟨.inl rfl, Decimal.fitsColumn_neg valid.fits⟩
  have credit : (SessionRequest.insertEntry r.toId r.amount).Suits r := ⟨.inr rfl, valid.fits⟩
  refine favoured_bind (favoured_insert begun drew fun t fits d hd => ?_) ?_
  · cases List.mem_singleton.mp hd
    have same : t.toNewTransaction = r.toNewTransaction := fits
    refine ⟨?_, fun _ => rfl⟩
    simp only [Deed.Suits, same]
    exact ⟨rfl, rfl⟩
  intro history transaction underway first
  refine favoured_bind (favoured_insert underway debit fun e fits d hd => ?_) ?_
  · cases List.mem_singleton.mp hd
    exact ⟨.inl fits.1, fun _ => rfl⟩
  intro history fromEntry underway second
  refine favoured_bind (favoured_insert underway credit fun e fits d hd => ?_) ?_
  · cases List.mem_singleton.mp hd
    exact ⟨.inr fits.1, fun _ => rfl⟩
  intro history toEntry underway third
  refine favoured_bind (favoured_applyTransfer legible valid underway fun a => ?_) ?_
  · exact (third a).trans ((second a).trans (first a))
  · exact fun history sides underway _ => favoured_pure underway trivial

/-- How a transfer ends that the store favours. -/
def Prospect (r : TransferRequest) (seen : Int → Account → Prop)
    (outcome : Except LedgerError TransferResult) : Prop :=
  (∃ res, outcome = .ok res) ∨ ∃ e, outcome = .error (.conflict e) ∧ r.Refused seen e

theorem relies_conclude {outcome : Except LedgerError TransferResult} (h : r.IsUnderway s history)
    (ends : Prospect r seen outcome) :
    (conclude s outcome).Relies (Moment.Favours r cancelAt seen)
      (fun _ outcome => Prospect r seen outcome) history := by
  rcases ends with ⟨res, rfl⟩ | ⟨e, rfl, refused⟩
  · intro reply _ favours
    obtain ⟨_, rfl⟩ := favours.serves s .commit reply rfl trivial h
    exact fun _ _ _ => .inl ⟨res, rfl⟩
  · intro reply _ favours
    obtain ⟨_, rfl⟩ := favours.serves s .rollback reply rfl trivial h
    exact fun _ _ _ => .inr ⟨e, rfl, refused⟩

theorem relies_execute (legible : Legible r seen) (valid : r.Valid) (u : UnitOfWork) :
    (u.execute cancelAt fun s => record u.verbose r s).Relies (Moment.Favours r cancelAt seen)
      (fun _ outcome => Prospect r seen outcome) [] := by
  intro reply _ favours
  obtain ⟨s, rfl⟩ := favours.begins reply rfl
  change ((u.bounded cancelAt (record u.verbose r s)).bind
    fun outcome => conclude s outcome).Relies _ _ [.began s]
  refine relies_bind ?_
  intro opened _ favours
  obtain ⟨w, rfl⟩ := favours.opens _ _ rfl
  change (((record u.verbose r s).toProgram.within w).bind _).Relies _ _ [.began s]
  refine relies_bind (relies_mono ?_ (favoured_record legible valid s w))
  rintro history _ ⟨underway, ⟨res, rfl, _⟩ | ⟨e, rfl, refused⟩⟩
  · exact relies_conclude underway (.inl ⟨res, rfl⟩)
  · exact relies_conclude underway (.inr ⟨e, rfl, refused⟩)

/-- A transfer that the store favours does not halt, and succeeds unless a change of a balance was
refused. -/
theorem relies_transfer (legible : Legible r seen) (valid : r.Valid) (u : UnitOfWork) :
    (transfer u cancelAt r).Relies (Moment.Favours r cancelAt seen)
      (fun _ outcome => Prospect r seen outcome) [] := by
  have ran : (run u cancelAt r).Relies (Moment.Favours r cancelAt seen)
      (fun _ outcome => Prospect r seen outcome) [] :=
    relies_bind (p := u.execute cancelAt fun s => record u.verbose r s)
      (relies_mono (fun _ _ ends => ends) (relies_execute legible valid u))
  simp only [transfer, valid.accepted]
  exact relies_bind (p := run u cancelAt r) (relies_mono (fun _ _ ends => ends) ran)

end Transfer

namespace Traffic

open MemoryStore

variable {w : Traffic} {α : Type} {c : Client α} {s : SessionId} {r : TransferRequest}
  {cancelAt : Option Nat} {seen : Int → Account → Prop}

/-- The session of a transfer that is underway is open, and what it has written is for the accounts
of the transfer. -/
theorem openSession?_of_isUnderway (h : w.Coherent) (hc : ⟨α, c⟩ ∈ w.clients)
    (underway : r.IsUnderway s c.deeds) :
    ∃ x, w.desk.store.openSession? s = some x ∧
      (∀ e ∈ x.entries, e.accountId = r.fromId ∨ e.accountId = r.toId) ∧
      (∀ t ∈ x.transactions, t.fromId = r.fromId ∧ t.toId = r.toId) ∧
      ∀ a k, Books.deltas c.deeds s a = [] → Table.find? a w.tables.accounts = some k →
        w.desk.store.current? x a = some k := by
  have lawful := h.order.lawful
  have begun : s ∈ c.begun := List.mem_filterMap.mpr ⟨_, underway.began, rfl⟩
  have known := working_of_client h hc underway.working
  obtain ⟨y, hy⟩ := Option.isSome_iff_exists.mp (Books.isSome_drafts_of_working known)
  have drafted := hy
  rw [← h.order.books] at drafted
  obtain ⟨x, open_, rfl⟩ := openSession?_of_drafts drafted
  refine ⟨x, open_, fun e he => ?_, fun t ht => ?_, fun a k untouched found => ?_⟩
  · have staged : e ∈ Drawing.entries.staged x.draft := he
    rw [Drawing.staged_of_drafts Drawing.regular_entries lawful hy, Drawing.mem_of] at staged
    obtain ⟨d, hd, row⟩ := List.mem_filterMap.mp staged
    cases d <;> cases row
    exact underway.suits _ ((mem_deeds_iff h hc begun (beq_self_eq_true _)).mp hd)
  · have staged : t ∈ Drawing.transactions.staged x.draft := ht
    rw [Drawing.staged_of_drafts Drawing.regular_transactions lawful hy, Drawing.mem_of] at staged
    obtain ⟨d, hd, row⟩ := List.mem_filterMap.mp staged
    cases d <;> cases row
    exact underway.suits _ ((mem_deeds_iff h hc begun (beq_self_eq_true _)).mp hd)
  · refine current?_eq_some.mpr ?_
    cases staged : Table.find? a x.accounts with
    | none => exact .inr ⟨rfl, found⟩
    | some row =>
        obtain ⟨k', committed, redone⟩ := Books.redone_of_lawful lawful hy staged
        rw [← tables_eq h, found] at committed
        cases committed
        rw [← Books.deltas_filter, h.same ⟨α, c⟩ hc s begun, Books.deltas_filter, untouched]
          at redone
        cases redone
        exact .inl rfl

/-- In any traffic the store favours a transfer that nothing cuts short and whose accounts are
there, and sees the accounts that are committed at that time. -/
theorem favours_of_isPatient (h : w.Coherent) (hc : ⟨α, c⟩ ∈ w.clients) (valid : r.Valid)
    (there : w.tables.hasAccount r.fromId = true ∧ w.tables.hasAccount r.toId = true)
    (sees : ∀ s a k, r.IsUnderway s c.deeds → a = r.fromId ∨ a = r.toId →
      Table.find? a w.tables.accounts = some k → seen a k)
    {m : Moment} (patient : m.IsPatient cancelAt w.desk) : m.Favours r cancelAt seen c.deeds where
  opens := patient.opens
  goesOn := patient.goesOn
  begins answer heard := by
    obtain ⟨now, d', answers⟩ := patient.answered _ _ heard
    exact ⟨_, answers.reply_eq h.order⟩
  serves s op answer heard suits underway := by
    obtain ⟨now, d', answers⟩ := patient.answered _ _ heard
    obtain ⟨x, open_, entries, transactions, _⟩ := openSession?_of_isUnderway h hc underway
    rw [answers.reply_eq h.order]
    simp only [MemoryStore.answer, perform, open_]
    have account : ∀ a, a = r.fromId ∨ a = r.toId →
        w.desk.store.tables.hasAccount a = true := by
      rintro a (rfl | rfl)
      · exact there.1
      · exact there.2
    cases op with
    | insertTransaction new =>
        cases suits
        let row : Transaction :=
          { toNewTransaction := r.toNewTransaction, id := w.tables.transactionSeq + 1,
            createdAt := now }
        have check := TransferRequest.check_of_validate valid.accepted
        have drawn : w.desk.store.tables.drawTransaction now r.toNewTransaction =
            .ok (row, { w.tables with transactionSeq := w.tables.transactionSeq + 1 }) :=
          Tables.drawTransaction_eq_ok.mpr ⟨check, there.1, there.2, rfl, rfl⟩
        exact ⟨row, by simp only [insertTransaction, drawn]⟩
    | insertEntry a amount =>
        let row : Entry :=
          { id := w.tables.entrySeq + 1, accountId := a, amount := amount, createdAt := now }
        have drawn : w.desk.store.tables.drawEntry now a amount =
            .ok (row, { w.tables with entrySeq := w.tables.entrySeq + 1 }) :=
          Tables.drawEntry_eq_ok.mpr ⟨suits.2, account a suits.1, rfl, rfl⟩
        exact ⟨row, by simp only [insertEntry, drawn]⟩
    | addBalance a delta => exact suits.elim
    | commit =>
        have check : checkStaged w.desk.store.tables x = .ok () :=
          checkStaged_eq_ok.mpr ⟨fun e he => account _ (entries e he), fun t ht => by
            obtain ⟨source, destination⟩ := transactions t ht
            rw [source, destination]
            exact there⟩
        exact ⟨(), by simp only [commit, check]⟩
    | rollback => exact ⟨(), rfl⟩
  changes s a delta answer heard side underway untouched := by
    obtain ⟨now, d', answers⟩ := patient.answered _ _ heard
    obtain ⟨x, open_, _, _, current⟩ := openSession?_of_isUnderway h hc underway
    have account : ∃ k, Table.find? a w.tables.accounts = some k := by
      rcases side with rfl | rfl
      · exact Table.contains_iff_find?.mp there.1
      · exact Table.contains_iff_find?.mp there.2
    obtain ⟨k, found⟩ := account
    refine ⟨k, sees s a k underway side found, ?_⟩
    rw [answers.reply_eq h.order]
    simp only [MemoryStore.answer, perform, open_, addBalance, current a k untouched found]
    cases changed k delta <;> rfl

end Traffic
end DoubleEntry
