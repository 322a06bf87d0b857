import DoubleEntry.Proofs.Store.Growth
import DoubleEntry.Proofs.Transfer.Calls
import DoubleEntry.Proofs.Transfer.Sessions

/-!
Checked transfers never mix currencies. A check reads both accounts before the transfer begins, in
no session and under no lock, and either account may be deleted right after. What it has read stays
true all the same: an account was opened under its id once, in a currency that never changes, and
what is committed refers to accounts that are there.
-/

namespace DoubleEntry

/-- An account was opened under the id in the currency. -/
def Books.Opened (ds : List Deed) (id : Int) (currency : String) : Prop :=
  ∃ o ∈ openings ds, o.id = id ∧ o.currency = currency

theorem Books.mem_openings {ds : List Deed} {o : Account} :
    o ∈ openings ds ↔ .opened o ∈ ds := by
  refine List.mem_filterMap.trans ⟨fun h => ?_, fun h => ⟨_, h, rfl⟩⟩
  obtain ⟨d, hd, same⟩ := h
  cases d <;> cases same
  exact hd

theorem Books.opened_of_account {ds : List Deed} (h : Lawful ds) {c : Account}
    (hc : c ∈ (replay ds).tables.accounts) : Opened ds c.id c.currency := by
  obtain ⟨o, found, same⟩ := opening?_of_lawful h c hc
  obtain ⟨d, hd, is⟩ := List.exists_of_findSome?_eq_some found
  cases d with
  | opened account =>
      obtain ⟨id, at_⟩ := Option.ite_none_right_eq_some.mp is
      cases at_
      exact ⟨o, mem_openings.mpr hd, id, by rw [same]⟩
  | _ => cases is

/-- No id is opened in two currencies. -/
theorem Books.opened_unique {ds : List Deed} (h : Lawful ds) {id : Int} {first second : String}
    (h₁ : Opened ds id first) (h₂ : Opened ds id second) : first = second := by
  obtain ⟨o₁, mem₁, id₁, rfl⟩ := h₁
  obtain ⟨o₂, mem₂, id₂, rfl⟩ := h₂
  have distinct : ((openings ds).map Account.id).Nodup :=
    (ascending_openings h).1.imp fun lt same => absurd (same ▸ lt) (Int.lt_irrefl _)
  rw [List.inj_on_of_nodup_map distinct mem₁ mem₂ (id₁.trans id₂.symm)]

theorem OpeningRequest.isSupported_of_accepted {r : OpeningRequest} {new : NewAccount}
    (h : r.toNewAccount = .ok new) : Currency.isSupported new.currency = true := by
  rw [toNewAccount] at h
  obtain ⟨_, h⟩ := rule_eq_ok (fun no => by cases no) h
  obtain ⟨supported, h⟩ := rule_eq_ok (fun no => by cases no) h
  obtain ⟨_, h⟩ := rule_eq_ok (fun no => by cases no) h
  obtain ⟨_, h⟩ := rule_eq_ok (fun no => by cases no) h
  cases h
  exact Decidable.not_not.mp supported

/-- Only a request for a transaction draws one. -/
theorem Deed.drewTransaction_of? {r : StoreRequest} {answer : r.Reply} {s : SessionId}
    {t : Transaction} (h : Deed.of? r answer = some (.drewTransaction s t)) :
    ∃ new, (⟨r, answer⟩ : (r : StoreRequest) × r.Reply) =
      ⟨.perform s (.insertTransaction new), .ok t⟩ := by
  simp only [Deed.of?] at h
  split at h <;> cases h
  exact ⟨_, rfl⟩

/-- Only a request for an account opens one. -/
theorem Deed.opened_of? {r : StoreRequest} {answer : r.Reply} {o : Account}
    (h : Deed.of? r answer = some (.opened o)) :
    ∃ new, (⟨r, answer⟩ : (r : StoreRequest) × r.Reply) = ⟨.query (.createAccount new), .ok o⟩ := by
  simp only [Deed.of?] at h
  split at h <;> cases h
  exact ⟨_, rfl⟩

namespace Moment

/-- What is heard about accounts is true, at the time and ever after. -/
structure Known (ds : List Deed) (m : Moment) : Prop where
  fits {r : StoreRequest} {answer : r.Reply} (h : m.answer? = some ⟨r, answer⟩) : r.Fits answer
  account {id : Int} {a : Account}
    (h : m.answer? = some ⟨.query (.account id), .ok (some a)⟩) : Books.Opened ds id a.currency
  created {new : NewAccount} {a : Account}
    (h : m.answer? = some ⟨.query (.createAccount new), .ok a⟩) : a.currency = new.currency

/-- Transactions are drawn in the currency that both accounts were opened in, and if accounts are
opened with care, they are opened in supported currencies. -/
structure Sound (ds : List Deed) (care : Prop) (m : Moment) : Prop where
  drawn {s : SessionId} {t : Transaction} (h : .drewTransaction s t ∈ m.deeds) :
    Books.Opened ds t.fromId t.currency ∧ Books.Opened ds t.toId t.currency
  opened (h : care) {o : Account} (ho : .opened o ∈ m.deeds) :
    Currency.isSupported o.currency = true

end Moment

namespace Traffic

theorem known_of_run {choices : List Choice} {i : Nat} {m : Moment}
    (hm : m ∈ moments {} i choices) : m.Known (run choices).desk.deeds := by
  obtain ⟨before, choice, after, split, at_⟩ := step_of_moment hm
  have coherent : (run before).Coherent := coherent_run before
  have later : (run before).desk.deeds <+: (run choices).desk.deeds := by
    rw [split, run_split]
    exact deeds_runFrom coherent (choice :: after)
  refine ⟨fun h => (replies_of_moment? at_ h).1, fun {id a} h => ?_, fun {new a} h => ?_⟩
  · obtain ⟨_, now, answer⟩ := (replies_of_moment? at_ h).2.of_reads coherent.order rfl
    have found : Table.find? id (run before).tables.accounts = some a :=
      (Except.ok.inj answer).symm
    rw [tables_eq coherent] at found
    obtain ⟨o, ho, opened⟩ := Books.opened_of_account coherent.order.lawful
      (Table.mem_of_find? found)
    refine ⟨o, Books.mem_openings.mpr (later.subset (Books.mem_openings.mp ho)), ?_⟩
    exact Table.id_of_find? found ▸ opened
  · obtain ⟨now, answer⟩ := (replies_of_moment? at_ h).2.answer coherent.order rfl
    simp only [MemoryStore.answer, MemoryStore.query] at answer
    split at answer
    · rename_i created
      cases answer
      obtain ⟨_, rfl, _⟩ := Tables.createAccount_eq_ok created
      rfl
    · cases answer

end Traffic

namespace Program

variable {α β : Type} {ds : List Deed} {care : Prop}

/-- Whatever the program comes through is sound, as long as it hears what is known. -/
def Sound (ds : List Deed) (care : Prop) (p : Program (Timed LedgerStore) α) : Prop :=
  ∀ ms x, p.Leads ms x → (∀ m ∈ ms, m.Known ds) → ∀ m ∈ ms, m.Sound ds care

/-- The second part may rely on how the first has come to its end. -/
theorem sound_bind {p : Program (Timed LedgerStore) β} {f : β → Program (Timed LedgerStore) α}
    (first : p.Sound ds care)
    (rest : ∀ ms b, p.Leads ms (done b) → (∀ m ∈ ms, m.Known ds) → (f b).Sound ds care) :
    (p.bind f).Sound ds care := by
  intro ms x leads known
  rcases leads_bind leads with ⟨p', led, _⟩ | ⟨before, after, b, rfl, led, goes⟩
  · exact first ms p' led known
  · obtain ⟨early, late⟩ := List.forall_mem_append.mp known
    refine List.forall_mem_append.mpr ⟨first before _ led early, ?_⟩
    exact rest before b led early after x goes late

/-- To be sound it is enough to ask only for what is sound. -/
theorem sound_of_limited {p : Program (Timed LedgerStore) α} {P : StoreRequest → Prop}
    (h : p.Limited (fun _ => True) (TimedRequest.Asks P))
    (draws : ∀ s new, P (.perform s (.insertTransaction new)) →
      Books.Opened ds new.fromId new.currency ∧ Books.Opened ds new.toId new.currency)
    (opens : care → ∀ new, P (.query (.createAccount new)) →
      Currency.isSupported new.currency = true) : p.Sound ds care := by
  intro ms x leads known m hm
  have limited := (limited_of_leads h leads).1 m hm
  refine ⟨fun {s t} ht => ?_, fun careful {o} ho => ?_⟩
  · obtain ⟨r, answer, heard, does⟩ := Moment.exists_answer_of_mem ht
    obtain ⟨new, same⟩ := Deed.drewTransaction_of? does
    rw [same] at heard
    have speaks : t.toNewTransaction = new := (known m hm).fits heard
    exact speaks ▸ draws s new (Moment.asked_of_limited limited heard)
  · obtain ⟨r, answer, heard, does⟩ := Moment.exists_answer_of_mem ho
    obtain ⟨new, same⟩ := Deed.opened_of? does
    rw [same] at heard
    rw [(known m hm).created heard]
    exact opens careful new (Moment.asked_of_limited limited heard)

/-- A program that asks for nothing does nothing that could be wrong. -/
theorem sound_of_silent {p : Program (Timed LedgerStore) α}
    (h : p.Limited (fun _ => True) (TimedRequest.Asks fun _ => False)) : p.Sound ds care :=
  sound_of_limited h (fun _ _ no => False.elim no) fun _ _ no => False.elim no

end Program

/-- Programs of the service: checked transfers, with and without hooks, and queries of some kind.
Accounts may be opened by request at all times. -/
inductive ServiceProgram (Q : Query → Prop) :
    (α : Type) → Program (Timed LedgerStore) α → Prop where
  | asks {α : Type} {p : Program (Timed LedgerStore) α}
      (h : p.Limited (fun _ => True)
        (TimedRequest.Asks fun r => ∃ query, r = .query query ∧ Q query)) : ServiceProgram Q α p
  | opening (r : OpeningRequest) :
      ServiceProgram Q _ (Program.timed (AccountService.openAccount r).toProgram)
  | transfer (u : UnitOfWork) (r : TransferRequest) :
      ServiceProgram Q _ (CheckedTransfer.transfer u r)
  | hooked (u : UnitOfWork) (hook : CommitHook TransferResult) (r : TransferRequest)
      (hooks : ∀ res, ServiceProgram Q _ (hook res)) :
      ServiceProgram Q _ (CheckedTransfer.transferWithHook u hook r)
  | bind {α β : Type} {p : Program (Timed LedgerStore) β} {f : β → Program (Timed LedgerStore) α}
      (first : ServiceProgram Q β p) (rest : ∀ b, ServiceProgram Q α (f b)) :
      ServiceProgram Q α (p.bind f)

namespace CheckedTransfer

open Program

variable {ds : List Deed} {care : Prop} {r : TransferRequest}

/-- What comes after a check may rely on both accounts. -/
theorem sound_after {work : Program (Timed LedgerStore) (Except LedgerError TransferResult)}
    (h : Books.Opened ds r.fromId r.currency → Books.Opened ds r.toId r.currency →
      work.Sound ds care) : (after r work).Sound ds care := by
  have checks : (check r).Sound ds care :=
    sound_of_limited (limited_check r) (fun _ _ no => False.elim no) fun _ _ no => False.elim no
  refine sound_bind checks fun ms verdict led known => ?_
  cases verdict with
  | error e => exact sound_of_silent (p := done _) trivial
  | ok _ =>
      have opened : ∀ id, id = r.fromId ∨ id = r.toId → Books.Opened ds id r.currency := by
        intro id side
        obtain ⟨m, hm, a, heard, holds⟩ := heard_of_check led side
        exact holds ▸ (known m hm).account heard
      exact h (opened _ (.inl rfl)) (opened _ (.inr rfl))

theorem sound_transfer (u : UnitOfWork) (source : Books.Opened ds r.fromId r.currency)
    (destination : Books.Opened ds r.toId r.currency) :
    (Transfer.transfer u none r).Sound ds care := by
  refine sound_of_limited (Transfer.limited_transfer u none r) (fun s new same => ?_)
    fun _ _ no => False.elim no
  rw [show new = r.toNewTransaction from same]
  exact ⟨source, destination⟩

end CheckedTransfer

namespace Program

variable {α : Type} {ds : List Deed} {care : Prop}

theorem sound_openAccount (r : OpeningRequest) :
    (timed (AccountService.openAccount r).toProgram).Sound ds care := by
  let P : StoreRequest → Prop := fun q =>
    ∃ new, q = .query (.createAccount new) ∧ Currency.isSupported new.currency = true
  have limited : (AccountService.openAccount r).toProgram.Limited (I := LedgerStore)
      (fun _ => True) P := by
    simp only [AccountService.openAccount]
    split
    · trivial
    · rename_i new accepted
      refine limited_action ⟨⟨new, rfl, ?_⟩, fun _ => trivial⟩ fun account =>
        limited_action ⟨trivial, trivial⟩ fun _ => trivial
      exact OpeningRequest.isSupported_of_accepted accepted
  refine sound_of_limited (limited_timed limited) (fun s new no => ?_) fun _ new asked => ?_
  · obtain ⟨_, no, _⟩ := no
    cases no
  · obtain ⟨_, same, supported⟩ := asked
    cases same
    exact supported

theorem sound_of_service {Q : Query → Prop} {p : Program (Timed LedgerStore) α}
    (h : ServiceProgram Q α p) : p.Sound ds (∀ new, ¬ Q (.createAccount new)) := by
  induction h with
  | asks limited =>
      refine sound_of_limited limited (fun s new no => ?_) fun careful new asked => ?_
      · obtain ⟨_, no, _⟩ := no
        cases no
      · obtain ⟨_, same, allowed⟩ := asked
        cases same
        exact absurd allowed (careful new)
  | opening r => exact sound_openAccount r
  | transfer u r => exact CheckedTransfer.sound_after (CheckedTransfer.sound_transfer u)
  | hooked u hook r hooks ih =>
      refine CheckedTransfer.sound_after fun source destination => ?_
      refine sound_bind (CheckedTransfer.sound_transfer u source destination) ?_
      intro _ outcome _ _
      cases outcome with
      | error e => exact sound_of_silent (p := done _) trivial
      | ok res =>
          have hooked : (hook.run res).Sound ds (∀ new, ¬ Q (.createAccount new)) := by
            refine sound_bind (ih res) fun _ ended _ _ => ?_
            cases ended with
            | ok _ => exact sound_of_silent (p := done _) trivial
            | error text => exact sound_of_silent ⟨trivial, trivial, trivial⟩
          exact sound_bind hooked fun _ _ _ _ => sound_of_silent (p := done _) trivial
  | bind first rest ihFirst ihRest => exact sound_bind ihFirst fun _ b _ _ => ihRest b

end Program

namespace Traffic

/-- Whatever the service has drawn or opened is sound. -/
theorem sound_of_deed {Q : Query → Prop} {choices : List Choice}
    (starts : ∀ choice ∈ choices, choice.Starts (ServiceProgram Q)) {e : Deed}
    (he : e ∈ (run choices).desk.deeds) (session : ∀ s, e ≠ .abandoned s) :
    ∃ m : Moment, e ∈ m.deeds ∧
      m.Sound (run choices).desk.deeds (∀ new, ¬ Q (.createAccount new)) := by
  obtain ⟨⟨α, c⟩, hc, mine⟩ := (coherent_run choices).known e he
  obtain ⟨i, hi⟩ := List.getElem?_of_mem hc
  have service : ServiceProgram Q α c.program :=
    program_runFrom (fun _ no => by cases no) starts ⟨α, c⟩ hc
  have found : ∃ p', c.program.Leads (moments {} i choices) p' ∧
      e ∈ (moments {} i choices).flatMap Moment.deeds := by
    cases led_run hi with
    | stands at_ leads deeds => exact ⟨_, leads, deeds ▸ mine⟩
    | left at_ leads ends deeds =>
        refine ⟨_, leads, ?_⟩
        cases List.mem_append.mp (deeds ▸ mine) with
        | inl done => exact done
        | inr ended =>
            obtain ⟨s, _, rfl⟩ := List.mem_map.mp ended
            exact absurd rfl (session s)
  obtain ⟨p', leads, done⟩ := found
  obtain ⟨m, hm, he⟩ := List.mem_flatMap.mp done
  exact ⟨m, he, Program.sound_of_service service _ p' leads (fun m hm => known_of_run hm) m hm⟩

/-- In any run of the service the currency of a committed transaction is the one of both of its
accounts, which are there. It is a supported one if accounts are only opened by request. -/
theorem currencies_kept {Q : Query → Prop} {choices : List Choice}
    (starts : ∀ choice ∈ choices, choice.Starts (ServiceProgram Q)) :
    ∀ t ∈ (run choices).tables.transactions,
      (∃ source, Table.find? t.fromId (run choices).tables.accounts = some source ∧
        source.currency = t.currency) ∧
      (∃ destination, Table.find? t.toId (run choices).tables.accounts = some destination ∧
        destination.currency = t.currency) ∧
      ((∀ new, ¬ Q (.createAccount new)) → Currency.isSupported t.currency = true) := by
  have coherent : (run choices).Coherent := coherent_run choices
  have lawful := coherent.order.lawful
  rw [tables_eq coherent]
  intro t ht
  have drawn : ∃ s, .drewTransaction s t ∈ (run choices).desk.deeds := by
    have kept := (Drawing.rows_perm Drawing.regular_transactions lawful).mem_iff.mp ht
    obtain ⟨s, _, mine⟩ := List.mem_flatMap.mp kept
    obtain ⟨d, hd, row⟩ := List.mem_filterMap.mp (Drawing.mem_of.mp mine)
    cases d <;> cases row
    exact ⟨s, hd⟩
  obtain ⟨s, drew⟩ := drawn
  obtain ⟨m, hm, sound⟩ := sound_of_deed starts drew fun _ no => by cases no
  have sides := sound.drawn hm
  have there : ∀ id, (Books.replay (run choices).desk.deeds).tables.hasAccount id = true →
      Books.Opened (run choices).desk.deeds id t.currency →
      ∃ a, Table.find? id (Books.replay (run choices).desk.deeds).tables.accounts = some a ∧
        a.currency = t.currency := by
    intro id has opened
    obtain ⟨a, found⟩ := Table.contains_iff_find?.mp has
    refine ⟨a, found, Books.opened_unique lawful ?_ opened⟩
    exact Table.id_of_find? found ▸ Books.opened_of_account lawful (Table.mem_of_find? found)
  have ⟨source, destination⟩ := (Books.referenced_of_lawful lawful).transactions t ht
  refine ⟨there _ source sides.1, there _ destination sides.2, fun careful => ?_⟩
  obtain ⟨o, ho, _, currency⟩ := sides.1
  obtain ⟨m, hm, sound⟩ := sound_of_deed starts (Books.mem_openings.mp ho) fun _ no => by cases no
  exact currency ▸ sound.opened careful hm

/-- Two transfers have passed their checks when the destination of one of them is deleted. -/
def deletion : List Choice :=
  let now := Timestamp.ofMillis 0
  let opening (owner : String) : Choice :=
    .spawn (Program.timed
      (AccountService.openAccount ⟨owner, "USD", some (.whole 100)⟩).toProgram)
  let transfer (destination : Int) : Choice :=
    .spawn (CheckedTransfer.transfer .unbounded ⟨1, destination, .whole 30, "USD", "", .whole 1⟩)
  let check (i : Nat) : List Choice := [.turn i (.submit now), .turn i (.submit now)]
  let round : List Choice :=
    [.turn 4 (.think 0 0), .turn 4 (.submit now), .turn 5 (.think 0 0), .turn 5 (.submit now)]
  [opening "ada", opening "bob", opening "eve",
    .turn 0 (.submit now), .turn 1 (.submit now), .turn 2 (.submit now),
    .spawn (Program.callFree (I := LedgerStore) (.query (.deleteAccount 3))),
    transfer 2, transfer 3] ++ check 4 ++ check 5 ++ [.turn 3 (.submit now)] ++
    (List.replicate 16 round).flatten

theorem starts_deletion : ∀ choice ∈ deletion,
    choice.Starts (ServiceProgram fun q => ∀ new, q ≠ .createAccount new) := by
  intro choice hc
  simp only [deletion, List.mem_append, List.mem_cons, List.not_mem_nil, or_false] at hc
  rcases hc with (((first | checks) | checks) | deletes) | later
  · rcases first with rfl | rfl | rfl | rfl | rfl | rfl | rfl | rfl | rfl
    · exact .opening _
    · exact .opening _
    · exact .opening _
    · trivial
    · trivial
    · trivial
    · exact .asks ⟨⟨_, rfl, fun _ no => by cases no⟩, fun _ => trivial⟩
    · exact .transfer _ _
    · exact .transfer _ _
  · rcases checks with rfl | rfl <;> trivial
  · rcases checks with rfl | rfl <;> trivial
  · subst deletes
    trivial
  · obtain ⟨round, hr, mem⟩ := List.mem_flatten.mp later
    rw [List.eq_of_mem_replicate hr] at mem
    simp only [List.mem_cons, List.not_mem_nil, or_false] at mem
    rcases mem with rfl | rfl | rfl | rfl <;> trivial

theorem currencies_kept_deletion :
    (∀ choice ∈ deletion,
      choice.Starts (ServiceProgram fun q => ∀ new, q ≠ .createAccount new)) ∧
    (run deletion).tables.accounts.map (·.id) = [1, 2] ∧
    ∃ t, (run deletion).tables.transactions = [t] ∧
      (∃ source, Table.find? t.fromId (run deletion).tables.accounts = some source ∧
        source.currency = t.currency) ∧
      Currency.isSupported t.currency = true := by
  refine ⟨starts_deletion, by decide +kernel, ?_⟩
  have single : (run deletion).tables.transactions.length = 1 := by decide +kernel
  obtain ⟨t, only⟩ := List.length_eq_one_iff.mp single
  obtain ⟨source, _, supported⟩ :=
    currencies_kept starts_deletion t (only ▸ List.mem_singleton_self t)
  exact ⟨t, only, source, supported fun new no => no new rfl⟩

end Traffic
end DoubleEntry
