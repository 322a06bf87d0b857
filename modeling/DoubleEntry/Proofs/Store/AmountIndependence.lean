import DoubleEntry.Proofs.Store.Desk
import DoubleEntry.Proofs.Store.HiddenAmounts

/-!
Desks that look alike, balances and amounts aside, in moves that are the same but for amounts. They
look alike afterwards as well. The replies tell nothing of the difference either, save one: a change
of a balance is refused for what the balance would be, and the refusal tells what that is.
-/

namespace DoubleEntry

namespace SessionRequest

/-- The same request, but perhaps for an amount that nothing is wrong with. -/
inductive Alike : SessionRequest → SessionRequest → Prop where
  | insertTransaction {new : NewTransaction} {amount : Decimal} (checked : new.check = .ok ())
      (checked' : { new with amount := amount }.check = .ok ()) :
      Alike (insertTransaction new) (insertTransaction { new with amount := amount })
  | insertEntry (a : Int) {amount amount' : Decimal} (fits : amount.FitsColumn)
      (fits' : amount'.FitsColumn) : Alike (insertEntry a amount) (insertEntry a amount')
  | addBalance (a : Int) (delta delta' : Decimal) : Alike (addBalance a delta) (addBalance a delta')
  | commit : Alike commit commit
  | rollback : Alike rollback rollback

theorem Alike.veiled_eq {op op' : SessionRequest} (h : op.Alike op') : op.veiled = op'.veiled := by
  cases h with
  | insertTransaction checked checked' =>
      simp only [veiled, NewTransaction.veiled, checked, checked']
  | insertEntry a fits fits' => simp only [veiled, Decimal.veiled, if_pos fits, if_pos fits']
  | addBalance a delta delta' => rfl
  | commit => rfl
  | rollback => rfl

end SessionRequest

/-- The refusal of a change of a balance that tells what the balance would be, or is. -/
inductive Conflict.TellsBalance : Conflict → Prop where
  | negative (a : Int) (balance : Decimal) : TellsBalance (negativeBalance a balance)
  | unfit (balance : Decimal) : TellsBalance (unfitValue "balance" balance)

namespace StoreRequest

/-- Requests of a client that has sessions only, and asks no queries. -/
inductive Alike : StoreRequest → StoreRequest → Prop where
  | begin : Alike begin begin
  | perform (s : SessionId) {op op' : SessionRequest} (h : op.Alike op') :
      Alike (perform s op) (perform s op')
  | abandon (s : SessionId) : Alike (abandon s) (abandon s)

/-- Replies to two requests of which both tell the same, balances and amounts aside. -/
inductive Told : (r r' : StoreRequest) → r.Reply → r'.Reply → Prop where
  | began (reply : begin.Reply) : Told begin begin reply reply
  | drewTransaction {s : SessionId} {new new' : NewTransaction} {t t' : Transaction}
      (fits : t.toNewTransaction = new) (fits' : t'.toNewTransaction = new') (same : t.id = t'.id) :
      Told (perform s (.insertTransaction new)) (perform s (.insertTransaction new')) (.ok t)
        (.ok t')
  | drewEntry {s : SessionId} {a : Int} {amount amount' : Decimal} (e e' : Entry) :
      Told (perform s (.insertEntry a amount)) (perform s (.insertEntry a amount')) (.ok e) (.ok e')
  | missing {s : SessionId} {a : Int} {delta delta' : Decimal} :
      Told (perform s (.addBalance a delta)) (perform s (.addBalance a delta')) (.ok none)
        (.ok none)
  | changed {s : SessionId} {a : Int} {delta delta' : Decimal} (c c' : Account) :
      Told (perform s (.addBalance a delta)) (perform s (.addBalance a delta')) (.ok (some c))
        (.ok (some c'))
  | committed (s : SessionId) : Told (perform s .commit) (perform s .commit) (.ok ()) (.ok ())
  | rolledBack (s : SessionId) : Told (perform s .rollback) (perform s .rollback) (.ok ()) (.ok ())
  | refused {s : SessionId} {op op' : SessionRequest} (e : LedgerError) :
      Told (perform s op) (perform s op') (.error e) (.error e)
  | abandoned (s : SessionId) : Told (abandon s) (abandon s) () ()

/-- A request in a session is refused for the same reason as the other, or both are answered. -/
theorem Told.perform_cases {s : SessionId} {op op' : SessionRequest}
    {reply : Except LedgerError op.Reply} {reply' : Except LedgerError op'.Reply}
    (h : Told (perform s op) (perform s op') reply reply') :
    (∃ e, reply = .error e ∧ reply' = .error e) ∨ ∃ a a', reply = .ok a ∧ reply' = .ok a' := by
  cases h with
  | refused e => exact .inl ⟨e, rfl, rfl⟩
  | _ => exact .inr ⟨_, _, rfl, rfl⟩

/-- A change of a balance that is refused for the balance. -/
inductive BalanceRefused : (r : StoreRequest) → r.Reply → Prop where
  | intro (s : SessionId) (a : Int) (delta : Decimal) {e : Conflict} (tells : e.TellsBalance) :
      BalanceRefused (perform s (.addBalance a delta)) (.error (.conflict e))

theorem Alike.veiled_eq {r r' : StoreRequest} (h : r.Alike r') : r.veiled = r'.veiled := by
  cases h with
  | begin => rfl
  | perform s h => exact congrArg (StoreRequest.perform s) h.veiled_eq
  | abandon s => rfl

end StoreRequest

namespace MemoryStore

open StoreRequest

variable {st st' : MemoryStore} {s : SessionId}

theorem tellsBalance_of_changed {c : Account} {delta : Decimal} {e : Conflict}
    (h : changed c delta = .error e) : e.TellsBalance := by
  simp only [changed] at h
  split at h
  · cases h
    exact .unfit _
  · rename_i balance _
    simp only [checkColumn] at h
    split at h
    · split at h
      · cases h
        exact .negative _ _
      · cases h
    · cases h
      exact .unfit _

/-- A session is open in both stores, or in neither. -/
theorem openSession?_cases (look : st.veiled = st'.veiled) (s : SessionId) :
    (st.openSession? s = none ∧ st'.openSession? s = none) ∨
      ∃ x x', st.openSession? s = some x ∧ st'.openSession? s = some x' ∧
        x.veiled = x'.veiled := by
  have same := openSession?_veiled st s
  rw [look, openSession?_veiled] at same
  cases hx : st.openSession? s with
  | none =>
      rw [hx, Option.map_none, Option.map_eq_none_iff] at same
      exact .inl ⟨rfl, same⟩
  | some x =>
      rw [hx, Option.map_some] at same
      obtain ⟨x', hx', alike⟩ := Option.map_eq_some_iff.mp same
      exact .inr ⟨x, x', rfl, hx', alike.symm⟩

/-- Replies that tell the same, or at least one of them refuses a change of a balance. -/
def ToldBut (r r' : StoreRequest) (reply : r.Reply) (reply' : r'.Reply) : Prop :=
  Told r r' reply reply' ∨ BalanceRefused r reply ∨ BalanceRefused r' reply'

theorem told_draws (look : st.veiled = st'.veiled) (now : Timestamp) (s : SessionId)
    (x x' : Session) {new : NewTransaction} {amount : Decimal} (checked : new.check = .ok ())
    (checked' : { new with amount := amount }.check = .ok ()) :
    Told (.perform s (.insertTransaction new))
      (.perform s (.insertTransaction { new with amount := amount }))
      (st.insertTransaction now s x new).1
      (st'.insertTransaction now s x' { new with amount := amount }).1 := by
  have tables : st.tables.veiled = st'.tables.veiled := congrArg MemoryStore.tables look
  have seqs := congrArg Tables.transactionSeq tables
  have sides : st.tables.checkSides new = st'.tables.checkSides { new with amount := amount } := by
    rw [← Tables.checkSides_veiled, tables, Tables.checkSides_veiled]
    rfl
  simp only [insertTransaction, Tables.drawTransaction, checked, checked', sides]
  cases st'.tables.checkSides { new with amount := amount } with
  | error c => exact .refused _
  | ok _ => exact .drewTransaction rfl rfl (congrArg (· + 1) seqs)

/-- Whether an account is there to be changed is the same, and all else is up to its balance. -/
theorem told_addBalance (look : st.veiled = st'.veiled) (rooted : st.Rooted)
    (rooted' : st'.Rooted) {x x' : Session} (hx : st.session? s = some x)
    (hx' : st'.session? s = some x') (a : Int) (delta delta' : Decimal) :
    ToldBut (.perform s (.addBalance a delta)) (.perform s (.addBalance a delta'))
      (st.addBalance s x a delta).1 (st'.addBalance s x' a delta').1 := by
  have tables : st.tables.veiled = st'.tables.veiled := congrArg MemoryStore.tables look
  have present : (st.current? x a).isSome = (st'.current? x' a).isSome := by
    rw [isSome_current? rooted hx, isSome_current? rooted' hx', ← Tables.hasAccount_veiled,
      tables, Tables.hasAccount_veiled]
  simp only [addBalance]
  cases found : st.current? x a with
  | none =>
      rw [found] at present
      have missing : st'.current? x' a = none :=
        Option.isNone_iff_eq_none.mp (Option.isSome_eq_false_iff.mp present.symm)
      rw [missing]
      exact .inl .missing
  | some c =>
      rw [found] at present
      obtain ⟨c', found'⟩ := Option.isSome_iff_exists.mp present.symm
      rw [found']
      cases made : changed c delta with
      | error e =>
          simp only [made]
          exact .inr (.inl (.intro s a delta (tellsBalance_of_changed made)))
      | ok row =>
          cases made' : changed c' delta' with
          | error e =>
              simp only [made, made']
              exact .inr (.inr (.intro s a delta' (tellsBalance_of_changed made')))
          | ok row' =>
              simp only [made, made']
              exact .inl (.changed row row')

theorem told_perform (look : st.veiled = st'.veiled) (rooted : st.Rooted) (rooted' : st'.Rooted)
    (now : Timestamp) (s : SessionId) {op op' : SessionRequest} (alike : op.Alike op') :
    ToldBut (.perform s op) (.perform s op') (st.perform now s op).1 (st'.perform now s op').1 := by
  have tables : st.tables.veiled = st'.tables.veiled := congrArg MemoryStore.tables look
  simp only [perform]
  rcases openSession?_cases look s with ⟨hx, hx'⟩ | ⟨x, x', hx, hx', same⟩
  · rw [hx, hx']
    exact .inl (.refused _)
  · rw [hx, hx']
    cases alike with
    | insertTransaction checked checked' =>
        exact .inl (told_draws look now s x x' checked checked')
    | insertEntry a fits fits' =>
        have there : st.tables.checkAccount .entries a = st'.tables.checkAccount .entries a := by
          rw [← Tables.checkAccount_veiled, tables, Tables.checkAccount_veiled]
        simp only [insertEntry, Tables.drawEntry, checkColumn, if_pos fits, if_pos fits', there]
        cases st'.tables.checkAccount .entries a with
        | error c => exact .inl (.refused _)
        | ok _ => exact .inl (.drewEntry _ _)
    | addBalance a delta delta' =>
        exact told_addBalance look rooted rooted' (openSession?_eq_some.mp hx).1
          (openSession?_eq_some.mp hx').1 a delta delta'
    | commit =>
        have same : checkStaged st.tables x = checkStaged st'.tables x' := by
          rw [← checkStaged_veiled, tables, same, checkStaged_veiled]
        simp only [commit, same]
        cases checkStaged st'.tables x' with
        | error c => exact .inl (.refused _)
        | ok _ => exact .inl (.committed s)
    | rollback => exact .inl (.rolledBack s)

/-- Stores that look alike tell the same, but for a balance that they refuse. -/
theorem told_answer (look : st.veiled = st'.veiled) (rooted : st.Rooted) (rooted' : st'.Rooted)
    (now : Timestamp) {r r' : StoreRequest} (alike : r.Alike r') :
    ToldBut r r' (st.answer now r).1 (st'.answer now r').1 := by
  cases alike with
  | begin =>
      have next := congrArg MemoryStore.nextSession look
      simp only [answer, begin, show st.nextSession = st'.nextSession from next]
      exact .inl (.began _)
  | perform s h => exact told_perform look rooted rooted' now s h
  | abandon s => exact .inl (.abandoned s)

end MemoryStore

def Pending.veiled (p : Pending) : Pending := { p with request := p.request.veiled }

namespace Desk

open StoreRequest

variable {d d' : Desk} {now : Timestamp} {r r' : StoreRequest} {ticket : Nat}

/-- What shows of a desk without balances and amounts. What was done at it does not. -/
def veiled (d : Desk) : Desk :=
  { store := d.store.veiled, waiting := d.waiting.map Pending.veiled }

theorem rooted (order : d.Orderly) : d.store.Rooted :=
  MemoryStore.rooted_of_orderly order.store (order.books.symm ▸ Books.sound_replay order.lawful)

theorem session?_veiled (r : StoreRequest) : r.veiled.session? = r.session? := by
  cases r <;> rfl

theorem isBusy_veiled (d : Desk) (r : StoreRequest) : d.veiled.isBusy r.veiled = d.isBusy r := by
  simp only [isBusy, veiled, List.any_map, session?_veiled]
  refine congrArg (List.any d.waiting) (funext fun p => ?_)
  simp only [Function.comp, Pending.veiled, session?_veiled]

theorem veiled_dismiss (d : Desk) (ticket : Nat) :
    (d.dismiss ticket).veiled = d.veiled.dismiss ticket := by
  simp only [dismiss, veiled, List.filter_map]
  rfl

/-- What shows of a request that is taken in: whether it waits, and how the desk looks then. -/
def shown {α : Type} (p : Submission Nat α × Desk) : Option Nat × Desk := (p.1.ticket?, p.2.veiled)

theorem submit?_alike (order : d.Orderly) (order' : d'.Orderly) (look : d.veiled = d'.veiled)
    (alike : r.veiled = r'.veiled) (now : Timestamp) :
    (d.submit? now r).map shown = (d'.submit? now r').map shown := by
  have stores : d.store.veiled = d'.store.veiled := congrArg Desk.store look
  have waiting := congrArg Desk.waiting look
  have busy : d.isBusy r = d'.isBusy r' := by rw [← isBusy_veiled, look, alike, isBusy_veiled]
  have taken := MemoryStore.veiled_submit (rooted order) now r
  rw [stores, alike, ← MemoryStore.veiled_submit (rooted order') now r'] at taken
  simp only [submit?, busy]
  split
  · rfl
  · generalize d.store.submit now r = made at taken
    generalize d'.store.submit now r' = made' at taken
    obtain ⟨reply, store⟩ := made
    obtain ⟨reply', store'⟩ := made'
    obtain ⟨ticket, after⟩ := Prod.mk.inj taken
    dsimp only at after
    cases reply with
    | answered reply =>
        cases reply' with
        | waiting n => cases ticket
        | answered reply' =>
            refine congrArg some (congrArg (Prod.mk none) ?_)
            exact congrArg₂ (Desk.mk · · []) after waiting
    | waiting n =>
        cases reply' with
        | answered reply' => cases ticket
        | waiting n' =>
            cases ticket
            refine congrArg some (congrArg (Prod.mk (some n)) ?_)
            refine congrArg₂ (Desk.mk · · []) after ?_
            simp only [List.map_append, List.map_cons, List.map_nil, Pending.veiled, alike]
            exact congrArg (· ++ _) waiting

theorem record_alike {reply : r.Reply} {reply' : r'.Reply} {store store' : MemoryStore}
    (look : d.veiled = d'.veiled) (after : store.veiled = store'.veiled) :
    (d.record r reply store).veiled = (d'.record r' reply' store').veiled :=
  congrArg₂ (Desk.mk · · []) after (congrArg Desk.waiting look)

theorem dismiss_alike (look : d.veiled = d'.veiled) (ticket : Nat) :
    (d.dismiss ticket).veiled = (d'.dismiss ticket).veiled := by
  rw [veiled_dismiss, look, veiled_dismiss]

theorem isGranted_alike (look : d.veiled = d'.veiled) (ticket : Nat) :
    d.store.isGranted ticket = d'.store.isGranted ticket := by
  have same : d.veiled.store.isGranted ticket = d'.veiled.store.isGranted ticket := by rw [look]
  exact same

theorem resume?_alike (order : d.Orderly) (order' : d'.Orderly) (look : d.veiled = d'.veiled)
    (alike : r.veiled = r'.veiled) (there : ⟨ticket, r⟩ ∈ d.waiting)
    (there' : ⟨ticket, r'⟩ ∈ d'.waiting) (now : Timestamp) :
    (d.resume? now r ticket).map (·.2.veiled) = (d'.resume? now r' ticket).map (·.2.veiled) := by
  have stores : d.store.veiled = d'.store.veiled := congrArg Desk.store look
  have granted := isGranted_alike look ticket
  have after := MemoryStore.veiled_resume (rooted order) now r ticket
  rw [stores, alike, ← MemoryStore.veiled_resume (rooted order') now r' ticket] at after
  simp only [resume?, there, there', granted, true_and]
  split
  · exact congrArg some (dismiss_alike (record_alike look after) ticket)
  · rfl

theorem expire?_alike (look : d.veiled = d'.veiled) (alike : r.veiled = r'.veiled)
    (there : ⟨ticket, r⟩ ∈ d.waiting) (there' : ⟨ticket, r'⟩ ∈ d'.waiting) :
    (d.expire? r ticket).map (·.2.veiled) = (d'.expire? r' ticket).map (·.2.veiled) := by
  have stores : d.store.veiled = d'.store.veiled := congrArg Desk.store look
  have granted := isGranted_alike look ticket
  have after := MemoryStore.veiled_expire d.store r ticket
  rw [stores, alike, ← MemoryStore.veiled_expire d'.store r' ticket] at after
  simp only [expire?, there, there', granted, true_and]
  split
  · exact congrArg some (dismiss_alike (record_alike look after) ticket)
  · rfl

theorem veiled_desert (d : Desk) (ticket : Nat) :
    (d.desert ticket).veiled = d.veiled.desert ticket := by
  have there : d.veiled.waiting.any (·.ticket == ticket) = d.waiting.any (·.ticket == ticket) := by
    simp only [veiled, List.any_map]
    rfl
  have gone := veiled_dismiss d ticket
  simp only [desert, there]
  split
  · exact congrArg (fun left : Desk => { left with store := d.store.veiled.desert ticket }) gone
  · rfl

/-- Somebody waits with a ticket at both desks, with requests that look alike, or at neither. -/
theorem find?_cases (look : d.veiled = d'.veiled) (ticket : Nat) :
    (d.waiting.find? (·.ticket == ticket) = none ∧ d'.waiting.find? (·.ticket == ticket) = none) ∨
      ∃ p p', d.waiting.find? (·.ticket == ticket) = some p ∧
        d'.waiting.find? (·.ticket == ticket) = some p' ∧ p.request.veiled = p'.request.veiled ∧
        ⟨ticket, p.request⟩ ∈ d.waiting ∧ ⟨ticket, p'.request⟩ ∈ d'.waiting := by
  have veils (d : Desk) : d.veiled.waiting.find? (·.ticket == ticket) =
      (d.waiting.find? (·.ticket == ticket)).map Pending.veiled := List.find?_map ..
  have waits {d : Desk} {p : Pending} (found : d.waiting.find? (·.ticket == ticket) = some p) :
      ⟨ticket, p.request⟩ ∈ d.waiting := by
    have same : p.ticket = ticket := by simpa using List.find?_some found
    exact same ▸ List.mem_of_find?_eq_some found
  have same := veils d
  rw [look, veils] at same
  cases found : d.waiting.find? (·.ticket == ticket) with
  | none =>
      rw [found, Option.map_none, Option.map_eq_none_iff] at same
      exact .inl ⟨rfl, same⟩
  | some p =>
      rw [found, Option.map_some] at same
      obtain ⟨p', found', alike⟩ := Option.map_eq_some_iff.mp same
      refine .inr ⟨p, p', rfl, found', ?_, waits found, waits found'⟩
      exact congrArg Pending.request alike.symm

theorem getD_alike {α β : Type} {left : Option (α × Desk)} {left' : Option (β × Desk)}
    (look : d.veiled = d'.veiled) (h : left.map (·.2.veiled) = left'.map (·.2.veiled)) :
    ((left.map (·.2)).getD d).veiled = ((left'.map (·.2)).getD d').veiled := by
  cases left with
  | none =>
      cases left' with
      | none => exact look
      | some p' => cases h
  | some p =>
      cases left' with
      | none => cases h
      | some p' => exact Option.some.inj h

/-- The same move leaves desks looking alike that looked alike before. -/
theorem step_alike (order : d.Orderly) (order' : d'.Orderly) (look : d.veiled = d'.veiled)
    (m : Move) : (d.step m).veiled = (d'.step m).veiled := by
  cases m with
  | submit now r =>
      refine getD_alike look ?_
      have taken := congrArg (Option.map (·.2)) (submit?_alike order order' look (r := r) rfl now)
      rwa [Option.map_map, Option.map_map] at taken
  | resume now ticket =>
      simp only [step]
      rcases find?_cases look ticket with
        ⟨none_, none_'⟩ | ⟨p, p', found, found', alike, there, there'⟩
      · rw [none_, none_']
        exact look
      · rw [found, found']
        exact getD_alike look (resume?_alike order order' look alike there there' now)
  | expire ticket =>
      simp only [step]
      rcases find?_cases look ticket with
        ⟨none_, none_'⟩ | ⟨p, p', found, found', alike, there, there'⟩
      · rw [none_, none_']
        exact look
      · rw [found, found']
        exact getD_alike look (expire?_alike look alike there there')
  | desert ticket =>
      simp only [step]
      rw [veiled_desert, look, veiled_desert]

end Desk
end DoubleEntry
