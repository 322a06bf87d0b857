import DoubleEntry.Error.Basic
import DoubleEntry.Ledger.Currency
import DoubleEntry.Store.Table

/-!
The committed state of a store: three tables, and the sequences that their ids are drawn from. An id
once drawn is never drawn again, whether or not its row is ever committed.
-/

namespace DoubleEntry

structure Tables where
  accounts : List Account := []
  entries : List Entry := []
  transactions : List Transaction := []
  accountSeq : Int := 0
  entrySeq : Int := 0
  transactionSeq : Int := 0
  deriving DecidableEq, Inhabited

/-- The column that holds amounts keeps this value. -/
def checkColumn (column : String) (d : Decimal) : Except Conflict Unit :=
  if d.FitsColumn then .ok () else .error (.unfitValue column d)

/-- The column that holds currencies keeps this code. -/
def checkCurrency (code : String) : Except Conflict Unit :=
  if code.utf8ByteSize ≤ Currency.codeLength then .ok () else .error (.longCurrency code)

/-- The rules of the schema that a new transaction can break by itself. -/
def NewTransaction.check (new : NewTransaction) : Except Conflict Unit := do
  if new.amount ≤ Decimal.zero then throw .amountNotPositive
  if new.fee ≤ Decimal.zero then throw .feeNotPositive
  checkColumn "amount" new.amount
  checkColumn "fee" new.fee
  checkCurrency new.currency

def NewAccount.check (new : NewAccount) : Except Conflict Unit := do
  if new.balance < Decimal.zero then throw .negativeOpening
  checkColumn "balance" new.balance
  checkCurrency new.currency

namespace Tables

def hasAccount (t : Tables) (id : Int) : Bool := Table.contains id t.accounts

/-- Some committed entry or transaction refers to the account. -/
def isReferenced (t : Tables) (id : Int) : Bool :=
  t.entries.any (·.accountId == id) || t.transactions.any (·.involves id)

/-- A row of `table` may refer to the account. -/
def checkAccount (t : Tables) (table : TableName) (id : Int) : Except Conflict Unit :=
  if t.hasAccount id then .ok () else .error (.missingAccount table id)

/-- Both sides of a transaction exist, the source checked first. -/
def checkSides (t : Tables) (new : NewTransaction) : Except Conflict Unit := do
  t.checkAccount .transactions new.fromId
  t.checkAccount .transactions new.toId

/-- Draws an id for an account and puts the account in the table. -/
def createAccount (now : Timestamp) (new : NewAccount) (t : Tables) :
    Except Conflict (Account × Tables) := do
  new.check
  let account : Account :=
    { id := t.accountSeq + 1, owner := new.owner, balance := new.balance,
      currency := new.currency, createdAt := now }
  pure (account,
    { t with accounts := Table.insert account t.accounts, accountSeq := t.accountSeq + 1 })

/-- Removes an account without history; says whether there was one. -/
def deleteAccount (id : Int) (t : Tables) : Except Conflict (Bool × Tables) :=
  if !t.hasAccount id then .ok (false, t)
  else if t.isReferenced id then .error (.referencedAccount id)
  else .ok (true, { t with accounts := Table.erase id t.accounts })

/-- Draws an id for a transaction, which is not put in the table yet. -/
def drawTransaction (now : Timestamp) (new : NewTransaction) (t : Tables) :
    Except Conflict (Transaction × Tables) := do
  new.check
  t.checkSides new
  let transaction : Transaction :=
    { toNewTransaction := new, id := t.transactionSeq + 1, createdAt := now }
  pure (transaction, { t with transactionSeq := t.transactionSeq + 1 })

/-- Draws an id for an entry, which is not put in the table yet. -/
def drawEntry (now : Timestamp) (accountId : Int) (amount : Decimal) (t : Tables) :
    Except Conflict (Entry × Tables) := do
  checkColumn "amount" amount
  t.checkAccount .entries accountId
  let entry : Entry :=
    { id := t.entrySeq + 1, accountId := accountId, amount := amount, createdAt := now }
  pure (entry, { t with entrySeq := t.entrySeq + 1 })

/-- Sets the balance of an account, if there is one. -/
def setBalance (id : Int) (balance : Decimal) (accounts : List Account) : List Account :=
  accounts.map fun a => if a.id = id then { a with balance := balance } else a

def accountsOf (t : Tables) (owner : Option String) : List Account :=
  t.accounts.filter fun a => owner.all (a.owner == ·)

def entriesOf (t : Tables) (accountId : Int) : List Entry :=
  t.entries.filter (·.accountId == accountId)

def transactionsOf (t : Tables) (accountId : Int) : List Transaction :=
  t.transactions.filter (·.involves accountId)

end Tables
end DoubleEntry
