import DoubleEntry.Ledger.Account
import DoubleEntry.Ledger.Transaction
import DoubleEntry.Sql.Isolation
import DoubleEntry.Sql.Numeric

/-!
The statements that a ledger in a database consists of: their text, in which numbered places stand
for parameters, and the parameters.
-/

namespace DoubleEntry.Sql

inductive Parameter where
  | null
  | integer (n : Int)
  | text (s : String)
  | numeric (d : Decimal)
  deriving DecidableEq

def Parameter.ofText? : Option String → Parameter
  | none => null
  | some s => text s

structure Statement where
  text : String
  parameters : List Parameter := []
  deriving DecidableEq

namespace Statement

/-! Transactions. -/

def begin : Statement := ⟨"BEGIN", []⟩

def setIsolation (level : IsolationLevel) : Statement :=
  ⟨s!"SET TRANSACTION ISOLATION LEVEL {level.sql}", []⟩

/-- Bounds the wait for a row in this transaction. -/
def setLockTimeout (ms : Nat) : Statement := ⟨s!"SET LOCAL lock_timeout = '{ms}ms'", []⟩

def commit : Statement := ⟨"COMMIT", []⟩

def rollback : Statement := ⟨"ROLLBACK", []⟩

/-- Asks for nothing but an answer. -/
def healthCheck : Statement := ⟨"SELECT 1", []⟩

/-! Accounts. -/

def accountColumns : String := "id, owner, balance, currency, created_at"

def insertAccount (new : NewAccount) : Statement :=
  ⟨"INSERT INTO accounts (owner, balance, currency) VALUES ($1, $2, $3) RETURNING " ++
      accountColumns,
    [.text new.owner, .numeric new.balance, .text new.currency]⟩

def account (id : Int) : Statement :=
  ⟨"SELECT " ++ accountColumns ++ " FROM accounts WHERE id = $1", [.integer id]⟩

def accounts (owner : Option String) (limit offset : Int) : Statement :=
  ⟨"SELECT " ++ accountColumns ++ " FROM accounts WHERE ($1::text IS NULL OR owner = $1) " ++
      "ORDER BY id LIMIT $2 OFFSET $3",
    [.ofText? owner, .integer limit, .integer offset]⟩

/-- Changes a balance and locks its row until the transaction ends. -/
def addBalance (accountId : Int) (delta : Decimal) : Statement :=
  ⟨"UPDATE accounts SET balance = balance + $2 WHERE id = $1 RETURNING " ++ accountColumns,
    [.integer accountId, .numeric delta]⟩

def deleteAccount (id : Int) : Statement := ⟨"DELETE FROM accounts WHERE id = $1", [.integer id]⟩

/-! Entries. -/

def entryColumns : String := "id, account_id, amount, created_at"

def insertEntry (accountId : Int) (amount : Decimal) : Statement :=
  ⟨"INSERT INTO entries (account_id, amount) VALUES ($1, $2) RETURNING " ++ entryColumns,
    [.integer accountId, .numeric amount]⟩

def entry (id : Int) : Statement :=
  ⟨"SELECT " ++ entryColumns ++ " FROM entries WHERE id = $1", [.integer id]⟩

def entries (accountId limit offset : Int) : Statement :=
  ⟨"SELECT " ++ entryColumns ++ " FROM entries WHERE account_id = $1 ORDER BY id " ++
      "LIMIT $2 OFFSET $3",
    [.integer accountId, .integer limit, .integer offset]⟩

/-! Transactions of the ledger. -/

def transactionColumns : String :=
  "id, from_account_id, to_account_id, amount, fee, currency, description, created_at"

def insertTransaction (new : NewTransaction) : Statement :=
  ⟨"INSERT INTO transactions (from_account_id, to_account_id, amount, fee, currency, " ++
      "description) VALUES ($1, $2, $3, $4, $5, $6) RETURNING " ++ transactionColumns,
    [.integer new.fromId, .integer new.toId, .numeric new.amount, .numeric new.fee,
      .text new.currency, .text new.description]⟩

def transaction (id : Int) : Statement :=
  ⟨"SELECT " ++ transactionColumns ++ " FROM transactions WHERE id = $1", [.integer id]⟩

def transactions (accountId limit offset : Int) : Statement :=
  ⟨"SELECT " ++ transactionColumns ++ " FROM transactions WHERE from_account_id = $1 OR " ++
      "to_account_id = $1 ORDER BY id LIMIT $2 OFFSET $3",
    [.integer accountId, .integer limit, .integer offset]⟩

/-! The schema. -/

/-- Creates the tables and their indexes. -/
def schema : Statement :=
  ⟨" ".intercalate [
      "CREATE TABLE accounts (",
      "id BIGSERIAL PRIMARY KEY,",
      "owner VARCHAR NOT NULL,",
      "balance NUMERIC(20, 8) NOT NULL CHECK (balance >= 0),",
      "currency VARCHAR(3) NOT NULL,",
      "created_at TIMESTAMPTZ NOT NULL DEFAULT NOW()",
      ");",
      "CREATE TABLE entries (",
      "id BIGSERIAL PRIMARY KEY,",
      "account_id BIGINT NOT NULL REFERENCES accounts (id) ON DELETE RESTRICT,",
      "amount NUMERIC(20, 8) NOT NULL,",
      "created_at TIMESTAMPTZ NOT NULL DEFAULT NOW()",
      ");",
      "CREATE TABLE transactions (",
      "id BIGSERIAL PRIMARY KEY,",
      "from_account_id BIGINT NOT NULL REFERENCES accounts (id) ON DELETE RESTRICT,",
      "to_account_id BIGINT NOT NULL REFERENCES accounts (id) ON DELETE RESTRICT,",
      "amount NUMERIC(20, 8) NOT NULL CHECK (amount > 0),",
      "fee NUMERIC(20, 8) NOT NULL CHECK (fee > 0),",
      "currency VARCHAR(3) NOT NULL,",
      "description TEXT NOT NULL DEFAULT '',",
      "created_at TIMESTAMPTZ NOT NULL DEFAULT NOW()",
      ");",
      "CREATE INDEX idx_accounts_owner ON accounts (owner);",
      "CREATE INDEX idx_entries_account_id ON entries (account_id);",
      "CREATE INDEX idx_transactions_from_account_id ON transactions (from_account_id);",
      "CREATE INDEX idx_transactions_to_account_id ON transactions (to_account_id);"],
    []⟩

end Statement
end DoubleEntry.Sql
