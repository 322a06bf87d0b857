import DoubleEntry.Text.Quoted

/-!
What a connection to a database can report instead of an answer.
-/

namespace DoubleEntry

/-- Why the value of a column could not be read. -/
inductive DecodeFault where
  | unexpectedNull
  | notANumber
  | tooManyDigits
  deriving DecidableEq, Repr

def DecodeFault.message : DecodeFault → String
  | unexpectedNull => "unexpected null; try decoding as an `Option`"
  | notANumber => "Decimal does not support NaN values"
  | tooManyDigits => "value not representable as rust_decimal::Decimal"

inductive DatabaseFailure where
  /-- The database answered with an error, perhaps with the code of its class. -/
  | refused (code : Option String) (message : String)
  | rowNotFound
  | poolTimedOut
  | poolClosed
  | workerCrashed
  | protocol (message : String)
  | columnNotFound (name : String)
  | typeNotFound (name : String)
  | undecodable (column : String) (fault : DecodeFault)
  | configuration (message : String)
  | unreachable (message : String)
  /-- The server does not encrypt, although the connection has to be encrypted. -/
  | unencrypted
  deriving DecidableEq, Repr

namespace DatabaseFailure

def message : DatabaseFailure → String
  | refused _ text => s!"error returned from database: {text}"
  | rowNotFound => "no rows returned by a query that expected to return at least one row"
  | poolTimedOut => "pool timed out while waiting for an open connection"
  | poolClosed => "attempted to acquire a connection on a closed pool"
  | workerCrashed => "attempted to communicate with a crashed background worker"
  | protocol text => s!"encountered unexpected or invalid data: {text}"
  | columnNotFound name => s!"no column found for name: {name}"
  | typeNotFound name => s!"type named {name} not found"
  | undecodable column fault =>
      s!"error occurred while decoding column {Text.quoted column}: {fault.message}"
  | configuration text => s!"error with configuration: {text}"
  | unreachable text => s!"error communicating with database: {text}"
  | unencrypted =>
      "error occurred while attempting to establish a TLS connection: server does not support TLS"

def code? : DatabaseFailure → Option String
  | refused code _ => code
  | _ => none

end DatabaseFailure

/-- Why the bundled schema could not be applied. Versions name migrations. -/
inductive MigrationFailure where
  | missing (version : Int)
  | changed (version : Int)
  | unfinished (version : Int)
  | execution (failure : DatabaseFailure)
  deriving DecidableEq, Repr

def MigrationFailure.message : MigrationFailure → String
  | missing v => s!"migration {v} was previously applied but is missing in the resolved migrations"
  | changed v => s!"migration {v} was previously applied but has been modified"
  | unfinished v =>
      s!"migration {v} is partially applied; fix and remove row from `_sqlx_migrations` table"
  | execution failure => s!"while executing migrations: {failure.message}"

end DoubleEntry
