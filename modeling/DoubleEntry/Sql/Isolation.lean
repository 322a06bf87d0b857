import DoubleEntry.Json.Record

/-!
The isolation level that a database transaction is opened with.
-/

namespace DoubleEntry

inductive IsolationLevel where
  | readCommitted
  | repeatableRead
  | serializable
  deriving DecidableEq, Repr

namespace IsolationLevel

def all : List IsolationLevel := [readCommitted, repeatableRead, serializable]

def default : IsolationLevel := readCommitted

/-- The name that configurations use. -/
def name : IsolationLevel → String
  | readCommitted => "read_committed"
  | repeatableRead => "repeatable_read"
  | serializable => "serializable"

def sql : IsolationLevel → String
  | readCommitted => "READ COMMITTED"
  | repeatableRead => "REPEATABLE READ"
  | serializable => "SERIALIZABLE"

def ofName? (name : String) : Option IsolationLevel := all.find? (·.name == name)

def ofJson? (v : Json) : Option IsolationLevel := v.caseName? >>= ofName?

end IsolationLevel
end DoubleEntry
