/-!
The currencies that accounts can be opened in. Codes are upper case, when read as when stored.
-/

namespace DoubleEntry

inductive Currency where
  | usd
  | eur
  | cad
  deriving DecidableEq, Repr

namespace Currency

def all : List Currency := [usd, eur, cad]

/-- The ISO 4217 alphabetic code. -/
def code : Currency → String
  | usd => "USD"
  | eur => "EUR"
  | cad => "CAD"

/-- The currency with this code; the case matters. -/
def ofCode? (code : String) : Option Currency := all.find? (·.code == code)

def isSupported (code : String) : Bool := all.any (·.code == code)

/-- What is said of a code that no currency has. -/
def unknownMessage (code : String) : String := s!"Unknown currency code: {code}"

/-- Bytes of the longest code that a row holds. -/
def codeLength : Nat := 3

theorem ofCode?_code (c : Currency) : ofCode? c.code = some c := by
  cases c <;> decide

end Currency
end DoubleEntry
