import DoubleEntry.Network.Url
import DoubleEntry.Sql.Connection
import DoubleEntry.Text.Natural

/-!
Where a database is: at a socket of this machine or at a port of a host, and whether the way there
is encrypted. Variables say what holds by default, a URL goes over them, and its parameters go over
the rest of the URL.
-/

namespace DoubleEntry.Sql

open Text

inductive Encryption where
  | disabled
  | allowed
  | preferred
  | required
  | authorityVerified
  | fullyVerified
  deriving DecidableEq, Repr

namespace Encryption

def names : List (String × Encryption) :=
  [("disable", disabled), ("allow", allowed), ("prefer", preferred), ("require", required),
    ("verify-ca", authorityVerified), ("verify-full", fullyVerified)]

/-- Names are read in either case. -/
def ofName? (name : String) : Option Encryption :=
  names.lookup (String.ofList (name.toList.map Char.toLower))

/-- Whether a connection without encryption is refused. -/
def isDemanded : Encryption → Bool
  | required | authorityVerified | fullyVerified => true
  | disabled | allowed | preferred => false

end Encryption

structure Endpoint where
  host : String
  port : Nat
  /-- The directory of a socket, which comes before the host. -/
  directory : Option String := none
  encryption : Encryption
  deriving DecidableEq, Repr

/-- A program that may end in a failure before there is a connection. -/
abbrev Connecting : Type → Type := ExceptT DatabaseFailure (Program Database)

namespace Connecting

/-- Goes on with a result, and fails on a text that is no configuration. -/
def configured {ε α : Type} (message : ε → String) : Except ε α → Connecting α
  | .ok a => pure a
  | .error e => throw (.configuration (message e))

end Connecting

namespace Endpoint

def maxPort : Nat := 65535

def standardPort : Nat := 5432

/-- The endpoint that a URL without any part leads to. -/
def standard (known : List (String × String)) : Endpoint where
  host := (known.lookup "PGHOSTADDR").or (known.lookup "PGHOST") |>.getD "localhost"
  port := ((known.lookup "PGPORT").bind fun text =>
    (naturalUpTo maxPort text.toList).toOption).getD standardPort
  encryption := ((known.lookup "PGSSLMODE").bind Encryption.ofName?).getD .preferred

/-- A host that begins with a slash is the directory of a socket. -/
def withHost (e : Endpoint) (host : String) : Endpoint :=
  if host.toList.head? = some '/' then { e with directory := some host } else { e with host }

/-- The text of a part of a URL, which has to be UTF-8. -/
def partText (part : List Char) : Connecting String :=
  Connecting.configured Utf8Fault.message (String.ofList <$> ofUtf8 (Percent.decode part))

/-- The host of a URL names a directory behind percent signs, and is else taken as it is. -/
def withUrlHost (e : Endpoint) (host : List Char) : Connecting Endpoint :=
  if (Percent.decode host).head? = some 0x2F then return e.withHost (← partText host)
  else pure { e with host := String.ofList host }

/-- Parameters that say nothing about where the database is. -/
def otherParameters : List String :=
  ["sslrootcert", "ssl-root-cert", "ssl-ca", "sslcert", "ssl-cert", "sslkey", "ssl-key", "dbname",
    "user", "password", "application_name", "options"]

def groupedOption : List Char := "options[".toList

/-- A parameter that nobody knows is reported and goes unused. -/
def withParameter (e : Endpoint) : String × String → Connecting Endpoint
  | ("sslmode", value) | ("ssl-mode", value) =>
      match Encryption.ofName? value with
      | some encryption => pure { e with encryption }
      | none =>
          let inner := DatabaseFailure.configuration s!"unknown value {quoted value} for `ssl_mode`"
          throw (.configuration inner.message)
  | ("statement-cache-capacity", value) => do
      let _ ← Connecting.configured NaturalFault.message
        (naturalUpTo 18446744073709551615 value.toList)
      pure e
  | ("host", value) => pure (e.withHost value)
  | ("hostaddr", value) =>
      if SocketAddress.isHostAddress value.toList then pure { e with host := value }
      else throw (.configuration "invalid IP address syntax")
  | ("port", value) => do
      let port ← Connecting.configured NaturalFault.message (naturalUpTo maxPort value.toList)
      pure { e with port }
  | (name, value) =>
      if otherParameters.contains name || groupedOption.isPrefixOf name.toList then pure e
      else do
        ExceptT.lift (Program.report (.parameterIgnored name value))
        pure e

/-- The endpoint of a URL. Its other parts have to be UTF-8 all the same. -/
def ofUrl (fallback : Endpoint) (text : String) : Connecting Endpoint := do
  let url ← Connecting.configured UrlFault.message (Url.ofText text)
  let e ← match url.host with
    | some host => fallback.withUrlHost host
    | none => pure fallback
  let _ ← partText url.username
  let _ ← partText url.password
  let _ ← partText (url.path.dropWhile (· == '/'))
  url.parameters.foldlM withParameter { e with port := url.port.getD e.port }

/-- The directory of the socket, if the way leads to one. -/
def socketDirectory? (e : Endpoint) : Option String :=
  e.directory.or (if e.host.toList.head? = some '/' then some e.host else none)

/-- The name of the socket that belongs to a port. -/
def socketName (port : Nat) : String := s!".s.PGSQL.{port}"

def socketPath? (e : Endpoint) : Option String :=
  e.socketDirectory?.map fun directory => directory ++ "/" ++ socketName e.port

/-- The size from which the path of a socket is too long for the system. -/
def pathLimit : Nat := 108

/-- Whether the system takes the path of the socket at all. -/
def checkPath (e : Endpoint) : Except DatabaseFailure Unit :=
  match e.socketPath? with
  | none => .ok ()
  | some path =>
      if path.toList.contains '\x00' then
        .error (.unreachable "paths must not contain interior null bytes")
      else if pathLimit ≤ path.utf8ByteSize then
        .error (.unreachable "path must be shorter than SUN_LEN")
      else .ok ()

end Endpoint
end DoubleEntry.Sql
