import DoubleEntry.Network.Address
import DoubleEntry.Network.Percent

/-!
URLs: a scheme, the host with its port and with the user before it, a path and a query. Some schemes
belong to hosts of the network and know a port of their own, one belongs to files; all others leave
the host as it is written.
-/

namespace DoubleEntry

open Text

inductive UrlFault where
  | noScheme
  | emptyHost
  | badPort
  | badHostChar
  | badDomain
  | badVersion4
  | badVersion6
  deriving DecidableEq, Repr

def UrlFault.message : UrlFault → String
  | noScheme => "relative URL without a base"
  | emptyHost => "empty host"
  | badPort => "invalid port number"
  | badHostChar => "invalid domain character"
  | badDomain => "invalid international domain name"
  | badVersion4 => "invalid IPv4 address"
  | badVersion6 => "invalid IPv6 address"

inductive UrlScheme where
  | plain
  | file
  | network (port : Nat)
  deriving DecidableEq, Repr

/-- The parts that a URL is made of, as they are written. A port that the scheme knows is left out.
-/
structure Url where
  username : List Char := []
  password : List Char := []
  host : Option (List Char) := none
  port : Option Nat := none
  path : List Char := []
  query : List Char := []
  deriving DecidableEq, Repr

namespace UrlScheme

def ofName : String → UrlScheme
  | "file" => file
  | "http" | "ws" => network 80
  | "https" | "wss" => network 443
  | "ftp" => network 21
  | _ => plain

/-- Where the steps of a path are divided. -/
def isSeparator (scheme : UrlScheme) (c : Char) : Bool :=
  c == '/' || (scheme != plain && c == '\\')

/-- Where the host and its port end. -/
def isEnd (scheme : UrlScheme) (c : Char) : Bool :=
  scheme.isSeparator c || c == '?' || c == '#'

end UrlScheme

/-! Numbers in the place of names. -/

namespace UrlHost

/-- A number in the base that its first digits tell: sixteen, eight or ten. -/
def number? (cs : List Char) : Option Nat :=
  let (radix, ds) := match cs with
    | '0' :: 'x' :: ds | '0' :: 'X' :: ds => (16, ds)
    | '0' :: d :: ds => (8, d :: ds)
    | ds => (10, ds)
  if cs.isEmpty then none
  else (ds.mapM (digitIn? radix)).map fun values => values.foldl (fun n d => radix * n + d) 0

/-- The labels of a name. A point at the end does not count. -/
def labels (cs : List Char) : List (List Char) :=
  let parts := cs.splitOn '.'
  if parts.getLast? = some [] then parts.dropLast else parts

/-- Whether a name has to be an address, because a number is its last label. -/
def endsInNumber (cs : List Char) : Bool :=
  (labels cs).getLast?.any fun label =>
    (number? label).isSome || (!label.isEmpty && label.all isDigit)

/-- Up to four numbers. The last one fills all bytes that the others leave. -/
def isVersion4 (cs : List Char) : Bool :=
  match (labels cs).mapM number? with
  | none => false
  | some numbers =>
      numbers.length ≤ 4 && numbers.dropLast.all (· < 256) &&
        numbers.getLast?.all (· < pow2 (8 * (5 - numbers.length)))

/-- The characters that no host contains. -/
def reserved : List Char :=
  ['\x00', '\t', '\n', '\r', ' ', '#', '/', ':', '<', '>', '?', '@', '[', '\\', ']', '^', '|']

def isReservedInDomain (c : Char) : Bool :=
  reserved.contains c || c.toNat < 0x20 || c == '\x7f' || c == '%'

/-- An address of version 6 between brackets. -/
def checkVersion6 (cs : List Char) : Except UrlFault Unit :=
  let inner := (cs.drop 1).dropLast
  if cs.getLast? = some ']' && (SocketAddress.readVersion6 inner).any (·.2.isEmpty) then .ok ()
  else .error .badVersion6

/-- A name on the network, perhaps with bytes behind percent signs. -/
def checkDomain (cs : List Char) : Except UrlFault Unit :=
  match ofUtf8 (Percent.decode cs) with
  | .error _ => .error .badDomain
  | .ok name =>
      if name.any isReservedInDomain then .error .badDomain
      else if endsInNumber name && !isVersion4 name then .error .badVersion4
      else .ok ()

def check (scheme : UrlScheme) (cs : List Char) : Except UrlFault Unit :=
  if cs.head? = some '[' then checkVersion6 cs
  else if scheme != .plain then checkDomain cs
  else if cs.any reserved.contains then .error .badHostChar
  else .ok ()

/-- The host, and what follows it. A colon ends it outside of brackets. -/
def split (scheme : UrlScheme) (bracketed : Bool) : List Char → List Char × List Char
  | [] => ([], [])
  | c :: cs =>
      if scheme.isEnd c || (c == ':' && !bracketed) then ([], c :: cs)
      else
        let (host, rest) := split scheme (c == '[' || (bracketed && c != ']')) cs
        (c :: host, rest)

end UrlHost

namespace Url

/-- The name of the scheme in lower case, and what follows its colon. -/
def readScheme? (cs : List Char) : Option (String × List Char) :=
  let isSchemeChar (c : Char) := c.isAlphanum || c == '+' || c == '-' || c == '.'
  let name := cs.takeWhile isSchemeChar
  match cs.drop name.length with
  | ':' :: rest =>
      if name.head?.any Char.isAlpha then some (String.ofList (name.map Char.toLower), rest)
      else none
  | _ => none

/-- Adds the user, who stands before the last sign `@`, and leaves the rest. -/
def readUser (scheme : UrlScheme) (url : Url) (cs : List Char) :
    Except UrlFault (Url × List Char) :=
  let authority := cs.takeWhile fun c => !scheme.isEnd c
  if !authority.contains '@' then .ok (url, cs)
  else
    let behind := (authority.reverse.takeWhile (· != '@')).length
    let user := authority.take (authority.length - behind - 1)
    let rest := cs.drop (user.length + 1)
    let username := user.takeWhile (· != ':')
    if user.isEmpty && rest.head?.any scheme.isEnd then .error .emptyHost
    else .ok ({ url with username, password := user.drop (username.length + 1) }, rest)

/-- Adds the host, which only a plain URL without a user and a port may lack. -/
def readHost (scheme : UrlScheme) (url : Url) (cs : List Char) :
    Except UrlFault (Url × List Char) := do
  let (host, rest) := UrlHost.split scheme false cs
  if host.isEmpty then
    if scheme != .plain || rest.head? = some ':' || url.username != [] || url.password != [] then
      throw .emptyHost
    else return (url, rest)
  UrlHost.check scheme host
  return ({ url with host }, rest)

/-- What may stand behind a port. -/
def behindPort : List Char := ['/', '\\', '?', '#']

/-- Adds the port behind the host. -/
def readPort (scheme : UrlScheme) (url : Url) : List Char → Except UrlFault (Url × List Char)
  | ':' :: cs =>
      let ds := cs.takeWhile isDigit
      let rest := cs.drop ds.length
      let port := ofDigits ds
      if rest.head?.any fun c => !behindPort.contains c then .error .badPort
      else if 65535 < port then .error .badPort
      else if ds.isEmpty || scheme = .network port then .ok (url, rest)
      else .ok ({ url with port }, rest)
  | cs => .ok (url, cs)

/-- Adds the path and the query. -/
def withPath (url : Url) (cs : List Char) : Url :=
  let rest := cs.takeWhile (· != '#')
  let path := rest.takeWhile (· != '?')
  { url with path, query := rest.drop (path.length + 1) }

def readAuthority (scheme : UrlScheme) (cs : List Char) : Except UrlFault Url := do
  let (url, cs) ← readUser scheme {} cs
  let (url, cs) ← readHost scheme url cs
  let (url, cs) ← readPort scheme url cs
  return url.withPath cs

/-- A disk that is named by a letter is no host. -/
def isDrive : List Char → Bool
  | [letter, mark] => letter.isAlpha && (mark == ':' || mark == '|')
  | _ => false

/-- The host of a file, which is left out if it is this machine. -/
def readFileHost (cs : List Char) : Except UrlFault Url := do
  let host := cs.takeWhile fun c => !UrlScheme.file.isEnd c
  if host.isEmpty || isDrive host then return withPath {} cs
  UrlHost.check .file host
  let url : Url := if String.ofList (host.map Char.toLower) = "localhost" then {} else { host }
  return url.withPath (cs.drop host.length)

/-- Two separators at the front announce a host. -/
def readBehindScheme (scheme : UrlScheme) (cs : List Char) : Except UrlFault Url :=
  match scheme with
  | .network _ => readAuthority scheme (cs.dropWhile scheme.isSeparator)
  | .plain | .file =>
      if (cs.take 2).length = 2 ∧ (cs.take 2).all scheme.isSeparator then
        if scheme = .file then readFileHost (cs.drop 2) else readAuthority scheme (cs.drop 2)
      else .ok (withPath {} cs)

/-- Blanks and control characters around a URL do not count, nor do line ends and tabs in it. -/
def trimmed (cs : List Char) : List Char :=
  let isOuter (c : Char) := c.toNat ≤ 0x20
  let inner := ((cs.dropWhile isOuter).reverse.dropWhile isOuter).reverse
  inner.filter fun c => c != '\t' && c != '\n' && c != '\r'

def ofText (s : String) : Except UrlFault Url :=
  match readScheme? (trimmed s.toList) with
  | none => .error .noScheme
  | some (name, rest) => readBehindScheme (.ofName name) rest

def parameters (url : Url) : List (String × String) := Percent.parameters url.query

end Url
end DoubleEntry
