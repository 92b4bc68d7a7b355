import RemoteBatch.Text.Percent
import RemoteBatch.Url.Address

/-!
# Addresses on the web

An address in the form that requests are sent to: every part is already escaped
as its place demands.

## Main definitions

* `Host`, `Credentials`, `Path`, `Url` — the parts and the whole.
* `Url.print` — the text of an address.
* `Url.withoutFragment`, `Url.withoutCredentials` — an address as it is sent.
* `Url.appendQuery` — an address with more in its query.
-/

namespace RemoteBatch

namespace Url

/-- The machine that an address names. -/
inductive Host
  | domain (name : List Char)
  | ipv4 (address : Nat)
  | ipv6 (groups : List Nat)
  /-- A name that only its own scheme understands; it may be empty. -/
  | other (name : List Char)
  deriving DecidableEq, Repr, Inhabited

/-- The text of a host. -/
def Host.print : Host → List Char
  | .domain name => name
  | .ipv4 address => printIpv4 address
  | .ipv6 groups => '[' :: printIpv6 groups ++ [']']
  | .other name => name

/-- The name and the password that an address carries. -/
structure Credentials where
  name : List Char
  password : Option (List Char)
  deriving DecidableEq, Repr, Inhabited

/-- The text of credentials, up to the host. -/
def Credentials.print (c : Credentials) : List Char :=
  c.name ++ (c.password.elim [] (':' :: ·)) ++ ['@']

/-- What an address names on its host. -/
inductive Path
  /-- Segments, each written behind a slash. -/
  | segments (parts : List (List Char))
  /-- A text without structure. -/
  | flat (text : List Char)
  deriving DecidableEq, Repr, Inhabited

/-- The text of a path. -/
def Path.print : Path → List Char
  | .segments parts => parts.flatMap ('/' :: ·)
  | .flat text => text

end Url

/-- An address. -/
structure Url where
  /-- The scheme in small letters, without its colon. -/
  scheme : List Char
  credentials : Option Url.Credentials := none
  /-- `none` for an address without a place for a host. -/
  host : Option Url.Host
  /-- The port, if it is not the usual one of the scheme. -/
  port : Option Nat := none
  path : Url.Path
  query : Option (List Char) := none
  fragment : Option (List Char) := none
  deriving DecidableEq, Repr, Inhabited

namespace Url

/-- The port that a scheme uses unless another is given. -/
def defaultPort? (scheme : String) : Option Nat :=
  if scheme = "http" ∨ scheme = "ws" then some 80
  else if scheme = "https" ∨ scheme = "wss" then some 443
  else if scheme = "ftp" then some 21
  else none

/-- Whether a scheme is one of those whose addresses always have a host and a
path of segments. -/
def isSpecial (scheme : List Char) : Bool :=
  String.ofList scheme == "file" || (defaultPort? (String.ofList scheme)).isSome

/-- The host with the port. -/
def printAuthority (u : Url) : List Char :=
  match u.host with
  | none => []
  | some host =>
    '/' :: '/' :: u.credentials.elim [] Credentials.print ++ host.print
      ++ u.port.elim [] fun n => ':' :: Nat.toDigits 10 n

/-- Keeps the path of an address without a host from looking like one. -/
def pathGuard (u : Url) : List Char :=
  match u.host, u.path with
  | none, .segments ([] :: _ :: _) => ['/', '.']
  | _, _ => []

/-- The address up to its query. -/
def printBase (u : Url) : List Char :=
  u.scheme ++ ':' :: u.printAuthority ++ u.pathGuard ++ u.path.print

/-- The characters of an address. -/
def printChars (u : Url) : List Char :=
  u.printBase ++ u.query.elim [] ('?' :: ·) ++ u.fragment.elim [] ('#' :: ·)

/-- The text of an address. -/
def print (u : Url) : String := String.ofList u.printChars

/-- The address without its fragment. -/
def withoutFragment (u : Url) : Url := { u with fragment := none }

/-- The address without its credentials. -/
def withoutCredentials (u : Url) : Url := { u with credentials := none }

/-- The address with names and values added to its query. -/
def appendQuery (u : Url) (pairs : List (String × String)) : Url :=
  let added := Text.formEncodePairs pairs
  { u with
    query := some (match u.query with
      | none => added
      | some [] => added
      | some query => query ++ '&' :: added) }

end Url

end RemoteBatch
