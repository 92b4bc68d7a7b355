import RemoteBatch.Text.Percent
import RemoteBatch.Url.Domain
import RemoteBatch.Url.Path

/-!
# Reading addresses

The address that a text writes.  Blanks and controls at its ends and tabs and
line breaks anywhere are left out.  The scheme decides how lenient the rest is
read: the common ones take backslashes for slashes, any number of slashes before
the host, and never lack a host.

## Main definitions

* `Fault` — why a text is no address.
* `splitScheme` — the scheme and the rest.
* `readAuthority` — credentials, host and port.
* `parse` — the address that a text writes.
-/

namespace RemoteBatch.Url

/-- Why a text is no address. -/
inductive Fault
  | noScheme
  | emptyHost
  | badPort
  | badIpv4
  | badIpv6
  | badDomain
  | badHostCharacter
  deriving DecidableEq, Repr, Inhabited

/-- The wording of a fault. -/
def Fault.message : Fault → String
  | noScheme => "relative URL without a base"
  | emptyHost => "empty host"
  | badPort => "invalid port number"
  | badIpv4 => "invalid IPv4 address"
  | badIpv6 => "invalid IPv6 address"
  | badDomain => "invalid international domain name"
  | badHostCharacter => "invalid domain character"

/-! ### Cutting -/

/-- The text before the first character with a property, and what follows that
character, if there is one. -/
def cutAt (p : Char → Bool) (cs : List Char) : List Char × Option (List Char) :=
  match cs.dropWhile (!p ·) with
  | [] => (cs, none)
  | _ :: rest => (cs.takeWhile (!p ·), some rest)

/-- Whether a character is left out at the ends of an address. -/
def isPadding (c : Char) : Bool := c.toNat ≤ 0x20

/-- A text without what an address leaves out. -/
def clean (cs : List Char) : List Char :=
  (((cs.dropWhile isPadding).reverse.dropWhile isPadding).reverse).filter (!isDropped ·)

/-- Whether a scheme may hold a character behind its first. -/
def isSchemeChar (c : Char) : Bool := c.isAlphanum || c == '+' || c == '-' || c == '.'

/-- The scheme in small letters, and what follows its colon. -/
def splitScheme (cs : List Char) : Option (List Char × List Char) :=
  match cs, cutAt (· == ':') cs with
  | c :: _, (scheme, some rest) =>
    if c.isAlpha && scheme.all isSchemeChar then some (scheme.map Char.toLower, rest) else none
  | _, _ => none

/-- Whether a character ends a host or separates segments. -/
def isSlash (special : Bool) (c : Char) : Bool := c == '/' || (special && c == '\\')

/-! ### Host and port -/

/-- The characters that credentials escape. -/
def escapesInCredentials (c : Char) : Bool :=
  escapesInPath c || "/:;=@[\\]^|".toList.contains c

/-- Whether no host of an unknown scheme holds a character. -/
def isForbiddenInOther (c : Char) : Bool :=
  "\x00\t\n\r #/:<>?@[\\]^|".toList.contains c

/-- The host of a common scheme. -/
def readDomain (cs : List Char) : Except Fault Host :=
  match (Text.decodeUtf8? (Text.percentDecode cs)).bind fun s => domainName? s.toList with
  | none => .error .badDomain
  | some [] => .error .emptyHost
  | some name =>
    if endsInNumber name then
      match readIpv4? name with
      | some address => .ok (.ipv4 address)
      | none => .error .badIpv4
    else .ok (.domain name)

/-- The host that a text writes. -/
def readHost (special : Bool) : List Char → Except Fault Host
  | '[' :: cs =>
    if cs.getLast? = some ']' then
      match readIpv6? cs.dropLast with
      | some groups => .ok (.ipv6 groups)
      | none => .error .badIpv6
    else .error .badIpv6
  | cs =>
    if special then (if cs.isEmpty then .error .emptyHost else readDomain cs)
    else if cs.any isForbiddenInOther then .error .badHostCharacter
    else .ok (.other (Text.percentEncode isControl cs))

/-- The text of a host and what follows it from the colon on, where a colon
between brackets belongs to the host. -/
def cutHost (bracketed : Bool) : List Char → List Char × List Char
  | [] => ([], [])
  | c :: cs =>
    if c = ':' ∧ !bracketed then ([], c :: cs)
    else
      let (host, rest) := cutHost (if c = '[' then true else if c = ']' then false else bracketed) cs
      (c :: host, rest)

/-- The number that digits write, if it is a port. -/
def portOf? (digits : List Char) : Option Nat :=
  (some (Nat.ofDigitChars 10 digits 0)).filter (· < 65536)

/-- The port behind a host, and what follows it. -/
def readPort (scheme : List Char) : List Char → Except Fault (Option Nat × List Char)
  | ':' :: cs =>
    let digits := cs.takeWhile Char.isDigit
    let rest := cs.dropWhile Char.isDigit
    if rest.head?.any (· != '\\') then .error .badPort
    else if digits.isEmpty then .ok (none, rest)
    else match portOf? digits with
      | none => .error .badPort
      | some n => .ok ((some n).filter fun n => defaultPort? (String.ofList scheme) != some n, rest)
  | cs => .ok (none, cs)

/-- The credentials that a text writes; none if it is empty or a colon. -/
def credentialsOf (cs : List Char) : Option Credentials :=
  let (name, password) := cutAt (· == ':') cs
  let encode := Text.percentEncode escapesInCredentials
  let password := (password.filter (!·.isEmpty)).map encode
  if name.isEmpty && password.isNone then none else some ⟨encode name, password⟩

/-- The text before the last at sign, if there is one, and the text behind it. -/
def cutCredentials (cs : List Char) : Option (List Char) × List Char :=
  let behind := (cs.reverse.takeWhile (· != '@')).reverse
  if behind.length = cs.length then (none, cs)
  else (some (cs.take (cs.length - behind.length - 1)), behind)

/-- Credentials, host and port, and what is left behind the port.  `closed` says
whether more of the address follows. -/
def readAuthority (scheme : List Char) (closed : Bool) (cs : List Char) :
    Except Fault ((Option Credentials × Host × Option Nat) × List Char) := do
  let special := isSpecial scheme
  let (login, behind) := cutCredentials cs
  if login = some [] ∧ behind.isEmpty ∧ closed then throw .emptyHost
  let credentials := login.bind credentialsOf
  let (hostText, rest) := cutHost false behind
  let host ← readHost special hostText
  if host = .other [] ∧ (!rest.isEmpty ∨ credentials.isSome) then throw .emptyHost
  let (port, rest) ← readPort scheme rest
  return ((credentials, host, port), rest)

/-! ### The rest -/

/-- The segments that the text behind the host writes. -/
def readSegments (special : Bool) (cs : List Char) : List (List Char) :=
  let segments := (match cs with
    | c :: rest => if isSlash special c then rest else c :: rest
    | [] => []).splitOnP (isSlash special)
  resolve [] (segments.map (Text.percentEncode escapesInPath))

/-- The path behind the host; only an unknown scheme may lack one. -/
def readPath (special : Bool) (cs : List Char) : Path :=
  if cs.isEmpty && !special then .segments [] else .segments (readSegments special cs)

/-- The characters that a query escapes. -/
def escapesInQuery (special : Bool) (c : Char) : Bool :=
  isControl c || " \"#<>".toList.contains c || (special && c == '\x27')

/-- An address with credentials, host and port, from the text behind the slashes
that announce a host. -/
def readHosted (scheme : List Char) (closed : Bool) (cs : List Char) : Except Fault Url := do
  let special := isSpecial scheme
  let ahead := cs.takeWhile (!isSlash special ·)
  let behind := cs.dropWhile (!isSlash special ·)
  let ((credentials, host, port), rest) ←
    readAuthority scheme (closed || !behind.isEmpty) ahead
  return { scheme, credentials, host := some host, port, path := readPath special (rest ++ behind) }

/-- The host of a file behind two slashes; the own machine has no name. -/
def readFileHost (cs : List Char) : Except Fault Host :=
  if cs.isEmpty || Text.sameIgnoringCase (String.ofList cs) "localhost" then .ok (.other [])
  else readHost true cs

/-- The address of a file. -/
def readFile (scheme : List Char) (cs : List Char) : Except Fault Url := do
  let slash := isSlash true
  match cs with
  | a :: b :: rest =>
    if slash a && slash b then
      let host ← readFileHost (rest.takeWhile (!slash ·))
      return { scheme, host := some host, path := readPath true (rest.dropWhile (!slash ·)) }
    else return { scheme, host := some (.other []), path := readPath true cs }
  | _ => return { scheme, host := some (.other []), path := readPath true cs }

/-- The host and the path of an address, from what stands between its scheme and
its query.  `closed` says whether a query or a fragment follows. -/
def readMain (scheme : List Char) (closed : Bool) (cs : List Char) : Except Fault Url :=
  if String.ofList scheme = "file" then readFile scheme cs
  else if isSpecial scheme then readHosted scheme closed (cs.dropWhile (isSlash true))
  else match cs with
    | '/' :: '/' :: rest => readHosted scheme closed rest
    | '/' :: _ => .ok { scheme, host := none, path := readPath false cs }
    | _ => .ok { scheme, host := none, path := .flat (Text.percentEncode isControl cs) }

/-- The address that a text writes. -/
def parse (s : String) : Except Fault Url :=
  match splitScheme (clean s.toList) with
  | none => .error .noScheme
  | some (scheme, rest) => do
    let (rest, fragment) := cutAt (· == '#') rest
    let (main, query) := cutAt (· == '?') rest
    let u ← readMain scheme (query.isSome || fragment.isSome) main
    return { u with
      query := query.map (Text.percentEncode (escapesInQuery (isSpecial scheme)))
      fragment := fragment.map (Text.percentEncode escapesInFragment) }

end RemoteBatch.Url
