import RemoteBatch.Text.Ascii

/-!
# Numeric hosts

The two kinds of numeric address that a host can be: four octets, written in
decimal, octal or hexadecimal and in one to four parts, and eight groups of
sixteen bits, of which one run of zeros may be left out.

## Main definitions

* `endsInNumber` — whether a name must be read as four octets.
* `readIpv4?`, `printIpv4` — addresses of four octets, as one number.
* `readIpv6?`, `printIpv6` — addresses of eight groups.
-/

namespace RemoteBatch.Url

/-! ### Four octets -/

/-- The number that digits write in a base from two to sixteen. -/
def inBase? (base : Nat) (cs : List Char) : Option Nat :=
  cs.foldlM (fun n c => do
    let d ← Text.hexValue? c
    if d < base then some (n * base + d) else none) 0

/-- The number that one part of an address writes. -/
def readPart? : List Char → Option Nat
  | [] => none
  | '0' :: 'x' :: cs => inBase? 16 cs
  | '0' :: 'X' :: cs => inBase? 16 cs
  | '0' :: c :: cs => inBase? 8 (c :: cs)
  | cs => inBase? 10 cs

/-- The parts of a name between its dots, without an empty last one. -/
def dottedParts (name : List Char) : List (List Char) :=
  let parts := name.splitOn '.'
  if 1 < parts.length ∧ parts.getLast? = some [] then parts.dropLast else parts

/-- Whether the last part of a name is a number or consists of digits. -/
def endsInNumber (name : List Char) : Bool :=
  match (dottedParts name).getLast? with
  | none => false
  | some last => (!last.isEmpty && last.all Char.isDigit) || (readPart? last).isSome

/-- The address that the numbers of its parts give, from octet `i` on: every part
but the last is an octet, and the last fills the rest. -/
def joinParts? (i : Nat) : List Nat → Option Nat
  | [] => none
  | [n] => if i < 4 ∧ n < Nat.pow 256 (4 - i) then some n else none
  | n :: ns =>
    if n < 256 then (joinParts? (i + 1) ns).map (n * Nat.pow 256 (3 - i) + ·) else none

/-- The address of four octets that a name writes. -/
def readIpv4? (name : List Char) : Option Nat :=
  ((dottedParts name).mapM readPart?).bind (joinParts? 0)

/-- The four octets of an address in decimal. -/
def printIpv4 (address : Nat) : List Char :=
  Nat.toDigits 10 (address / 16777216 % 256) ++ '.' :: Nat.toDigits 10 (address / 65536 % 256)
    ++ '.' :: Nat.toDigits 10 (address / 256 % 256) ++ '.' :: Nat.toDigits 10 (address % 256)

/-! ### Eight groups -/

/-- One group: one to four hexadecimal digits. -/
def readGroup? (cs : List Char) : Option Nat :=
  if cs.isEmpty || 4 < cs.length then none else inBase? 16 cs

/-- One octet in decimal without leading zeros. -/
def readOctet? (cs : List Char) : Option Nat :=
  match cs with
  | [] => none
  | ['0'] => some 0
  | '0' :: _ => none
  | _ => (inBase? 10 cs).filter (· < 256)

/-- Four octets between dots, as two groups. -/
def readOctets? (cs : List Char) : Option (List Nat) :=
  match (cs.splitOn '.').mapM readOctet? with
  | some [a, b, c, d] => some [a * 256 + b, c * 256 + d]
  | _ => none

/-- Groups between colons; the last two may be written as four octets. -/
def readGroups? : List (List Char) → Option (List Nat)
  | [] => some []
  | [part] => if part.contains '.' then readOctets? part else (readGroup? part).map ([·])
  | part :: parts => do
    let n ← readGroup? part
    let ns ← readGroups? parts
    some (n :: ns)

/-- The groups of one side of an address, where no text writes no group. -/
def readSide? (cs : List Char) : Option (List Nat) :=
  if cs.isEmpty then some [] else readGroups? (cs.splitOn ':')

/-- Cuts a text at its first double colon. -/
def cutDoubleColon : List Char → Option (List Char × List Char)
  | ':' :: ':' :: cs => some ([], cs)
  | c :: cs => (cutDoubleColon cs).map fun (before, after) => (c :: before, after)
  | [] => none

/-- The eight groups that a text writes. -/
def readIpv6? (cs : List Char) : Option (List Nat) :=
  match cutDoubleColon cs with
  | none => (readSide? cs).filter (·.length = 8)
  | some (before, after) => do
    if before.contains '.' then none
    else
      let left ← readSide? before
      let right ← readSide? after
      if left.length + right.length ≤ 7 then
        some (left ++ List.replicate (8 - (left.length + right.length)) 0 ++ right)
      else none

/-- The start and length of the first longest run of zeros, where the run that
ends just before position `i` has length `run`. -/
def longestZeros (i run : Nat) (best : Nat × Nat) : List Nat → Nat × Nat
  | [] => if best.2 < run then (i - run, run) else best
  | n :: ns =>
    if n = 0 then longestZeros (i + 1) (run + 1) best ns
    else longestZeros (i + 1) 0 (if best.2 < run then (i - run, run) else best) ns

/-- Groups with colons between them. -/
def printGroups (groups : List Nat) : List Char :=
  [':'].intercalate (groups.map (Nat.toDigits 16))

/-- The eight groups of an address, with the first longest run of two or more
zeros left out. -/
def printIpv6 (groups : List Nat) : List Char :=
  let (start, length) := longestZeros 0 0 (0, 0) groups
  if length < 2 then printGroups groups
  else printGroups (groups.take start) ++ ':' :: ':' :: printGroups (groups.drop (start + length))

end RemoteBatch.Url
