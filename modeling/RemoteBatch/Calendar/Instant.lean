import RemoteBatch.Calendar.Date
import RemoteBatch.Text.Ascii
import RemoteBatch.Text.Blank

/-!
# Instants

Points in universal time, to the nanosecond, with the leap second that may end a
minute.  They are written as date and time of day in universal time.  They are
read from any date, time and offset in that order, with blanks before numbers and
separators and with single digits allowed.

## Main definitions

* `Instant` — the points in time.
* `Instant.text` — an instant as it is written.
* `Instant.read?` — the instant that a text names.
-/

namespace RemoteBatch.Calendar

open Text (dropBlanks isBlank)

/-- A point in universal time. -/
structure Instant where
  date : Date
  /-- The minute of the day. -/
  minute : Fin 1440
  /-- The second of the minute; the last is a leap second. -/
  second : Fin 61
  nanos : Fin 1000000000
  deriving DecidableEq, Repr

/-- The first instant of the year 1970. -/
def Instant.epoch : Instant := ⟨⟨1970, 1, 1, by decide⟩, 0, 0, ⟨0, by decide⟩⟩

/-! ### Writing -/

/-- The fraction of a second in the fewest groups of three digits. -/
def fractionText (nanos : Nat) : List Char :=
  if nanos = 0 then []
  else if nanos % 1000000 = 0 then '.' :: Decimal.padded 3 (nanos / 1000000)
  else if nanos % 1000 = 0 then '.' :: Decimal.padded 6 (nanos / 1000)
  else '.' :: Decimal.padded 9 nanos

/-- The text of an instant. -/
def Instant.text (i : Instant) : String :=
  String.ofList (i.date.text ++ 'T' :: Decimal.padded 2 (i.minute / 60)
    ++ ':' :: Decimal.padded 2 (i.minute % 60) ++ ':' :: Decimal.padded 2 i.second
    ++ fractionText i.nanos ++ ['Z'])

/-! ### Reading -/

/-- At most `width` leading digits and what follows them. -/
def spanDigits : (width : Nat) → List Char → List Char × List Char
  | width + 1, c :: cs =>
    if c.isDigit then
      let (digits, rest) := spanDigits width cs
      (c :: digits, rest)
    else ([], c :: cs)
  | _, cs => ([], cs)

/-- A number of one to `width` digits. -/
def readDigits? (width : Nat) (cs : List Char) : Option (Nat × List Char) :=
  let (digits, rest) := spanDigits width cs
  (Decimal.natural? digits).map (·, rest)

/-- A number behind blanks. -/
def readField? (width : Nat) (cs : List Char) : Option (Nat × List Char) :=
  readDigits? width (dropBlanks cs)

/-- A year behind blanks: up to four digits, or a sign and any number of them. -/
def readYear? (cs : List Char) : Option (Int × List Char) :=
  match dropBlanks cs with
  | '-' :: cs => (readDigits? cs.length cs).map fun (n, rest) => (-(n : Int), rest)
  | '+' :: cs => (readDigits? cs.length cs).map fun (n, rest) => ((n : Int), rest)
  | cs => (readDigits? 4 cs).map fun (n, rest) => ((n : Int), rest)

/-- A separator behind blanks. -/
def readMark? (mark : Char) (cs : List Char) : Option (List Char) :=
  match dropBlanks cs with
  | c :: cs => if c = mark then some cs else none
  | [] => none

/-- Year, month and day. -/
def readDate? (cs : List Char) : Option (Date × List Char) := do
  let (year, cs) ← readYear? cs
  let cs ← readMark? '-' cs
  let (month, cs) ← readField? 2 cs
  let cs ← readMark? '-' cs
  let (day, cs) ← readField? 2 cs
  let date ← Date.of? year month day
  some (date, cs)

/-- The character between date and time. -/
def readJoint? : List Char → Option (List Char)
  | c :: cs => if c = 'T' ∨ c = 't' ∨ c = ' ' then some cs else none
  | [] => none

/-- A fraction of a second behind a point; digits after the ninth do not count. -/
def readFraction? : List Char → Option (Nat × List Char)
  | '.' :: cs =>
    let (digits, rest) := spanDigits 9 cs
    (Decimal.natural? digits).map fun n =>
      (n * Nat.pow 10 (9 - digits.length), rest.dropWhile Char.isDigit)
  | cs => some (0, cs)

/-- A time of day: minute, second and nanosecond. -/
def readTime? (cs : List Char) : Option ((Fin 1440 × Fin 61 × Fin 1000000000) × List Char) := do
  let (hour, cs) ← readField? 2 cs
  let cs ← readMark? ':' cs
  let (minute, cs) ← readField? 2 cs
  let cs ← readMark? ':' cs
  let (second, cs) ← readField? 2 cs
  let (nanos, cs) ← readFraction? cs
  if h : (hour < 24 ∧ minute < 60) ∧ second < 61 ∧ nanos < 1000000000 then
    some ((⟨hour * 60 + minute, by omega⟩, ⟨second, h.2.1⟩, ⟨nanos, h.2.2⟩), cs)
  else none

/-- Exactly two digits. -/
def readPair? : List Char → Option (Nat × List Char)
  | a :: b :: cs =>
    if a.isDigit && b.isDigit then some ((a.toNat - 48) * 10 + (b.toNat - 48), cs) else none
  | _ => none

/-- Hours and minutes of an offset, in minutes, with any run of colons and blanks
between them. -/
def readOffset? (cs : List Char) : Option (Nat × List Char) := do
  let (hours, cs) ← readPair? cs
  let (minutes, cs) ← readPair? (cs.dropWhile fun c => c == ':' || isBlank c)
  if hours < 24 ∧ minutes < 60 then some (hours * 60 + minutes, cs) else none

/-- The minutes by which local time is ahead of universal time. -/
def readZone? (cs : List Char) : Option (Int × List Char) :=
  if Text.sameIgnoringCase (String.ofList (cs.take 3)) "UTC" then some (0, cs.drop 3)
  else match cs with
    | [] => none
    | c :: cs =>
      if c = 'Z' ∨ c = 'z' then some (0, cs)
      else if c = '+' then (readOffset? cs).map fun (n, rest) => ((n : Int), rest)
      else if c = '-' ∨ c = '\u2212' then (readOffset? cs).map fun (n, rest) => (-(n : Int), rest)
      else none

/-- The date and minute of the day, `minutes` earlier. -/
def moveBack? (date : Date) (minute : Fin 1440) (minutes : Int) : Option (Date × Fin 1440) :=
  let moved : Int := minute - minutes
  let target : Fin 1440 := ⟨(moved % 1440).toNat, by omega⟩
  if moved < 0 then date.previous?.map (·, target)
  else if moved < 1440 then some (date, target)
  else date.next?.map (·, target)

/-- The instant that a text names. -/
def Instant.read? (s : String) : Option Instant := do
  let (date, cs) ← readDate? s.toList
  let cs ← readJoint? cs
  let ((minute, second, nanos), cs) ← readTime? cs
  let (ahead, cs) ← readZone? (dropBlanks cs)
  if !(dropBlanks cs).isEmpty then none
  else
    let (date, minute) ← moveBack? date minute ahead
    some ⟨date, minute, second, nanos⟩

end RemoteBatch.Calendar
