import RemoteBatch.Text.Ascii

/-!
# Local job ids

Every job handle has an id of 128 bits, which the scheduler never sees.  It is
written as 32 small hexadecimal digits in five groups.  It is read without regard
to case, with or without the hyphens, and with hyphens also between braces or
behind `urn:uuid:`.

## Main definitions

* `JobId` — the ids.
* `JobId.text` — an id as it is written.
* `JobId.read?` — the id that a text names.
-/

namespace RemoteBatch

/-- A local id, as its hexadecimal digits. -/
structure JobId where
  digits : List (Fin 16)
  length_digits : digits.length = 32
  deriving DecidableEq, Repr

namespace JobId

/-- The id whose digits are all zero. -/
def zero : JobId := ⟨List.replicate 32 0, by decide⟩

/-- The sizes of the groups that hyphens separate. -/
def groups : List Nat := [8, 4, 4, 4, 12]

/-- Cuts a list into groups of the given sizes, with hyphens between them. -/
def hyphenate : List Nat → List Char → List Char
  | [], cs => cs
  | [_], cs => cs
  | n :: ns, cs => cs.take n ++ '-' :: hyphenate ns (cs.drop n)

/-- The text of an id. -/
def text (id : JobId) : String :=
  String.ofList (hyphenate groups (id.digits.map fun d => Text.hexDigit d.val))

/-- The value of a hexadecimal digit of either case. -/
def digit? (c : Char) : Option (Fin 16) := do
  let n ← Text.hexValue? c
  if h : n < 16 then some ⟨n, h⟩ else none

/-- The id with the given digits. -/
def ofDigits? (cs : List Char) : Option JobId := do
  let digits ← cs.mapM digit?
  if h : digits.length = 32 then some ⟨digits, h⟩ else none

/-- The characters of a hyphenated id without its hyphens. -/
def unhyphenate? : List Nat → List Char → Option (List Char)
  | [], cs => if cs.isEmpty then some [] else none
  | [n], cs => if cs.length = n then some cs else none
  | n :: ns, cs =>
    match cs.drop n with
    | '-' :: rest => (unhyphenate? ns rest).map (cs.take n ++ ·)
    | _ => none

/-- The id that a text with hyphens names. -/
def readHyphenated? (cs : List Char) : Option JobId :=
  (unhyphenate? groups cs).bind ofDigits?

/-- What is left of a text behind the start given. -/
def dropStart? : List Char → List Char → Option (List Char)
  | [], cs => some cs
  | a :: as, c :: cs => if a = c then dropStart? as cs else none
  | _ :: _, [] => none

/-- The id that a text names. -/
def read? (s : String) : Option JobId :=
  let cs := s.toList
  match dropStart? "urn:uuid:".toList cs with
  | some rest => readHyphenated? rest
  | none =>
    match cs with
    | '\x7b' :: rest =>
      if rest.getLast? = some '\x7d' then readHyphenated? rest.dropLast else none
    | _ => if cs.length = 32 then ofDigits? cs else readHyphenated? cs

end JobId

end RemoteBatch
