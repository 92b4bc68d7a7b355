import RemoteBatch.Json.Document

/-!
# Writing JSON

The compact form: no blanks between tokens, members in the order given, and in a
string only the quote, the backslash and the control characters escaped.

## Main definitions

* `escapeChar` — how one character is written in a string.
* `Document.print` — the compact text of a document.
-/

namespace RemoteBatch.Json

/-- How one character is written in a string literal. -/
def escapeChar (c : Char) : List Char :=
  if c = '"' ∨ c = '\\' then ['\\', c]
  else if c = '\x08' then ['\\', 'b']
  else if c = '\x0c' then ['\\', 'f']
  else if c = '\n' then ['\\', 'n']
  else if c = '\r' then ['\\', 'r']
  else if c = '\t' then ['\\', 't']
  else if c.toNat < 0x20 then
    ['\\', 'u', '0', '0', Text.hexDigit (c.toNat / 16), Text.hexDigit (c.toNat % 16)]
  else [c]

/-- A text as a string literal. -/
def printString (s : String) : List Char := '"' :: s.toList.flatMap escapeChar ++ ['"']

/-- A number as it was written. -/
def printNumeral (n : Numeral) : List Char :=
  (if n.negative then ['-'] else []) ++ n.whole
    ++ (match n.fraction with
      | none => []
      | some digits => '.' :: digits)
    ++ (match n.exponent with
      | none => []
      | some (negative, digits) => 'e' :: (if negative then '-' else '+') :: digits)

/-- The numeral of a natural number. -/
def Numeral.ofNat (n : Nat) : Numeral := { whole := Nat.toDigits 10 n }

namespace Document

/-- A text as a document. -/
def ofText (s : String) : Document := .string (some s)

/-- A natural number as a document. -/
def ofNat (n : Nat) : Document := .number (.ofNat n)

/-- An optional value, `null` when it is missing. -/
def ofOption (f : α → Document) : Option α → Document
  | none => .null
  | some a => f a

/-- An object whose keys are texts. -/
def record (members : List (String × Document)) : Document :=
  .object (members.map fun (key, d) => (some key, d))

mutual

/-- The compact text of a document. -/
def print : Document → List Char
  | .null => ['n', 'u', 'l', 'l']
  | .bool true => ['t', 'r', 'u', 'e']
  | .bool false => ['f', 'a', 'l', 's', 'e']
  | .number n => printNumeral n
  | .string s => printString (s.getD "")
  | .array items => '[' :: printItems items ++ [']']
  | .object members => '\x7b' :: printMembers members ++ ['\x7d']

/-- The items of an array, separated by commas. -/
def printItems : List Document → List Char
  | [] => []
  | [d] => d.print
  | d :: ds => d.print ++ ',' :: printItems ds

/-- The members of an object, separated by commas. -/
def printMembers : List (Option String × Document) → List Char
  | [] => []
  | [(key, d)] => printString (key.getD "") ++ ':' :: d.print
  | (key, d) :: ms => printString (key.getD "") ++ ':' :: d.print ++ ',' :: printMembers ms

end

/-- The compact text of a document, as a string. -/
def toText (d : Document) : String := String.ofList d.print

end Document

end RemoteBatch.Json
