import RemoteBatch.Text.Ascii
import RemoteBatch.Text.Extending
import RemoteBatch.Text.Printable

/-!
# Quoted text

A text as messages show it: between double quotes, on one line, and with every
character that would not be seen, or would change its neighbour, named by its
code point.

## Main definitions

* `quoteChar` — how one character is shown.
* `quoted` — a text between quotes.
* `quotedOption` — a text that may be missing.
-/

namespace RemoteBatch.Text

/-- The escape that names a character by its hexadecimal code point. -/
def codePointEscape (c : Char) : List Char :=
  '\\' :: 'u' :: '\x7b' :: Nat.toDigits 16 c.toNat ++ ['\x7d']

/-- How one character is shown between quotes. -/
def quoteChar (c : Char) : List Char :=
  if c = '\x00' then ['\\', '0']
  else if c = '\t' then ['\\', 't']
  else if c = '\r' then ['\\', 'r']
  else if c = '\n' then ['\\', 'n']
  else if c = '"' ∨ c = '\\' then ['\\', c]
  else if isExtending c || !isPrintable c then codePointEscape c
  else [c]

/-- A text between double quotes. -/
def quoted (s : String) : String :=
  String.ofList ('"' :: s.toList.flatMap quoteChar ++ ['"'])

/-- A text that may be missing, as messages show it. -/
def quotedOption : Option String → String
  | none => "None"
  | some s => "Some(" ++ quoted s ++ ")"

end RemoteBatch.Text
