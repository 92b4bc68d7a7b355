import RemoteBatch.Text.Ascii

/-!
# Words of a shell command

A text as one word that a POSIX shell reads back unchanged: as it is if it holds
nothing that a shell could take for more than itself, else between single quotes,
with each single quote in it outside of them.

## Main definitions

* `isPlain` — the characters that need no quotes.
* `quoteWord` — a text as a word.
-/

namespace RemoteBatch.Script

/-- Whether a character needs no quotes. -/
def isPlain (c : Char) : Bool := Text.isAsciiAlphanumeric c || "/._-+=:,@%".toList.contains c

/-- One character between single quotes. -/
def quoteWordChar (c : Char) : List Char :=
  if c = '\x27' then ['\x27', '\\', '\x27', '\x27'] else [c]

/-- A text as one word of a shell command. -/
def quoteWord (s : String) : List Char :=
  if !s.toList.isEmpty && s.toList.all isPlain then s.toList
  else '\x27' :: s.toList.flatMap quoteWordChar ++ ['\x27']

end RemoteBatch.Script
