import RemoteBatch.Text.Ascii
import RemoteBatch.Text.Punycode

/-!
# Domain names

The one form in which a domain name is used: small letters, and labels of other
scripts in Punycode behind `xn--`.  Capitals are made small in four blocks only: those
of ASCII, of Latin-1 from À to Þ, of Greek from Α to Ω, and of Cyrillic from Ѐ to Я.
Every other character must already be in the form that names are compared in: a capital
beyond the blocks, such as Ł, Č or Ά, stays as it is, and nothing is composed or mapped
to other characters, so that a name with one has another `xn--` label here than the one
that is registered for it.

## Main definitions

* `smallLetter` — the small form of a letter.
* `isForbidden` — the characters that no domain name holds.
* `domainName?` — the form of a name that is used.
-/

namespace RemoteBatch.Url

/-- The small form of a letter, for the capitals of ASCII, Latin-1, and the basic Greek and
Cyrillic blocks; other characters are kept. -/
def smallLetter (c : Char) : Char :=
  let n := c.toNat
  if 0xC0 ≤ n ∧ n ≤ 0xDE ∧ n ≠ 0xD7 then Char.ofNat (n + 0x20)
  else if 0x391 ≤ n ∧ n ≤ 0x3A9 ∧ n ≠ 0x3A2 then Char.ofNat (n + 0x20)
  else if 0x410 ≤ n ∧ n ≤ 0x42F then Char.ofNat (n + 0x20)
  else if 0x400 ≤ n ∧ n ≤ 0x40F then Char.ofNat (n + 0x50)
  else c.toLower

/-- Whether no domain name holds a character. -/
def isForbidden (c : Char) : Bool :=
  c.toNat ≤ 0x20 || c.toNat == 0x7F || "%#/:<>?@[\\]^\x60\x7b|\x7d".toList.contains c

/-- The mark of a label in Punycode. -/
def aceMark : List Char := "xn--".toList

/-- The form of a label that is used. -/
def label? (cs : List Char) : Option (List Char) :=
  let cs := cs.map smallLetter
  if !cs.all Text.isAscii then some (aceMark ++ Text.punycode cs)
  else if aceMark.isPrefixOf cs then
    match Text.readPunycode? (cs.drop 4) with
    | some text => if text.all Text.isAscii then none else some cs
    | none => none
  else some cs

/-- The form of a domain name that is used. -/
def domainName? (cs : List Char) : Option (List Char) :=
  if cs.any isForbidden then none
  else ((cs.splitOn '.').mapM label?).map ['.'].intercalate

end RemoteBatch.Url
