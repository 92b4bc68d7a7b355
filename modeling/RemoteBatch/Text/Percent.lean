import RemoteBatch.Text.Ascii
import RemoteBatch.Text.Utf8

/-!
# Percent-encoding

Octets written as a percent sign and two hexadecimal digits.  Which characters
are written so depends on where the text goes; a character outside ASCII always
is, octet by octet.

## Main definitions

* `percentOctet` — the escape of one octet.
* `percentEncode` — a text with some of its characters escaped.
* `percentDecode` — the octets that a text with escapes stands for.
* `formEncode` — the form in which web forms write a text.
-/

namespace RemoteBatch.Text

/-- The escape of one octet. -/
def percentOctet (b : UInt8) : List Char :=
  ['%', upperHexDigit (b.toNat / 16), upperHexDigit (b.toNat % 16)]

/-- One character, escaped if it is outside ASCII or `must` says so. -/
def percentEncodeChar (must : Char → Bool) (c : Char) : List Char :=
  if 0x80 ≤ c.toNat || must c then (String.utf8EncodeChar c).flatMap percentOctet else [c]

/-- A text with the characters that `must` names and all those outside ASCII
escaped. -/
def percentEncode (must : Char → Bool) (cs : List Char) : List Char :=
  cs.flatMap (percentEncodeChar must)

/-- The octets that a text with escapes stands for; a percent sign that opens no
escape stands for itself. -/
def percentDecode : List Char → List UInt8
  | '%' :: a :: b :: cs =>
    match hexValue? a, hexValue? b with
    | some high, some low => UInt8.ofNat (high * 16 + low) :: percentDecode cs
    | _, _ => String.utf8EncodeChar '%' ++ percentDecode (a :: b :: cs)
  | c :: cs => String.utf8EncodeChar c ++ percentDecode cs
  | [] => []

/-- Whether a web form writes a character as it is. -/
def isFormSafe (c : Char) : Bool := isAsciiAlphanumeric c || "*-._".toList.contains c

/-- One character as web forms write it. -/
def formEncodeChar (c : Char) : List Char :=
  if c = ' ' then ['+']
  else if isFormSafe c then [c]
  else (String.utf8EncodeChar c).flatMap percentOctet

/-- A text as web forms write it. -/
def formEncode (s : String) : List Char := s.toList.flatMap formEncodeChar

/-- Names and values as web forms write them. -/
def formEncodePairs : List (String × String) → List Char
  | [] => []
  | [(name, value)] => formEncode name ++ '=' :: formEncode value
  | (name, value) :: rest =>
    formEncode name ++ '=' :: formEncode value ++ '&' :: formEncodePairs rest

end RemoteBatch.Text
