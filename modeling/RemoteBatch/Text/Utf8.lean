/-!
# UTF-8

Text as octets.  Reading keeps every octet accounted for: a well-formed sequence
gives its character and each maximal ill-formed run gives one mark, so that a
reader can both refuse such a text and show where it went wrong.

## Main definitions

* `encodeUtf8` — the octets of a text.
* `glyphs` — the characters of an octet string, with `none` for an ill-formed run.
* `decodeUtf8?` — the text of a well-formed octet string.
* `decodeLossy` — the text with a replacement character for each ill-formed run.
-/

namespace RemoteBatch.Text

/-- The octets of a list of characters. -/
def encodeUtf8 (cs : List Char) : List UInt8 := cs.flatMap String.utf8EncodeChar

/-- What the first octet of a longer sequence says: its share of the code point
and the ranges that the octets after it must lie in.  `none` for an octet that
opens no such sequence. -/
def sequenceOf (b : Nat) : Option (Nat × List (Nat × Nat)) :=
  let tail := (0x80, 0xBF)
  if 0xC2 ≤ b ∧ b ≤ 0xDF then some (b - 0xC0, [tail])
  else if b = 0xE0 then some (0, [(0xA0, 0xBF), tail])
  else if b = 0xED then some (0xD, [(0x80, 0x9F), tail])
  else if 0xE1 ≤ b ∧ b ≤ 0xEF then some (b - 0xE0, [tail, tail])
  else if b = 0xF0 then some (0, [(0x90, 0xBF), tail, tail])
  else if 0xF1 ≤ b ∧ b ≤ 0xF3 then some (b - 0xF0, [tail, tail, tail])
  else if b = 0xF4 then some (4, [(0x80, 0x8F), tail, tail])
  else none

/-- Reads the octets that the ranges ask for onto the code point, and stops at
the first that does not fit, which it leaves. -/
def readTail (code : Nat) : List (Nat × Nat) → List UInt8 → Option Nat × List UInt8
  | [], bytes => (some code, bytes)
  | _ :: _, [] => (none, [])
  | (low, high) :: ranges, b :: bytes =>
    if low ≤ b.toNat ∧ b.toNat ≤ high then readTail (code * 64 + b.toNat % 64) ranges bytes
    else (none, b :: bytes)

theorem length_readTail_le (code : Nat) (ranges : List (Nat × Nat)) (bytes : List UInt8) :
    (readTail code ranges bytes).2.length ≤ bytes.length := by
  fun_induction readTail code ranges bytes with
  | case1 => simp
  | case2 => simp
  | case3 code low high ranges b bytes h ih => exact Nat.le_succ_of_le ih
  | case4 => simp

/-- The characters of an octet string, with `none` for each maximal run that is
no character. -/
def glyphs : List UInt8 → List (Option Char)
  | [] => []
  | b :: bytes =>
    if b.toNat < 0x80 then some (Char.ofNat b.toNat) :: glyphs bytes
    else match sequenceOf b.toNat with
      | none => none :: glyphs bytes
      | some (code, ranges) =>
        (readTail code ranges bytes).1.map Char.ofNat :: glyphs (readTail code ranges bytes).2
  termination_by bytes => bytes.length
  decreasing_by
    · simp
    · simp
    · exact Nat.lt_succ_of_le (length_readTail_le _ _ _)

/-- The text of a well-formed octet string. -/
def decodeUtf8? (bytes : List UInt8) : Option String :=
  ((glyphs bytes).mapM id).map String.ofList

/-- The mark U+FEFF that some writers put in front of a text. -/
def byteOrderMark : Char := '\ufeff'

/-- The text of an octet string, with U+FFFD for each ill-formed run and without
a leading byte order mark. -/
def decodeLossy (bytes : List UInt8) : String :=
  match (glyphs bytes).map (·.getD '\ufffd') with
  | [] => ""
  | c :: cs => String.ofList (if c = byteOrderMark then cs else c :: cs)

end RemoteBatch.Text
