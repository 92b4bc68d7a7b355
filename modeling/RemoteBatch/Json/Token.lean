import RemoteBatch.Decimal.Natural
import RemoteBatch.Text.Ascii
import RemoteBatch.Text.Utf8

/-!
# JSON tokens

The lexical layer of JSON.  Blanks between tokens are the four that the format
names.  A string literal is well formed as soon as its escapes are and it holds
no control character; whether it is a text is a second question, answered by its
value: a lone surrogate or an ill-formed octet run makes it none.

## Main definitions

* `Numeral` — a number as written.
* `Token` — the tokens.
* `readString`, `readNumeral` — the two literals with a length of their own.
* `lex` — the tokens of a text.
-/

namespace RemoteBatch.Json

/-- One position of a text that was read from octets: a character, or a run that
is none. -/
abbrev Glyph := Option Char

/-- The glyphs of a text. -/
def glyphsOf (s : String) : List Glyph := s.toList.map some

/-- A number as it is written, digit by digit. -/
structure Numeral where
  negative : Bool := false
  whole : List Char
  fraction : Option (List Char) := none
  /-- The sign of the exponent, `true` for minus, and its digits. -/
  exponent : Option (Bool × List Char) := none
  deriving DecidableEq, Repr, Inhabited

/-- The tokens of the format.  A string that is no text carries `none`. -/
inductive Token
  | openBrace
  | closeBrace
  | openBracket
  | closeBracket
  | colon
  | comma
  | null
  | bool (b : Bool)
  | number (n : Numeral)
  | string (s : Option String)
  deriving DecidableEq, Repr, Inhabited

/-! ### Numbers -/

/-- The leading decimal digits and what follows them. -/
def spanDigits : List Glyph → List Char × List Glyph
  | some c :: gs =>
    if c.isDigit then
      let (digits, rest) := spanDigits gs
      (c :: digits, rest)
    else ([], some c :: gs)
  | gs => ([], gs)

/-- Splitting off the digits loses nothing. -/
theorem length_spanDigits (gs : List Glyph) :
    (spanDigits gs).1.length + (spanDigits gs).2.length = gs.length := by
  fun_induction spanDigits gs with
  | case1 c gs h digits rest heq ih => simp_all; omega
  | case2 => simp
  | case3 => simp

/-- Whether digits may stand before the point: some, and no zero before others. -/
def isWhole : List Char → Bool
  | [] => false
  | ['0'] => true
  | c :: _ => c != '0'

/-- The digits behind a point, at least one. -/
def readFraction : List Glyph → Option (Option (List Char) × List Glyph)
  | some '.' :: gs =>
    let (digits, rest) := spanDigits gs
    if digits.isEmpty then none else some (some digits, rest)
  | gs => some (none, gs)

/-- The sign of an exponent and what follows it. -/
def readSign : List Glyph → Bool × List Glyph
  | some '-' :: gs => (true, gs)
  | some '+' :: gs => (false, gs)
  | gs => (false, gs)

/-- The exponent behind an `e` of either case, with at least one digit. -/
def readExponent : List Glyph → Option (Option (Bool × List Char) × List Glyph)
  | some c :: gs =>
    if c = 'e' ∨ c = 'E' then
      let (negative, gs) := readSign gs
      let (digits, rest) := spanDigits gs
      if digits.isEmpty then none else some (some (negative, digits), rest)
    else some (none, some c :: gs)
  | gs => some (none, gs)

/-- A number after its minus sign. -/
def readUnsigned (negative : Bool) (gs : List Glyph) : Option (Numeral × List Glyph) := do
  let (whole, gs) := spanDigits gs
  if !isWhole whole then none
  else
    let (fraction, gs) ← readFraction gs
    let (exponent, gs) ← readExponent gs
    some (⟨negative, whole, fraction, exponent⟩, gs)

/-- A number and what follows it. -/
def readNumeral : List Glyph → Option (Numeral × List Glyph)
  | some '-' :: gs => readUnsigned true gs
  | gs => readUnsigned false gs

/-! ### Strings -/

/-- A piece of a string literal: a glyph, or a sixteen-bit unit named by an
escape. -/
inductive Piece
  | glyph (g : Glyph)
  | unit (n : Nat)
  deriving DecidableEq, Repr

/-- The character that a one-letter escape names. -/
def escaped? (c : Char) : Option Char :=
  if c = '"' ∨ c = '\\' ∨ c = '/' then some c
  else if c = 'b' then some '\x08'
  else if c = 'f' then some '\x0c'
  else if c = 'n' then some '\n'
  else if c = 'r' then some '\r'
  else if c = 't' then some '\t'
  else none

/-- The unit that four hexadecimal digits name. -/
def unit? (a b c d : Char) : Option Nat := do
  let a ← Text.hexValue? a
  let b ← Text.hexValue? b
  let c ← Text.hexValue? c
  let d ← Text.hexValue? d
  some (((a * 16 + b) * 16 + c) * 16 + d)

/-- The pieces up to the closing quote, and what follows the quote. -/
def readString : List Glyph → Option (List Piece × List Glyph)
  | [] => none
  | some '"' :: gs => some ([], gs)
  | some '\\' :: some 'u' :: some a :: some b :: some c :: some d :: gs => do
    let n ← unit? a b c d
    let (pieces, rest) ← readString gs
    some (.unit n :: pieces, rest)
  | some '\\' :: some c :: gs => do
    let e ← escaped? c
    let (pieces, rest) ← readString gs
    some (.glyph (some e) :: pieces, rest)
  | some '\\' :: _ => none
  | some c :: gs =>
    if c.toNat < 0x20 then none
    else do
      let (pieces, rest) ← readString gs
      some (.glyph (some c) :: pieces, rest)
  | none :: gs => do
    let (pieces, rest) ← readString gs
    some (.glyph none :: pieces, rest)

/-- Whether a unit is the first half of a surrogate pair. -/
def isHighSurrogate (n : Nat) : Bool := 0xD800 ≤ n && n ≤ 0xDBFF

/-- Whether a unit is the second half of a surrogate pair. -/
def isLowSurrogate (n : Nat) : Bool := 0xDC00 ≤ n && n ≤ 0xDFFF

/-- The characters of a string literal, if it is a text: every surrogate is one
half of a pair of escapes, and no run of octets is ill formed. -/
def pieceChars? : List Piece → Option (List Char)
  | [] => some []
  | .glyph none :: _ => none
  | .glyph (some c) :: ps => (pieceChars? ps).map (c :: ·)
  | .unit high :: .unit low :: ps =>
    if isHighSurrogate high then
      if isLowSurrogate low then
        (pieceChars? ps).map
          (Char.ofNat ((high - 0xD800) * 0x400 + (low - 0xDC00) + 0x10000) :: ·)
      else none
    else if isLowSurrogate high then none
    else (pieceChars? (.unit low :: ps)).map (Char.ofNat high :: ·)
  | .unit n :: ps =>
    if isHighSurrogate n || isLowSurrogate n then none
    else (pieceChars? ps).map (Char.ofNat n :: ·)

/-- The token of a string literal. -/
def stringToken (pieces : List Piece) : Token :=
  .string ((pieceChars? pieces).map String.ofList)

/-! ### Tokens -/

/-- Whether a character may stand between tokens. -/
def isSpace (c : Char) : Bool := c == ' ' || c == '\n' || c == '\t' || c == '\r'

/-- The first token of a text that does not start with a blank, and what follows
it. -/
def readToken : List Glyph → Option (Token × List Glyph)
  | some '\x7b' :: gs => some (.openBrace, gs)
  | some '\x7d' :: gs => some (.closeBrace, gs)
  | some '[' :: gs => some (.openBracket, gs)
  | some ']' :: gs => some (.closeBracket, gs)
  | some ':' :: gs => some (.colon, gs)
  | some ',' :: gs => some (.comma, gs)
  | some 'n' :: some 'u' :: some 'l' :: some 'l' :: gs => some (.null, gs)
  | some 't' :: some 'r' :: some 'u' :: some 'e' :: gs => some (.bool true, gs)
  | some 'f' :: some 'a' :: some 'l' :: some 's' :: some 'e' :: gs => some (.bool false, gs)
  | some '"' :: gs => (readString gs).map fun (pieces, rest) => (stringToken pieces, rest)
  | gs => (readNumeral gs).map fun (n, rest) => (.number n, rest)

/-! ### Reading leaves less -/

theorem length_readString_lt {gs rest : List Glyph} {ps : List Piece}
    (h : readString gs = some (ps, rest)) : rest.length < gs.length := by
  fun_induction readString gs generalizing ps rest with
  | case1 => simp at h
  | case2 gs => simp at h; simp [h.2]
  | case3 a b c d gs ih =>
    simp only [Option.bind_eq_bind, Option.bind_eq_some_iff, Prod.exists, Option.some.injEq,
      Prod.mk.injEq] at h
    obtain ⟨n, _, ps', rest', h', _, rfl⟩ := h
    have := ih h'
    simp only [List.length_cons]; omega
  | case4 c gs _ ih =>
    simp only [Option.bind_eq_bind, Option.bind_eq_some_iff, Prod.exists, Option.some.injEq,
      Prod.mk.injEq] at h
    obtain ⟨e, _, ps', rest', h', _, rfl⟩ := h
    have := ih h'
    simp only [List.length_cons]; omega
  | case5 => simp at h
  | case6 => simp at h
  | case7 c gs _ _ _ _ _ ih =>
    simp only [Option.bind_eq_bind, Option.bind_eq_some_iff, Prod.exists, Option.some.injEq,
      Prod.mk.injEq] at h
    obtain ⟨ps', rest', h', _, rfl⟩ := h
    have := ih h'
    simp only [List.length_cons]; omega
  | case8 gs ih =>
    simp only [Option.bind_eq_bind, Option.bind_eq_some_iff, Prod.exists, Option.some.injEq,
      Prod.mk.injEq] at h
    obtain ⟨ps', rest', h', _, rfl⟩ := h
    have := ih h'
    simp only [List.length_cons]; omega

theorem length_readFraction_le {gs rest : List Glyph} {f : Option (List Char)}
    (h : readFraction gs = some (f, rest)) : rest.length ≤ gs.length := by
  fun_cases readFraction gs with
  | case1 gs digits rest' heq hempty => simp [readFraction, heq, hempty] at h
  | case2 gs digits rest' heq hempty =>
    have := length_spanDigits gs
    simp only [readFraction, heq, hempty] at h this
    simp at h
    simp only [List.length_cons, ← h.2]; omega
  | case3 gs hne =>
    simp only [readFraction] at h
    simp at h
    simp [h.2]

theorem length_readSign_le (gs : List Glyph) : (readSign gs).2.length ≤ gs.length := by
  fun_cases readSign gs <;> simp

theorem length_readExponent_le {gs rest : List Glyph} {e : Option (Bool × List Char)}
    (h : readExponent gs = some (e, rest)) : rest.length ≤ gs.length := by
  match gs with
  | [] => simp [readExponent] at h; simp [h.2]
  | none :: gs => simp [readExponent] at h; simp [← h.2]
  | some c :: gs =>
    simp only [readExponent] at h
    split at h
    · have h₁ := length_readSign_le gs
      have h₂ := length_spanDigits (readSign gs).2
      split at h
      · simp at h
      · simp at h
        simp only [List.length_cons, ← h.2]; omega
    · simp at h
      simp [← h.2]

theorem length_readUnsigned_lt {negative : Bool} {gs rest : List Glyph} {n : Numeral}
    (h : readUnsigned negative gs = some (n, rest)) : rest.length < gs.length := by
  simp only [readUnsigned] at h
  split at h
  · simp at h
  · next hw =>
    simp only [Option.bind_eq_bind, Option.bind_eq_some_iff, Prod.exists, Option.some.injEq,
      Prod.mk.injEq] at h
    obtain ⟨f, gs₁, hf, e, gs₂, he, _, rfl⟩ := h
    have h₁ := length_readFraction_le hf
    have h₂ := length_readExponent_le he
    have h₃ := length_spanDigits gs
    have h₄ : 0 < (spanDigits gs).1.length := by
      cases hd : (spanDigits gs).1 with
      | nil => simp [hd, isWhole] at hw
      | cons => simp
    omega

theorem length_readNumeral_lt {gs rest : List Glyph} {n : Numeral}
    (h : readNumeral gs = some (n, rest)) : rest.length < gs.length := by
  fun_cases readNumeral gs with
  | case1 gs =>
    have := length_readUnsigned_lt (by simpa only [readNumeral] using h)
    simp only [List.length_cons]; omega
  | case2 gs hne => exact length_readUnsigned_lt (by simpa only [readNumeral] using h)

theorem length_readToken_lt {gs rest : List Glyph} {t : Token}
    (h : readToken gs = some (t, rest)) : rest.length < gs.length := by
  fun_cases readToken gs with
  | case10 gs =>
    simp only [readToken, Option.map_eq_some_iff, Prod.exists, Prod.mk.injEq] at h
    obtain ⟨ps, rest', h', _, rfl⟩ := h
    have := length_readString_lt h'
    simp only [List.length_cons]; omega
  | case11 gs =>
    simp only [readToken, Option.map_eq_some_iff, Prod.exists, Prod.mk.injEq] at h
    obtain ⟨n, rest', h', _, rfl⟩ := h
    exact length_readNumeral_lt h'
  | _ =>
    simp only [readToken, Option.some.injEq, Prod.mk.injEq] at h
    simp only [List.length_cons, ← h.2]; omega

/-- The tokens of a text, or `none` where one is malformed. -/
def lex : List Glyph → Option (List Token)
  | [] => some []
  | g :: gs =>
    if g.any isSpace then lex gs
    else match _h : readToken (g :: gs) with
      | none => none
      | some (t, rest) => (lex rest).map (t :: ·)
  termination_by gs => gs.length
  decreasing_by
    · simp
    · exact length_readToken_lt ‹_›

end RemoteBatch.Json
