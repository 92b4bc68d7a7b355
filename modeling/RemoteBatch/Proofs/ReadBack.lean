import RemoteBatch.Decimal.Natural
import RemoteBatch.Json.Printer

/-!
# Documents read back

The compact text of a document is read back as the document, wherever in a text it
stands.  A document is taken apart twice: into its tokens, which the text of each
literal gives before an arbitrary rest, and into the steps of the machine over the
tokens, which hands every document to the container that is open around it.  Only a
number has no end of its own, so that what follows it must not go on with it.

## Main definitions

* `Document.isWritten` — whether the format can write a document: its numerals are
  numerals and its strings are texts.
* `Ends` — the texts that do not go on with a number before them.
* `Document.tokens` — the tokens of a document.

## Main results

* `Document.induction` — induction over documents.
* `readNumeral_print`, `readString_escape` — the two literals read back.
* `lex_print` — **the text of a document has its tokens.**
* `foldlM_tokens` — **the tokens of a document complete it.**
* `Document.ofString?_toText` — the compact text of a document is read back.
-/

namespace RemoteBatch.Json

/-! ### Documents -/

/-- Induction on documents, over the items of arrays and the values of objects. -/
theorem Document.induction {P : Document → Prop} (null : P .null) (bool : ∀ b, P (.bool b))
    (number : ∀ n, P (.number n)) (string : ∀ s, P (.string s))
    (array : ∀ items : List Document, (∀ d ∈ items, P d) → P (.array items))
    (object : ∀ members : List (Option String × Document), (∀ m ∈ members, P m.2) →
      P (.object members)) (d : Document) : P d :=
  @Document.rec P (fun items => ∀ d ∈ items, P d) (fun members => ∀ m ∈ members, P m.2)
    (fun m => P m.2) null bool number string array object
    (fun _ h => nomatch h) (fun _ _ hd hds => List.forall_mem_cons.mpr ⟨hd, hds⟩)
    (fun _ h => nomatch h) (fun _ _ hm hms => List.forall_mem_cons.mpr ⟨hm, hms⟩)
    (fun _ _ h => h) d

/-- Whether a list holds digits only, and some. -/
def isDigits (cs : List Char) : Bool := !cs.isEmpty && cs.all Char.isDigit

/-- Whether the format has a numeral. -/
def Numeral.isWritten (n : Numeral) : Bool :=
  isWhole n.whole && n.whole.all Char.isDigit && n.fraction.all isDigits
    && n.exponent.all fun e => isDigits e.2

namespace Document

mutual

/-- Whether the format can write a document. -/
def isWritten : Document → Bool
  | .null => true
  | .bool _ => true
  | .number n => n.isWritten
  | .string s => s.isSome
  | .array items => areWritten items
  | .object members => membersAreWritten members

/-- Whether the format can write the items of an array. -/
def areWritten : List Document → Bool
  | [] => true
  | d :: ds => d.isWritten && areWritten ds

/-- Whether the format can write the members of an object. -/
def membersAreWritten : List (Option String × Document) → Bool
  | [] => true
  | (key, d) :: ms => key.isSome && d.isWritten && membersAreWritten ms

end

mutual

/-- The tokens of a document. -/
def tokens : Document → List Token
  | .null => [.null]
  | .bool b => [.bool b]
  | .number n => [.number n]
  | .string s => [.string s]
  | .array items => .openBracket :: tokensOfItems items ++ [.closeBracket]
  | .object members => .openBrace :: tokensOfMembers members ++ [.closeBrace]

/-- The tokens of the items of an array. -/
def tokensOfItems : List Document → List Token
  | [] => []
  | [d] => d.tokens
  | d :: ds => d.tokens ++ .comma :: tokensOfItems ds

/-- The tokens of the members of an object. -/
def tokensOfMembers : List (Option String × Document) → List Token
  | [] => []
  | [(key, d)] => .string key :: .colon :: d.tokens
  | (key, d) :: ms => .string key :: .colon :: d.tokens ++ .comma :: tokensOfMembers ms

end

end Document

/-! ### Numerals -/

/-- Whether a glyph behind a numeral is read as a part of it. -/
def continues (g : Glyph) : Bool := g.any fun c => c.isDigit || c == '.' || c == 'e' || c == 'E'

/-- Whether a text does not go on with a number before it. -/
def Ends (gs : List Glyph) : Prop := ∀ g ∈ gs.head?, continues g = false

theorem ends_nil : Ends [] := fun _ h => nomatch h

theorem ends_cons {c : Char} (h : continues (some c) = false) (gs : List Glyph) :
    Ends (some c :: gs) := by
  intro g hg
  obtain rfl := Option.some.inj hg
  exact h

theorem spanDigits_append {ds : List Char} (hds : ds.all Char.isDigit = true) {gs : List Glyph}
    (hgs : ∀ c, gs.head? = some (some c) → c.isDigit = false) :
    spanDigits (ds.map some ++ gs) = (ds, gs) := by
  induction ds with
  | nil =>
    cases gs with
    | nil => rfl
    | cons g gs =>
      cases g with
      | none => rfl
      | some c => simp [spanDigits, hgs c rfl]
  | cons c ds ih =>
    rw [List.all_cons, Bool.and_eq_true] at hds
    simp [spanDigits, hds.1, ih hds.2]

/-- A text that ends a number starts with no digit, no point and no mark of an exponent. -/
theorem Ends.head {gs : List Glyph} (h : Ends gs) {c : Char} (hc : gs.head? = some (some c)) :
    (c.isDigit = false ∧ c ≠ '.') ∧ c ≠ 'e' ∧ c ≠ 'E' := by
  have hcont := h (some c) (Option.mem_def.mpr hc)
  simp only [continues, Option.any_some, Bool.or_eq_false_iff, beq_eq_false_iff_ne] at hcont
  exact ⟨hcont.1.1, hcont.1.2, hcont.2⟩

/-- The text of the digits behind a point. -/
def printFraction : Option (List Char) → List Char
  | none => []
  | some digits => '.' :: digits

/-- The text of an exponent. -/
def printExponent : Option (Bool × List Char) → List Char
  | none => []
  | some (negative, digits) => 'e' :: (if negative then '-' else '+') :: digits

/-- A numeral has a digit before its point. -/
theorem Numeral.exists_digit {n : Numeral} (hn : n.isWritten = true) :
    ∃ c cs, n.whole = c :: cs ∧ c.isDigit = true := by
  simp only [isWritten, Bool.and_eq_true] at hn
  obtain ⟨⟨⟨hwhole, hdigits⟩, -⟩, -⟩ := hn
  cases hcs : n.whole with
  | nil =>
    rw [hcs] at hwhole
    exact absurd hwhole (by decide)
  | cons c cs =>
    rw [hcs, List.all_cons, Bool.and_eq_true] at hdigits
    exact ⟨c, cs, rfl, hdigits.1⟩

theorem printNumeral_eq (n : Numeral) :
    printNumeral n = (if n.negative then ['-'] else []) ++ n.whole ++ printFraction n.fraction
      ++ printExponent n.exponent := rfl

theorem readExponent_print {e : Option (Bool × List Char)}
    (he : (e.all fun e => isDigits e.2) = true) {gs : List Glyph} (hgs : Ends gs) :
    readExponent ((printExponent e).map some ++ gs) = some (e, gs) := by
  cases e with
  | none =>
    cases gs with
    | nil => rfl
    | cons g gs =>
      cases g with
      | none => rfl
      | some c =>
        obtain ⟨-, hsmall, hlarge⟩ := hgs.head rfl
        simp [printExponent, readExponent, hsmall, hlarge]
  | some e =>
    obtain ⟨negative, digits⟩ := e
    simp only [Option.all_some, isDigits, Bool.and_eq_true, Bool.not_eq_true'] at he
    have hspan := spanDigits_append he.2 fun c hc => (hgs.head hc).1.1
    have hsign : readSign (some (if negative then '-' else '+') :: (digits.map some ++ gs))
        = (negative, digits.map some ++ gs) := by
      cases negative <;> rfl
    simp [printExponent, readExponent, hsign, hspan, he.1]

/-- What follows the digits before it starts with no digit. -/
theorem head?_printExponent {e : Option (Bool × List Char)} {gs : List Glyph} (hgs : Ends gs)
    (c : Char) (hc : ((printExponent e).map some ++ gs).head? = some (some c)) :
    c.isDigit = false ∧ c ≠ '.' := by
  cases e with
  | none => exact (hgs.head hc).1
  | some e =>
    obtain rfl : 'e' = c := Option.some.inj (Option.some.inj hc)
    decide

theorem readFraction_print {f : Option (List Char)} (hf : f.all isDigits = true)
    (e : Option (Bool × List Char)) {gs : List Glyph} (hgs : Ends gs) :
    readFraction ((printFraction f).map some ++ ((printExponent e).map some ++ gs))
      = some (f, (printExponent e).map some ++ gs) := by
  have hhead := head?_printExponent (e := e) hgs
  generalize (printExponent e).map some ++ gs = rest at hhead ⊢
  cases f with
  | none =>
    cases rest with
    | nil => rfl
    | cons g rest =>
      cases g with
      | none => rfl
      | some c =>
        have hpoint := (hhead c rfl).2
        simp [printFraction, readFraction, hpoint]
  | some digits =>
    simp only [Option.all_some, isDigits, Bool.and_eq_true, Bool.not_eq_true'] at hf
    have hspan := spanDigits_append hf.2 fun c hc => (hhead c hc).1
    simp [printFraction, readFraction, hspan, hf.1]

/-- The digits before a point or an exponent end there. -/
theorem head?_printFraction {f : Option (List Char)} {e : Option (Bool × List Char)}
    {gs : List Glyph} (hgs : Ends gs) (c : Char)
    (hc : ((printFraction f).map some ++ ((printExponent e).map some ++ gs)).head?
      = some (some c)) : c.isDigit = false := by
  cases f with
  | none => exact (head?_printExponent hgs c hc).1
  | some digits =>
    obtain rfl : '.' = c := Option.some.inj (Option.some.inj hc)
    decide

/-- **A numeral is read back** before a text that does not go on with it. -/
theorem readNumeral_print {n : Numeral} (hn : n.isWritten = true) {gs : List Glyph}
    (hgs : Ends gs) : readNumeral ((printNumeral n).map some ++ gs) = some (n, gs) := by
  obtain ⟨c, cs, hcs, hc⟩ := n.exists_digit hn
  obtain ⟨negative, whole, fraction, exponent⟩ := n
  simp only [Numeral.isWritten, Bool.and_eq_true] at hn
  obtain ⟨⟨⟨hwhole, hdigits⟩, hfraction⟩, hexponent⟩ := hn
  have hunsigned : readUnsigned negative (whole.map some ++ ((printFraction fraction).map some
      ++ ((printExponent exponent).map some ++ gs)))
      = some (⟨negative, whole, fraction, exponent⟩, gs) := by
    simp [readUnsigned, spanDigits_append hdigits (head?_printFraction hgs), hwhole,
      readFraction_print hfraction exponent hgs, readExponent_print hexponent hgs]
  rw [printNumeral_eq]
  cases negative with
  | true => simpa [readNumeral] using hunsigned
  | false =>
    -- the first digit is no minus sign
    have hminus : c ≠ '-' := by
      rintro rfl
      exact absurd hc (by decide)
    obtain rfl : whole = c :: cs := hcs
    simpa [readNumeral, hminus] using hunsigned

/-! ### Strings -/

/-- The piece that a character is read back as. -/
def pieceOf (c : Char) : Piece :=
  if c.toNat < 0x20 ∧ c ∉ ['\x08', '\x0c', '\n', '\r', '\t'] then .unit c.toNat
  else .glyph (some c)

theorem unit?_hexDigit {n : Nat} (h : n < 0x20) :
    unit? '0' '0' (Text.hexDigit (n / 16)) (Text.hexDigit (n % 16)) = some n := by
  revert n
  decide

/-- **A character is read back** as one piece, whatever follows it. -/
theorem readString_escape (c : Char) (gs : List Glyph) :
    readString ((escapeChar c).map some ++ gs)
      = (readString gs).map fun (ps, rest) => (pieceOf c :: ps, rest) := by
  have hmap : ∀ p : Piece, ((readString gs).bind fun (ps, rest) => some (p :: ps, rest))
      = (readString gs).map fun (ps, rest) => (p :: ps, rest) := by
    intro p
    cases readString gs <;> rfl
  unfold escapeChar pieceOf
  -- the cases are those of the writer: marked, with a letter, as a number, as it is
  split
  · next h => rcases h with rfl | rfl <;> exact hmap _
  · next hmark =>
    split
    · next h => subst h; exact hmap _
    split
    · next h => subst h; exact hmap _
    split
    · next h => subst h; exact hmap _
    split
    · next h => subst h; exact hmap _
    split
    · next h => subst h; exact hmap _
    next hb hf hn hr ht =>
    have hnamed : c ∉ ['\x08', '\x0c', '\n', '\r', '\t'] := by
      simp [hb, hf, hn, hr, ht]
    split
    · next hlow =>
      rw [if_pos ⟨hlow, hnamed⟩]
      simp only [List.map_cons, List.map_nil, List.cons_append, List.nil_append, readString,
        unit?_hexDigit hlow]
      exact hmap _
    · next hhigh =>
      rw [if_neg (fun h => hhigh h.1)]
      rw [not_or] at hmark
      simp only [List.map_cons, List.map_nil, List.cons_append, List.nil_append]
      rw [readString, if_neg hhigh]
      · exact hmap _
      -- neither a quote nor the start of an escape
      · exact hmark.1
      · exact fun _ _ _ _ _ _ h => hmark.2 h
      · exact fun _ _ _ h => hmark.2 h
      · exact hmark.2

/-- A piece that was written is one character of the text. -/
theorem pieceChars?_pieceOf (c : Char) (ps : List Piece) :
    pieceChars? (pieceOf c :: ps) = (pieceChars? ps).map (c :: ·) := by
  unfold pieceOf
  split
  · -- a unit below the blank is no half of a pair
    next h =>
    have hhigh : isHighSurrogate c.toNat = false := by
      have := h.1
      simp [isHighSurrogate]
      omega
    have hlow : isLowSurrogate c.toNat = false := by
      have := h.1
      simp [isLowSurrogate]
      omega
    cases ps with
    | nil => simp [pieceChars?, hhigh, hlow]
    | cons p ps => cases p <;> simp [pieceChars?, hhigh, hlow]
  · rfl

/-- **A string is read back** up to its closing quote. -/
theorem readString_print (s : List Char) (gs : List Glyph) :
    readString ((s.flatMap escapeChar ++ ['"']).map some ++ gs) = some (s.map pieceOf, gs) := by
  induction s with
  | nil => rfl
  | cons c s ih =>
    rw [List.flatMap_cons, List.append_assoc, List.map_append, List.append_assoc,
      readString_escape, ih]
    rfl

theorem pieceChars?_map_pieceOf (s : List Char) : pieceChars? (s.map pieceOf) = some s := by
  induction s with
  | nil => rfl
  | cons c s ih => rw [List.map_cons, pieceChars?_pieceOf, ih]; rfl

theorem stringToken_map_pieceOf (s : String) :
    stringToken (s.toList.map pieceOf) = .string (some s) := by
  rw [stringToken, pieceChars?_map_pieceOf, Option.map_some, String.ofList_toList]

/-! ### Tokens -/

theorem lex_nil : lex [] = some [] := by rw [lex]

/-- A token at the start of a text comes before the tokens of the rest. -/
theorem lex_of_readToken {g : Glyph} {gs rest : List Glyph} {t : Token}
    (hspace : g.any isSpace = false) (h : readToken (g :: gs) = some (t, rest)) :
    lex (g :: gs) = (lex rest).map (t :: ·) := by
  rw [lex, if_neg (by simp [hspace])]
  split
  · next hnone => exact absurd (h.symm.trans hnone) (Option.some_ne_none _)
  · next t' rest' hsome =>
    obtain ⟨rfl, rfl⟩ := Prod.mk.inj (Option.some.inj (h.symm.trans hsome))
    rfl

theorem lex_comma (gs : List Glyph) : lex (some ',' :: gs) = (lex gs).map (.comma :: ·) :=
  lex_of_readToken (by decide) rfl

theorem lex_colon (gs : List Glyph) : lex (some ':' :: gs) = (lex gs).map (.colon :: ·) :=
  lex_of_readToken (by decide) rfl

theorem lex_printString (s : String) (gs : List Glyph) :
    lex ((printString s).map some ++ gs) = (lex gs).map (.string (some s) :: ·) := by
  refine lex_of_readToken (by decide) ?_
  show (readString ((s.toList.flatMap escapeChar ++ ['"']).map some ++ gs)).map _ = _
  rw [readString_print, Option.map_some]
  exact congrArg (fun t => some (t, gs)) (stringToken_map_pieceOf s)

/-- A numeral starts with a digit or a minus sign. -/
theorem exists_of_printNumeral {n : Numeral} (hn : n.isWritten = true) :
    ∃ c cs, printNumeral n = c :: cs ∧ (c = '-' ∨ c.isDigit = true) := by
  obtain ⟨c, cs, hcs, hc⟩ := n.exists_digit hn
  rw [printNumeral_eq, hcs]
  cases n.negative with
  | true => exact ⟨'-', _, rfl, .inl rfl⟩
  | false => exact ⟨c, _, rfl, .inr hc⟩

/-- No mark of the format, nor the start of one of its words, starts a numeral. -/
theorem ne_of_numeral {c : Char} (hc : c = '-' ∨ c.isDigit = true) :
    ∀ m ∈ "\x7b\x7d[]:,ntf\" \n\t\r".toList, c ≠ m := by
  have hno : "\x7b\x7d[]:,ntf\" \n\t\r".toList.all (fun m => m != '-' && !m.isDigit) = true := by
    decide
  rintro m hm rfl
  have hm := List.all_eq_true.mp hno c hm
  simp only [Bool.and_eq_true, bne_iff_ne, Bool.not_eq_true'] at hm
  rcases hc with hc | hc
  · exact hm.1 hc
  · rw [hm.2] at hc
    exact Bool.false_ne_true hc

theorem readToken_of_numeral {c : Char} (hc : c = '-' ∨ c.isDigit = true) (gs : List Glyph) :
    readToken (some c :: gs)
      = (readNumeral (some c :: gs)).map fun (n, rest) => (.number n, rest) := by
  have hne := ne_of_numeral hc
  unfold readToken
  -- every case but the last is about one of the marks
  split <;> simp_all

theorem lex_printNumeral {n : Numeral} (hn : n.isWritten = true) {gs : List Glyph}
    (hgs : Ends gs) : lex ((printNumeral n).map some ++ gs) = (lex gs).map (.number n :: ·) := by
  obtain ⟨c, cs, hprint, hc⟩ := exists_of_printNumeral hn
  have hread := readNumeral_print hn hgs
  rw [hprint] at hread ⊢
  have hne := ne_of_numeral hc
  have hspace : isSpace c = false := by
    simp [isSpace, hne ' ' (by decide), hne '\n' (by decide), hne '\t' (by decide),
      hne '\r' (by decide)]
  refine lex_of_readToken hspace ?_
  have htoken := readToken_of_numeral hc (cs.map some ++ gs)
  rw [← List.cons_append, ← List.map_cons, hread] at htoken
  exact htoken

/-! ### Documents -/

/-- That the text of a document has its tokens, before a text that ends numbers. -/
def Lexes (d : Document) : Prop :=
  d.isWritten = true → ∀ gs, Ends gs → lex (d.print.map some ++ gs) = (lex gs).map (d.tokens ++ ·)

theorem lex_printItems {items : List Document} (hitems : ∀ d ∈ items, Lexes d)
    (h : Document.areWritten items = true) {gs : List Glyph} (hgs : Ends gs) :
    lex ((Document.printItems items).map some ++ gs)
      = (lex gs).map (Document.tokensOfItems items ++ ·) := by
  induction items with
  | nil => simp [Document.printItems, Document.tokensOfItems]
  | cons d items ih =>
    obtain ⟨hd, hrest⟩ := List.forall_mem_cons.mp hitems
    rw [Document.areWritten, Bool.and_eq_true] at h
    cases items with
    | nil => exact hd h.1 gs hgs
    | cons e items =>
      simp only [Document.printItems, Document.tokensOfItems, List.map_append, List.map_cons,
        List.append_assoc, List.cons_append]
      rw [hd h.1 _ (ends_cons (by decide) _), lex_comma, ih hrest h.2]
      cases lex gs <;> simp

theorem lex_printMembers {members : List (Option String × Document)}
    (hmembers : ∀ m ∈ members, Lexes m.2) (h : Document.membersAreWritten members = true)
    {gs : List Glyph} (hgs : Ends gs) :
    lex ((Document.printMembers members).map some ++ gs)
      = (lex gs).map (Document.tokensOfMembers members ++ ·) := by
  induction members with
  | nil => simp [Document.printMembers, Document.tokensOfMembers]
  | cons m members ih =>
    obtain ⟨key, d⟩ := m
    obtain ⟨hd, hrest⟩ := List.forall_mem_cons.mp hmembers
    simp only [Document.membersAreWritten, Bool.and_eq_true] at h
    obtain ⟨key, rfl⟩ := Option.isSome_iff_exists.mp h.1.1
    cases members with
    | nil =>
      simp only [Document.printMembers, Document.tokensOfMembers, Option.getD_some,
        List.map_append, List.map_cons, List.append_assoc, List.cons_append]
      rw [lex_printString, lex_colon, hd h.1.2 gs hgs]
      cases lex gs <;> simp
    | cons m members =>
      simp only [Document.printMembers, Document.tokensOfMembers, Option.getD_some,
        List.map_append, List.map_cons, List.append_assoc, List.cons_append]
      rw [lex_printString, lex_colon, hd h.1.2 _ (ends_cons (by decide) _), lex_comma, ih hrest h.2]
      cases lex gs <;> simp

/-- **The text of a document has its tokens**, wherever it stands. -/
theorem lex_print (d : Document) : Lexes d := by
  induction d using Document.induction with
  | null => exact fun _ gs _ => lex_of_readToken (by decide) rfl
  | bool b =>
    cases b with
    | true => exact fun _ gs _ => lex_of_readToken (by decide) rfl
    | false => exact fun _ gs _ => lex_of_readToken (by decide) rfl
  | number n => exact fun h gs hgs => lex_printNumeral h hgs
  | string s =>
    intro h gs _
    obtain ⟨s, rfl⟩ := Option.isSome_iff_exists.mp h
    exact lex_printString s gs
  | array items ih =>
    intro h gs hgs
    have hopen : ∀ rest, lex (some '[' :: rest) = (lex rest).map (.openBracket :: ·) :=
      fun rest => lex_of_readToken (by decide) rfl
    have hclose : ∀ rest, lex (some ']' :: rest) = (lex rest).map (.closeBracket :: ·) :=
      fun rest => lex_of_readToken (by decide) rfl
    simp only [Document.print, Document.tokens, List.map_append, List.map_cons, List.map_nil,
      List.append_assoc, List.cons_append, List.nil_append]
    rw [hopen, lex_printItems ih h (ends_cons (by decide) _), hclose]
    cases lex gs <;> simp
  | object members ih =>
    intro h gs hgs
    have hopen : ∀ rest, lex (some '\x7b' :: rest) = (lex rest).map (.openBrace :: ·) :=
      fun rest => lex_of_readToken (by decide) rfl
    have hclose : ∀ rest, lex (some '\x7d' :: rest) = (lex rest).map (.closeBrace :: ·) :=
      fun rest => lex_of_readToken (by decide) rfl
    simp only [Document.print, Document.tokens, List.map_append, List.map_cons, List.map_nil,
      List.append_assoc, List.cons_append, List.nil_append]
    rw [hopen, lex_printMembers ih h (ends_cons (by decide) _), hclose]
    cases lex gs <;> simp

/-! ### The machine -/

/-- That the tokens of a document complete it inside any open containers. -/
def Completes (d : Document) : Prop :=
  ∀ frames, d.tokens.foldlM step (.value frames) = State.complete d frames

theorem foldlM_singleton (s : State) (t : Token) : [t].foldlM step s = step s t := bind_pure _

theorem foldlM_tokensOfItems {items : List Document} (hitems : ∀ d ∈ items, Completes d)
    (ne : items ≠ []) (done : List Document) (frames : List Frame) :
    (Document.tokensOfItems items).foldlM step (.value (.array done :: frames))
      = some (.after (.array (items.reverse ++ done) :: frames)) := by
  induction items generalizing done with
  | nil => exact absurd rfl ne
  | cons d items ih =>
    obtain ⟨hd, hrest⟩ := List.forall_mem_cons.mp hitems
    rw [List.reverse_cons, List.append_assoc]
    cases items with
    | nil => exact hd (.array done :: frames)
    | cons e items =>
      show (d.tokens ++ .comma :: Document.tokensOfItems (e :: items)).foldlM step
        (.value (.array done :: frames)) = _
      rw [List.foldlM_append, hd]
      exact ih hrest (List.cons_ne_nil e items) (d :: done)

theorem foldlM_tokensOfMembers {members : List (Option String × Document)}
    (hmembers : ∀ m ∈ members, Completes m.2) (ne : members ≠ [])
    (done : List (Option String × Document)) (frames : List Frame) :
    (Document.tokensOfMembers members).foldlM step (.key done frames)
      = some (.after (.object (members.reverse ++ done) :: frames)) := by
  induction members generalizing done with
  | nil => exact absurd rfl ne
  | cons m members ih =>
    obtain ⟨key, d⟩ := m
    obtain ⟨hd, hrest⟩ := List.forall_mem_cons.mp hmembers
    rw [List.reverse_cons, List.append_assoc]
    cases members with
    | nil => exact hd (.member done key :: frames)
    | cons e members =>
      show (d.tokens ++ .comma :: Document.tokensOfMembers (e :: members)).foldlM step
        (.value (.member done key :: frames)) = _
      rw [List.foldlM_append, hd]
      exact ih hrest (List.cons_ne_nil e members) ((key, d) :: done)

/-- The first item of an array is read like any other. -/
theorem foldlM_firstItem (d : Document) (ts : List Token) (frames : List Frame) :
    (d.tokens ++ ts).foldlM step (.firstItem (.array [] :: frames))
      = (d.tokens ++ ts).foldlM step (.value (.array [] :: frames)) := by
  cases d <;> rfl

/-- **The tokens of a document complete it.** -/
theorem foldlM_tokens (d : Document) : Completes d := by
  induction d using Document.induction with
  | null => exact fun frames => foldlM_singleton _ _
  | bool b => exact fun frames => foldlM_singleton _ _
  | number n => exact fun frames => foldlM_singleton _ _
  | string s => exact fun frames => foldlM_singleton _ _
  | array items ih =>
    intro frames
    cases items with
    | nil => exact foldlM_singleton _ _
    | cons d items =>
      have hitems := foldlM_tokensOfItems ih (List.cons_ne_nil d items) [] frames
      -- no item starts with the bracket that could stand in its place
      have hfirst : ∀ ts, (Document.tokensOfItems (d :: items) ++ ts).foldlM step
          (.firstItem (.array [] :: frames))
          = (Document.tokensOfItems (d :: items) ++ ts).foldlM step
            (.value (.array [] :: frames)) := by
        intro ts
        cases items with
        | nil => exact foldlM_firstItem d ts frames
        | cons e items =>
          have hassoc : Document.tokensOfItems (d :: e :: items) ++ ts
              = d.tokens ++ (.comma :: Document.tokensOfItems (e :: items) ++ ts) :=
            List.append_assoc _ _ _
          rw [hassoc]
          exact foldlM_firstItem d _ frames
      have hclose : step (.after (.array ((d :: items).reverse ++ []) :: frames)) .closeBracket
          = State.complete (.array (d :: items)) frames := by
        rw [List.append_nil, step, List.reverse_reverse]
      show (Document.tokensOfItems (d :: items) ++ [Token.closeBracket]).foldlM step
        (.firstItem (.array [] :: frames)) = _
      rw [hfirst, List.foldlM_append, hitems]
      exact (foldlM_singleton _ _).trans hclose
  | object members ih =>
    intro frames
    cases members with
    | nil => exact foldlM_singleton _ _
    | cons m members =>
      have hmembers := foldlM_tokensOfMembers ih (List.cons_ne_nil m members) [] frames
      have hfirst : ∀ ts, (Document.tokensOfMembers (m :: members) ++ ts).foldlM step
          (.firstKey (.object [] :: frames))
          = (Document.tokensOfMembers (m :: members) ++ ts).foldlM step (.key [] frames) := by
        intro ts
        cases members <;> rfl
      have hclose : step (.after (.object ((m :: members).reverse ++ []) :: frames)) .closeBrace
          = State.complete (.object (m :: members)) frames := by
        rw [List.append_nil, step, List.reverse_reverse]
      show (Document.tokensOfMembers (m :: members) ++ [Token.closeBrace]).foldlM step
        (.firstKey (.object [] :: frames)) = _
      rw [hfirst, List.foldlM_append, hmembers]
      exact (foldlM_singleton _ _).trans hclose

/-- **The compact text of a document is read back**, if the format can write it. -/
theorem Document.ofString?_toText {d : Document} (h : d.isWritten = true) :
    ofString? d.toText = some d := by
  have hlex : lex (glyphsOf d.toText) = some d.tokens := by
    have hprint := lex_print d h [] ends_nil
    rw [List.append_nil, lex_nil] at hprint
    rw [glyphsOf, toText, String.toList_ofList, hprint, Option.map_some, List.append_nil]
  rw [ofString?, read?, hlex, Option.bind_some, ofTokens?, foldlM_tokens d []]
  rfl

/-! ### What the format can write -/

namespace Document

@[simp] theorem isWritten_ofText (s : String) : (ofText s).isWritten = true := rfl

@[simp] theorem isWritten_null : null.isWritten = true := rfl

/-- The digits of a number other than zero do not start with a zero. -/
theorem toDigits_eq_cons {n : Nat} (h : 0 < n) :
    ∃ c cs, Nat.toDigits 10 n = c :: cs ∧ c ≠ '0' := by
  have hchar : ∀ d < 10, 0 < d → d.digitChar ≠ '0' := by decide
  -- the first digit is that of a tenth of the number
  induction n using Nat.strongRecOn with
  | _ n ih =>
    by_cases hn : n < 10
    · exact ⟨n.digitChar, [], Nat.toDigits_of_lt_base hn, hchar n hn h⟩
    · obtain ⟨c, cs, hcs, hc⟩ := ih (n / 10) (by omega) (by omega)
      refine ⟨c, cs ++ [(n % 10).digitChar], ?_, hc⟩
      rw [Nat.toDigits_of_base_le (by decide) (by omega), hcs, List.cons_append]

theorem isWhole_toDigits (n : Nat) : isWhole (Nat.toDigits 10 n) = true := by
  rcases Nat.eq_zero_or_pos n with rfl | h
  · rfl
  · obtain ⟨c, cs, hcs, hc⟩ := toDigits_eq_cons h
    rw [hcs, isWhole]
    · exact bne_iff_ne.mpr hc
    · exact fun h _ => hc h

@[simp] theorem isWritten_ofNat (n : Nat) : (ofNat n).isWritten = true := by
  simp [ofNat, isWritten, Numeral.ofNat, Numeral.isWritten, isWhole_toDigits,
    Decimal.all_isDigit_toDigits]

theorem areWritten_map {f : α → Document} (h : ∀ a, (f a).isWritten = true) (as : List α) :
    areWritten (as.map f) = true := by
  induction as with
  | nil => rfl
  | cons a as ih => rw [List.map_cons, areWritten, h, ih, Bool.true_and]

theorem isWritten_ofOption {f : α → Document} (h : ∀ a, (f a).isWritten = true) (a? : Option α) :
    (ofOption f a?).isWritten = true := by
  cases a? with
  | none => rfl
  | some a => exact h a

/-- A record can be written if the values of its fields can. -/
theorem isWritten_record {members : List (String × Document)}
    (h : ∀ m ∈ members, m.2.isWritten = true) : (record members).isWritten = true := by
  rw [record, isWritten]
  induction members with
  | nil => rfl
  | cons m members ih =>
    obtain ⟨hm, hrest⟩ := List.forall_mem_cons.mp h
    rw [List.map_cons, membersAreWritten, hm, ih hrest]
    rfl

end Document

end RemoteBatch.Json
