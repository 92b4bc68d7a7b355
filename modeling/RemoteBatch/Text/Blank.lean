import RemoteBatch.Text.Ascii

/-!
# Blank characters and trimming

A blank character is one with the Unicode property White_Space.  Trimming cuts
the longest blank run off an end of a text; what is left between two other
characters is never touched.

## Main definitions

* `isBlank` — the property of a character.
* `trimStart`, `trimEnd`, `trim` — a text without its blank ends.
* `isBlankText` — the texts that trim to nothing.
-/

namespace RemoteBatch.Text

/-- The White_Space code points, as closed ranges. -/
def blankRanges : List (Nat × Nat) :=
  [(0x9, 0xD), (0x20, 0x20), (0x85, 0x85), (0xA0, 0xA0), (0x1680, 0x1680),
   (0x2000, 0x200A), (0x2028, 0x2029), (0x202F, 0x202F), (0x205F, 0x205F),
   (0x3000, 0x3000)]

/-- Whether `n` lies in one of the closed ranges. -/
def inRanges (ranges : List (Nat × Nat)) (n : Nat) : Bool :=
  ranges.any fun range => range.1 ≤ n && n ≤ range.2

/-- Whether a character has the property White_Space. -/
def isBlank (c : Char) : Bool := inRanges blankRanges c.toNat

theorem isBlank_of_isDigit {c : Char} (h : c.isDigit = true) : isBlank c = false := by
  have hcode := toNat_of_isDigit h
  simp only [isBlank, inRanges, blankRanges, List.any_cons, List.any_nil, Bool.or_false,
    Bool.or_eq_false_iff, Bool.and_eq_false_iff, decide_eq_false_iff_not]
  omega

/-- `cs` without its leading blanks. -/
def dropBlanks (cs : List Char) : List Char := cs.dropWhile isBlank

/-- The text without its leading blanks. -/
def trimStart (s : String) : String := String.ofList (dropBlanks s.toList)

/-- The text without its trailing blanks. -/
def trimEnd (s : String) : String :=
  String.ofList (dropBlanks s.toList.reverse).reverse

/-- The text without the blanks at either end. -/
def trim (s : String) : String := trimEnd (trimStart s)

/-- Whether the text is empty or holds blanks only. -/
def isBlankText (s : String) : Bool := s.toList.all isBlank

theorem isBlankText_eq_false_iff {s : String} :
    isBlankText s = false ↔ ∃ c ∈ s.toList, isBlank c = false := by
  simp [isBlankText]

theorem dropBlanks_cons {c : Char} (h : isBlank c = false) (cs : List Char) :
    dropBlanks (c :: cs) = c :: cs := by
  rw [dropBlanks, List.dropWhile_cons_of_neg (by rw [h]; exact Bool.false_ne_true)]

theorem dropBlanks_append_of_forall {blanks : List Char} (h : ∀ c ∈ blanks, isBlank c = true)
    (cs : List Char) : dropBlanks (blanks ++ cs) = dropBlanks cs :=
  List.dropWhile_append_of_pos h

/-- A list is some blanks and what is left without them. -/
theorem exists_eq_append_dropBlanks (cs : List Char) :
    ∃ blanks, cs = blanks ++ dropBlanks cs ∧ ∀ c ∈ blanks, isBlank c = true :=
  ⟨cs.takeWhile isBlank, List.takeWhile_append_dropWhile.symm,
    fun _ hc => List.all_eq_true.mp List.all_takeWhile _ hc⟩

/-- Dropping blanks leaves nothing exactly when there was nothing else. -/
theorem dropBlanks_eq_nil_iff {cs : List Char} :
    dropBlanks cs = [] ↔ cs.all isBlank = true := by
  constructor
  · intro h
    obtain ⟨blanks, heq, hblanks⟩ := exists_eq_append_dropBlanks cs
    rw [heq, h, List.append_nil]
    exact List.all_eq_true.mpr hblanks
  · intro h
    have hnil : dropBlanks (cs ++ []) = dropBlanks [] :=
      dropBlanks_append_of_forall (List.all_eq_true.mp h) []
    rw [List.append_nil] at hnil
    exact hnil

theorem all_isBlank_dropBlanks (cs : List Char) :
    (dropBlanks cs).all isBlank = cs.all isBlank := by
  induction cs with
  | nil => rfl
  | cons c cs ih =>
    by_cases h : isBlank c
    · simpa [dropBlanks, h] using ih
    · simp [dropBlanks, h]

/-- Trimming makes no text blank. -/
theorem isBlankText_trim (s : String) : isBlankText (trim s) = isBlankText s := by
  simp only [isBlankText, trim, trimEnd, trimStart, String.toList_ofList, List.all_reverse,
    all_isBlank_dropBlanks]

end RemoteBatch.Text
