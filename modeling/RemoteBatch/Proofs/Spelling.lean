import Mathlib.Data.List.Forall2
import RemoteBatch.Text.Blank

/-!
# Spellings of a word

A word that a person or a scheduler writes may stand between blanks, and its letters may be
large or small.  Trimming finds the word, which is the one that the blanks are cut off from
and that has none at its ends, and folding compares it letter by letter.

## Main definitions

* `SameLetter`, `SameLetters` — equality up to the case of `A`–`Z`.
* `Surrounds`, `Tight` — that a text is a word between blanks, and that a word has no blanks
  at its ends.
* `Spells` — that a text is a spelling of a word.
* `Alike` — that two texts are spellings of one word.

## Main results

* `trim_eq_iff` — **what trimming finds.**
* `spells_iff`, `Alike.sameIgnoringCase_trim` — what is compared once a text is trimmed.
-/

namespace RemoteBatch.Text

/-! ### Letters of either case -/

/-- That two characters are the same, or one letter of `A`–`Z` written large and small. -/
def SameLetter (c d : Char) : Prop :=
  c = d ∨ c.isUpper = true ∧ d.toNat = c.toNat + 32 ∨ d.isUpper = true ∧ c.toNat = d.toNat + 32

/-- That two texts have the same letters in the same places. -/
def SameLetters (s t : String) : Prop := List.Forall₂ SameLetter s.toList t.toList

theorem isUpper_iff {c : Char} : c.isUpper = true ↔ 65 ≤ c.toNat ∧ c.toNat ≤ 90 := by
  show decide ('A'.val ≤ c.val ∧ c.val ≤ 'Z'.val) = true ↔ _
  rw [decide_eq_true_eq, UInt32.le_iff_toNat_le, UInt32.le_iff_toNat_le]
  rfl

/-- Folding adds to the code of a large letter, and changes nothing else. -/
theorem toNat_toLower (c : Char) :
    c.toLower.toNat = if c.isUpper then c.toNat + 32 else c.toNat := by
  unfold Char.toLower
  split
  · next h =>
    have hupper : c.isUpper = true := decide_eq_true h
    have hle : c.toNat ≤ 90 := (isUpper_iff.mp hupper).2
    rw [if_pos hupper]
    show (c.val + ('a'.val - 'A'.val)).toNat = c.toNat + 32
    have hval : c.val.toNat = c.toNat := rfl
    have hshift : ('a'.val - 'A'.val).toNat = 32 := rfl
    rw [UInt32.toNat_add]
    omega
  · next h =>
    have hupper : ¬c.isUpper = true := fun hupper => h (of_decide_eq_true hupper)
    rw [if_neg hupper]

theorem toLower_eq_toLower_iff {c d : Char} : c.toLower = d.toLower ↔ SameLetter c d := by
  have hc := toNat_toLower c
  have hd := toNat_toLower d
  simp only [SameLetter, ← Char.toNat_inj, isUpper_iff] at hc hd ⊢
  split at hc
  · split at hd
    · omega
    · omega
  · split at hd
    · omega
    · omega

/-- A character outside ASCII is no other character's letter. -/
theorem SameLetter.eq_of_le {c d : Char} (h : SameLetter c d) (hc : 128 ≤ c.toNat ∨ 128 ≤ d.toNat) :
    c = d := by
  rcases h with h | ⟨hupper, h⟩ | ⟨hupper, h⟩
  · exact h
  · have hle := (isUpper_iff.mp hupper).2
    omega
  · have hle := (isUpper_iff.mp hupper).2
    omega

theorem sameIgnoringCase_iff {s t : String} :
    sameIgnoringCase s t = true ↔ SameLetters s t := by
  rw [sameIgnoringCase, beq_iff_eq, foldCase, foldCase, String.ofList_inj, SameLetters,
    ← List.forall₂_eq_eq_eq, List.forall₂_map_left_iff, List.forall₂_map_right_iff]
  simp only [toLower_eq_toLower_iff]

/-- Texts with the same letters have the same characters outside ASCII. -/
theorem SameLetters.getElem?_eq_some_iff {s t : String} (h : SameLetters s t) {c : Char}
    (hc : 128 ≤ c.toNat) (i : Nat) : s.toList[i]? = some c ↔ t.toList[i]? = some c := by
  obtain ⟨hlength, hletter⟩ := List.forall₂_iff_get.mp h
  simp only [List.getElem?_eq_some_iff]
  constructor
  · rintro ⟨hi, rfl⟩
    exact ⟨hlength ▸ hi, ((hletter i hi (hlength ▸ hi)).eq_of_le (.inl hc)).symm⟩
  · rintro ⟨hi, rfl⟩
    exact ⟨hlength ▸ hi, (hletter i (hlength ▸ hi) hi).eq_of_le (.inr hc)⟩

/-! ### Words between blanks -/

/-- That a text is a word with blanks around it, if any. -/
def Surrounds (s word : String) : Prop :=
  ∃ before after, s.toList = before ++ word.toList ++ after
    ∧ (∀ c ∈ before, isBlank c = true) ∧ ∀ c ∈ after, isBlank c = true

/-- That a word has no blanks at its ends. -/
def Tight (word : String) : Prop :=
  (∀ c ∈ word.toList.head?, isBlank c = false) ∧ ∀ c ∈ word.toList.getLast?, isBlank c = false

theorem dropBlanks_eq_self {cs : List Char} (h : ∀ c ∈ cs.head?, isBlank c = false) :
    dropBlanks cs = cs := by
  cases cs with
  | nil => rfl
  | cons c cs => exact dropBlanks_cons (h c rfl) cs

theorem head?_dropBlanks (cs : List Char) : ∀ c ∈ (dropBlanks cs).head?, isBlank c = false := by
  intro c hc
  have hfirst := List.head?_dropWhile_not isBlank cs
  rw [← dropBlanks, Option.mem_def.mp hc] at hfirst
  simpa using hfirst

theorem toList_trim (s : String) :
    (trim s).toList = (dropBlanks (dropBlanks s.toList).reverse).reverse := by
  simp [trim, trimEnd, trimStart]

/-- Behind its leading blanks, a text is what trimming finds and blanks. -/
theorem exists_dropBlanks_eq (s : String) : ∃ after,
    dropBlanks s.toList = (trim s).toList ++ after ∧ ∀ c ∈ after, isBlank c = true := by
  obtain ⟨after, hafter, hblank⟩ := exists_eq_append_dropBlanks (dropBlanks s.toList).reverse
  refine ⟨after.reverse, ?_, fun c hc => hblank c (List.mem_reverse.mp hc)⟩
  rw [toList_trim, ← List.reverse_append, ← hafter, List.reverse_reverse]

/-- Trimming finds a word that the text has blanks around. -/
theorem surrounds_trim (s : String) : Surrounds s (trim s) := by
  obtain ⟨before, hbefore, hblank⟩ := exists_eq_append_dropBlanks s.toList
  obtain ⟨after, hafter, hblank'⟩ := exists_dropBlanks_eq s
  refine ⟨before, after, ?_, hblank, hblank'⟩
  rw [List.append_assoc, ← hafter, ← hbefore]

theorem tight_trim (s : String) : Tight (trim s) := by
  constructor
  · intro c hc
    obtain ⟨after, hafter, -⟩ := exists_dropBlanks_eq s
    apply head?_dropBlanks s.toList c
    rw [hafter]
    exact List.mem_head?_append_of_mem_head? hc
  · intro c hc
    rw [toList_trim, List.getLast?_reverse] at hc
    exact head?_dropBlanks _ c hc

theorem trim_of_surrounds {s word : String} (h : Surrounds s word) (tight : Tight word) :
    trim s = word := by
  obtain ⟨before, after, hs, hbefore, hafter⟩ := h
  obtain ⟨hhead, hlast⟩ := tight
  apply String.toList_inj.mp
  rw [toList_trim, hs, List.append_assoc, dropBlanks_append_of_forall hbefore]
  cases hword : word.toList with
  | nil =>
    have hnil : dropBlanks after = [] := dropBlanks_eq_nil_iff.mpr (List.all_eq_true.mpr hafter)
    rw [List.nil_append, hnil]
    rfl
  | cons c cs =>
    rw [hword] at hhead hlast
    have hafter' : ∀ d ∈ after.reverse, isBlank d = true :=
      fun d hd => hafter d (List.mem_reverse.mp hd)
    have hlast' : ∀ d ∈ (c :: cs).reverse.head?, isBlank d = false := by
      rw [List.head?_reverse]
      exact hlast
    rw [List.cons_append, dropBlanks_cons (hhead c rfl), ← List.cons_append, List.reverse_append,
      dropBlanks_append_of_forall hafter', dropBlanks_eq_self hlast', List.reverse_reverse]

/-- **What trimming finds**: the word without blanks at its ends that the text has blanks
around. -/
theorem trim_eq_iff {s word : String} : trim s = word ↔ Surrounds s word ∧ Tight word := by
  constructor
  · rintro rfl
    exact ⟨surrounds_trim s, tight_trim s⟩
  · rintro ⟨surrounds, tight⟩
    exact trim_of_surrounds surrounds tight

theorem Surrounds.trans {s t word : String} (hs : Surrounds s t) (ht : Surrounds t word) :
    Surrounds s word := by
  obtain ⟨before, after, hs, hbefore, hafter⟩ := hs
  obtain ⟨before', after', ht, hbefore', hafter'⟩ := ht
  refine ⟨before ++ before', after' ++ after, by simp [hs, ht], ?_, ?_⟩
  · exact List.forall_mem_append.mpr ⟨hbefore, hbefore'⟩
  · exact List.forall_mem_append.mpr ⟨hafter', hafter⟩

/-- Blanks around a text do not change what trimming finds. -/
theorem Surrounds.trim_eq {s t : String} (h : Surrounds s t) : trim s = trim t :=
  trim_eq_iff.mpr ⟨h.trans (surrounds_trim t), tight_trim t⟩

/-! ### Spellings -/

/-- That a text is a spelling of a word: the word stands between blanks, if any, and its
letters may be of either case. -/
def Spells (s word : String) : Prop :=
  ∃ written, Surrounds s written ∧ Tight written ∧ SameLetters word written

theorem spells_iff {s word : String} :
    Spells s word ↔ sameIgnoringCase word (trim s) = true := by
  rw [sameIgnoringCase_iff]
  constructor
  · rintro ⟨written, surrounds, tight, same⟩
    rwa [trim_of_surrounds surrounds tight]
  · intro same
    exact ⟨trim s, surrounds_trim s, tight_trim s, same⟩

/-- That two texts are alike up to the blanks around them and the case of their letters. -/
def Alike (s t : String) : Prop :=
  ∃ word word', Surrounds s word ∧ Surrounds t word' ∧ SameLetters word word'

theorem isBlank_toLower (c : Char) : isBlank c.toLower = isBlank c := by
  have hcode := toNat_toLower c
  by_cases hupper : c.isUpper = true
  · -- neither letter is a blank
    have hrange := isUpper_iff.mp hupper
    rw [if_pos hupper] at hcode
    have hblank {d : Char} (h : 65 ≤ d.toNat ∧ d.toNat ≤ 122) : isBlank d = false := by
      simp only [isBlank, inRanges, blankRanges, List.any_cons, List.any_nil, Bool.or_false,
        Bool.or_eq_false_iff, Bool.and_eq_false_iff, decide_eq_false_iff_not]
      omega
    rw [hblank (by omega), hblank (by omega)]
  · rw [if_neg hupper] at hcode
    rw [Char.toNat_inj.mp hcode]

/-- It does not matter whether a text is folded before it is trimmed or after. -/
theorem foldCase_trim (s : String) : foldCase (trim s) = trim (foldCase s) := by
  have hblank : isBlank ∘ Char.toLower = isBlank := funext isBlank_toLower
  apply String.toList_inj.mp
  simp only [foldCase, toList_trim, String.toList_ofList, dropBlanks, List.dropWhile_map, hblank,
    ← List.map_reverse]

/-- Texts that are alike are the same once they are trimmed, up to the case of letters. -/
theorem Alike.sameIgnoringCase_trim {s t : String} (h : Alike s t) :
    sameIgnoringCase (trim s) (trim t) = true := by
  obtain ⟨word, word', hs, ht, same⟩ := h
  have hfold : foldCase word = foldCase word' := eq_of_beq (sameIgnoringCase_iff.mpr same)
  rw [hs.trim_eq, ht.trim_eq, sameIgnoringCase, foldCase_trim, foldCase_trim, hfold]
  exact beq_self_eq_true _

/-- Texts that are alike are spellings of the same words. -/
theorem Alike.spells_iff {s t : String} (h : Alike s t) (word : String) :
    Spells s word ↔ Spells t word := by
  have hfold : foldCase (trim s) = foldCase (trim t) := eq_of_beq h.sameIgnoringCase_trim
  rw [Text.spells_iff, Text.spells_iff, sameIgnoringCase, sameIgnoringCase, hfold]

end RemoteBatch.Text
