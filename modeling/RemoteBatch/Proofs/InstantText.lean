import RemoteBatch.Calendar.Instant

/-!
# Instants read back

The text of an instant is read back as that instant.  Every number of it is filled with
zeros and followed by a mark that is no digit, so that each reader stops where the writer
did; only the year may have more digits than its field is wide, and then it has a sign.

## Main results

* `readField?_padded` — a filled number is read back before what is no digit.
* `readYear?_yearText`, `readFraction?_fractionText` — the fields with forms of their own.
* `readDate?_text`, `readTime?_text` — **the two halves of an instant.**
* `Instant.read?_text` — **an instant is read back.**
-/

namespace RemoteBatch.Calendar

open Decimal (padded natural? natural?_padded all_isDigit_padded length_padded padded_ne_nil)
open Text (dropBlanks isBlank dropBlanks_cons isBlank_of_isDigit)

/-! ### Numbers -/

/-- Whether a text does not start with a digit. -/
def NoDigit (cs : List Char) : Prop := ∀ c ∈ cs.head?, c.isDigit = false

theorem noDigit_cons {c : Char} (h : c.isDigit = false) (cs : List Char) : NoDigit (c :: cs) := by
  intro a ha
  obtain rfl := Option.some.inj ha
  exact h

theorem spanDigits_append {width : Nat} {ds : List Char} (hds : ds.all Char.isDigit = true)
    (hwidth : ds.length ≤ width) {rest : List Char} (hrest : NoDigit rest) :
    spanDigits width (ds ++ rest) = (ds, rest) := by
  induction ds generalizing width with
  | nil =>
    cases rest with
    | nil => cases width <;> rfl
    | cons c rest =>
      have hc := hrest c rfl
      cases width <;> simp [spanDigits, hc]
  | cons c ds ih =>
    rw [List.all_cons, Bool.and_eq_true] at hds
    cases width with
    | zero => exact absurd hwidth (by simp)
    | succ width =>
      simp [spanDigits, hds.1, ih hds.2 (Nat.le_of_succ_le_succ hwidth)]

/-- A filled number is read back in any field that is wide enough. -/
theorem readDigits?_padded {width n field : Nat} (h : (padded width n).length ≤ field)
    {rest : List Char} (hrest : NoDigit rest) :
    readDigits? field (padded width n ++ rest) = some (n, rest) := by
  rw [readDigits?, spanDigits_append (all_isDigit_padded width n) h hrest]
  simp [natural?_padded]

/-- A filled number starts with a digit. -/
theorem exists_padded (width n : Nat) :
    ∃ c cs, padded width n = c :: cs ∧ c.isDigit = true := by
  obtain ⟨c, cs, hcs⟩ := List.exists_cons_of_ne_nil (padded_ne_nil width n)
  have hdigits := all_isDigit_padded width n
  rw [hcs, List.all_cons, Bool.and_eq_true] at hdigits
  exact ⟨c, cs, hcs, hdigits.1⟩

theorem dropBlanks_padded (width n : Nat) (rest : List Char) :
    dropBlanks (padded width n ++ rest) = padded width n ++ rest := by
  obtain ⟨c, cs, hcs, hc⟩ := exists_padded width n
  rw [hcs, List.cons_append, dropBlanks_cons (isBlank_of_isDigit hc)]

/-- **A filled number is read back** before what is no digit. -/
theorem readField?_padded {width n : Nat} (hw : 0 < width) (h : n < Nat.pow 10 width)
    {rest : List Char} (hrest : NoDigit rest) :
    readField? width (padded width n ++ rest) = some (n, rest) := by
  rw [readField?, dropBlanks_padded, readDigits?_padded (Nat.le_of_eq (length_padded hw h)) hrest]

theorem readMark?_cons {mark : Char} (h : isBlank mark = false) (cs : List Char) :
    readMark? mark (mark :: cs) = some cs := by
  simp [readMark?, dropBlanks_cons h]

/-! ### Dates -/

theorem readYear?_yearText (year : Int) {rest : List Char} (hrest : NoDigit rest) :
    readYear? (yearText year ++ rest) = some (year, rest) := by
  unfold yearText
  split
  · next hyear =>
    have hfour : year.toNat < 10000 := by omega
    have hlength : (padded 4 year.toNat).length ≤ 4 :=
      Nat.le_of_eq (length_padded (by decide) hfour)
    have hread := readDigits?_padded hlength hrest
    obtain ⟨c, cs, hcs, hc⟩ := exists_padded 4 year.toNat
    have hminus : c ≠ '-' := by rintro rfl; exact absurd hc (by decide)
    have hplus : c ≠ '+' := by rintro rfl; exact absurd hc (by decide)
    rw [hcs, List.cons_append] at hread ⊢
    rw [readYear?, dropBlanks_cons (isBlank_of_isDigit hc)]
    simp [hminus, hplus, hread]
    omega
  · -- the sign lets the field be as wide as what is left
    next hyear =>
    have hread : readDigits? (padded 4 year.natAbs ++ rest).length (padded 4 year.natAbs ++ rest)
        = some (year.natAbs, rest) := readDigits?_padded (by simp) hrest
    rw [List.cons_append]
    split
    · rw [readYear?, dropBlanks_cons (by decide)]
      simp only [hread, Option.map_some, Option.some.injEq, Prod.mk.injEq, and_true]
      omega
    · rw [readYear?, dropBlanks_cons (by decide)]
      simp only [hread, Option.map_some, Option.some.injEq, Prod.mk.injEq, and_true]
      omega

theorem daysInMonth_le (year : Int) (month : Nat) : daysInMonth year month ≤ 31 := by
  unfold daysInMonth
  split
  · exact Nat.le_refl _
  split
  · decide
  split
  · split <;> decide
  · decide

/-- A number above twelve is no month. -/
theorem daysInMonth_eq_zero {month : Nat} (h : 12 < month) (year : Int) :
    daysInMonth year month = 0 := by
  have hlong : month ∉ [1, 3, 5, 7, 8, 10, 12] := by simp; omega
  have hshort : month ∉ [4, 6, 9, 11] := by simp; omega
  rw [daysInMonth, if_neg hlong, if_neg hshort, if_neg (by omega)]

theorem Date.month_le (d : Date) : d.month ≤ 12 := by
  have hday := d.exists_day
  simp only [isDay, Bool.and_eq_true, decide_eq_true_eq] at hday
  by_cases h : 12 < d.month
  · rw [daysInMonth_eq_zero h] at hday
    omega
  · omega

theorem Date.day_le (d : Date) : d.day ≤ 31 := by
  have hday := d.exists_day
  simp only [isDay, Bool.and_eq_true, decide_eq_true_eq] at hday
  exact Nat.le_trans hday.2 (daysInMonth_le d.year d.month)

/-- **A date is read back** before what is no digit. -/
theorem readDate?_text (d : Date) {rest : List Char} (hrest : NoDigit rest) :
    readDate? (d.text ++ rest) = some (d, rest) := by
  have hhyphen : ∀ cs, NoDigit ('-' :: cs) := noDigit_cons (by decide)
  have hmonth : d.month < Nat.pow 10 2 := Nat.lt_of_le_of_lt d.month_le (by decide)
  have hday : d.day < Nat.pow 10 2 := Nat.lt_of_le_of_lt d.day_le (by decide)
  simp only [readDate?, Date.text, List.append_assoc, List.cons_append, Option.bind_eq_bind]
  rw [readYear?_yearText d.year (hhyphen _), Option.bind_some, readMark?_cons (by decide),
    Option.bind_some, readField?_padded (by decide) hmonth (hhyphen _), Option.bind_some,
    readMark?_cons (by decide), Option.bind_some, readField?_padded (by decide) hday hrest,
    Option.bind_some, Date.of?_self, Option.bind_some]

/-! ### Times of day -/

/-- Digits behind a point are read back as the nanoseconds that they stand for. -/
theorem readFraction?_padded {width n : Nat} (hw : 0 < width) (hwidth : width ≤ 9)
    (h : n < Nat.pow 10 width) {rest : List Char} (hrest : NoDigit rest) :
    readFraction? ('.' :: padded width n ++ rest) = some (n * Nat.pow 10 (9 - width), rest) := by
  have hlength := length_padded hw h
  have hspan := spanDigits_append (all_isDigit_padded width n) (hlength ▸ hwidth) hrest
  have hrest : rest.dropWhile Char.isDigit = rest := by
    cases rest with
    | nil => rfl
    | cons c rest => simp [hrest c rfl]
  simp [readFraction?, hspan, natural?_padded, hlength, hrest]

/-- **A fraction is read back** before what neither is a digit nor a point. -/
theorem readFraction?_fractionText {nanos : Nat} (h : nanos < 1000000000) {c : Char}
    (hc : c.isDigit = false) (hpoint : c ≠ '.') (rest : List Char) :
    readFraction? (fractionText nanos ++ c :: rest) = some (nanos, c :: rest) := by
  have hrest : NoDigit (c :: rest) := noDigit_cons hc rest
  unfold fractionText
  split
  · next hzero => simp [readFraction?, hpoint, hzero]
  split
  · have hmillis : nanos / 1000000 < 1000 := by omega
    have hwhole : nanos / 1000000 * 1000000 = nanos := by omega
    rw [readFraction?_padded (by decide) (by decide) hmillis hrest]
    exact congrArg (fun n => some (n, c :: rest)) hwhole
  split
  · have hmicros : nanos / 1000 < 1000000 := by omega
    have hwhole : nanos / 1000 * 1000 = nanos := by omega
    rw [readFraction?_padded (by decide) (by decide) hmicros hrest]
    exact congrArg (fun n => some (n, c :: rest)) hwhole
  · rw [readFraction?_padded (by decide) (by decide) h hrest]
    simp

/-- **A time of day is read back** before what neither is a digit nor a point. -/
theorem readTime?_text (minute : Fin 1440) (second : Fin 61) (nanos : Fin 1000000000) {c : Char}
    (hc : c.isDigit = false) (hpoint : c ≠ '.') (rest : List Char) :
    readTime? (padded 2 (minute / 60) ++ ':' :: padded 2 (minute % 60) ++ ':' :: padded 2 second
      ++ fractionText nanos ++ c :: rest) = some ((minute, second, nanos), c :: rest) := by
  have hcolon : ∀ cs, NoDigit (':' :: cs) := noDigit_cons (by decide)
  have hfraction : NoDigit (fractionText nanos ++ c :: rest) := by
    unfold fractionText
    split
    · exact noDigit_cons hc rest
    split
    · exact noDigit_cons (by decide) _
    split <;> exact noDigit_cons (by decide) _
  have hsplit : minute / 60 * 60 + minute % 60 = (minute : Nat) := Nat.div_add_mod' _ _
  have hminute := minute.isLt
  have hsecond := second.isLt
  have hhour : minute.val / 60 < 100 := by omega
  have hpast : minute.val % 60 < 100 := by omega
  have hrun : second.val < 100 := by omega
  simp only [readTime?, List.append_assoc, List.cons_append, Option.bind_eq_bind]
  rw [readField?_padded (by decide) hhour (hcolon _), Option.bind_some,
    readMark?_cons (by decide), Option.bind_some,
    readField?_padded (by decide) hpast (hcolon _), Option.bind_some,
    readMark?_cons (by decide), Option.bind_some,
    readField?_padded (by decide) hrun hfraction, Option.bind_some,
    readFraction?_fractionText nanos.isLt hc hpoint, Option.bind_some,
    dif_pos ⟨by omega, hsecond, nanos.isLt⟩]
  simp only [hsplit]

/-! ### Instants -/

/-- Universal time is not moved. -/
theorem moveBack?_zero (date : Date) (minute : Fin 1440) :
    moveBack? date minute 0 = some (date, minute) := by
  have hminute := minute.isLt
  simp only [moveBack?, Int.sub_zero]
  rw [if_neg (by omega), if_pos (by omega), Option.some.injEq, Prod.mk.injEq]
  exact ⟨rfl, Fin.ext (by simp; omega)⟩

/-- **An instant is read back.** -/
theorem Instant.read?_text (i : Instant) : read? i.text = some i := by
  have hdate := readDate?_text i.date (noDigit_cons (c := 'T') (by decide)
    (padded 2 (i.minute / 60) ++ ':' :: padded 2 (i.minute % 60) ++ ':' :: padded 2 i.second
      ++ fractionText i.nanos ++ ['Z']))
  have htime := readTime?_text i.minute i.second i.nanos (c := 'Z') (by decide) (by decide) []
  have hzone : readZone? (dropBlanks ['Z']) = some (0, []) := by decide
  have htext : i.text.toList = i.date.text ++ 'T' ::
      (padded 2 (i.minute / 60) ++ ':' :: padded 2 (i.minute % 60) ++ ':' :: padded 2 i.second
        ++ fractionText i.nanos ++ ['Z']) := by
    simp only [Instant.text, String.toList_ofList, List.append_assoc, List.cons_append]
  rw [read?, htext, hdate]
  simp only [Option.bind_eq_bind, Option.bind_some, readJoint?, true_or, if_true]
  rw [htime, Option.bind_some, hzone, Option.bind_some, moveBack?_zero]
  rfl

end RemoteBatch.Calendar
