import RemoteBatch.Json.Value
import RemoteBatch.Text.Blank

/-!
# Native ids

The id that a scheduler gives a job.  Schedulers send it as a number or as a
string; blanks around a string do not belong to it, and a blank string is no id.

## Main definitions

* `nativeId?` — the id that a JSON value holds.
-/

namespace RemoteBatch

open Json (Value)

/-- The id that a JSON value holds. -/
def nativeId? : Value → Option String
  | .number n => some n.text
  | .string s => if Text.isBlankText s then none else some (Text.trim s)
  | _ => none

theorem isBlankText_numeral (n : Nat) : Text.isBlankText (Decimal.numeral n) = false := by
  obtain ⟨c, hc⟩ := List.exists_mem_of_ne_nil _ (Nat.toDigits_ne_nil (n := n) (b := 10))
  have hmem : c ∈ (Decimal.numeral n).toList := by
    rw [Decimal.numeral, String.toList_ofList]
    exact hc
  exact Text.isBlankText_eq_false_iff.mpr ⟨c, hmem,
    Text.isBlank_of_isDigit (Nat.isDigit_of_mem_toDigits (by decide) (by decide) hc)⟩

/-- A decimal value has a point or an exponent. -/
theorem mem_layout (d : Decimal.Digits) :
    '.' ∈ Json.Number.layout d ∨ 'e' ∈ Json.Number.layout d := by
  unfold Json.Number.layout
  simp only
  split
  · simp
  · split
    · simp
    · split <;> simp

theorem isBlankText_text (n : Json.Number) : Text.isBlankText n.text = false := by
  cases n with
  | natural n => exact isBlankText_numeral n
  | negative n =>
    refine Text.isBlankText_eq_false_iff.mpr ⟨'-', ?_, by decide⟩
    simp [Json.Number.text]
  | real minus x =>
    by_cases hx : x.mantissa = 0
    · refine Text.isBlankText_eq_false_iff.mpr ⟨'.', ?_, by decide⟩
      simp [Json.Number.text, hx]
    · rcases mem_layout (Decimal.shortest x) with h | h
      · refine Text.isBlankText_eq_false_iff.mpr ⟨'.', ?_, by decide⟩
        simp [Json.Number.text, hx, h]
      · refine Text.isBlankText_eq_false_iff.mpr ⟨'e', ?_, by decide⟩
        simp [Json.Number.text, hx, h]

/-- No job has a blank id. -/
theorem isBlankText_of_nativeId? {v : Value} {id : String} (h : nativeId? v = some id) :
    Text.isBlankText id = false := by
  unfold nativeId? at h
  split at h
  · obtain rfl := Option.some.inj h
    exact isBlankText_text _
  · next s =>
    split at h
    · exact nomatch h
    · next hs =>
      obtain rfl := Option.some.inj h
      rw [Text.isBlankText_trim]
      exact Bool.eq_false_iff.mpr hs
  · exact nomatch h

end RemoteBatch
