/-!
# Natural numbers in decimal

The decimal numeral of a natural number, and the numerals that settings and
command lines write: digits only, perhaps behind one plus sign, and small enough
for the field they fill.

## Main definitions

* `numeral` — the digits of a number.
* `natural?` — the number that a list of digits writes.
* `below?` — a number below a bound, with an optional plus sign.
-/

namespace RemoteBatch.Decimal

/-- The decimal digits of a number, without leading zeros. -/
def numeral (n : Nat) : String := String.ofList (Nat.toDigits 10 n)

/-- A numeral filled with leading zeros to at least `width` digits. -/
def padded (width n : Nat) : List Char :=
  List.replicate (width - (Nat.toDigits 10 n).length) '0' ++ Nat.toDigits 10 n

/-- The number that a nonempty list of decimal digits writes. -/
def natural? (cs : List Char) : Option Nat :=
  if cs.isEmpty || !cs.all Char.isDigit then none else some (Nat.ofDigitChars 10 cs 0)

theorem all_isDigit_toDigits (n : Nat) : (Nat.toDigits 10 n).all Char.isDigit = true :=
  List.all_eq_true.mpr fun _ hc => Nat.isDigit_of_mem_toDigits (by decide) (by decide) hc

theorem all_isDigit_padded (width n : Nat) : (padded width n).all Char.isDigit = true := by
  simp [padded, all_isDigit_toDigits, Char.isDigit]

theorem padded_ne_nil (width n : Nat) : padded width n ≠ [] := by
  simp [padded, Nat.toDigits_ne_nil]

/-- A number of at most `width` digits is filled to just as many. -/
theorem length_padded {width n : Nat} (hw : 0 < width) (h : n < Nat.pow 10 width) :
    (padded width n).length = width := by
  have hlength : (Nat.toDigits 10 n).length ≤ width :=
    (Nat.length_toDigits_le_iff (by decide) hw).mpr h
  rw [padded, List.length_append, List.length_replicate]
  omega

/-- Leading zeros do not count. -/
theorem natural?_padded (width n : Nat) : natural? (padded width n) = some n := by
  have hvalue : Nat.ofDigitChars 10 (padded width n) 0 = n := by
    rw [padded, Nat.ofDigitChars_append, Nat.ofDigitChars_replicate_zero,
      Nat.mul_zero, Nat.ofDigitChars_ten_toDigits]
  rw [natural?, all_isDigit_padded, hvalue]
  simp [padded_ne_nil]

/-- The list without one leading plus sign. -/
def dropPlus : List Char → List Char
  | '+' :: cs => cs
  | cs => cs

/-- The number below `bound` that a text writes, with or without a plus sign. -/
def below? (bound : Nat) (s : String) : Option Nat :=
  (natural? (dropPlus s.toList)).filter (· < bound)

theorem below?_lt {bound n : Nat} {s : String} (h : below? bound s = some n) : n < bound := by
  simpa using (Option.filter_eq_some_iff.1 h).2

end RemoteBatch.Decimal
