/-!
# ASCII letters and digits

Comparison without regard to the case of the letters `A`–`Z`, and the digits
that numbers and escapes are written with.  Every other character stands for
itself: `É` and `é` are two texts.

## Main definitions

* `foldCase` — the text with `A`–`Z` written small.
* `sameIgnoringCase` — equality up to `foldCase`.
* `hexDigit`, `hexValue?` — one hexadecimal digit, written and read.
-/

namespace RemoteBatch.Text

/-- The text with the letters `A`–`Z` replaced by `a`–`z`. -/
def foldCase (s : String) : String := String.ofList (s.toList.map Char.toLower)

/-- Whether two texts are equal up to the case of ASCII letters. -/
def sameIgnoringCase (a b : String) : Bool := foldCase a == foldCase b

/-- Whether a character is an ASCII letter or digit. -/
def isAsciiAlphanumeric (c : Char) : Bool := c.isAlphanum

/-- The lower-case hexadecimal digit of a number below sixteen. -/
def hexDigit (n : Nat) : Char := Nat.digitChar n

/-- The upper-case hexadecimal digit of a number below sixteen. -/
def upperHexDigit (n : Nat) : Char := (Nat.digitChar n).toUpper

/-- The value of a hexadecimal digit of either case. -/
def hexValue? (c : Char) : Option Nat :=
  if '0' ≤ c ∧ c ≤ '9' then some (c.toNat - 48)
  else if 'a' ≤ c ∧ c ≤ 'f' then some (c.toNat - 87)
  else if 'A' ≤ c ∧ c ≤ 'F' then some (c.toNat - 55)
  else none

theorem toNat_of_isDigit {c : Char} (h : c.isDigit = true) : 48 ≤ c.toNat ∧ c.toNat ≤ 57 := by
  simp only [Char.isDigit, Bool.and_eq_true, decide_eq_true_eq, UInt32.le_iff_toNat_le] at h
  exact h

/-- The case of a text is folded character by character. -/
theorem foldCase_ofList (cs : List Char) :
    foldCase (String.ofList cs) = String.ofList (cs.map Char.toLower) := by
  simp [foldCase]

/-- A text equals itself, whatever its case. -/
@[simp] theorem sameIgnoringCase_self (s : String) : sameIgnoringCase s s = true := by
  simp [sameIgnoringCase]

end RemoteBatch.Text
