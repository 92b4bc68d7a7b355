import RemoteBatch.Text.Percent

/-!
# Reading escapes back

A text that is escaped with the percent sign among the characters that must be is
read back octet by octet, whatever else is escaped, and two texts with the same
octets are one text.

## Main results

* `percentDecode_percentEncode` — **an escaped text stands for its own octets.**
* `mem_percentEncode` — what an escaped text can hold.
* `encodeUtf8_injective` — nothing is lost on the way.
-/

namespace RemoteBatch.Text

/-! ### Escapes -/

theorem hexValue?_upperHexDigit : ∀ n < 16, hexValue? (upperHexDigit n) = some n := by decide

theorem percentDecode_percentOctet (b : UInt8) (rest : List Char) :
    percentDecode (percentOctet b ++ rest) = b :: percentDecode rest := by
  have hb : b.toNat < 256 := b.toNat_lt
  have hhigh := hexValue?_upperHexDigit (b.toNat / 16) (by omega)
  have hlow := hexValue?_upperHexDigit (b.toNat % 16) (by omega)
  show percentDecode ('%' :: upperHexDigit (b.toNat / 16) :: upperHexDigit (b.toNat % 16) :: rest)
    = _
  simp only [percentDecode, hhigh, hlow]
  rw [show b.toNat / 16 * 16 + b.toNat % 16 = b.toNat by omega, UInt8.ofNat_toNat]

theorem percentDecode_flatMap_percentOctet (bytes : List UInt8) (rest : List Char) :
    percentDecode (bytes.flatMap percentOctet ++ rest) = bytes ++ percentDecode rest := by
  induction bytes with
  | nil => rfl
  | cons b bytes ih =>
    rw [List.flatMap_cons, List.append_assoc, percentDecode_percentOctet, ih, List.cons_append]

theorem percentDecode_cons_of_ne {c : Char} (h : c ≠ '%') (rest : List Char) :
    percentDecode (c :: rest) = String.utf8EncodeChar c ++ percentDecode rest := by
  rw [percentDecode]
  rintro a b cs rfl
  exact absurd rfl h

/-! ### Texts -/

theorem percentDecode_percentEncodeChar {must : Char → Bool} (h : must '%' = true) (c : Char)
    (rest : List Char) :
    percentDecode (percentEncodeChar must c ++ rest)
      = String.utf8EncodeChar c ++ percentDecode rest := by
  unfold percentEncodeChar
  split
  · exact percentDecode_flatMap_percentOctet _ rest
  · next hkept =>
    refine percentDecode_cons_of_ne ?_ rest
    rintro rfl
    simp [h] at hkept

/-- **An escaped text stands for its own octets**, if percent signs are escaped. -/
theorem percentDecode_percentEncode {must : Char → Bool} (h : must '%' = true)
    (cs : List Char) : percentDecode (percentEncode must cs) = encodeUtf8 cs := by
  induction cs with
  | nil => rfl
  | cons c cs ih =>
    show percentDecode (percentEncodeChar must c ++ percentEncode must cs)
      = String.utf8EncodeChar c ++ encodeUtf8 cs
    rw [percentDecode_percentEncodeChar h, ih]

/-- An escaped text holds escapes and characters that need none. -/
theorem mem_percentEncode {must : Char → Bool} {c : Char} {cs : List Char}
    (h : c ∈ percentEncode must cs) :
    (c ∈ cs ∧ c.toNat < 0x80 ∧ must c = false) ∨ c = '%' ∨ ∃ n < 16, c = upperHexDigit n := by
  obtain ⟨d, hd, hc⟩ := List.mem_flatMap.mp h
  unfold percentEncodeChar at hc
  split at hc
  · obtain ⟨b, -, hb⟩ := List.mem_flatMap.mp hc
    have : b.toNat < 256 := b.toNat_lt
    simp only [percentOctet, List.mem_cons, List.not_mem_nil, or_false] at hb
    rcases hb with rfl | rfl | rfl
    · exact .inr (.inl rfl)
    · exact .inr (.inr ⟨b.toNat / 16, by omega, rfl⟩)
    · exact .inr (.inr ⟨b.toNat % 16, by omega, rfl⟩)
  · next hkept =>
    obtain rfl := List.mem_singleton.mp hc
    simp only [Bool.or_eq_true, decide_eq_true_eq, not_or, Bool.not_eq_true, Nat.not_le] at hkept
    exact .inl ⟨hd, hkept⟩

/-- A text of characters that need no escape is written as it is. -/
theorem percentEncode_eq_self {must : Char → Bool} {cs : List Char}
    (h : ∀ c ∈ cs, c.toNat < 0x80 ∧ must c = false) : percentEncode must cs = cs := by
  induction cs with
  | nil => rfl
  | cons c cs ih =>
    obtain ⟨hascii, hmust⟩ := h c List.mem_cons_self
    have hkept : ¬ (decide (0x80 ≤ c.toNat) || must c) = true := by
      rw [hmust, Bool.or_false, decide_eq_true_eq]
      omega
    show percentEncodeChar must c ++ percentEncode must cs = c :: cs
    rw [ih fun d hd => h d (List.mem_cons_of_mem _ hd), percentEncodeChar, if_neg hkept]
    rfl

theorem encodeUtf8_injective {cs ds : List Char} (h : encodeUtf8 cs = encodeUtf8 ds) :
    cs = ds := by
  have hbytes : cs.utf8Encode = ds.utf8Encode := congrArg List.toByteArray h
  have hread := congrArg ByteArray.utf8Decode? hbytes
  rw [List.utf8Decode?_utf8Encode, List.utf8Decode?_utf8Encode, Option.some.injEq] at hread
  exact congrArg Array.toList hread

end RemoteBatch.Text
