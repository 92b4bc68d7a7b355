import Mathlib.Data.List.TakeWhile
import RemoteBatch.Proofs.Success
import RemoteBatch.Url.Parse

/-!
# Where a host ends

The host and the port that a common scheme writes fill the text up to the path.
Nothing of it is left over, what follows makes no difference, and it may not end in a
blank or a control.

## Main results

* `readAuthority_eq` — what is read before the path of a common scheme.
* `readAuthority_rest` — nothing is left over.
* `readAuthority_of_padding` — **neither a host nor a port ends in a blank.**
-/

namespace RemoteBatch

namespace Text

/-! ### Characters at the end of octets -/

theorem readTail_concat {b : UInt8} {ranges : List (Nat × Nat)} (h : ∀ r ∈ ranges, b.toNat < r.1)
    (code : Nat) (bytes : List UInt8) : readTail code ranges (bytes ++ [b])
      = ((readTail code ranges bytes).1, (readTail code ranges bytes).2 ++ [b]) := by
  fun_induction readTail code ranges bytes with
  | case1 => rfl
  | case2 code range ranges =>
    have hb : ¬ (range.1 ≤ b.toNat ∧ b.toNat ≤ range.2) := by
      have := h range List.mem_cons_self
      omega
    rw [List.nil_append, readTail, if_neg hb]
  | case3 code low high ranges d bytes hd ih =>
    rw [List.cons_append, readTail, if_pos hd]
    exact ih fun r hr => h r (List.mem_cons_of_mem _ hr)
  | case4 code low high ranges d bytes hd =>
    rw [List.cons_append, readTail, if_neg hd]

theorem le_of_sequenceOf {b code : Nat} {ranges : List (Nat × Nat)}
    (h : sequenceOf b = some (code, ranges)) : ∀ r ∈ ranges, 0x80 ≤ r.1 := by
  unfold sequenceOf at h
  grind

/-- An octet of ASCII is a character of its own behind any others. -/
theorem glyphs_concat {b : UInt8} (h : b.toNat < 0x80) (bytes : List UInt8) :
    glyphs (bytes ++ [b]) = glyphs bytes ++ [some (Char.ofNat b.toNat)] := by
  fun_induction glyphs bytes with
  | case1 => rw [List.nil_append, glyphs, if_pos h, glyphs, List.nil_append]
  | case2 d bytes hd ih => rw [List.cons_append, glyphs, if_pos hd, ih, List.cons_append]
  | case3 d bytes hd hnone ih =>
    rw [List.cons_append, glyphs, if_neg hd, hnone]
    simp only [ih, List.cons_append]
  | case4 d bytes hd code ranges hsome ih =>
    have hlow : ∀ r ∈ ranges, b.toNat < r.1 := fun r hr =>
      Nat.lt_of_lt_of_le h (le_of_sequenceOf hsome r hr)
    rw [List.cons_append, glyphs, if_neg hd, hsome]
    simp only [readTail_concat hlow, ih, List.cons_append]

theorem eq_map_some_of_mapM {gs : List (Option Char)} {cs : List Char}
    (h : gs.mapM id = some cs) : gs = cs.map some := by
  have hread : List.Forall₂ (· = ·) gs (cs.map some) :=
    List.forall₂_map_right_iff.mpr (mapM_eq_some_iff.mp h)
  rwa [List.forall₂_eq_eq_eq] at hread

/-- The last character of octets that end in one of ASCII. -/
theorem mem_of_decodeUtf8?_concat {b : UInt8} (hb : b.toNat < 0x80) {bytes : List UInt8}
    {s : String} (h : decodeUtf8? (bytes ++ [b]) = some s) : Char.ofNat b.toNat ∈ s.toList := by
  obtain ⟨cs, hcs, rfl⟩ := Option.map_eq_some_iff.mp h
  have hglyphs := eq_map_some_of_mapM hcs
  rw [glyphs_concat hb] at hglyphs
  have hmem : some (Char.ofNat b.toNat) ∈ cs.map some := by
    rw [← hglyphs]
    exact List.mem_concat_self
  rw [String.toList_ofList]
  simpa using hmem

theorem percentDecode_concat {c : Char} (hhex : hexValue? c = none) (hc : c ≠ '%')
    (cs : List Char) : percentDecode (cs ++ [c]) = percentDecode cs ++ String.utf8EncodeChar c := by
  fun_induction percentDecode cs with
  | case1 a b cs high low hhigh hlow ih =>
    simp only [List.cons_append, percentDecode, hhigh, hlow, ih]
  | case2 a b cs hnot ih =>
    have hrest : percentDecode ('%' :: a :: b :: (cs ++ [c]))
        = String.utf8EncodeChar '%' ++ percentDecode (a :: b :: (cs ++ [c])) := by
      rw [percentDecode]
      split
      · next hhigh hlow => exact (hnot _ _ hhigh hlow).elim
      · rfl
    rw [List.append_assoc, ← ih]
    exact hrest
  | case3 d cs hnot ih =>
    -- the last character could make an octet only as the second of two digits
    rw [List.append_assoc, ← ih, List.cons_append]
    by_cases hd : d = '%'
    · subst hd
      match cs with
      | [] => rw [percentDecode]; simp
      | [a] =>
        show percentDecode ['%', a, c] = _
        rw [percentDecode]
        split
        · next hlow => exact nomatch hhex.symm.trans hlow
        · rfl
      | a :: b :: cs => exact (hnot a b cs rfl rfl).elim
    · rw [percentDecode]
      rintro a b rest rfl
      exact absurd rfl hd
  | case4 =>
    rw [List.nil_append, percentDecode, percentDecode, List.append_nil, List.nil_append]
    rintro a b rest rfl
    exact absurd rfl hc

end Text

namespace Url

open Text (hexValue? percentDecode)

/-! ### Blanks at the end -/

/-- What holds of all blanks and controls is found by looking. -/
theorem of_isPadding {p : Char → Bool} (h : ∀ n < 0x21, p (Char.ofNat n) = true) {c : Char}
    (hc : isPadding c = true) : p c = true := by
  have hsmall : c.toNat ≤ 0x20 := of_decide_eq_true hc
  have hp := h c.toNat (Nat.lt_succ_of_le hsmall)
  rwa [Char.ofNat_toNat] at hp

theorem readDomain_of_padding {c : Char} (hc : isPadding c = true) (cs : List Char) :
    readDomain (cs ++ [c]) = .error .badDomain := by
  have hhex := of_isPadding (p := fun c => (hexValue? c).isNone) (by decide) hc
  have hpercent := of_isPadding (p := fun c => c != '%') (by decide) hc
  have hoctets := of_isPadding
    (p := fun c => String.utf8EncodeChar c == [UInt8.ofNat c.toNat]
      && (UInt8.ofNat c.toNat).toNat == c.toNat && c.toNat < 0x80 && isForbidden c) (by decide) hc
  simp only [Bool.and_eq_true, beq_iff_eq, decide_eq_true_eq] at hoctets
  obtain ⟨⟨⟨hencode, hoctet⟩, hascii⟩, hforbidden⟩ := hoctets
  unfold readDomain
  rw [Text.percentDecode_concat (Option.isNone_iff_eq_none.mp hhex) (bne_iff_ne.mp hpercent),
    hencode]
  cases hread : Text.decodeUtf8? (percentDecode cs ++ [UInt8.ofNat c.toNat]) with
  | none => rfl
  | some s =>
    have hmem := Text.mem_of_decodeUtf8?_concat (by rwa [hoctet]) hread
    rw [hoctet, Char.ofNat_toNat] at hmem
    rw [Option.bind_some, domainName?, if_pos (List.any_eq_true.mpr ⟨c, hmem, hforbidden⟩)]

theorem readHost_of_padding {c : Char} (hc : isPadding c = true) (cs : List Char) :
    ∃ f, readHost true (cs ++ [c]) = .error f := by
  have hopen := of_isPadding (p := fun c => c != '[' && c != ']') (by decide) hc
  simp only [Bool.and_eq_true, bne_iff_ne] at hopen
  unfold readHost
  split
  · next rest hrest =>
    refine ⟨.badIpv6, if_neg ?_⟩
    intro hlast
    cases rest with
    | nil => exact nomatch hlast
    | cons d rest =>
      have hends := congrArg List.getLast? hrest
      rw [List.getLast?_concat, List.getLast?_cons_cons, hlast] at hends
      exact hopen.2 (Option.some.inj hends)
  · refine ⟨.badDomain, ?_⟩
    rw [if_pos rfl, if_neg (by simp), readDomain_of_padding hc]

/-- The host and what follows it are the text, and a colon comes between them. -/
theorem cutHost_cases (bracketed : Bool) (cs : List Char) :
    (cutHost bracketed cs).1 ++ (cutHost bracketed cs).2 = cs
      ∧ ((cutHost bracketed cs).2 = [] ∨ ∃ rest, (cutHost bracketed cs).2 = ':' :: rest) := by
  fun_induction cutHost bracketed cs with
  | case1 => exact ⟨rfl, .inl rfl⟩
  | case2 bracketed c cs h => exact ⟨rfl, .inr ⟨cs, by rw [h.1]⟩⟩
  | case3 bracketed c cs h host rest hcut ih =>
    rw [hcut] at ih
    exact ⟨congrArg (c :: ·) ih.1, ih.2⟩

theorem readPort_rest {scheme cs rest : List Char} {port : Option Nat}
    (hcs : ∀ c ∈ cs, isSlash true c = false) (hcut : cs = [] ∨ ∃ more, cs = ':' :: more)
    (h : readPort scheme cs = .ok (port, rest)) :
    rest = [] ∧ ∀ c ∈ cs, c = ':' ∨ c.isDigit = true := by
  rcases hcut with rfl | ⟨more, rfl⟩
  · obtain ⟨-, rfl⟩ := Prod.mk.inj (Except.ok.inj h)
    exact ⟨rfl, nofun⟩
  · have hrest : more.dropWhile Char.isDigit = [] := by
      cases hmore : more.dropWhile Char.isDigit with
      | nil => rfl
      | cons c left =>
        -- what stands behind the digits is no backslash, and is refused
        have hc := hcs c (List.mem_cons_of_mem _ ((List.dropWhile_suffix _).subset (by
          rw [hmore]; exact List.mem_cons_self)))
        have hbad : (c != '\\') = true := by
          rw [bne_iff_ne]
          rintro rfl
          exact Bool.noConfusion hc
        simp [readPort, hmore, hbad] at h
    constructor
    · simp only [readPort, hrest, List.head?_nil, Option.any_none, Bool.false_eq_true,
        if_false] at h
      grind
    · intro c hc
      rcases List.mem_cons.mp hc with rfl | hmem
      · exact .inl rfl
      · exact .inr (List.dropWhile_eq_nil_iff.mp hrest c hmem)

theorem readHost_ne_other {cs name : List Char} : readHost true cs ≠ .ok (.other name) := by
  unfold readHost readDomain
  grind

/-- Where no host has a form of its own, nothing but the host and the port is read. -/
theorem readAuthority_eq {scheme : List Char} (h : isSpecial scheme = true) (closed : Bool)
    (cs : List Char) : readAuthority scheme closed cs = (do
      let host ← readHost true (cutHost false (cutCredentials cs).2).1
      let read ← readPort scheme (cutHost false (cutCredentials cs).2).2
      return (((cutCredentials cs).1.bind credentialsOf, host, read.1), read.2)) := by
  unfold readAuthority
  simp only [h]
  obtain ⟨login, behind⟩ := cutCredentials cs
  simp only
  split
  · next hempty =>
    obtain ⟨rfl, hbehind, -⟩ := hempty
    obtain rfl := List.isEmpty_iff.mp hbehind
    rfl
  · obtain ⟨text, rest⟩ := cutHost false behind
    cases hhost : readHost true text with
    | error f => rfl
    | ok host =>
      have hother : ¬ (host = .other [] ∧ (!rest.isEmpty ∨ (login.bind credentialsOf).isSome)) := by
        rintro ⟨rfl, -⟩
        exact readHost_ne_other hhost
      exact if_neg hother

theorem exists_of_readAuthority {scheme : List Char} (h : isSpecial scheme = true) {closed : Bool}
    {cs : List Char} {r : (Option Credentials × Host × Option Nat) × List Char}
    (hr : readAuthority scheme closed cs = .ok r) : ∃ host port,
      readHost true (cutHost false (cutCredentials cs).2).1 = .ok host
        ∧ readPort scheme (cutHost false (cutCredentials cs).2).2 = .ok (port, r.2) := by
  rw [readAuthority_eq h] at hr
  obtain ⟨host, hhost, hread⟩ := exists_ok_of_bind hr
  obtain ⟨read, hport, hmake⟩ := exists_ok_of_bind hread
  obtain rfl := Except.ok.inj hmake
  exact ⟨host, read.1, hhost, hport⟩

theorem cutCredentials_suffix (cs : List Char) : (cutCredentials cs).2 <:+ cs := by
  unfold cutCredentials
  simp only
  split
  · exact List.suffix_rfl
  · rw [← List.reverse_prefix, List.reverse_reverse]
    exact List.takeWhile_prefix _

theorem cutCredentials_concat {c : Char} (hc : (c != '@') = true) (cs : List Char) :
    ∃ behind, (cutCredentials (cs ++ [c])).2 = behind ++ [c] := by
  unfold cutCredentials
  simp only
  split
  · exact ⟨cs, rfl⟩
  · rw [List.reverse_concat, List.takeWhile_cons_of_pos (p := (· != '@')) hc, List.reverse_cons]
    exact ⟨_, rfl⟩

theorem cutHost_suffix (cs : List Char) : (cutHost false (cutCredentials cs).2).2 <:+ cs :=
  .trans ⟨_, (cutHost_cases false _).1⟩ (cutCredentials_suffix cs)

/-- What stands before the path is read to its end. -/
theorem readAuthority_rest {scheme : List Char} (h : isSpecial scheme = true) {closed : Bool}
    {cs : List Char} (hcs : ∀ c ∈ cs, isSlash true c = false)
    {r : (Option Credentials × Host × Option Nat) × List Char}
    (hr : readAuthority scheme closed cs = .ok r) : r.2 = [] := by
  obtain ⟨-, port, -, hport⟩ := exists_of_readAuthority h hr
  exact (readPort_rest (fun c hc => hcs c ((cutHost_suffix cs).subset hc))
    (cutHost_cases _ _).2 hport).1

/-- No host and no port ends in a blank or a control. -/
theorem readAuthority_of_padding {scheme : List Char} (h : isSpecial scheme = true) (closed : Bool)
    {c : Char} (hc : isPadding c = true) {cs : List Char}
    (hcs : ∀ d ∈ cs ++ [c], isSlash true d = false) :
    ∃ f, readAuthority scheme closed (cs ++ [c]) = .error f := by
  cases hr : readAuthority scheme closed (cs ++ [c]) with
  | error f => exact ⟨f, rfl⟩
  | ok r =>
    exfalso
    obtain ⟨host, port, hhost, hport⟩ := exists_of_readAuthority h hr
    obtain ⟨-, hdigits⟩ := readPort_rest (fun d hd => hcs d ((cutHost_suffix _).subset hd))
      (cutHost_cases _ _).2 hport
    have hmark := of_isPadding (p := fun c => c != '@' && c != ':' && !c.isDigit) (by decide) hc
    simp only [Bool.and_eq_true, Bool.not_eq_true'] at hmark
    obtain ⟨⟨hat, hcolon⟩, hdigit⟩ := hmark
    -- the last character is behind the credentials, and belongs to the host or to the port
    obtain ⟨behind, hbehind⟩ := cutCredentials_concat hat cs
    rw [hbehind] at hhost hdigits
    have hcut := (cutHost_cases false (behind ++ [c])).1
    rcases List.eq_nil_or_concat (cutHost false (behind ++ [c])).2 with hnil | ⟨rest, d, hrest⟩
    · rw [hnil, List.append_nil] at hcut
      obtain ⟨f, hf⟩ := readHost_of_padding hc behind
      rw [hcut, hf] at hhost
      exact nomatch hhost
    · rw [List.concat_eq_append] at hrest
      rw [hrest, ← List.append_assoc] at hcut
      obtain rfl : d = c := List.singleton_inj.mp (List.append_inj' hcut rfl).2
      rcases hdigits d (by rw [hrest]; exact List.mem_concat_self) with heq | heq
      · exact bne_iff_ne.mp hcolon heq
      · rw [heq] at hdigit
        exact Bool.noConfusion hdigit

end Url

end RemoteBatch
