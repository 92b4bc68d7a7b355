import Mathlib.Data.List.DropRight
import RemoteBatch.Proofs.WebAddress

/-!
# Texts behind a base address

What a text does to an address of a common scheme if it is put behind it after a
slash.  Slashes at the end of the base are taken off, and each is an empty segment at
the end of its path.  Blanks there are left out if the base stands alone, but are part
of it if something follows, and so the two addresses have no path in common then.

## Main definitions

* `Path.stem` — a path without the slashes at its end.
* `Extends` — that an address is that of another with a text behind its path.
* `alone`, `ahead` — what an address keeps of a text at its end, and before more.

## Main results

* `alone_cases` — a text loses slashes or blanks at its end.
* `extends_iff_of_slashes` — **what a base with slashes at its end is extended by.**
* `not_extends_of_blanks` — **a base with blanks at its end is not extended.**
* `not_extends_of_path_eq` — nor is one with a query.
-/

namespace RemoteBatch

namespace Url

/-! ### Ends of texts -/

theorem rdropWhile_append_cons {p : Char → Bool} {c : Char} (hc : p c = false)
    (cs ds : List Char) : (cs ++ c :: ds).rdropWhile p = cs ++ c :: ds.rdropWhile p := by
  have hstops : ((c :: cs.reverse).takeWhile p) = [] := by
    rw [List.takeWhile_cons, hc, if_neg Bool.false_ne_true]
  have hreverse : (cs ++ c :: ds).reverse = ds.reverse ++ c :: cs.reverse := by simp
  rw [List.rdropWhile, hreverse, (takeWhile_append_of_stops (.inr hstops)).2, List.rdropWhile]
  simp

theorem rdropWhile_append_of_forall {p : Char → Bool} {ds : List Char}
    (h : ∀ c ∈ ds, p c = true) (cs : List Char) : (cs ++ ds).rdropWhile p = cs.rdropWhile p := by
  rw [List.rdropWhile, List.reverse_append, List.dropWhile_append_of_pos, List.rdropWhile]
  intro c hc
  exact h c (List.mem_reverse.mp hc)

theorem isPadding_of_isDropped {c : Char} (h : isDropped c = true) : isPadding c = true := by
  simp only [isDropped, Bool.or_eq_true, beq_iff_eq] at h
  rcases h with (rfl | rfl) | rfl
  · decide
  · decide
  · decide

theorem filter_scheme {scheme : List Char} (hscheme : scheme ∈ webSchemes) (cs : List Char) :
    (scheme ++ ':' :: cs).filter (!isDropped ·) = scheme ++ ':' :: cs.filter (!isDropped ·) := by
  rcases mem_webSchemes_iff.mp hscheme with rfl | rfl
  · rfl
  · rfl

/-- What is left of a text behind a scheme. -/
theorem clean_scheme {scheme : List Char} (hscheme : scheme ∈ webSchemes) (cs : List Char) :
    clean (scheme ++ ':' :: cs)
      = scheme ++ ':' :: (cs.rdropWhile isPadding).filter (!isDropped ·) := by
  have hend : ((scheme ++ ':' :: cs).reverse.dropWhile isPadding).reverse
      = scheme ++ ':' :: cs.rdropWhile isPadding := rdropWhile_append_cons rfl scheme cs
  rw [← filter_scheme hscheme, ← hend]
  rcases mem_webSchemes_iff.mp hscheme with rfl | rfl
  · rfl
  · rfl

/-- What an address keeps of a text that stands alone. -/
def alone (cs : List Char) : List Char := (cs.rdropWhile isPadding).filter (!isDropped ·)

/-- What an address keeps of a text that a slash and more is put behind. -/
def ahead (cs : List Char) : List Char := (cs.rdropWhile (· == '/')).filter (!isDropped ·)

theorem alone_append (cs : List Char) : ∃ blanks, (∀ c ∈ blanks, isPadding c = true)
    ∧ cs.filter (!isDropped ·) = alone cs ++ blanks := by
  refine ⟨(cs.rtakeWhile isPadding).filter (!isDropped ·), ?_, ?_⟩
  · intro c hc
    exact List.mem_rtakeWhile_imp (List.mem_of_mem_filter hc)
  · rw [alone, ← List.filter_append, List.rdropWhile_append_rtakeWhile]

theorem ahead_append (cs : List Char) : ∃ k,
    cs.filter (!isDropped ·) = ahead cs ++ List.replicate k '/' := by
  have hall : ∀ c ∈ cs.rtakeWhile (· == '/'), c = '/' := fun c hc =>
    beq_iff_eq.mp (List.mem_rtakeWhile_imp (p := (· == '/')) hc)
  have hkept : (cs.rtakeWhile (· == '/')).filter (!isDropped ·) = cs.rtakeWhile (· == '/') := by
    rw [List.filter_eq_self]
    intro c hc
    rw [hall c hc]
    rfl
  refine ⟨(cs.rtakeWhile (· == '/')).length, ?_⟩
  rw [← List.eq_replicate_of_mem hall, ← hkept, ahead, ← List.filter_append,
    List.rdropWhile_append_rtakeWhile]

theorem alone_of_forall {cs : List Char} (h : ∀ c ∈ cs, isPadding c = false) : alone cs = cs := by
  have hend : cs.rdropWhile isPadding = cs := by
    rw [List.rdropWhile_eq_self_iff]
    intro hne
    rw [h _ (List.getLast_mem hne)]
    exact Bool.false_ne_true
  rw [alone, hend, List.filter_eq_self]
  intro c hc
  rw [Bool.not_eq_true', Bool.eq_false_iff]
  intro hdropped
  exact nomatch (isPadding_of_isDropped hdropped).symm.trans (h c hc)

/-- A text has slashes at its end or blanks, not both. -/
theorem alone_cases (cs : List Char) :
    (∃ k, alone cs = ahead cs ++ List.replicate k '/' ∧ cs.filter (!isDropped ·) = alone cs)
      ∨ ∃ blanks, blanks ≠ [] ∧ (∀ c ∈ blanks, isPadding c = true)
        ∧ ahead cs = alone cs ++ blanks ∧ cs.filter (!isDropped ·) = ahead cs := by
  -- the last character is no slash, or no blank
  have hends : alone cs = cs.filter (!isDropped ·) ∨ ahead cs = cs.filter (!isDropped ·) := by
    rcases List.eq_nil_or_concat cs with rfl | ⟨first, c, rfl⟩
    · exact .inl rfl
    · rw [List.concat_eq_append]
      by_cases hc : c = '/'
      · left
        rw [alone, List.rdropWhile_concat_neg _ _ _ (by rw [hc]; decide)]
      · right
        rw [ahead, List.rdropWhile_concat_neg _ _ _ (by rwa [beq_iff_eq])]
  obtain ⟨k, hslashes⟩ := ahead_append cs
  obtain ⟨blanks, hpadding, hblanks⟩ := alone_append cs
  rcases hends with halone | hahead
  · exact .inl ⟨k, halone.trans hslashes, halone.symm⟩
  · cases blanks with
    | nil =>
      rw [List.append_nil] at hblanks
      exact .inl ⟨0, by rw [hahead, hblanks]; exact (List.append_nil _).symm, hblanks⟩
    | cons b blanks =>
      exact .inr ⟨b :: blanks, List.cons_ne_nil b blanks, hpadding, hahead.trans hblanks,
        hahead.symm⟩

/-! ### Slashes at the end of a path -/

theorem pathText_head (cs : List Char) : ∀ c ∈ (pathText cs).head?, isSlash true c = true := by
  intro c hc
  have hhead := List.head?_dropWhile_not (!isSlash true ·) (mainText cs)
  rw [pathText] at hc
  rw [hc] at hhead
  simpa using hhead

theorem head?_append_slash {path : List Char} (hpath : ∀ c ∈ path.head?, isSlash true c = true)
    (rest : List Char) : ∀ c ∈ (path ++ '/' :: rest).head?, isSlash true c = true := by
  cases path with
  | nil =>
    rintro c ⟨⟩
    rfl
  | cons d path => exact hpath

theorem written_slashes (k : Nat) :
    written (List.replicate k '/') = List.replicate (k + 1) [] := by
  induction k with
  | zero => rfl
  | succ k ih =>
    have hcut := written_append [] (c := '/') rfl (List.replicate k '/')
    rw [List.nil_append, ih] at hcut
    exact hcut

/-- Slashes at the end of a path are empty segments at its end. -/
theorem readSegments_slashes {path : List Char} (hpath : ∀ c ∈ path.head?, isSlash true c = true)
    (k : Nat) : ∃ n, readSegments true (path ++ List.replicate k '/')
      = reached path ++ List.replicate n [] := by
  cases k with
  | zero =>
    rw [List.replicate_zero, List.append_nil]
    exact readSegments_eq hpath
  | succ k =>
    refine ⟨k + 1, ?_⟩
    rw [List.replicate_succ, readSegments_append hpath rfl, written_slashes]
    refine resolve_of_forall (fun s hs => ?_) _
    rw [List.eq_of_mem_replicate hs]
    decide

theorem print_append (parts more : List (List Char)) : Path.print (.segments (parts ++ more))
    = Path.print (.segments parts) ++ Path.print (.segments more) := List.flatMap_append

/-- A path without the slashes at its end. -/
def Path.stem (path : Path) : List Char := path.print.rdropWhile (· == '/')

theorem stem_slashes {path : List Char} (hpath : ∀ c ∈ path.head?, isSlash true c = true)
    (k : Nat) : Path.stem (.segments (readSegments true (path ++ List.replicate k '/')))
      = Path.stem (.segments (reached path)) := by
  obtain ⟨n, hread⟩ := readSegments_slashes hpath k
  unfold Path.stem
  rw [hread, print_append]
  refine rdropWhile_append_of_forall (fun c hc => ?_) _
  obtain ⟨s, hs, hc⟩ := List.mem_flatMap.mp hc
  rw [List.eq_of_mem_replicate hs, List.mem_singleton] at hc
  rw [hc]
  rfl

/-! ### Texts put behind a base address -/

/-- That an address is that of another with a text behind its path: on the same
service, and below what the other names. -/
structure Extends (v u : Url) (text : List Char) : Prop extends OnService v u where
  path : u.path.print = v.path.stem ++ '/' :: text

variable {scheme : List Char}

/-- What is put behind a query does not reach the path. -/
theorem not_extends_of_path_eq {v u : Url} {text : List Char} (htext : ∃ c ∈ text, c ≠ '/')
    (h : u.path = v.path) : ¬ Extends v u text := by
  rintro ⟨-, hprint⟩
  obtain ⟨c, hc, hslash⟩ := htext
  have hall := List.rdropWhile_append_rtakeWhile (p := (· == '/')) (l := v.path.print)
  rw [h] at hprint
  have hmem : c ∈ v.path.print.rtakeWhile (· == '/') := by
    rw [List.append_cancel_left (hall.trans hprint)]
    exact List.mem_cons_of_mem _ hc
  exact hslash (beq_iff_eq.mp (List.mem_rtakeWhile_imp (p := (· == '/')) hmem))

theorem exists_not_slash {cs : List Char} {v : Url} (hscheme : scheme ∈ webSchemes)
    (hv : readWeb scheme cs = .ok v) : ∃ c ∈ cs, isSlash true c = false := by
  by_contra hnot
  rw [readWeb_of_slashes hscheme fun c hc => ?_] at hv
  · exact nomatch hv
  · by_contra hslash
    exact hnot ⟨c, hc, Bool.eq_false_iff.mpr hslash⟩

/-- What begins with a slash is put behind the path. -/
theorem authorityText_append_slash {cs : List Char} (hcs : ∀ c ∈ cs, endsPath c = false)
    (hhost : ∃ c ∈ cs, isSlash true c = false) (ds : List Char)
    (hds : ∀ c ∈ ds.head?, isSlash true c = true) : authorityText (cs ++ ds) = authorityText cs
      ∧ pathText (cs ++ ds) = pathText cs ++ ds.takeWhile (!endsPath ·) :=
  authorityText_append hcs ds (.inr ⟨authorityText_ne_nil hcs hhost, hds⟩)

/-- A base address with slashes at its end, and the same with a text behind it. -/
theorem readWeb_slashes_ok {cs : List Char} {k : Nat} {v : Url} (hscheme : scheme ∈ webSchemes)
    (hcs : ∀ c ∈ cs, endsPath c = false)
    (hv : readWeb scheme (cs ++ List.replicate k '/') = .ok v) (text : List Char) :
    v.path.stem = Path.stem (.segments (reached (pathText cs)))
      ∧ ∃ u, readWeb scheme (cs ++ '/' :: text) = .ok u
        ∧ OnService v u ∧ u.path = .segments (readSegments true
          (pathText cs ++ '/' :: text.takeWhile (!endsPath ·))) := by
  have hhost : ∃ c ∈ cs, isSlash true c = false := by
    obtain ⟨c, hc, hslash⟩ := exists_not_slash hscheme hv
    rcases List.mem_append.mp hc with hc | hc
    · exact ⟨c, hc, hslash⟩
    · rw [List.eq_of_mem_replicate hc] at hslash
      exact Bool.noConfusion hslash
  have hhead : ∀ c ∈ (List.replicate k '/').head?, isSlash true c = true := by
    intro c hc
    rw [List.eq_of_mem_replicate (List.mem_of_mem_head? hc)]
    rfl
  have hkept : (List.replicate k '/').takeWhile (!endsPath ·) = List.replicate k '/' := by
    rw [List.takeWhile_eq_self_iff]
    intro c hc
    rw [List.eq_of_mem_replicate hc]
    rfl
  obtain ⟨hbase, hbasePath⟩ := authorityText_append_slash hcs hhost _ hhead
  obtain ⟨hput, hputPath⟩ := authorityText_append_slash hcs hhost ('/' :: text)
    (by rintro c ⟨⟩; rfl)
  obtain ⟨hpath, u, hu, hu'⟩ := readWeb_ok hv (hput.trans hbase.symm)
  rw [hkept] at hbasePath
  rw [hputPath] at hu'
  refine ⟨?_, u, hu, hu'⟩
  rw [hpath, hbasePath, stem_slashes (pathText_head cs)]

/-- A text is put behind a base address as it is if it is plain, and if the path of the
base loses nothing with its slashes. -/
theorem extends_iff_of_slashes {cs : List Char} {k : Nat} {v : Url} (hscheme : scheme ∈ webSchemes)
    (hcs : ∀ c ∈ cs, endsPath c = false)
    (hv : readWeb scheme (cs ++ List.replicate k '/') = .ok v) {text read : List Char}
    (hread : isPlain text = true → read.takeWhile (!endsPath ·) = text) :
    (∃ u, readWeb scheme (cs ++ '/' :: read) = .ok u ∧ Extends v u text) ↔
      Path.print (.segments (reached (pathText cs))) = v.path.stem ∧ isPlain text = true := by
  obtain ⟨hstem, u, hu, hservice, hpath⟩ := readWeb_slashes_ok hscheme hcs hv read
  have hprint (hplain : isPlain text = true) : u.path.print
      = Path.print (.segments (reached (pathText cs))) ++ '/' :: text := by
    rw [hpath, hread hplain, readSegments_append (pathText_head cs) rfl,
      resolve_written_of_isPlain hplain, print_append, print_splitOnP (isPlain_iff.mp hplain).2]
  constructor
  · rintro ⟨u', hu', ext⟩
    obtain rfl : u = u' := Except.ok.inj (hu.symm.trans hu')
    have hplain : isPlain text = true := by
      have hext := ext.path
      rw [hpath] at hext
      exact isPlain_of_print_eq (head?_append_slash (pathText_head cs) _) hext
    have hext := ext.path
    rw [hprint hplain, List.append_cancel_right_eq] at hext
    exact ⟨hext, hplain⟩
  · rintro ⟨hreach, hplain⟩
    exact ⟨u, hu, hservice, by rw [hprint hplain, hreach]⟩

theorem not_suffix_iff (path : List Char) :
    ¬ ['/', '/'] <:+ path ++ ['/'] ↔ path = path.rdropWhile (· == '/') := by
  rcases List.eq_nil_or_concat path with rfl | ⟨first, c, rfl⟩
  · decide
  · rw [List.concat_eq_append]
    by_cases hc : c = '/'
    · subst hc
      refine iff_of_false (fun h => h ⟨first, by simp⟩) ?_
      rw [List.rdropWhile_concat_pos (· == '/') first '/' rfl]
      intro h
      have hfirst := List.rdropWhile_prefix (· == '/') first
      have hlength := hfirst.length_le
      rw [← h, List.length_append, List.length_singleton] at hlength
      omega
    · refine iff_of_true ?_ (List.rdropWhile_concat_neg _ _ _ (by rwa [beq_iff_eq])).symm
      rintro ⟨before, h⟩
      rw [List.append_assoc] at h
      exact hc (List.cons.inj (List.append_inj' h rfl).2).1.symm

/-- With one slash behind it, a base address names a path that ends in two exactly if
its own path loses something with its slashes. -/
theorem single_iff {cs : List Char} {k : Nat} {v : Url} (hscheme : scheme ∈ webSchemes)
    (hcs : ∀ c ∈ cs, endsPath c = false)
    (hv : readWeb scheme (cs ++ List.replicate k '/') = .ok v) :
    (∀ w, readWeb scheme (cs ++ ['/']) = .ok w → ¬ ['/', '/'] <:+ w.path.print) ↔
      Path.print (.segments (reached (pathText cs))) = v.path.stem := by
  obtain ⟨hstem, w, hw, -, hpath⟩ := readWeb_slashes_ok hscheme hcs hv []
  rw [hstem, Path.stem]
  have hnil : isPlain [] = true := by decide
  have hprint : w.path.print = Path.print (.segments (reached (pathText cs))) ++ ['/'] := by
    rw [hpath, List.takeWhile_nil, readSegments_append (pathText_head cs) rfl,
      resolve_written_of_isPlain hnil, print_append]
    rfl
  have hiff : (∀ w, readWeb scheme (cs ++ ['/']) = .ok w → ¬ ['/', '/'] <:+ w.path.print) ↔
      ¬ ['/', '/'] <:+ Path.print (.segments (reached (pathText cs))) ++ ['/'] := by
    rw [← hprint]
    constructor
    · intro h
      exact h w hw
    · intro h w' hw'
      obtain rfl := Except.ok.inj (hw.symm.trans hw')
      exact h
  rw [hiff]
  exact not_suffix_iff _

/-! ### Blanks at the end of a base address -/

theorem splitOnP_append_of_forall {p : Char → Bool} {blanks : List Char}
    (h : ∀ c ∈ blanks, p c = false) (cs : List Char) : ∃ first last,
      cs.splitOnP p = first ++ [last] ∧ (cs ++ blanks).splitOnP p = first ++ [last ++ blanks] := by
  induction cs with
  | nil => exact ⟨[], [], List.splitOnP_nil, List.splitOnP_eq_singleton h⟩
  | cons c cs ih =>
    obtain ⟨first, last, hcs, hboth⟩ := ih
    cases hc : p c with
    | true =>
      refine ⟨[] :: first, last, ?_, ?_⟩
      · rw [List.splitOnP_cons_eq_if_modifyHead, if_pos hc, hcs, List.cons_append]
      · rw [List.cons_append, List.splitOnP_cons_eq_if_modifyHead, if_pos hc, hboth,
          List.cons_append]
    | false =>
      have hnot : ¬ p c = true := by rw [hc]; exact Bool.false_ne_true
      rw [List.cons_append, List.splitOnP_cons_eq_if_modifyHead, if_neg hnot,
        List.splitOnP_cons_eq_if_modifyHead, if_neg hnot, hcs, hboth]
      cases first with
      | nil => exact ⟨[], c :: last, rfl, rfl⟩
      | cons s first => exact ⟨(c :: s) :: first, last, rfl, rfl⟩

theorem dots_suffix {s : List Char} (h : isDot s = true ∨ isDoubleDot s = true) :
    ['.'] <:+ s.map Char.toLower ∨ ['2', 'e'] <:+ s.map Char.toLower := by
  have hmem : s.map Char.toLower ∈
      [".", "%2e", "..", ".%2e", "%2e.", "%2e%2e"].map String.toList := by
    rcases h with h | h
    · have hmem := foldCase_ofList_mem (of_decide_eq_true h)
      simp only [List.map_cons, List.map_nil, List.mem_cons, List.not_mem_nil, or_false] at hmem ⊢
      rcases hmem with h | h
      · exact .inl h
      · exact .inr (.inl h)
    · have hmem := foldCase_ofList_mem (of_decide_eq_true h)
      exact List.mem_cons_of_mem _ (List.mem_cons_of_mem _ hmem)
  have hall : ([".", "%2e", "..", ".%2e", "%2e.", "%2e%2e"].map String.toList).all
      (fun name => ['.'].isSuffixOf name || ['2', 'e'].isSuffixOf name) = true := by decide
  have hends := List.all_eq_true.mp hall _ hmem
  rw [Bool.or_eq_true, List.isSuffixOf_iff_suffix, List.isSuffixOf_iff_suffix] at hends
  exact hends

/-- No segment that ends in an escaped blank has the meaning of dots. -/
theorem not_dots_of_padding {c : Char} (hc : isPadding c = true) (s : List Char) :
    ¬ (isDot (s ++ Text.percentEncodeChar escapesInPath c) = true
      ∨ isDoubleDot (s ++ Text.percentEncodeChar escapesInPath c) = true) := by
  intro h
  have hescape := of_isPadding (p := fun c =>
    let name := (Text.percentEncodeChar escapesInPath c).map Char.toLower
    decide (2 ≤ name.length) && !(['.'].isSuffixOf name || ['2', 'e'].isSuffixOf name))
    (by decide) hc
  rw [Bool.and_eq_true, decide_eq_true_eq, Bool.not_eq_true', Bool.or_eq_false_iff,
    ← Bool.not_eq_true, ← Bool.not_eq_true, List.isSuffixOf_iff_suffix,
    List.isSuffixOf_iff_suffix] at hescape
  obtain ⟨hlength, hdot, hescaped⟩ := hescape
  have hsuffix := List.suffix_append (s.map Char.toLower)
    ((Text.percentEncodeChar escapesInPath c).map Char.toLower)
  rw [← List.map_append] at hsuffix
  rcases dots_suffix h with h | h
  · exact hdot (List.suffix_of_suffix_length_le h hsuffix (Nat.le_of_succ_le hlength))
  · exact hescaped (List.suffix_of_suffix_length_le h hsuffix hlength)

theorem isPadding_apart {c : Char} (hc : isPadding c = true) :
    isSlash true c = false ∧ endsPath c = false := by
  have h := of_isPadding (p := fun c => !isSlash true c && !endsPath c) (by decide) hc
  rwa [Bool.and_eq_true, Bool.not_eq_true', Bool.not_eq_true'] at h

theorem isSlash_of_mem_authorityText {cs : List Char} {c : Char} (hc : c ∈ authorityText cs) :
    isSlash true c = false := by
  have hnot := List.mem_takeWhile_imp hc
  rwa [Bool.not_eq_true'] at hnot

/-- A blank at the end of a host is read as part of it if more is put behind. -/
theorem readWeb_of_blanks {cs blanks : List Char} (hscheme : scheme ∈ webSchemes)
    (hcs : ∀ c ∈ cs, endsPath c = false) (hpath : pathText cs = []) (hne : blanks ≠ [])
    (hblanks : ∀ c ∈ blanks, isPadding c = true) (text : List Char) :
    ∃ f, readWeb scheme (cs ++ blanks ++ '/' :: text) = .error f := by
  have hends : ∀ c ∈ cs ++ blanks, endsPath c = false := by
    intro c hc
    exact (List.mem_append.mp hc).elim (hcs c) fun hc => (isPadding_apart (hblanks c hc)).2
  have hnone := pathText_append_of_not_slash hcs hpath fun c hc => isPadding_apart (hblanks c hc)
  rcases List.eq_nil_or_concat blanks with rfl | ⟨first, c, rfl⟩
  · exact absurd rfl hne
  · rw [List.concat_eq_append, ← List.append_assoc] at *
    have hc := hblanks c (by simp)
    obtain ⟨host, hhost⟩ := authorityText_concat hnone hends (isPadding_apart hc).1
    obtain ⟨hauthority, -⟩ := authorityText_append_slash hends
      ⟨c, List.mem_concat_self, (isPadding_apart hc).1⟩ ('/' :: text) (by rintro c ⟨⟩; rfl)
    rw [hhost] at hauthority
    obtain ⟨f, hf⟩ := readAuthority_of_padding (isSpecial_of_mem hscheme) false hc
      fun d hd => isSlash_of_mem_authorityText (by rwa [hauthority])
    refine ⟨f, ?_⟩
    rw [readWeb, hauthority, hf]
    rfl

theorem length_print_resolve_le (done : List (List Char)) (s : List Char) :
    (Path.print (.segments (resolve done [s]))).length
      ≤ (Path.print (.segments done)).length + s.length + 1 := by
  have hone (t : List Char) : (Path.print (.segments [t])).length = t.length + 1 := by
    simp [Path.print]
  simp only [resolve]
  split
  · obtain ⟨rest, hrest⟩ := shorten_prefix done
    have hlength := congrArg (fun parts => (Path.print (.segments parts)).length) hrest
    simp only [print_append, List.length_append] at hlength
    rw [print_append, List.length_append, hone, List.length_nil]
    omega
  · split
    · rw [print_append, List.length_append, hone, List.length_nil]
      omega
    · rw [print_append, List.length_append, hone]
      omega

/-- A blank at the end of a segment makes it longer. -/
theorem enter_of_blanks {blanks : List Char} (hne : blanks ≠ [])
    (hblanks : ∀ c ∈ blanks, isPadding c = true) (last : List Char) (done : List (List Char)) :
    ∃ s, (Text.percentEncode escapesInPath last).length < s.length
      ∧ enter done (Text.percentEncode escapesInPath (last ++ blanks)) = done ++ [s] := by
  rcases List.eq_nil_or_concat blanks with rfl | ⟨first, c, rfl⟩
  · exact absurd rfl hne
  · have hc := hblanks c (by simp)
    have hescape := of_isPadding
      (p := fun c => decide (0 < (Text.percentEncodeChar escapesInPath c).length)) (by decide) hc
    rw [decide_eq_true_eq] at hescape
    have hwritten : Text.percentEncode escapesInPath (last ++ first.concat c)
        = Text.percentEncode escapesInPath last ++ Text.percentEncode escapesInPath first
          ++ Text.percentEncodeChar escapesInPath c := by
      simp [Text.percentEncode]
    refine ⟨Text.percentEncode escapesInPath (last ++ first.concat c), ?_, ?_⟩
    · rw [hwritten, List.length_append, List.length_append]
      omega
    · rw [hwritten]
      obtain ⟨hdot, hdouble⟩ := not_or.mp (not_dots_of_padding hc _)
      rw [enter, if_neg hdouble, if_neg hdot]

/-- Blanks behind a path make its last segment longer. -/
theorem readSegments_of_blanks {blanks : List Char} (hne : blanks ≠ [])
    (hblanks : ∀ c ∈ blanks, isPadding c = true) {c : Char} (hc : isSlash true c = true)
    (path : List Char) : ∃ done s t, t.length < s.length
      ∧ readSegments true (c :: path) = resolve done [t]
      ∧ reached (c :: path ++ blanks) = done ++ [s] := by
  obtain ⟨first, last, hfirst, hboth⟩ :=
    splitOnP_append_of_forall (fun c hc => (isPadding_apart (hblanks c hc)).1) path
  obtain ⟨s, hlonger, henter⟩ := enter_of_blanks hne hblanks last
    ((first.map (Text.percentEncode escapesInPath)).foldl enter [])
  refine ⟨(first.map (Text.percentEncode escapesInPath)).foldl enter [], s,
    Text.percentEncode escapesInPath last, hlonger, ?_, ?_⟩
  · rw [readSegments_cons hc, written, hfirst, List.map_append, List.map_singleton,
      resolve_append (List.cons_ne_nil _ _)]
  · rw [List.cons_append, reached, written, hboth, List.map_append, List.map_singleton,
      List.foldl_append, List.foldl_cons, List.foldl_nil, henter]

/-- A blank at the end of a path is read as part of it if more is put behind. -/
theorem not_extends_of_blanks {cs blanks : List Char} {v : Url} (hscheme : scheme ∈ webSchemes)
    (hcs : ∀ c ∈ cs, endsPath c = false) (hv : readWeb scheme cs = .ok v) (hne : blanks ≠ [])
    (hblanks : ∀ c ∈ blanks, isPadding c = true) {text read : List Char}
    (hread : isPlain text = true → read.takeWhile (!endsPath ·) = text) :
    ¬ ∃ u, readWeb scheme (cs ++ blanks ++ '/' :: read) = .ok u ∧ Extends v u text := by
  rintro ⟨u, hu, ext⟩
  have hhead := pathText_head cs
  cases hpath : pathText cs with
  | nil =>
    obtain ⟨f, hf⟩ := readWeb_of_blanks hscheme hcs hpath hne hblanks read
    exact nomatch hf.symm.trans hu
  | cons c path =>
    rw [hpath] at hhead
    obtain ⟨done, s, t, hlonger, hbase, hreached⟩ :=
      readSegments_of_blanks hne hblanks (hhead c rfl) path
    -- the host is cut off before the path, so that the blanks do not reach it
    obtain ⟨hauthority, hput⟩ := authorityText_append hcs (blanks ++ '/' :: read)
      (.inl (by rw [hpath]; exact List.cons_ne_nil c path))
    have hends : (blanks ++ '/' :: read).takeWhile (!endsPath ·)
        = blanks ++ '/' :: read.takeWhile (!endsPath ·) := by
      rw [List.takeWhile_append_of_pos]
      · rfl
      · intro c hc
        rw [(isPadding_apart (hblanks c hc)).2, Bool.not_false]
    rw [hpath, hends, List.cons_append, ← List.append_assoc, ← List.cons_append] at hput
    rw [← List.append_assoc] at hauthority hput
    obtain ⟨hvpath, u', hu', -, hupath⟩ := readWeb_ok hv hauthority
    obtain rfl : u = u' := Except.ok.inj (hu.symm.trans hu')
    have hplain := isPlain_of_print_eq (pathText_head _) (hupath ▸ ext.path)
    -- with the text behind it, the path is longer than the base address has it
    have hboth : ∀ d ∈ (c :: path ++ blanks).head?, isSlash true d = true := hhead
    have hprint : u.path.print = Path.print (.segments (done ++ [s])) ++ '/' :: text := by
      rw [hupath, hput, readSegments_append hboth rfl, hreached,
        hread hplain, resolve_written_of_isPlain hplain, print_append,
        print_splitOnP (isPlain_iff.mp hplain).2]
    have hstem : Path.print (.segments (done ++ [s])) = v.path.stem :=
      List.append_cancel_right (hprint.symm.trans ext.path)
    have hstart := List.rdropWhile_prefix (· == '/') v.path.print
    have hshort := hstart.length_le
    have hbound := length_print_resolve_le done t
    rw [hvpath, hpath, hbase] at hshort hstem
    have hlength := congrArg List.length hstem
    rw [print_append, List.length_append] at hlength
    have hone : (Path.print (.segments [s])).length = s.length + 1 := by simp [Path.print]
    unfold Path.stem at hlength
    omega

end Url

end RemoteBatch
