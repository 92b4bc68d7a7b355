import RemoteBatch.Proofs.Segment
import RemoteBatch.Url.Parse

/-!
# Paths put behind one another

The path of an address of a common scheme is read segment by segment.  What a text
adds to it depends on the segments reached before alone, and a text in which nothing
is escaped and no segment has a meaning of its own is added as it is.  Such a text is
plain, and conversely nothing but plain texts can be found in a path that was read.

## Main definitions

* `enter`, `reached` — the segments reached by way of others.
* `written` — the segments that a text writes.
* `isPlain` — whether a text stands for itself in a path.

## Main results

* `readSegments_append` — what is read of a path with more behind it.
* `resolve_written_of_isPlain`, `isPlain_of_print_eq` — **the texts that a path takes up
  as they are.**
-/

namespace RemoteBatch

namespace Url

theorem isSlash_iff {c : Char} : isSlash true c = true ↔ c = '/' ∨ c = '\\' := by
  simp [isSlash]

/-! ### Segments that others follow -/

/-- The segments reached by way of one that others follow. -/
def enter (done : List (List Char)) (s : List Char) : List (List Char) :=
  if isDoubleDot s then shorten done else if isDot s then done else done ++ [s]

theorem resolve_append {rest : List (List Char)} (hrest : rest ≠ []) (segments : List (List Char))
    (done : List (List Char)) :
    resolve done (segments ++ rest) = resolve (segments.foldl enter done) rest := by
  induction segments generalizing done with
  | nil => rfl
  | cons s segments ih =>
    -- at least one segment follows, so this one is not the last
    obtain ⟨t, more, hmore⟩ :=
      List.exists_cons_of_ne_nil (List.append_ne_nil_of_right_ne_nil segments hrest)
    rw [List.foldl_cons, ← ih, List.cons_append, hmore, enter]
    rw [resolve]
    · split
      · rfl
      · split
        · rfl
        · rfl
    · exact List.cons_ne_nil _ _

theorem resolve_eq {segments : List (List Char)} (h : segments ≠ []) (done : List (List Char)) :
    ∃ k, resolve done segments = segments.foldl enter done ++ List.replicate k [] := by
  rcases List.eq_nil_or_concat segments with rfl | ⟨first, s, rfl⟩
  · exact absurd rfl h
  · rw [List.concat_eq_append, resolve_append (List.cons_ne_nil s []), List.foldl_append]
    simp only [resolve, List.foldl_cons, List.foldl_nil, enter]
    split
    · exact ⟨1, rfl⟩
    · split
      · exact ⟨1, rfl⟩
      · exact ⟨0, (List.append_nil _).symm⟩

/-- The segments that the text of a path writes. -/
def written (cs : List Char) : List (List Char) :=
  (cs.splitOnP (isSlash true)).map (Text.percentEncode escapesInPath)

theorem written_append (cs : List Char) {c : Char} (hc : isSlash true c = true) (ds : List Char) :
    written (cs ++ c :: ds) = written cs ++ written ds := by
  rw [written, List.splitOnP_append_cons cs ds hc, List.map_append, written, written]

theorem written_ne_nil (cs : List Char) : written cs ≠ [] := by
  rw [written, ne_eq, List.map_eq_nil_iff]
  exact List.splitOnP_ne_nil _ cs

/-- The segments that a path reaches which more is put behind. -/
def reached : List Char → List (List Char)
  | [] => []
  | _ :: path => (written path).foldl enter []

theorem readSegments_cons {c : Char} (hc : isSlash true c = true) (path : List Char) :
    readSegments true (c :: path) = resolve [] (written path) := by
  simp only [readSegments, hc, if_true]
  rfl

theorem readSegments_append {path : List Char} (hpath : ∀ c ∈ path.head?, isSlash true c = true)
    {c : Char} (hc : isSlash true c = true) (rest : List Char) :
    readSegments true (path ++ c :: rest) = resolve (reached path) (written rest) := by
  cases path with
  | nil => exact readSegments_cons hc rest
  | cons d path =>
    rw [List.cons_append, readSegments_cons (hpath d rfl), written_append path hc,
      resolve_append (written_ne_nil rest), reached]

theorem readSegments_eq {path : List Char} (hpath : ∀ c ∈ path.head?, isSlash true c = true) :
    ∃ k, readSegments true path = reached path ++ List.replicate k [] := by
  cases path with
  | nil => exact ⟨1, rfl⟩
  | cons c path =>
    rw [readSegments_cons (hpath c rfl), reached]
    exact resolve_eq (written_ne_nil path) []

/-! ### Plain texts -/

/-- Whether a character is written as it is in a segment. -/
def isPlainChar (c : Char) : Bool := c.toNat < 0x80 && !escapesInPath c && !isSlash true c

/-- Whether a text stands for itself as a segment. -/
def isPlainSegment (s : List Char) : Bool := s.all isPlainChar && !isDot s && !isDoubleDot s

/-- Whether a text stands for itself in a path. -/
def isPlain (cs : List Char) : Bool :=
  (cs.splitOnP (isSlash true)).all isPlainSegment && !cs.contains '\\'

theorem splitOnP_cons_of_neg {p : Char → Bool} {c : Char} (hc : p c = false) (cs : List Char) :
    ∃ s segments, cs.splitOnP p = s :: segments ∧ (c :: cs).splitOnP p = (c :: s) :: segments := by
  obtain ⟨s, segments, h⟩ := List.exists_cons_of_ne_nil (List.splitOnP_ne_nil p cs)
  refine ⟨s, segments, h, ?_⟩
  rw [List.splitOnP_cons_eq_if_modifyHead, if_neg (by rw [hc]; exact Bool.false_ne_true), h]
  rfl

theorem eq_false_of_mem_splitOnP {p : Char → Bool} {cs s : List Char} (hs : s ∈ cs.splitOnP p) :
    ∀ c ∈ s, p c = false := by
  induction cs generalizing s with
  | nil =>
    rw [List.splitOnP_nil, List.mem_singleton] at hs
    rw [hs]
    exact nofun
  | cons c cs ih =>
    cases hc : p c with
    | true =>
      rw [List.splitOnP_cons_eq_if_modifyHead, if_pos hc, List.mem_cons] at hs
      rcases hs with rfl | hs
      · exact nofun
      · exact ih hs
    | false =>
      obtain ⟨t, segments, hcs, hsplit⟩ := splitOnP_cons_of_neg hc cs
      rw [hcs] at ih
      rw [hsplit, List.mem_cons] at hs
      rcases hs with rfl | hs
      · intro d hd
        rcases List.mem_cons.mp hd with rfl | hd
        · exact hc
        · exact ih List.mem_cons_self d hd
      · exact ih (List.mem_cons_of_mem _ hs)

theorem isPlainChar_of_mem_written {cs s : List Char} (hs : s ∈ written cs) {c : Char}
    (hc : c ∈ s) : isPlainChar c = true := by
  obtain ⟨t, ht, rfl⟩ := List.mem_map.mp hs
  rcases Text.mem_percentEncode hc with ⟨hct, hascii, hmust⟩ | rfl | ⟨n, hn, rfl⟩
  · rw [isPlainChar, hmust, eq_false_of_mem_splitOnP ht c hct, decide_eq_true hascii]
    rfl
  · decide
  · have hall : ∀ n < 16, isPlainChar (Text.upperHexDigit n) = true := by decide
    exact hall n hn

theorem mem_enter {done : List (List Char)} {s t : List Char} (h : s ∈ enter done t) :
    s ∈ done ∨ s = t ∧ isDot t = false ∧ isDoubleDot t = false := by
  unfold enter at h
  split at h
  · have hbefore := shorten_prefix done
    exact .inl (hbefore.subset h)
  · next hdouble =>
    split at h
    · exact .inl h
    · next hdot =>
      rcases List.mem_append.mp h with h | h
      · exact .inl h
      · exact .inr ⟨List.mem_singleton.mp h, Bool.eq_false_iff.mpr hdot,
          Bool.eq_false_iff.mpr hdouble⟩

theorem mem_foldl_enter {segments done : List (List Char)} {s : List Char}
    (h : s ∈ segments.foldl enter done) :
    s ∈ done ∨ s ∈ segments ∧ isDot s = false ∧ isDoubleDot s = false := by
  induction segments generalizing done with
  | nil => exact .inl h
  | cons t segments ih =>
    rcases ih h with h | ⟨h, hdots⟩
    · rcases mem_enter h with h | ⟨rfl, hdots⟩
      · exact .inl h
      · exact .inr ⟨List.mem_cons_self, hdots⟩
    · exact .inr ⟨List.mem_cons_of_mem _ h, hdots⟩

/-- What a path is read as stands for itself. -/
theorem isPlainSegment_of_mem {path s : List Char}
    (hpath : ∀ c ∈ path.head?, isSlash true c = true) (h : s ∈ readSegments true path) :
    isPlainSegment s = true := by
  obtain ⟨k, hread⟩ := readSegments_eq hpath
  rw [hread] at h
  rcases List.mem_append.mp h with h | h
  · cases path with
    | nil => exact absurd h List.not_mem_nil
    | cons c path =>
      rcases mem_foldl_enter h with h | ⟨h, hdot, hdouble⟩
      · exact absurd h List.not_mem_nil
      · rw [isPlainSegment, hdot, hdouble, Bool.not_false, Bool.and_true, Bool.and_true,
          List.all_eq_true]
        intro c hc
        exact isPlainChar_of_mem_written h hc
  · rw [List.eq_of_mem_replicate h]
    decide

/-- A path without backslashes is written as it is split. -/
theorem print_splitOnP {cs : List Char} (h : '\\' ∉ cs) :
    Path.print (.segments (cs.splitOnP (isSlash true))) = '/' :: cs := by
  induction cs with
  | nil => rfl
  | cons c cs ih =>
    have ih := ih fun hc => h (List.mem_cons_of_mem _ hc)
    cases hc : isSlash true c with
    | true =>
      have hslash : c = '/' := (isSlash_iff.mp hc).resolve_right fun hback =>
        h (by rw [hback]; exact List.mem_cons_self)
      rw [List.splitOnP_cons_eq_if_modifyHead, if_pos hc, hslash]
      exact congrArg ('/' :: ·) ih
    | false =>
      obtain ⟨s, segments, hcs, hsplit⟩ := splitOnP_cons_of_neg hc cs
      rw [hcs] at ih
      rw [hsplit]
      exact congrArg ('/' :: c :: ·) (List.cons.inj ih).2

/-- A path is split as it is written if its segments hold no slash. -/
theorem splitOnP_print {parts : List (List Char)}
    (h : ∀ s ∈ parts, ∀ c ∈ s, isSlash true c = false) :
    (Path.print (.segments parts)).splitOnP (isSlash true) = [] :: parts := by
  induction parts with
  | nil => rfl
  | cons s parts ih =>
    have hs := List.splitOnP_eq_singleton (h s List.mem_cons_self)
    have ih := ih fun t ht => h t (List.mem_cons_of_mem _ ht)
    have hslash : isSlash true '/' = true := rfl
    show ('/' :: (s ++ Path.print (.segments parts))).splitOnP (isSlash true) = _
    rw [List.splitOnP_cons_eq_if_modifyHead, if_pos hslash]
    cases parts with
    | nil =>
      show [] :: (s ++ []).splitOnP (isSlash true) = _
      rw [List.append_nil, hs]
    | cons t parts =>
      have hcut : Path.print (.segments (t :: parts))
          = '/' :: (t ++ Path.print (.segments parts)) := rfl
      rw [hcut, List.splitOnP_cons_eq_if_modifyHead, if_pos hslash] at ih
      rw [hcut, List.splitOnP_append_cons _ _ hslash, hs, (List.cons.inj ih).2]
      rfl

theorem isPlain_iff {cs : List Char} : isPlain cs = true ↔
    (∀ s ∈ cs.splitOnP (isSlash true), isPlainSegment s = true) ∧ '\\' ∉ cs := by
  rw [isPlain, Bool.and_eq_true, List.all_eq_true, Bool.not_eq_true', ← Bool.not_eq_true,
    List.contains_iff_mem]

theorem isPlain_append_slash_iff {cs ds : List Char} :
    isPlain (cs ++ '/' :: ds) = true ↔ isPlain cs = true ∧ isPlain ds = true := by
  have hback : '\\' ∉ cs ++ '/' :: ds ↔ '\\' ∉ cs ∧ '\\' ∉ ds := by
    rw [List.mem_append, List.mem_cons, not_or, not_or]
    exact and_congr_right fun _ => and_iff_right (by decide)
  rw [isPlain_iff, isPlain_iff, isPlain_iff, hback, List.splitOnP_append_cons cs ds rfl,
    List.forall_mem_append]
  exact and_and_and_comm

theorem isPlainSegment_iff {s : List Char} : isPlainSegment s = true ↔
    (∀ c ∈ s, c.toNat < 0x80 ∧ escapesInPath c = false ∧ isSlash true c = false)
      ∧ isDot s = false ∧ isDoubleDot s = false := by
  simp only [isPlainSegment, isPlainChar, Bool.and_eq_true, List.all_eq_true, decide_eq_true_eq,
    Bool.not_eq_true', and_assoc]

theorem mem_of_isPlain {cs : List Char} (h : isPlain cs = true) {c : Char} (hc : c ∈ cs) :
    c = '/' ∨ isPlainChar c = true := by
  obtain ⟨hsegments, hback⟩ := isPlain_iff.mp h
  have hmem : c ∈ Path.print (.segments (cs.splitOnP (isSlash true))) := by
    rw [print_splitOnP hback]
    exact List.mem_cons_of_mem _ hc
  obtain ⟨s, hs, hcs⟩ := List.mem_flatMap.mp hmem
  refine (List.mem_cons.mp hcs).imp_right fun hcs => ?_
  have hsegment := hsegments s hs
  rw [isPlainSegment, Bool.and_eq_true, Bool.and_eq_true, List.all_eq_true] at hsegment
  exact hsegment.1.1 c hcs

theorem written_of_isPlain {cs : List Char} (h : isPlain cs = true) :
    written cs = cs.splitOnP (isSlash true) := by
  have hself : ∀ s ∈ cs.splitOnP (isSlash true), Text.percentEncode escapesInPath s = id s := by
    intro s hs
    refine Text.percentEncode_eq_self fun c hc => ?_
    obtain ⟨hascii, hescapes, -⟩ := (isPlainSegment_iff.mp ((isPlain_iff.mp h).1 s hs)).1 c hc
    exact ⟨hascii, hescapes⟩
  rw [written, List.map_congr_left hself, List.map_id]

theorem resolve_of_forall {segments : List (List Char)}
    (h : ∀ s ∈ segments, isDot s = false ∧ isDoubleDot s = false) (done : List (List Char)) :
    resolve done segments = done ++ segments := by
  induction segments generalizing done with
  | nil => exact (List.append_nil done).symm
  | cons s segments ih =>
    have ih := ih fun t ht => h t (List.mem_cons_of_mem _ ht)
    obtain ⟨hdot, hdouble⟩ := h s List.mem_cons_self
    cases segments with
    | nil => simp [resolve, hdot, hdouble]
    | cons t segments => simp [resolve, hdot, hdouble, ih]

/-- A plain text is read as its own segments, wherever it stands. -/
theorem resolve_written_of_isPlain {cs : List Char} (h : isPlain cs = true)
    (done : List (List Char)) :
    resolve done (written cs) = done ++ cs.splitOnP (isSlash true) := by
  rw [written_of_isPlain h]
  exact resolve_of_forall
    (fun s hs => (isPlainSegment_iff.mp ((isPlain_iff.mp h).1 s hs)).2) done

/-- A text that stands in a path as it is written. -/
theorem isPlain_of_print_eq {path before behind : List Char}
    (hpath : ∀ c ∈ path.head?, isSlash true c = true)
    (h : Path.print (.segments (readSegments true path)) = before ++ '/' :: behind) :
    isPlain behind = true := by
  have hplain := fun s hs => isPlainSegment_of_mem (s := s) hpath hs
  generalize readSegments true path = parts at h hplain
  have hslash : ∀ s ∈ parts, ∀ c ∈ s, isSlash true c = false := fun s hs c hc =>
    ((isPlainSegment_iff.mp (hplain s hs)).1 c hc).2.2
  -- the text is split as the end of the path is, and so its segments are some of those read
  have hsplit := splitOnP_print hslash
  rw [h, List.splitOnP_append_cons _ _ rfl] at hsplit
  rw [isPlain_iff]
  constructor
  · intro s hs
    have hmem : s ∈ [] :: parts := by
      rw [← hsplit]
      exact List.mem_append_right _ hs
    rcases List.mem_cons.mp hmem with rfl | hmem
    · decide
    · exact hplain s hmem
  · intro hback
    have hmem : '\\' ∈ Path.print (.segments parts) := by
      rw [h]
      exact List.mem_append_right _ (List.mem_cons_of_mem _ hback)
    obtain ⟨s, hs, hc⟩ := List.mem_flatMap.mp hmem
    rcases List.mem_cons.mp hc with heq | hc
    · exact absurd heq (by decide)
    · exact nomatch (hslash s hs _ hc).symm.trans rfl

end Url

end RemoteBatch
