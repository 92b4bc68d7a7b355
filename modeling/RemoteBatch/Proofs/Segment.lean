import RemoteBatch.Http.Endpoint
import RemoteBatch.Proofs.Percent

/-!
# Addresses of single jobs

A job id comes from anywhere and ends up as one segment of an address.  Escaping
keeps whatever separates segments out of it, so that the address of an id lies
right below the place of all jobs and nothing else has it.  The exceptions are the
three characters that an address leaves out: an id that holds one of them is not
what its address stands for, and what is left of it may not name a job at all.

## Main definitions

* `kept` — what an address keeps of a text.
* `NamesBelow` — that one address names a text right below another.
* `AtOrAbove` — that one address names the place of another or one on the way to it.
* `below` — the address of a text.

## Main results

* `isDot_segmentOf`, `isDoubleDot_segmentOf` — only dots are written as dots.
* `segmentUrl_eq_ok_iff` — the addresses that ids have.
* `segmentUrl_names_iff` — **what the address of an id names.**
* `segmentUrl_leaves_out` — **ids with a tab that name another job or no job.**
-/

namespace RemoteBatch

open Text (percentDecode encodeUtf8)

namespace Url

/-! ### Escaped segments -/

theorem escapesInSegment_percent (special : Bool) : escapesInSegment special '%' = true := by
  cases special <;> decide

theorem percentDecode_segmentOf (special : Bool) (text : List Char) :
    percentDecode (segmentOf special text) = encodeUtf8 (text.filter (!isDropped ·)) :=
  Text.percentDecode_percentEncode (escapesInSegment_percent special) _

/-- The characters that end a segment. -/
def segmentEnds (special : Bool) : List Char :=
  '?' :: '#' :: '/' :: if special then ['\\'] else []

theorem mem_segmentEnds_iff {special : Bool} {c : Char} :
    c ∈ segmentEnds special ↔ isSlash special c = true ∨ c = '?' ∨ c = '#' := by
  cases special <;> grind [segmentEnds, isSlash]

theorem escapesInSegment_of_mem {special : Bool} {c : Char} (h : c ∈ segmentEnds special) :
    escapesInSegment special c = true := by
  have hall : (segmentEnds special).all (escapesInSegment special) = true := by
    cases special <;> decide
  exact List.all_eq_true.mp hall c h

theorem upperHexDigit_notMem (special : Bool) :
    ∀ n < 16, Text.upperHexDigit n ∉ segmentEnds special := by
  cases special <;> decide

/-- No character of a segment ends it. -/
theorem notMem_segmentEnds {special : Bool} {text : List Char} {c : Char}
    (h : c ∈ segmentOf special text) : c ∉ segmentEnds special := by
  rcases Text.mem_percentEncode h with ⟨-, -, kept⟩ | rfl | ⟨n, hn, rfl⟩
  · intro hends
    rw [escapesInSegment_of_mem hends] at kept
    exact Bool.noConfusion kept
  · cases special <;> decide
  · exact upperHexDigit_notMem special n hn

theorem segmentOf_eq_nil_iff {special : Bool} {text : List Char} :
    segmentOf special text = [] ↔ text.filter (!isDropped ·) = [] := by
  constructor
  · intro h
    have hread := percentDecode_segmentOf special text
    rw [h] at hread
    exact Text.encodeUtf8_injective hread.symm
  · intro h
    rw [segmentOf, h]
    rfl

/-! ### Dots

A segment has the meaning of dots in several spellings, and each of them stands for
dots.  So does the segment of a text only if the text is dots. -/

theorem eq_or_eq_toUpper_of_toLower {c d : Char} (h : c.toLower = d) :
    c = d ∨ c = d.toUpper := by
  subst h
  unfold Char.toLower
  split
  · right
    unfold Char.toUpper
    simp only [Char.ext_iff]
    grind
  · exact .inl rfl

theorem percentDecode_dot {c : Char} (h : c.toLower = '.') (rest : List Char) :
    percentDecode (c :: rest) = 46 :: percentDecode rest := by
  have hc : c = '.' := (eq_or_eq_toUpper_of_toLower h).elim id id
  rw [hc, Text.percentDecode_cons_of_ne (by decide)]
  rfl

theorem percentDecode_escapedDot {a b c : Char} (ha : a.toLower = '%') (hb : b.toLower = '2')
    (hc : c.toLower = 'e') (rest : List Char) :
    percentDecode (a :: b :: c :: rest) = 46 :: percentDecode rest := by
  have ha : a = '%' := (eq_or_eq_toUpper_of_toLower ha).elim id id
  have hb : b = '2' := (eq_or_eq_toUpper_of_toLower hb).elim id id
  rcases eq_or_eq_toUpper_of_toLower hc with hc | hc
  · rw [ha, hb, hc]
    rfl
  · rw [ha, hb, hc]
    rfl

theorem foldCase_ofList_mem {cs : List Char} {names : List String}
    (h : Text.foldCase (String.ofList cs) ∈ names) :
    cs.map Char.toLower ∈ names.map String.toList := by
  rw [Text.foldCase_ofList] at h
  simpa using List.mem_map_of_mem (f := String.toList) h

theorem percentDecode_of_isDot {segment : List Char} (h : isDot segment = true) :
    percentDecode segment = encodeUtf8 ['.'] := by
  have hmem := foldCase_ofList_mem (of_decide_eq_true h)
  simp only [List.map_cons, List.map_nil, List.mem_cons, List.not_mem_nil, or_false,
    String.reduceToList, List.map_eq_cons_iff, List.map_eq_nil_iff] at hmem
  rcases hmem with ⟨a, -, rfl, ha, rfl⟩ | ⟨a, -, rfl, ha, b, -, rfl, hb, c, -, rfl, hc, rfl⟩
  · exact percentDecode_dot ha []
  · exact percentDecode_escapedDot ha hb hc []

theorem percentDecode_of_isDoubleDot {segment : List Char} (h : isDoubleDot segment = true) :
    percentDecode segment = encodeUtf8 ['.', '.'] := by
  have hmem := foldCase_ofList_mem (of_decide_eq_true h)
  simp only [List.map_cons, List.map_nil, List.mem_cons, List.not_mem_nil, or_false,
    String.reduceToList, List.map_eq_cons_iff, List.map_eq_nil_iff] at hmem
  rcases hmem with ⟨a, -, rfl, ha, b, -, rfl, hb, rfl⟩ |
      ⟨a, -, rfl, ha, b, -, rfl, hb, c, -, rfl, hc, d, -, rfl, hd, rfl⟩ |
      ⟨a, -, rfl, ha, b, -, rfl, hb, c, -, rfl, hc, d, -, rfl, hd, rfl⟩ |
      ⟨a, -, rfl, ha, b, -, rfl, hb, c, -, rfl, hc, d, -, rfl, hd, e, -, rfl, he, f, -, rfl, hf,
        rfl⟩
  · rw [percentDecode_dot ha, percentDecode_dot hb]
    rfl
  · rw [percentDecode_dot ha, percentDecode_escapedDot hb hc hd]
    rfl
  · rw [percentDecode_escapedDot ha hb hc, percentDecode_dot hd]
    rfl
  · rw [percentDecode_escapedDot ha hb hc, percentDecode_escapedDot hd he hf]
    rfl

/-- Only one dot is written as one dot. -/
theorem isDot_segmentOf {special : Bool} {text : List Char} :
    isDot (segmentOf special text) = true ↔ text.filter (!isDropped ·) = ['.'] := by
  constructor
  · intro h
    refine Text.encodeUtf8_injective ?_
    rw [← percentDecode_segmentOf special, percentDecode_of_isDot h]
  · intro h
    rw [segmentOf, h]
    cases special <;> decide

/-- Only two dots are written as two dots. -/
theorem isDoubleDot_segmentOf {special : Bool} {text : List Char} :
    isDoubleDot (segmentOf special text) = true ↔ text.filter (!isDropped ·) = ['.', '.'] := by
  constructor
  · intro h
    refine Text.encodeUtf8_injective ?_
    rw [← percentDecode_segmentOf special, percentDecode_of_isDoubleDot h]
  · intro h
    rw [segmentOf, h]
    cases special <;> decide

/-! ### One more segment -/

/-- What an address keeps of a text. -/
def kept (text : String) : String := String.ofList (text.toList.filter (!isDropped ·))

theorem toList_kept (text : String) : (kept text).toList = text.toList.filter (!isDropped ·) :=
  String.toList_ofList

theorem kept_eq_self_iff {text : String} :
    kept text = text ↔ ∀ c ∈ text.toList, isDropped c = false := by
  rw [← String.toList_inj, toList_kept, List.filter_eq_self]
  simp only [Bool.not_eq_true']

theorem isSegment_eq_false_iff {text : String} : Http.Endpoint.isSegment text = false ↔
    text.toList = [] ∨ text.toList = ['.'] ∨ text.toList = ['.', '.'] := by
  have empty : text.isEmpty = true ↔ text.toList = [] := by
    rw [String.isEmpty_iff, ← String.toList_inj, String.toList_empty]
  have dots (name : String) : (text != name) = false ↔ text.toList = name.toList := by
    rw [bne_eq_false_iff_eq, String.toList_inj]
  rw [Http.Endpoint.isSegment, Bool.and_eq_false_iff, Bool.and_eq_false_iff, dots, dots,
    Bool.not_eq_false', empty, or_assoc]
  rfl

/-- A text that is no dots is added to the end as it is. -/
theorem resolve_of_isSegment {special : Bool} {text : String}
    (h : Http.Endpoint.isSegment (kept text) = true) (done : List (List Char)) :
    resolve done [segmentOf special text.toList] = done ++ [segmentOf special text.toList] := by
  have apart : ¬ ((kept text).toList = [] ∨ (kept text).toList = ['.'] ∨
      (kept text).toList = ['.', '.']) := by
    rw [← isSegment_eq_false_iff, h]
    exact Bool.noConfusion
  rw [toList_kept] at apart
  simp only [resolve]
  rw [if_neg (fun dots => apart (.inr (.inr (isDoubleDot_segmentOf.mp dots)))),
    if_neg (fun dot => apart (.inr (.inl (isDot_segmentOf.mp dot))))]

theorem shorten_prefix (done : List (List Char)) : shorten done <+: done := by
  unfold shorten
  split
  · exact List.prefix_rfl
  · exact List.dropLast_prefix done

/-- A text of dots, or an empty one, leads back to a place on the way. -/
theorem resolve_of_not_isSegment {special : Bool} {text : String}
    (h : Http.Endpoint.isSegment (kept text) = false) (done : List (List Char)) :
    ∃ ahead, ahead <+: done ∧ resolve done [segmentOf special text.toList] = ahead ++ [[]] := by
  rw [isSegment_eq_false_iff, toList_kept] at h
  simp only [resolve]
  rcases h with hnil | hdot | hdots
  · -- nothing is left of the text, and an empty segment is added
    refine ⟨done, List.prefix_rfl, ?_⟩
    rw [segmentOf_eq_nil_iff.mpr hnil]
    rfl
  · -- one dot keeps the place, and the path ends there
    refine ⟨done, List.prefix_rfl, ?_⟩
    rw [if_neg, if_pos (isDot_segmentOf.mpr hdot)]
    rw [isDoubleDot_segmentOf, hdot]
    decide
  · -- two dots take a segment off it
    exact ⟨shorten done, shorten_prefix done, by rw [if_pos (isDoubleDot_segmentOf.mpr hdots)]⟩

theorem withoutEmptyLast_append (parts : List (List Char)) :
    parts = withoutEmptyLast parts ∨ parts = withoutEmptyLast parts ++ [[]] := by
  unfold withoutEmptyLast
  split
  · next last =>
    obtain ⟨before, hbefore⟩ := List.getLast?_eq_some_iff.mp last
    right
    rw [hbefore, List.dropLast_concat]
  · exact .inl rfl

/-- One more segment stands behind the path without an empty last one, but two
empty segments are both left out. -/
theorem pushBase_eq (parts : List (List Char)) :
    pushBase parts = if parts = [[], []] then [] else withoutEmptyLast parts := by
  cases parts with
  | nil => rfl
  | cons s rest =>
    cases rest with
    | nil => cases s <;> rfl
    | cons t rest =>
      show (if withoutEmptyLast (s :: t :: rest) = [[]] then []
        else withoutEmptyLast (s :: t :: rest)) = _
      by_cases two : s :: t :: rest = [[], []]
      · rw [if_pos two, two]
        rfl
      · rw [if_neg two, if_neg]
        intro root
        rcases withoutEmptyLast_append (s :: t :: rest) with h | h
        · rw [root] at h
          simp at h
        · rw [root] at h
          exact two h

theorem pushBase_append (parts : List (List Char)) :
    ∃ ends, parts = pushBase parts ++ ends ∧ ∀ s ∈ ends, s = [] := by
  rw [pushBase_eq]
  split
  · next two => exact ⟨[[], []], two, by simp⟩
  · rcases withoutEmptyLast_append parts with h | h
    · exact ⟨[], by rwa [List.append_nil], by simp⟩
    · exact ⟨[[]], h, by simp⟩

/-- No segment that is written out stands for an end of the path. -/
theorem eq_nil_of_pushBase_prefix {parts : List (List Char)} {segment : List Char}
    (h : pushBase parts ++ [segment] <+: parts) : segment = [] := by
  obtain ⟨ends, hparts, hends⟩ := pushBase_append parts
  generalize pushBase parts = base at h hparts
  rw [hparts, List.prefix_append_right_inj] at h
  exact hends segment (h.subset (List.mem_singleton_self segment))

/-! ### Addresses of texts -/

/-- That `u` is `v` with one more segment, which stands for a text. -/
def NamesBelow (v u : Url) (text : String) : Prop :=
  ∃ parts segment, v.path = .segments parts ∧
    u = { v with path := .segments (withoutEmptyLast parts ++ [segment]) } ∧
    percentDecode segment = encodeUtf8 text.toList ∧
    ∀ c ∈ segment, c ∉ segmentEnds (isSpecial v.scheme)

/-- That `u` names the place of `v` or one above, with or without a slash behind. -/
def AtOrAbove (v u : Url) : Prop :=
  ∃ parts ahead, v.path = .segments parts ∧ ahead <+: parts ∧
    (u.path = .segments ahead ∨ u.path = .segments (ahead ++ [[]]))

/-- The address of a text below another address. -/
def below (v : Url) (parts : List (List Char)) (text : String) : Url :=
  { v with path :=
      .segments (resolve (pushBase parts) [segmentOf (isSpecial v.scheme) text.toList]) }

theorem below_of_isSegment {v : Url} {parts : List (List Char)} {text : String}
    (h : Http.Endpoint.isSegment (kept text) = true) : below v parts text =
      { v with path :=
          .segments (pushBase parts ++ [segmentOf (isSpecial v.scheme) text.toList]) } := by
  rw [below, resolve_of_isSegment h]

theorem namesBelow_below_iff {v : Url} {parts : List (List Char)} (hv : v.path = .segments parts)
    {text : String} (htext : Http.Endpoint.isSegment text = true) :
    NamesBelow v (below v parts text) text ↔
      kept text = text ∧ v.path ≠ .segments [[], []] := by
  constructor
  · rintro ⟨parts', segment, hparts, hu, hread, -⟩
    obtain rfl : parts = parts' := by rwa [hv, Path.segments.injEq] at hparts
    have hpath : resolve (pushBase parts) [segmentOf (isSpecial v.scheme) text.toList]
        = withoutEmptyLast parts ++ [segment] := by
      have h := congrArg Url.path hu
      rwa [below, Path.segments.injEq] at h
    cases hkept : Http.Endpoint.isSegment (kept text) with
    | false =>
      -- an address that ends in an empty segment names the empty text
      obtain ⟨ahead, -, h⟩ := resolve_of_not_isSegment hkept (pushBase parts)
      rw [h] at hpath
      obtain rfl : [] = segment := List.singleton_inj.mp (List.append_inj' hpath rfl).2
      have hnil : [] = text.toList := Text.encodeUtf8_injective hread
      rw [isSegment_eq_false_iff.mpr (.inl hnil.symm)] at htext
      exact Bool.noConfusion htext
    | true =>
      rw [resolve_of_isSegment hkept] at hpath
      obtain ⟨hbase, hsegment⟩ := List.append_inj' hpath rfl
      constructor
      · rw [← List.singleton_inj.mp hsegment, percentDecode_segmentOf, ← toList_kept] at hread
        exact String.toList_inj.mp (Text.encodeUtf8_injective hread)
      · intro two
        rw [hv, Path.segments.injEq] at two
        rw [two] at hbase
        exact absurd hbase (by decide)
  · rintro ⟨hkept, htwo⟩
    have hbase : pushBase parts = withoutEmptyLast parts := by
      rw [pushBase_eq, if_neg]
      intro two
      exact htwo (by rw [hv, two])
    refine ⟨parts, segmentOf (isSpecial v.scheme) text.toList, hv, ?_, ?_, ?_⟩
    · rw [below_of_isSegment (by rwa [hkept]), hbase]
    · rw [percentDecode_segmentOf, ← toList_kept, hkept]
    · intro c hc
      exact notMem_segmentEnds hc

theorem atOrAbove_below_iff {v : Url} {parts : List (List Char)} (hv : v.path = .segments parts)
    (text : String) :
    AtOrAbove v (below v parts text) ↔ Http.Endpoint.isSegment (kept text) = false := by
  constructor
  · rintro ⟨parts', ahead, hparts', hahead, hu⟩
    obtain rfl : parts = parts' := by rwa [hv, Path.segments.injEq] at hparts'
    cases hkept : Http.Endpoint.isSegment (kept text) with
    | false => rfl
    | true =>
      have hsegment : segmentOf (isSpecial v.scheme) text.toList = [] := by
        rw [below_of_isSegment hkept, Path.segments.injEq, Path.segments.injEq] at hu
        rcases hu with hu | hu
        · rw [← hu] at hahead
          exact eq_nil_of_pushBase_prefix hahead
        · exact List.singleton_inj.mp (List.append_inj' hu rfl).2
      rw [segmentOf_eq_nil_iff, ← toList_kept] at hsegment
      rw [isSegment_eq_false_iff.mpr (.inl hsegment)] at hkept
      exact Bool.noConfusion hkept
  · intro hkept
    obtain ⟨ahead, hahead, h⟩ := resolve_of_not_isSegment hkept (pushBase parts)
    obtain ⟨ends, hparts, -⟩ := pushBase_append parts
    exact ⟨parts, ahead, hv, hahead.trans ⟨ends, hparts.symm⟩, .inr (congrArg Path.segments h)⟩

/-- The last segment of an address is read off its text. -/
theorem segment_eq_of_print_eq {v : Url} {ahead : List (List Char)} {s t : List Char}
    (h : ({ v with path := .segments (ahead ++ [s]) } : Url).print =
      ({ v with path := .segments (ahead ++ [t]) } : Url).print) : s = t := by
  -- a guard is set by the first of at least two segments, never by the last
  have guard : pathGuard { v with path := .segments (ahead ++ [s]) }
      = pathGuard { v with path := .segments (ahead ++ [t]) } := by
    cases ahead with
    | nil => cases hhost : v.host <;> simp [pathGuard]
    | cons a rest =>
      cases hhost : v.host with
      | some host => simp [pathGuard]
      | none => cases a <;> cases rest <;> simp [pathGuard]
  have authority : printAuthority { v with path := .segments (ahead ++ [s]) }
      = printAuthority { v with path := .segments (ahead ++ [t]) } := rfl
  have hchars := String.ofList_injective h
  simp only [printChars, printBase, guard, authority, Path.print, List.flatMap_append,
    List.flatMap_singleton, List.append_cancel_right_eq, List.append_cancel_left_eq,
    List.cons.injEq, true_and] at hchars
  exact hchars

theorem print_below_iff {v : Url} {parts : List (List Char)} {text other : String}
    (htext : Http.Endpoint.isSegment (kept text) = true)
    (hother : Http.Endpoint.isSegment (kept other) = true) :
    (below v parts text).print = (below v parts other).print ↔ kept text = kept other := by
  rw [below_of_isSegment htext, below_of_isSegment hother]
  constructor
  · intro h
    have hread := congrArg percentDecode (segment_eq_of_print_eq h)
    rw [percentDecode_segmentOf, percentDecode_segmentOf, ← toList_kept, ← toList_kept] at hread
    exact String.toList_inj.mp (Text.encodeUtf8_injective hread)
  · intro h
    rw [segmentOf, ← toList_kept, h, toList_kept]
    rfl

end Url

namespace Http.Endpoint

open Url (NamesBelow AtOrAbove kept below)

theorem segmentUrl_eq_ok_iff {e : Endpoint} {path : String} {v : Url}
    (hv : Url.parse (e.place path) = .ok v) {id : String} {u : Url} :
    e.segmentUrl path id = .ok u ↔
      isSegment id = true ∧ ∃ parts, v.path = .segments parts ∧ u = below v parts id := by
  unfold segmentUrl
  rw [hv]
  cases hid : isSegment id with
  | false => simp
  | true =>
    cases hpath : v.path with
    | flat text => simp [Url.Path.push?, hpath]
    | segments parts => simp [Url.Path.push?, hpath, below, eq_comm]

/-- Where an id has an address, so has the place of all jobs. -/
theorem exists_parse_of_segmentUrl {e : Endpoint} {path id : String} {u : Url}
    (h : e.segmentUrl path id = .ok u) : ∃ v, Url.parse (e.place path) = .ok v := by
  cases hv : Url.parse (e.place path) with
  | ok v => exact ⟨v, rfl⟩
  | error fault =>
    unfold segmentUrl at h
    rw [hv] at h
    split at h
    · exact nomatch h
    · exact nomatch h

/-- **What the address of an id names.**  Below a place with a path of segments every
id has an address but the empty one and the dots.  The address is the place with one
more segment that stands for the id, unless the id holds a tab or a line break; it
names the place or one above exactly if the id is empty or dots without those
characters; and two other ids have one address exactly if they differ in nothing
else. -/
theorem segmentUrl_names_iff {e : Endpoint} {path : String} {v : Url}
    (hv : Url.parse (e.place path) = .ok v) (id : String) :
    ((∃ u, e.segmentUrl path id = .ok u) ↔
      isSegment id = true ∧ ∃ parts, v.path = .segments parts) ∧
    ∀ u, e.segmentUrl path id = .ok u →
      (NamesBelow v u id ↔ kept id = id ∧ v.path ≠ .segments [[], []]) ∧
      (AtOrAbove v u ↔ isSegment (kept id) = false) ∧
      ∀ id' u', e.segmentUrl path id' = .ok u' → isSegment (kept id) = true →
        isSegment (kept id') = true → (u.print = u'.print ↔ kept id = kept id') := by
  constructor
  · constructor
    · rintro ⟨u, hu⟩
      obtain ⟨hid, parts, hparts, -⟩ := (segmentUrl_eq_ok_iff hv).mp hu
      exact ⟨hid, parts, hparts⟩
    · rintro ⟨hid, parts, hparts⟩
      exact ⟨below v parts id, (segmentUrl_eq_ok_iff hv).mpr ⟨hid, parts, hparts, rfl⟩⟩
  · intro u hu
    obtain ⟨hid, parts, hparts, rfl⟩ := (segmentUrl_eq_ok_iff hv).mp hu
    refine ⟨Url.namesBelow_below_iff hparts hid, Url.atOrAbove_below_iff hparts id, ?_⟩
    intro id' u' hu' hkept hkept'
    obtain ⟨-, parts', hparts', rfl⟩ := (segmentUrl_eq_ok_iff hv).mp hu'
    obtain rfl : parts = parts' := by rwa [hparts, Url.Path.segments.injEq] at hparts'
    exact Url.print_below_iff hkept hkept'

/-- A place of jobs, and its address. -/
theorem segmentUrl_names_iff_slash :
    ∃ v u, Url.parse (place ⟨"http://h"⟩ "job") = .ok v ∧
      segmentUrl ⟨"http://h"⟩ "job" "../a" = .ok u ∧ u.print = "http://h/job/..%2Fa" ∧
      NamesBelow v u "../a" ∧ ¬ AtOrAbove v u := by
  let v : Url :=
    { scheme := "http".toList, host := some (.domain "h".toList),
      path := .segments ["job".toList] }
  have hv : Url.parse (place ⟨"http://h"⟩ "job") = .ok v := by decide +kernel
  have hu : segmentUrl ⟨"http://h"⟩ "job" "../a" = .ok
      { v with path := .segments ["job".toList, "..%2Fa".toList] } := by decide +kernel
  obtain ⟨hnames, habove, -⟩ := (segmentUrl_names_iff hv "../a").2 _ hu
  refine ⟨v, _, hv, hu, by decide +kernel, hnames.mpr ⟨by decide +kernel, by decide +kernel⟩, ?_⟩
  rw [habove]
  decide +kernel

/-- **Ids that an address does not name.**  Behind dots, a tab takes an id to the
place above all jobs; between digits, to another job; and alone, to all of them. -/
theorem segmentUrl_leaves_out :
    ∃ v, Url.parse (place ⟨"http://h"⟩ "v1/job") = .ok v ∧
      (∃ u, segmentUrl ⟨"http://h"⟩ "v1/job" "..\t" = .ok u ∧ u.print = "http://h/v1/" ∧
        AtOrAbove v u ∧ ¬ NamesBelow v u "..\t") ∧
      (∃ u, segmentUrl ⟨"http://h"⟩ "v1/job" "\t" = .ok u ∧ u.print = "http://h/v1/job/") ∧
      segmentUrl ⟨"http://h"⟩ "v1/job" "4\t2" = segmentUrl ⟨"http://h"⟩ "v1/job" "42" := by
  let v : Url :=
    { scheme := "http".toList, host := some (.domain "h".toList),
      path := .segments ["v1".toList, "job".toList] }
  refine ⟨v, by decide +kernel, ⟨{ v with path := .segments ["v1".toList, []] }, by decide +kernel,
    by decide +kernel, ?_, ?_⟩, ⟨{ v with path := .segments ["v1".toList, "job".toList, []] },
    by decide +kernel, by decide +kernel⟩, by decide +kernel⟩
  · exact ⟨["v1".toList, "job".toList], ["v1".toList], rfl, ⟨["job".toList], rfl⟩, .inr rfl⟩
  · rintro ⟨parts, segment, hparts, hu, -⟩
    obtain rfl := Url.Path.segments.inj hparts
    exact absurd (congrArg Url.path hu) (by simp [Url.withoutEmptyLast])

end Http.Endpoint

end RemoteBatch
