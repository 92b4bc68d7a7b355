import Mathlib.Data.List.TakeWhile
import RemoteBatch.Proofs.Authority
import RemoteBatch.Proofs.PathText

/-!
# Addresses of the common schemes

An address with one of the schemes that services are reached by is read in two parts,
which depend on two parts of the text alone: the host and its port, and the path.
Slashes in front of the host do not count, and a text that is put behind another one
changes the path alone, or nothing but the query.

## Main definitions

* `webSchemes` — the schemes.
* `authorityText`, `pathText` — the text of the host and that of the path.
* `readWeb` — the address that a text writes behind the scheme.
* `OnService` — that two addresses are on one service.

## Main results

* `parse_eq_readWeb` — **reading an address of a common scheme.**
* `readWeb_slashes` — slashes in front of the host do not count.
* `authorityText_append`, `mainText_append_of_ends` — what is put behind a path, and
  behind a query.
-/

namespace RemoteBatch

namespace Url

/-! ### What stands behind a scheme -/

/-- The schemes that services are reached by. -/
def webSchemes : List (List Char) := ["http".toList, "https".toList]

theorem mem_webSchemes_iff {scheme : List Char} :
    scheme ∈ webSchemes ↔ scheme = "http".toList ∨ scheme = "https".toList := by
  simp only [webSchemes, List.mem_cons, List.not_mem_nil, or_false]

/-- Whether a character ends the path. -/
def endsPath (c : Char) : Bool := c == '?' || c == '#'

theorem endsPath_iff {c : Char} : endsPath c = true ↔ c = '?' ∨ c = '#' := by
  simp [endsPath]

theorem endsPath_cases (cs : List Char) :
    (∀ c ∈ cs, endsPath c = false) ∨ ∃ c ∈ cs, endsPath c = true := by
  cases hends : cs.any endsPath with
  | false => exact .inl fun c hc => Bool.eq_false_iff.mpr (List.any_eq_false.mp hends c hc)
  | true => exact .inr (List.any_eq_true.mp hends)

/-- The text up to a query or a fragment, from the host on. -/
def mainText (cs : List Char) : List Char :=
  (cs.takeWhile (!endsPath ·)).dropWhile (isSlash true)

/-- The text of the host, with what belongs to it. -/
def authorityText (cs : List Char) : List Char := (mainText cs).takeWhile (!isSlash true ·)

/-- The text of the path, from its first slash on. -/
def pathText (cs : List Char) : List Char := (mainText cs).dropWhile (!isSlash true ·)

/-- The query that a text writes. -/
def queryOf (cs : List Char) : Option (List Char) :=
  (cutAt (· == '?') (cutAt (· == '#') cs).1).2.map (Text.percentEncode (escapesInQuery true))

/-- The fragment that a text writes. -/
def fragmentOf (cs : List Char) : Option (List Char) :=
  (cutAt (· == '#') cs).2.map (Text.percentEncode escapesInFragment)

/-- The address that a text writes behind a scheme and its colon. -/
def readWeb (scheme cs : List Char) : Except Fault Url :=
  (readAuthority scheme false (authorityText cs)).map fun r =>
    { scheme, credentials := r.1.1, host := some r.1.2.1, port := r.1.2.2
      path := .segments (readSegments true (pathText cs))
      query := queryOf cs, fragment := fragmentOf cs }

theorem cutAt_eq (p : Char → Bool) (cs : List Char) :
    cutAt p cs = (cs.takeWhile (!p ·), (cs.dropWhile (!p ·)).tail?) := by
  unfold cutAt
  split
  · next h => rw [h, List.takeWhile_eq_self_iff.mpr (List.dropWhile_eq_nil_iff.mp h)]; rfl
  · next h => rw [h]; rfl

theorem cutAt_cons_of_neg (p : Char → Bool) {c : Char} (hc : p c = false) (cs : List Char) :
    cutAt p (c :: cs) = (c :: (cutAt p cs).1, (cutAt p cs).2) := by
  have hnot : (!p c) = true := by rw [hc, Bool.not_false]
  rw [cutAt_eq, cutAt_eq, List.takeWhile_cons, List.dropWhile_cons, if_pos hnot, if_pos hnot]

theorem isSpecial_of_mem {scheme : List Char} (h : scheme ∈ webSchemes) :
    isSpecial scheme = true := by
  have hall : webSchemes.all isSpecial = true := by decide
  exact List.all_eq_true.mp hall scheme h

theorem splitScheme_of_mem {scheme : List Char} (h : scheme ∈ webSchemes) (cs : List Char) :
    splitScheme (scheme ++ ':' :: cs) = some (scheme, cs) := by
  rcases mem_webSchemes_iff.mp h with rfl | rfl
  · rfl
  · rfl

theorem readHosted_eq {scheme : List Char} (h : isSpecial scheme = true) (closed : Bool)
    (cs : List Char) : readHosted scheme closed cs
      = (readAuthority scheme false (cs.takeWhile (!isSlash true ·))).map fun r =>
        { scheme, credentials := r.1.1, host := some r.1.2.1, port := r.1.2.2
          path := .segments (readSegments true (cs.dropWhile (!isSlash true ·))) } := by
  unfold readHosted
  simp only [h]
  rw [readAuthority_eq h, ← readAuthority_eq h false]
  cases hr : readAuthority scheme false (cs.takeWhile (!isSlash true ·)) with
  | error f => rfl
  | ok r =>
    -- so the path begins where the text of the host was cut off
    have hrest : r.2 = [] := by
      refine readAuthority_rest h ?_ hr
      intro c hc
      simpa using List.mem_takeWhile_imp hc
    obtain ⟨⟨credentials, host, port⟩, rest⟩ := r
    obtain rfl : rest = [] := hrest
    show Except.ok _ = Except.ok _
    rw [List.nil_append, readPath, Bool.not_true, Bool.and_false, if_neg Bool.false_ne_true]

theorem mainText_eq (cs : List Char) : mainText cs
    = (cutAt (· == '?') (cutAt (· == '#') cs).1).1.dropWhile (isSlash true) := by
  rw [cutAt_eq, cutAt_eq, List.takeWhile_takeWhile, mainText]
  congr 2
  funext c
  rw [endsPath, Bool.not_or, Bool.decide_and, Bool.decide_eq_true, Bool.decide_eq_true]

theorem parse_eq_readWeb {scheme cs : List Char} (hscheme : scheme ∈ webSchemes) {s : String}
    (hs : clean s.toList = scheme ++ ':' :: cs) : parse s = readWeb scheme cs := by
  have hfile : String.ofList scheme ≠ "file" := by
    have hall : webSchemes.all (fun scheme => String.ofList scheme != "file") = true := by decide
    exact bne_iff_ne.mp (List.all_eq_true.mp hall scheme hscheme)
  unfold parse readWeb
  rw [hs, splitScheme_of_mem hscheme]
  simp only [readMain, if_neg hfile, isSpecial_of_mem hscheme, if_true]
  rw [readHosted_eq (isSpecial_of_mem hscheme), ← mainText_eq]
  unfold authorityText pathText
  cases readAuthority scheme false ((mainText cs).takeWhile (!isSlash true ·)) with
  | error f => rfl
  | ok r => rfl

/-- Slashes in front of a host do not count. -/
theorem readWeb_slash (scheme : List Char) {c : Char} (hc : isSlash true c = true)
    (cs : List Char) : readWeb scheme (c :: cs) = readWeb scheme cs := by
  have hmark : (c == '#') = false ∧ (c == '?') = false := by
    rcases isSlash_iff.mp hc with rfl | rfl
    · decide
    · decide
  have hends : (!endsPath c) = true := by rw [endsPath, hmark.1, hmark.2]; rfl
  have hmain : mainText (c :: cs) = mainText cs := by
    rw [mainText, List.takeWhile_cons, if_pos hends, List.dropWhile_cons, if_pos hc, mainText]
  have hfragment : fragmentOf (c :: cs) = fragmentOf cs := by
    rw [fragmentOf, cutAt_cons_of_neg (· == '#') hmark.1, fragmentOf]
  have hquery : queryOf (c :: cs) = queryOf cs := by
    rw [queryOf, cutAt_cons_of_neg (· == '#') hmark.1, cutAt_cons_of_neg (· == '?') hmark.2,
      queryOf]
  unfold readWeb authorityText pathText
  rw [hmain, hquery, hfragment]

theorem readWeb_slashes (scheme : List Char) {slashes : List Char}
    (h : ∀ c ∈ slashes, isSlash true c = true) (cs : List Char) :
    readWeb scheme (slashes ++ cs) = readWeb scheme cs := by
  induction slashes with
  | nil => rfl
  | cons c slashes ih =>
    rw [List.cons_append, readWeb_slash scheme (h c List.mem_cons_self),
      ih fun d hd => h d (List.mem_cons_of_mem _ hd)]

/-- Without a host there is no address. -/
theorem readWeb_of_slashes {scheme : List Char} (hscheme : scheme ∈ webSchemes)
    {slashes : List Char} (h : ∀ c ∈ slashes, isSlash true c = true) :
    readWeb scheme slashes = .error .emptyHost := by
  have hread := readWeb_slashes scheme h []
  rw [List.append_nil] at hread
  rw [hread]
  rcases mem_webSchemes_iff.mp hscheme with rfl | rfl
  · rfl
  · rfl

/-! ### Texts behind one another -/

/-- That two addresses are on one service. -/
structure OnService (v u : Url) : Prop where
  scheme : u.scheme = v.scheme
  host : u.host = v.host
  port : u.port = v.port

theorem OnService.trans {v u w : Url} (h : OnService v u) (h' : OnService u w) : OnService v w :=
  ⟨h'.scheme.trans h.scheme, h'.host.trans h.host, h'.port.trans h.port⟩

/-- Two texts with one text for the host write addresses on one service. -/
theorem readWeb_ok {scheme cs : List Char} {v : Url} (hv : readWeb scheme cs = .ok v)
    {ds : List Char} (hds : authorityText ds = authorityText cs) :
    v.path = .segments (readSegments true (pathText cs)) ∧ ∃ u, readWeb scheme ds = .ok u
      ∧ OnService v u ∧ u.path = .segments (readSegments true (pathText ds)) := by
  unfold readWeb at hv ⊢
  rw [hds]
  cases hr : readAuthority scheme false (authorityText cs) with
  | error f =>
    rw [hr] at hv
    exact nomatch hv
  | ok r =>
    rw [hr] at hv
    obtain rfl := Except.ok.inj hv
    exact ⟨rfl, _, rfl, ⟨rfl, rfl, rfl⟩, rfl⟩

theorem readWeb_error {scheme cs : List Char} {f : Fault} (hf : readWeb scheme cs = .error f)
    {ds : List Char} (hds : authorityText ds = authorityText cs) :
    readWeb scheme ds = .error f := by
  unfold readWeb at hf ⊢
  rw [hds]
  cases hr : readAuthority scheme false (authorityText cs) with
  | error f' =>
    rw [hr] at hf
    exact hf
  | ok r =>
    rw [hr] at hf
    exact nomatch hf

/-- What stands behind a text makes no difference to where it is cut, unless the cut
could be there. -/
theorem takeWhile_append_of_stops {p : Char → Bool} {cs ds : List Char}
    (h : cs.dropWhile p ≠ [] ∨ ds.takeWhile p = []) : (cs ++ ds).takeWhile p = cs.takeWhile p
      ∧ (cs ++ ds).dropWhile p = cs.dropWhile p ++ ds := by
  induction cs with
  | nil =>
    have hds : ds.takeWhile p = [] := h.elim (fun hnil => absurd rfl hnil) id
    have hall := List.takeWhile_append_dropWhile (p := p) (l := ds)
    rw [hds, List.nil_append] at hall
    exact ⟨hds, hall⟩
  | cons c cs ih =>
    rw [List.cons_append, List.takeWhile_cons, List.takeWhile_cons, List.dropWhile_cons,
      List.dropWhile_cons]
    by_cases hc : p c = true
    · rw [List.dropWhile_cons, if_pos hc] at h
      obtain ⟨htake, hdrop⟩ := ih h
      rw [if_pos hc, if_pos hc, if_pos hc, if_pos hc, htake, hdrop]
      exact ⟨rfl, rfl⟩
    · rw [if_neg hc, if_neg hc, if_neg hc, if_neg hc]
      exact ⟨rfl, rfl⟩

/-- Nothing behind a query or a fragment belongs to the path. -/
theorem mainText_append_of_ends {cs : List Char} (h : ∃ c ∈ cs, endsPath c = true)
    (ds : List Char) : mainText (cs ++ ds) = mainText cs := by
  obtain ⟨c, hc, hends⟩ := h
  have hstops : cs.dropWhile (!endsPath ·) ≠ [] := by
    intro hnil
    have hnot := List.dropWhile_eq_nil_iff.mp hnil c hc
    rw [hends] at hnot
    exact Bool.noConfusion hnot
  rw [mainText, (takeWhile_append_of_stops (.inl hstops)).1, mainText]

theorem mainText_append {cs : List Char} (h : ∀ c ∈ cs, endsPath c = false) (ds : List Char) :
    mainText (cs ++ ds) = (cs ++ ds.takeWhile (!endsPath ·)).dropWhile (isSlash true) := by
  rw [mainText, List.takeWhile_append_of_pos]
  intro c hc
  rw [h c hc, Bool.not_false]

theorem mainText_of_forall {cs : List Char} (h : ∀ c ∈ cs, endsPath c = false) :
    mainText cs = cs.dropWhile (isSlash true) := by
  have hmain := mainText_append h []
  rwa [List.append_nil, List.takeWhile_nil, List.append_nil] at hmain

/-- What is put behind a path belongs to it, and what begins with a slash is put behind
a path. -/
theorem authorityText_append {cs : List Char} (h : ∀ c ∈ cs, endsPath c = false) (ds : List Char)
    (hhost : pathText cs ≠ [] ∨ authorityText cs ≠ [] ∧ ∀ c ∈ ds.head?, isSlash true c = true) :
    authorityText (cs ++ ds) = authorityText cs
      ∧ pathText (cs ++ ds) = pathText cs ++ ds.takeWhile (!endsPath ·) := by
  unfold authorityText pathText at hhost ⊢
  rw [mainText_append h, mainText_of_forall h]
  rw [mainText_of_forall h] at hhost
  have hmain : cs.dropWhile (isSlash true) ≠ [] := by
    rintro hnil
    rw [hnil] at hhost
    simp at hhost
  rw [(takeWhile_append_of_stops (.inl hmain)).2]
  refine takeWhile_append_of_stops (hhost.imp id ?_)
  rintro ⟨-, hhead⟩
  cases ds with
  | nil => rfl
  | cons c ds =>
    have hc := hhead c rfl
    rw [List.takeWhile_cons]
    split
    · rw [List.takeWhile_cons, hc, Bool.not_true, if_neg Bool.false_ne_true]
    · rfl

theorem authorityText_ne_nil {cs : List Char} (h : ∀ c ∈ cs, endsPath c = false)
    (hhost : ∃ c ∈ cs, isSlash true c = false) : authorityText cs ≠ [] := by
  unfold authorityText
  rw [mainText_of_forall h]
  have hhead := List.head?_dropWhile_not (isSlash true) cs
  cases hmain : cs.dropWhile (isSlash true) with
  | nil =>
    obtain ⟨c, hc, hslash⟩ := hhost
    rw [List.dropWhile_eq_nil_iff.mp hmain c hc] at hslash
    exact Bool.noConfusion hslash
  | cons c ds =>
    rw [hmain] at hhead
    have hc : isSlash true c = false := hhead
    rw [List.takeWhile_cons, hc, Bool.not_false, if_pos rfl]
    exact List.cons_ne_nil _ _

theorem pathText_append_of_not_slash {cs ds : List Char} (hcs : ∀ c ∈ cs, endsPath c = false)
    (hpath : pathText cs = []) (hds : ∀ c ∈ ds, isSlash true c = false ∧ endsPath c = false) :
    pathText (cs ++ ds) = [] := by
  have hends : ∀ c ∈ cs ++ ds, endsPath c = false := by
    intro c hc
    exact (List.mem_append.mp hc).elim (hcs c) fun hc => (hds c hc).2
  unfold pathText at hpath ⊢
  rw [mainText_of_forall hcs, List.dropWhile_eq_nil_iff] at hpath
  rw [mainText_of_forall hends, List.dropWhile_eq_nil_iff]
  have hdsnot : ∀ c ∈ ds, (!isSlash true c) = true := by
    intro c hc
    rw [(hds c hc).1, Bool.not_false]
  intro c hc
  rw [List.dropWhile_append] at hc
  split at hc
  · exact hdsnot c ((List.dropWhile_suffix _).subset hc)
  · exact (List.mem_append.mp hc).elim (hpath c) (hdsnot c)

/-- Without a path the host stands at the end. -/
theorem authorityText_concat {cs : List Char} {c : Char} (hpath : pathText (cs ++ [c]) = [])
    (hcs : ∀ d ∈ cs ++ [c], endsPath d = false) (hc : isSlash true c = false) :
    ∃ ds, authorityText (cs ++ [c]) = ds ++ [c] := by
  have hall := List.takeWhile_append_dropWhile (p := (!isSlash true ·)) (l := mainText (cs ++ [c]))
  unfold authorityText
  unfold pathText at hpath
  rw [hpath, List.append_nil] at hall
  rw [hall, mainText_of_forall hcs, List.dropWhile_append]
  split
  · rw [List.dropWhile_cons, hc, if_neg Bool.false_ne_true]
    exact ⟨[], rfl⟩
  · exact ⟨_, rfl⟩

end Url

end RemoteBatch
