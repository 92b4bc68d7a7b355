import RemoteBatch.Nersc.Service
import RemoteBatch.Proofs.Joining
import RemoteBatch.Slurm.Service

/-!
# Base addresses from settings

Settings give a base address as a text, of which no more is checked than how it begins.
Slashes at its end are taken off and the paths of a service put behind it, and only then
is the whole read as an address.  If the text is an address itself, the result is on the
same service.  It is below the path of that unless the text has a query or a fragment,
ends in a blank, or names a path that ends in two slashes.  A text without a host is
worse: its own slashes are taken off, and the host is then read from the path.

## Main definitions

* `Url.Joinable` — that texts can be put behind a base address.
* `Http.Endpoint.Reaches` — that a request goes to a place, or to a segment below it.
* `Http.Endpoint.Places` — where the places behind a base address are.

## Main results

* `Url.extends_iff` — when a text behind a base address extends its path.
* `Url.authorityText_place` — the text of a host is the same behind a base address.
* `Http.Endpoint.ofSettings_places` — **where the places of a service are, for all
  settings that are accepted.**
* `Http.Endpoint.place_without_host` — **settings that send a token to another host.**
* `Slurm.Driver.onService`, `Nersc.Driver.onService` — **the requests of the drivers stay
  on the service that their settings name.**
-/

namespace RemoteBatch

namespace Url

variable {scheme : List Char}

/-! ### Base addresses -/

/-- What an address keeps of a text that is put behind a base address. -/
def behind (text : List Char) : List Char := alone (text.dropWhile (· == '/'))

theorem behind_eq_alone {text : List Char} (hhead : text.head? ≠ some '/') :
    behind text = alone text := by
  cases text with
  | nil => rfl
  | cons c text =>
    rw [behind, List.dropWhile_cons, if_neg]
    intro hc
    exact hhead (congrArg some (beq_iff_eq.mp hc))

theorem parse_eq_alone {t : String} {rest : List Char} (hscheme : scheme ∈ webSchemes)
    (ht : t.toList = scheme ++ ':' :: rest) : parse t = readWeb scheme (alone rest) :=
  parse_eq_readWeb hscheme (by rw [ht, clean_scheme hscheme, alone])

theorem toList_trimSlashes_scheme {t : String} {rest : List Char}
    (ht : t.toList = scheme ++ ':' :: rest) :
    (Settings.trimSlashes t).toList = scheme ++ ':' :: rest.rdropWhile (· == '/') := by
  rw [Settings.trimSlashes, String.toList_ofList, ht]
  exact rdropWhile_append_cons rfl scheme rest

/-- The address of a text behind a base address without the slashes at its end. -/
theorem parse_place {t : String} {rest : List Char} (hscheme : scheme ∈ webSchemes)
    (ht : t.toList = scheme ++ ':' :: rest) (path : String) :
    parse (Http.Endpoint.place ⟨Settings.trimSlashes t⟩ path)
      = readWeb scheme (ahead rest ++ '/' :: behind path.toList) := by
  have hplace : (Http.Endpoint.place ⟨Settings.trimSlashes t⟩ path).toList = scheme
      ++ ':' :: (rest.rdropWhile (· == '/') ++ '/' :: path.toList.dropWhile (· == '/')) := by
    rw [Http.Endpoint.place, String.toList_append, String.toList_append,
      toList_trimSlashes_scheme ht, String.toList_ofList]
    simp
  rw [parse_eq_alone hscheme hplace, alone, rdropWhile_append_cons rfl, List.filter_append,
    List.filter_cons_of_pos rfl]
  rfl

theorem apart_of_isPlain {text : List Char} (h : isPlain text = true) {c : Char} (hc : c ∈ text) :
    isPadding c = false ∧ endsPath c = false := by
  have hkept := mem_of_isPlain h hc
  constructor
  · rw [Bool.eq_false_iff]
    intro hpadding
    have hnot := of_isPadding (p := fun c => c != '/' && !isPlainChar c) (by decide) hpadding
    rw [Bool.and_eq_true, bne_iff_ne, Bool.not_eq_true'] at hnot
    rcases hkept with heq | hplain
    · exact hnot.1 heq
    · exact nomatch hnot.2.symm.trans hplain
  · rw [Bool.eq_false_iff]
    intro hends
    rcases endsPath_iff.mp hends with rfl | rfl
    · exact absurd hkept (by decide)
    · exact absurd hkept (by decide)

/-- What an address keeps of a plain text. -/
theorem behind_of_isPlain {text : List Char} (hhead : text.head? ≠ some '/')
    (h : isPlain text = true) : (behind text).takeWhile (!endsPath ·) = text := by
  rw [behind_eq_alone hhead, alone_of_forall fun c hc => (apart_of_isPlain h hc).1,
    List.takeWhile_eq_self_iff]
  intro c hc
  rw [(apart_of_isPlain h hc).2, Bool.not_false]

theorem mainText_put_of_ends {rest : List Char} (h : ∃ c ∈ ahead rest, endsPath c = true)
    (text : List Char) : mainText (ahead rest ++ '/' :: text) = mainText (alone rest) := by
  rcases alone_cases rest with ⟨k, halone, -⟩ | ⟨blanks, -, hblanks, hahead, -⟩
  · rw [halone, mainText_append_of_ends h, mainText_append_of_ends h]
  · have halone : ∃ c ∈ alone rest, endsPath c = true := by
      obtain ⟨c, hc, hends⟩ := h
      rw [hahead] at hc
      rcases List.mem_append.mp hc with hc | hc
      · exact ⟨c, hc, hends⟩
      · exact nomatch (isPadding_apart (hblanks c hc)).2.symm.trans hends
    rw [hahead, List.append_assoc, mainText_append_of_ends halone]

theorem forall_ends_iff {t : String} {rest : List Char} (hscheme : scheme ∈ webSchemes)
    (ht : t.toList = scheme ++ ':' :: rest) :
    (∀ c ∈ t.toList, endsPath c = false) ↔ ∀ c ∈ ahead rest, endsPath c = false := by
  obtain ⟨k, hrest⟩ := ahead_append rest
  rw [ht]
  constructor
  · intro h c hc
    refine h c (List.mem_append_right _ (List.mem_cons_of_mem _ ?_))
    refine List.mem_of_mem_filter (p := (!isDropped ·)) ?_
    rw [hrest]
    exact List.mem_append_left _ hc
  · intro h c hc
    rcases List.mem_append.mp hc with hc | hc
    · have hall : webSchemes.all (·.all (!endsPath ·)) = true := by decide
      have hnot := List.all_eq_true.mp (List.all_eq_true.mp hall scheme hscheme) c hc
      rwa [Bool.not_eq_true'] at hnot
    · rcases List.mem_cons.mp hc with rfl | hc
      · rfl
      · rw [Bool.eq_false_iff]
        intro hends
        have hkept : c ∈ rest.filter (!isDropped ·) := by
          refine List.mem_filter.mpr ⟨hc, ?_⟩
          rcases endsPath_iff.mp hends with rfl | rfl
          · decide
          · decide
        rw [hrest] at hkept
        rcases List.mem_append.mp hkept with hc | hc
        · exact nomatch (h c hc).symm.trans hends
        · rw [List.eq_of_mem_replicate hc] at hends
          exact nomatch hends

/-- That texts can be put behind a base address: nothing of it is a query or a fragment,
nothing is left out at its end, and with a slash behind it the path that it names does
not end in two. -/
structure Joinable (t : String) : Prop where
  ends : ∀ c ∈ t.toList, endsPath c = false
  whole : clean t.toList = (kept t).toList
  single : ∀ w, parse (Http.Endpoint.place ⟨Settings.trimSlashes t⟩ "") = .ok w →
    ¬ ['/', '/'] <:+ w.path.print

theorem whole_iff {t : String} {rest : List Char} (hscheme : scheme ∈ webSchemes)
    (ht : t.toList = scheme ++ ':' :: rest) :
    clean t.toList = (kept t).toList ↔ rest.filter (!isDropped ·) = alone rest := by
  rw [toList_kept, ht, clean_scheme hscheme, filter_scheme hscheme, List.append_cancel_left_eq,
    List.cons.injEq, eq_self, true_and, eq_comm, alone]

/-- **When a text behind a base address extends its path.** -/
theorem extends_iff {t : String} {rest : List Char} (hscheme : scheme ∈ webSchemes)
    (ht : t.toList = scheme ++ ':' :: rest) {v : Url} (hv : parse t = .ok v) {path : String}
    (hne : path.toList ≠ []) (hhead : path.toList.head? ≠ some '/') :
    (∃ u, parse (Http.Endpoint.place ⟨Settings.trimSlashes t⟩ path) = .ok u
        ∧ Extends v u path.toList) ↔ Joinable t ∧ isPlain path.toList = true := by
  have hplace := parse_place hscheme ht
  have hread := behind_of_isPlain hhead
  rw [parse_eq_alone hscheme ht] at hv
  rw [hplace]
  rcases endsPath_cases (ahead rest) with hends | hends
  · rcases alone_cases rest with ⟨k, halone, hwhole⟩ | ⟨blanks, hnot, hblanks, hahead, hwhole⟩
    · -- the base address loses slashes, and two of the three conditions hold
      rw [halone] at hv
      rw [extends_iff_of_slashes hscheme hends hv hread, ← single_iff hscheme hends hv]
      refine and_congr_left fun _ => ⟨fun single => ⟨?_, ?_, ?_⟩, fun join w hw => ?_⟩
      · exact (forall_ends_iff hscheme ht).mpr hends
      · exact (whole_iff hscheme ht).mpr hwhole
      · intro w hw
        rw [hplace] at hw
        exact single w hw
      · exact join.single w (by rwa [hplace])
    · -- it would lose blanks, which are read as part of it instead
      have halone : ∀ c ∈ alone rest, endsPath c = false := by
        intro c hc
        exact hends c (by rw [hahead]; exact List.mem_append_left _ hc)
      refine iff_of_false ?_ ?_
      · rw [hahead]
        exact not_extends_of_blanks hscheme halone hv hnot hblanks hread
      · rintro ⟨join, -⟩
        have hboth := (whole_iff hscheme ht).mp join.whole
        rw [hwhole, hahead] at hboth
        exact hnot (List.append_right_eq_self.mp hboth)
  · -- what is put behind a query leaves the path as it is
    refine iff_of_false ?_ ?_
    · rintro ⟨u, hu, ext⟩
      have hmain := mainText_put_of_ends hends (behind path.toList)
      have hsame : authorityText (ahead rest ++ '/' :: behind path.toList)
          = authorityText (alone rest) := by
        rw [authorityText, hmain, authorityText]
      obtain ⟨hvpath, u', hu', -, hupath⟩ := readWeb_ok hv hsame
      obtain rfl : u = u' := Except.ok.inj (hu.symm.trans hu')
      refine not_extends_of_path_eq ?_ (v := v) (u := u) ?_ ext
      · obtain ⟨c, text, htext⟩ := List.exists_cons_of_ne_nil hne
        rw [htext] at hhead ⊢
        exact ⟨c, List.mem_cons_self, fun hc => hhead (congrArg some hc)⟩
      · rw [hupath, hvpath, pathText, hmain, pathText]
    · rintro ⟨join, -⟩
      obtain ⟨c, hc, hmark⟩ := hends
      exact absurd (((forall_ends_iff hscheme ht).mp join.ends c hc).symm.trans hmark)
        Bool.false_ne_true

/-! ### Hosts of base addresses -/

/-- The text of a host is the same behind a base address, or none. -/
theorem authorityText_place {rest : List Char} (hscheme : scheme ∈ webSchemes)
    (hhost : ∃ c ∈ rest, isDropped c = false ∧ isSlash true c = false) (text : List Char) :
    authorityText (ahead rest ++ '/' :: text) = authorityText (alone rest)
      ∨ ∃ f, readWeb scheme (ahead rest ++ '/' :: text) = .error f := by
  rcases endsPath_cases (ahead rest) with hends | hends
  · rcases alone_cases rest with ⟨k, halone, hwhole⟩ | ⟨blanks, hnot, hblanks, hahead, -⟩
    · -- the host stands before the slashes, and is read as it was
      left
      have hahead : ∃ c ∈ ahead rest, isSlash true c = false := by
        obtain ⟨c, hc, hkept, hslash⟩ := hhost
        have hmem : c ∈ rest.filter (!isDropped ·) :=
          List.mem_filter.mpr ⟨hc, by rw [hkept, Bool.not_false]⟩
        rw [hwhole, halone] at hmem
        rcases List.mem_append.mp hmem with hc | hc
        · exact ⟨c, hc, hslash⟩
        · rw [List.eq_of_mem_replicate hc] at hslash
          exact nomatch hslash
      have hown := (authorityText_append_slash hends hahead (List.replicate k '/')
        (fun c hc => by rw [List.eq_of_mem_replicate (List.mem_of_mem_head? hc)]; rfl)).1
      rw [halone, hown]
      exact (authorityText_append_slash hends hahead _ (by rintro c ⟨⟩; rfl)).1
    · -- blanks behind a path are part of that, and behind a host of the host
      have halone : ∀ c ∈ alone rest, endsPath c = false := by
        intro c hc
        exact hends c (by rw [hahead]; exact List.mem_append_left _ hc)
      rw [hahead]
      by_cases hpath : pathText (alone rest) = []
      · exact .inr (readWeb_of_blanks hscheme halone hpath hnot hblanks text)
      · left
        rw [List.append_assoc]
        exact (authorityText_append halone _ (.inl hpath)).1
  · left
    rw [authorityText, mainText_put_of_ends hends, authorityText]

/-- What is put behind a base address is on its service. -/
theorem parse_place_ok {t : String} {rest : List Char} (hscheme : scheme ∈ webSchemes)
    (ht : t.toList = scheme ++ ':' :: rest) {v : Url} (hv : parse t = .ok v) {path : String}
    {u : Url} (hu : parse (Http.Endpoint.place ⟨Settings.trimSlashes t⟩ path) = .ok u) :
    OnService v u := by
  rw [parse_eq_alone hscheme ht] at hv
  rw [parse_place hscheme ht] at hu
  have hhost : ∃ c ∈ rest, isDropped c = false ∧ isSlash true c = false := by
    obtain ⟨c, hc, hslash⟩ := exists_not_slash hscheme hv
    obtain ⟨hmem, hkept⟩ := List.mem_filter.mp hc
    have hstart := List.rdropWhile_prefix isPadding rest
    rw [Bool.not_eq_true'] at hkept
    exact ⟨c, hstart.subset hmem, hkept, hslash⟩
  rcases authorityText_place hscheme hhost (behind path.toList) with hsame | ⟨f, hf⟩
  · obtain ⟨-, u', hu', hservice, -⟩ := readWeb_ok hv hsame
    obtain rfl : u = u' := Except.ok.inj (hu.symm.trans hu')
    exact hservice
  · exact nomatch hf.symm.trans hu

/-- A base address that is none leads nowhere, unless it has no text for a host. -/
theorem parse_place_error {t : String} {rest : List Char} (hscheme : scheme ∈ webSchemes)
    (ht : t.toList = scheme ++ ':' :: rest) {f : Fault} (hf : parse t = .error f)
    (hhost : ∃ c ∈ rest, isDropped c = false ∧ isSlash true c = false) (path : String) :
    ∃ f', parse (Http.Endpoint.place ⟨Settings.trimSlashes t⟩ path) = .error f' := by
  rw [parse_eq_alone hscheme ht] at hf
  rw [parse_place hscheme ht]
  rcases authorityText_place hscheme hhost (behind path.toList) with hsame | herror
  · exact ⟨f, readWeb_error hf hsame⟩
  · exact herror

/-- A base address without a text for a host takes it from what is put behind. -/
theorem parse_place_of_slashes {t : String} {rest : List Char} (hscheme : scheme ∈ webSchemes)
    (ht : t.toList = scheme ++ ':' :: rest)
    (hrest : ∀ c ∈ rest, isDropped c = true ∨ isSlash true c = true) {path : String}
    (hhead : path.toList.head? ≠ some '/') :
    parse t = .error .emptyHost
      ∧ parse (Http.Endpoint.place ⟨Settings.trimSlashes t⟩ path)
        = parse (String.ofList scheme ++ "://" ++ path) := by
  have hkept : ∀ c ∈ rest.filter (!isDropped ·), isSlash true c = true := by
    intro c hc
    obtain ⟨hmem, hnot⟩ := List.mem_filter.mp hc
    refine (hrest c hmem).resolve_left fun hdropped => ?_
    rw [hdropped] at hnot
    exact Bool.noConfusion hnot
  obtain ⟨blanks, -, hblanks⟩ := alone_append rest
  obtain ⟨k, hslashes⟩ := ahead_append rest
  have hplain : (String.ofList scheme ++ "://" ++ path).toList
      = scheme ++ ':' :: (['/'] ++ '/' :: path.toList) := by
    simp
  constructor
  · rw [parse_eq_alone hscheme ht]
    refine readWeb_of_slashes hscheme fun c hc => hkept c ?_
    rw [hblanks]
    exact List.mem_append_left _ hc
  · rw [parse_place hscheme ht, parse_eq_alone hscheme hplain, alone, rdropWhile_append_cons rfl,
      behind_eq_alone hhead, List.append_cons]
    -- on both sides nothing but slashes stands in front of the path
    have htwo : ∀ c ∈ ['/', '/'], isSlash true c = true := by simp [isSlash]
    rw [readWeb_slashes scheme]
    · symm
      exact readWeb_slashes scheme htwo (alone path.toList)
    · intro c hc
      rcases List.mem_append.mp hc with hc | hc
      · refine hkept c ?_
        rw [hslashes]
        exact List.mem_append_left _ hc
      · rw [List.mem_singleton.mp hc]
        rfl

end Url

namespace Settings

open Url (webSchemes)

theorem exists_of_hasScheme {t : String} (h : hasScheme t = true) :
    ∃ scheme rest, scheme.toList ∈ webSchemes ∧ t = scheme ++ "://" ++ rest := by
  obtain ⟨rest, rfl | rfl⟩ := hasScheme_iff.mp h
  · exact ⟨"http", rest, by decide, rfl⟩
  · exact ⟨"https", rest, by decide, rfl⟩

/-- A base address keeps its scheme unless nothing but slashes follows that. -/
theorem hasScheme_trimSlashes_iff {scheme rest : String} (hscheme : scheme.toList ∈ webSchemes) :
    hasScheme (trimSlashes (scheme ++ "://" ++ rest)) = true
      ↔ ∃ c ∈ rest.toList, c ≠ '/' := by
  have ht : (scheme ++ "://" ++ rest).toList
      = scheme.toList ++ ':' :: ('/' :: '/' :: rest.toList) := by
    simp
  have hbase := Url.toList_trimSlashes_scheme ht
  have hnames := Url.mem_webSchemes_iff.mp hscheme
  by_cases hrest : ∃ c ∈ rest.toList, c ≠ '/'
  · refine iff_of_true ?_ hrest
    obtain ⟨c, hc, hslash⟩ := hrest
    obtain ⟨before, after, hsplit⟩ := List.append_of_mem hc
    have hkept := Url.rdropWhile_append_cons (p := (· == '/')) (beq_eq_false_iff_ne.mpr hslash)
      ('/' :: '/' :: before) after
    rw [List.cons_append, List.cons_append, ← hsplit] at hkept
    rw [hkept] at hbase
    rw [hasScheme, hbase]
    rcases hnames with h | h
    · rw [h]
      rfl
    · rw [h]
      rfl
  · refine iff_of_false ?_ hrest
    have hnil : ('/' :: '/' :: rest.toList).rdropWhile (· == '/') = [] := by
      rw [List.rdropWhile_eq_nil_iff]
      intro c hc
      rw [beq_iff_eq]
      by_contra hslash
      rcases List.mem_cons.mp hc with heq | hc
      · exact hslash heq
      · rcases List.mem_cons.mp hc with heq | hc
        · exact hslash heq
        · exact hrest ⟨c, hc, hslash⟩
    rw [hnil] at hbase
    rw [hasScheme, hbase]
    rcases hnames with h | h
    · rw [h]
      decide
    · rw [h]
      decide

theorem getLast?_trimSlashes (t : String) :
    (trimSlashes t).toList.getLast? ≠ some '/' := by
  rw [trimSlashes, String.toList_ofList, List.getLast?_reverse]
  intro hlast
  have hnot := List.head?_dropWhile_not (· == '/') t.toList.reverse
  rw [hlast] at hnot
  exact absurd hnot (by decide)

theorem validate_eq_ok_iff_of_url {s : Settings} {t : String} (ht : s.url = some t) :
    s.validate = .ok () ↔ hasScheme t = true ∧ s.timeout.isZero = false := by
  rw [validate_eq_ok_iff, fault?_eq_none_iff, ht]
  simp

end Settings

namespace Http.Endpoint

open Url (webSchemes mem_webSchemes_iff OnService Extends Joinable isPlain isDropped isSlash)

theorem url_eq_ok_iff {e : Endpoint} {path : String} {u : Url} :
    e.url path = .ok u ↔ Url.parse (e.place path) = .ok u := by
  unfold url
  cases Url.parse (e.place path) with
  | error f => simp
  | ok v => simp

/-- That a request goes to the place with a path, or to a segment below it. -/
def Reaches (e : Endpoint) (path : String) (r : Request) : Prop :=
  ∃ u, (e.url path = .ok u ∨ ∃ segment, e.segmentUrl path segment = .ok u)
    ∧ OnService u r.url ∧ r.url.path = u.path

/-- Where the places behind a base address are.  The address is written `t`, with `rest`
behind its scheme, and `path` is put behind it. -/
structure Places (e : Endpoint) (t scheme rest path : String) : Prop where
  /-- On the service of the base address, if that is one. -/
  service : ∀ v, Url.parse t = .ok v → ∀ u, e.url path = .ok u → OnService v u
  /-- Below it, if the two texts can be put behind one another. -/
  below_iff : ∀ v, Url.parse t = .ok v →
    ((∃ u, e.url path = .ok u ∧ Extends v u path.toList) ↔ Joinable t ∧ isPlain path.toList = true)
  /-- So is every request to them or to a segment below, whatever it carries. -/
  requests : ∀ v, Url.parse t = .ok v → ∀ r, e.Reaches path r → OnService v r.url
  /-- Nowhere, if the text is no address but writes something where the host is. -/
  nowhere : ∀ f, Url.parse t = .error f →
    (∃ c ∈ rest.toList, isDropped c = false ∧ isSlash true c = false) →
    e.url path = .error (.transport .unsendable)
  /-- Where the path leads as an address, if there is nothing where the host is. -/
  elsewhere : (∀ c ∈ rest.toList, isDropped c = true ∨ isSlash true c = true) →
    Url.parse t = .error .emptyHost
      ∧ ∀ u, e.url path = .ok u ↔ Url.parse (scheme ++ "://" ++ path) = .ok u

theorem exists_of_segmentUrl {e : Endpoint} {path segment : String} {u : Url}
    (hu : e.segmentUrl path segment = .ok u) :
    ∃ w, Url.parse (e.place path) = .ok w ∧ OnService w u := by
  obtain ⟨w, hw⟩ := exists_parse_of_segmentUrl hu
  obtain ⟨-, parts, -, rfl⟩ := (segmentUrl_eq_ok_iff hw).mp hu
  exact ⟨w, hw, rfl, rfl, rfl⟩

/-- A request that reaches a place stays on the service of the base address. -/
theorem Reaches.onService {scheme rest : List Char} {t path : String} {v : Url} {r : Request}
    (hscheme : scheme ∈ webSchemes) (ht : t.toList = scheme ++ ':' :: rest)
    (hv : Url.parse t = .ok v) (hr : Reaches ⟨Settings.trimSlashes t⟩ path r) :
    OnService v r.url := by
  obtain ⟨u, hu | ⟨segment, hu⟩, hsent, -⟩ := hr
  -- one more segment changes the path alone
  · exact (Url.parse_place_ok hscheme ht hv (url_eq_ok_iff.mp hu)).trans hsent
  · obtain ⟨w, hw, hbelow⟩ := exists_of_segmentUrl hu
    exact (Url.parse_place_ok hscheme ht hv hw).trans (hbelow.trans hsent)

theorem exists_of_ofSettings {s : Settings} {default t : String} {e : Endpoint}
    (ht : s.url = some t) (he : ofSettings s default = .ok e) : ∃ scheme rest,
      scheme.toList ∈ webSchemes ∧ t = scheme ++ "://" ++ rest
        ∧ t.toList = scheme.toList ++ ':' :: ('/' :: '/' :: rest.toList)
        ∧ e = ⟨Settings.trimSlashes t⟩ ∧ s.timeout.isZero = false := by
  obtain ⟨hvalid, rfl⟩ := ofSettings_eq_ok_iff.mp he
  obtain ⟨hhas, htime⟩ := (Settings.validate_eq_ok_iff_of_url ht).mp hvalid
  obtain ⟨scheme, rest, hscheme, rfl⟩ := Settings.exists_of_hasScheme hhas
  refine ⟨scheme, rest, hscheme, rfl, by simp, ?_, htime⟩
  rw [Settings.baseUrl, ht, Option.getD_some]

theorem Reaches.onService_of_ofSettings {s : Settings} {default t path : String} {e : Endpoint}
    {v : Url} {r : Request} (hr : e.Reaches path r) (ht : s.url = some t)
    (he : ofSettings s default = .ok e) (hv : Url.parse t = .ok v) : OnService v r.url := by
  obtain ⟨scheme, rest, hscheme, rfl, htext, rfl, -⟩ := exists_of_ofSettings ht he
  exact hr.onService hscheme htext hv

/-- **Where the places of a service are, for all settings that are accepted.**  The base
address has no slash at its end, and would be accepted itself exactly if more than slashes
stands behind its scheme.  Every path is put behind it as `Places` says. -/
theorem ofSettings_places {s : Settings} {default t : String} {e : Endpoint}
    (ht : s.url = some t) (he : ofSettings s default = .ok e) : ∃ scheme rest,
      t = scheme ++ "://" ++ rest ∧ (scheme = "http" ∨ scheme = "https")
        ∧ e.base.toList.getLast? ≠ some '/'
        ∧ ({ s with url := some e.base }.validate = .ok () ↔ ∃ c ∈ rest.toList, c ≠ '/')
        ∧ ∀ path : String, path ≠ "" → path.toList.head? ≠ some '/' →
          Places e t scheme rest path := by
  obtain ⟨scheme, rest, hscheme, rfl, htext, rfl, htime⟩ := exists_of_ofSettings ht he
  refine ⟨scheme, rest, rfl, ?_, ?_, ?_, ?_⟩
  · simpa only [mem_webSchemes_iff, String.toList_inj] using hscheme
  · exact Settings.getLast?_trimSlashes _
  · rw [Settings.validate_eq_ok_iff_of_url rfl, Settings.hasScheme_trimSlashes_iff hscheme]
    exact and_iff_left htime
  · intro path hne hhead
    refine ⟨?_, ?_, ?_, ?_, ?_⟩
    · intro v hv u hu
      exact Url.parse_place_ok hscheme htext hv (url_eq_ok_iff.mp hu)
    · intro v hv
      simp only [url_eq_ok_iff]
      exact Url.extends_iff hscheme htext hv (by simpa using hne) hhead
    · intro v hv r hr
      exact hr.onService hscheme htext hv
    · rintro f hf ⟨c, hc, hchar⟩
      obtain ⟨f', hf'⟩ := Url.parse_place_error hscheme htext hf
        ⟨c, List.mem_cons_of_mem _ (List.mem_cons_of_mem _ hc), hchar⟩ path
      rw [url, hf']
    · intro hrest
      have hslashes : ∀ c ∈ '/' :: '/' :: rest.toList,
          isDropped c = true ∨ isSlash true c = true := by
        simpa [isSlash] using hrest
      obtain ⟨hnone, hplace⟩ := Url.parse_place_of_slashes hscheme htext hslashes hhead
      refine ⟨hnone, fun u => ?_⟩
      rw [url_eq_ok_iff, hplace, String.ofList_toList]

/-- A base address with a path and a slash at its end. -/
theorem ofSettings_places_api : ∃ v u, Url.parse "https://h/api/" = .ok v
    ∧ url ⟨"https://h/api"⟩ "jobs" = .ok u ∧ Extends v u "jobs".toList
    ∧ u.print = "https://h/api/jobs" := by
  let v : Url :=
    { scheme := "https".toList, host := some (.domain "h".toList),
      path := .segments ["api".toList, []] }
  let u : Url :=
    { v with path := .segments ["api".toList, "jobs".toList] }
  have hv : Url.parse "https://h/api/" = .ok v := by decide +kernel
  have hu : url ⟨"https://h/api"⟩ "jobs" = .ok u := by decide +kernel
  have join : Joinable "https://h/api/" := by
    have unmarked : "https://h/api/".toList.any Url.endsPath = false := by decide
    refine ⟨?_, by decide +kernel, ?_⟩
    · intro c hc
      exact Bool.eq_false_iff.mpr (List.any_eq_false.mp unmarked c hc)
    · intro w hw
      have hw' : Url.parse (place ⟨Settings.trimSlashes "https://h/api/"⟩ "") = .ok v := by
        decide +kernel
      obtain rfl := Except.ok.inj (hw'.symm.trans hw)
      decide +kernel
  have he : ofSettings { url := some "https://h/api/" } "" = .ok ⟨"https://h/api"⟩ := by
    decide +kernel
  obtain ⟨scheme, rest, -, -, -, -, hplaces⟩ := ofSettings_places rfl he
  obtain ⟨u', hu', ext⟩ := ((hplaces "jobs" (by decide) (by decide)).below_iff v hv).mpr
    ⟨join, by decide +kernel⟩
  obtain rfl : u = u' := Except.ok.inj (hu.symm.trans hu')
  exact ⟨v, u, hv, hu, ext, by decide +kernel⟩

/-- **Settings that send a token to another host.**  Without its slashes the base address
has no host, and the first segment of a path is taken for it.  With a query, the base
takes up every path into that. -/
theorem place_without_host :
    (∃ d r, Slurm.Driver.ofSettings { url := some "http://", token := "secret" } = .ok d
      ∧ { url := some d.endpoint.base : Settings }.validate ≠ .ok ()
      ∧ Url.parse "http://" = .error .emptyHost ∧ d.list.request = .ok r
      ∧ r.url.host = some (.domain "slurm".toList)
      ∧ ("x-slurm-user-token", "secret") ∈ r.headers)
    ∧ ∃ e u, ofSettings { url := some "http://h/api?q" } "" = .ok e
      ∧ e.url "status" = .ok u ∧ u.path = .segments ["api".toList] := by
  constructor
  · let d : Slurm.Driver := ⟨⟨"http:"⟩, "root", "secret"⟩
    let u : Url :=
      { scheme := "http".toList, host := some (.domain "slurm".toList),
        path := .segments ["v0.0.40".toList, "jobs".toList] }
    let r : Request :=
      { method := .get, url := u, body := []
        headers := [("x-slurm-user-token", "secret"), ("x-slurm-user-name", "root"),
          ("accept", "*/*")] }
    exact ⟨d, r, by decide +kernel, by decide +kernel, by decide +kernel, by decide +kernel, rfl,
      by decide +kernel⟩
  · let u : Url :=
      { scheme := "http".toList, host := some (.domain "h".toList),
        path := .segments ["api".toList], query := some "q/status".toList }
    exact ⟨⟨"http://h/api?q"⟩, u, by decide +kernel, by decide +kernel, rfl⟩

end Http.Endpoint

/-! ### The requests of the drivers -/

open Url (OnService)
open Http (Content Endpoint Method Request)

/-- Making a request takes the login out of its address, and nothing else. -/
theorem Http.Request.url_of_make {u : Url} {method : Method} {headers : List (String × String)}
    {content : Content} {r : Request} (hr : Request.make method u headers content = .ok r) :
    OnService u r.url ∧ r.url.path = u.path := by
  obtain ⟨-, rfl⟩ := Request.make_eq_ok_iff.mp hr
  simp only
  rw [takeLogin_fst]
  exact ⟨⟨rfl, rfl, rfl⟩, rfl⟩

/-- A request that is made for an address reaches what that was made for. -/
theorem Http.Endpoint.reaches_of_bind {e : Endpoint} {path : String} {url? : Except Error Url}
    (hurl : ∀ u, url? = .ok u → e.url path = .ok u ∨ ∃ segment, e.segmentUrl path segment = .ok u)
    {method : Method} {headers : List (String × String)} {content : Content} {r : Request}
    (hr : (url? >>= fun u => Request.make method u headers content) = .ok r) :
    e.Reaches path r := by
  obtain ⟨u, hu, hmake⟩ := exists_ok_of_bind hr
  exact ⟨u, hurl u hu, Http.Request.url_of_make hmake⟩

/-- Every request of a Slurm driver reaches a plain path. -/
theorem Slurm.Driver.reaches {d : Slurm.Driver} {q : Query} {r : Request}
    (hr : (d.service.call q).request = .ok r) :
    ∃ path, Url.isPlain path.toList = true ∧ d.endpoint.Reaches path r := by
  cases q with
  | submit spec =>
    exact ⟨"slurm/v0.0.41/job/submit", by decide, Endpoint.reaches_of_bind (fun u => .inl) hr⟩
  | list => exact ⟨"slurm/v0.0.40/jobs", by decide, Endpoint.reaches_of_bind (fun u => .inl) hr⟩
  | cancel id =>
    exact ⟨"slurm/v0.0.40/job", by decide, Endpoint.reaches_of_bind (fun u h => .inr ⟨id, h⟩) hr⟩
  | status id =>
    exact ⟨"slurm/v0.0.40/job", by decide, Endpoint.reaches_of_bind (fun u h => .inr ⟨id, h⟩) hr⟩

/-- The path of a machine's jobs is plain if the name of the machine is. -/
theorem Nersc.Driver.isPlain_jobsPath_iff (d : Nersc.Driver) :
    Url.isPlain d.jobsPath.toList = true ↔ Url.isPlain d.machine.toList = true := by
  have hpath : d.jobsPath.toList = "compute/jobs".toList ++ '/' :: d.machine.toList := by
    rw [Nersc.Driver.jobsPath, String.toList_append]
    rfl
  rw [hpath, Url.isPlain_append_slash_iff]
  exact and_iff_right (by decide)

/-- Every request of a NERSC driver reaches the path of its machine. -/
theorem Nersc.Driver.reaches {d : Nersc.Driver} {q : Query} {r : Request}
    (hr : (d.service.call q).request = .ok r) : d.endpoint.Reaches d.jobsPath r := by
  cases q with
  | submit spec => exact Endpoint.reaches_of_bind (fun u => .inl) hr
  | list =>
    -- what is asked for stands in the query
    obtain ⟨u, hu, hmake⟩ := exists_ok_of_bind hr
    obtain ⟨hservice, hpath⟩ := Http.Request.url_of_make hmake
    exact ⟨u, .inl hu, ⟨hservice.scheme, hservice.host, hservice.port⟩, hpath⟩
  | cancel id => exact Endpoint.reaches_of_bind (fun u h => .inr ⟨id, h⟩) hr
  | status id => exact Endpoint.reaches_of_bind (fun u h => .inr ⟨id, h⟩) hr

/-- **All requests of a Slurm driver stay on the service that its settings name**, if
they name one. -/
theorem Slurm.Driver.onService {s : Settings} {t : String} {d : Slurm.Driver} {v : Url}
    (ht : s.url = some t) (hd : Slurm.Driver.ofSettings s = .ok d) (hv : Url.parse t = .ok v)
    {q : Query} {r : Request} (hr : (d.service.call q).request = .ok r) : OnService v r.url := by
  obtain ⟨e, he, hmake⟩ := exists_ok_of_bind hd
  obtain rfl := Except.ok.inj hmake
  obtain ⟨path, -, hreach⟩ := reaches hr
  exact hreach.onService_of_ofSettings ht he hv

/-- **So do all requests of a NERSC driver.** -/
theorem Nersc.Driver.onService {s : Settings} {t : String} {d : Nersc.Driver} {v : Url}
    (ht : s.url = some t) (hd : Nersc.Driver.ofSettings s = .ok d) (hv : Url.parse t = .ok v)
    {q : Query} {r : Request} (hr : (d.service.call q).request = .ok r) : OnService v r.url := by
  obtain ⟨e, he, hmake⟩ := exists_ok_of_bind hd
  obtain rfl := Except.ok.inj hmake
  exact (reaches hr).onService_of_ofSettings ht he hv

end RemoteBatch
