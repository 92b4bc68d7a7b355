import Mathlib.Data.List.Nodup
import RemoteBatch.Http.Call
import RemoteBatch.Proofs.Success
import RemoteBatch.StateTable

/-!
# What a reply holds

A reply is read in layers: what waits at the end of the line, a status that accepts or
refuses, a body that is a document or is not, fields that may be missing, lists whose items
must all be readable, and tokens that a table may hold.  Each layer is described here by
itself, so that what is made of a reply can be told from the reply alone.

## Main definitions

* `Json.Fields.Lacks` — that a record has no value for a field.
* `StateTable.Holds`, `StateTable.Gives` — that a table has a state for a token, and that it
  gives it one.
* `Http.Response.Tells` — what a response tells about one job.

## Main results

* `Json.Fields.optional_text?_iff`, `Json.Fields.optional_list?_cases`,
  `Json.Fields.withDefault_list?_cases` — what a field is read as.
* `StateTable.map_eq_ok_iff`, `StateTable.map_eq_error_iff` — the state of a token, or the
  lack of one.
* `Http.Response.decode_eq_iff` — **what a call about one job makes of a response.**
-/

namespace RemoteBatch

open Json (Document Fields)

/-! ### Fields -/

namespace Json

/-- That a record has no value for a field: it is missing or `null`. -/
def Fields.Lacks (fields : Fields) (name : String) : Prop :=
  fields name = none ∨ fields name = some .null

namespace Document

theorem fields?_object {names : List String} {members : List (Option String × Document)}
    (h : distinctFields names members = true) :
    (object members).fields? names = some (lookup · members) := if_pos h

theorem text?_eq_some_iff {d : Document} {s : String} :
    d.text? = some s ↔ d = .string (some s) := by
  cases d <;> simp [text?]

theorem list?_eq_some_iff {f : Document → Option α} {d : Document} {as : List α} :
    d.list? f = some as ↔
      ∃ items, d = .array items ∧ List.Forall₂ (fun d a => f d = some a) items as := by
  cases d <;> simp [list?, mapM_eq_some_iff]

end Document

namespace Fields

variable {fields : Fields} {name : String} {f : Document → Option α}

/-- A field is missing or `null` and has no value, or holds what its value is read from. -/
theorem optional_eq_some_iff {a? : Option α} : fields.optional name f = some a? ↔
    fields.Lacks name ∧ a? = none ∨
      ∃ d a, fields name = some d ∧ d ≠ .null ∧ f d = some a ∧ a? = some a := by
  unfold optional Lacks
  split
  · next h => simp [h, eq_comm]
  · next h => simp [h, eq_comm]
  · next d hnull h =>
    have hne : d ≠ .null := fun hd => hnull hd
    simp [h, hne, Option.map_eq_some_iff, eq_comm]

theorem optional_of_lacks (h : fields.Lacks name) (f : Document → Option α) :
    fields.optional name f = some none := optional_eq_some_iff.mpr (.inl ⟨h, rfl⟩)

/-- The text in a field is what its value is read as, if it has one. -/
theorem optional_text?_iff {s? : Option String}
    (h : fields.optional name Document.text? = some s?) : (s? = none ↔ fields.Lacks name) ∧
      ∀ s, s? = some s ↔ fields name = some (.string (some s)) := by
  rcases optional_eq_some_iff.mp h with ⟨hlacks, rfl⟩ | ⟨d, s, hd, -, hs, rfl⟩
  · refine ⟨iff_of_true rfl hlacks, fun s => iff_of_false nofun fun hfield => ?_⟩
    rcases hlacks with hnone | hnull
    · exact nomatch hnone.symm.trans hfield
    · exact nomatch hnull.symm.trans hfield
  · obtain rfl := Document.text?_eq_some_iff.mp hs
    simp [Lacks, hd]

/-- The list in a field that has a value is read item by item. -/
theorem optional_list?_cases {as? : Option (List α)}
    (h : fields.optional name (Document.list? f) = some as?) :
    fields.Lacks name ∧ as? = none ∨ ∃ items as, fields name = some (.array items) ∧
      List.Forall₂ (fun d a => f d = some a) items as ∧ as? = some as := by
  rcases optional_eq_some_iff.mp h with hlacks | ⟨d, as, hd, -, has, rfl⟩
  · exact .inl hlacks
  · obtain ⟨items, rfl, hitems⟩ := Document.list?_eq_some_iff.mp has
    exact .inr ⟨items, as, hd, hitems, rfl⟩

theorem optional_list?_of_array {items : List Document}
    (hfield : fields name = some (.array items)) {as? : Option (List α)}
    (h : fields.optional name (Document.list? f) = some as?) :
    ∃ as, as? = some as ∧ List.Forall₂ (fun d a => f d = some a) items as := by
  rw [optional, hfield] at h
  obtain ⟨as, has, rfl⟩ := Option.map_eq_some_iff.mp h
  exact ⟨as, rfl, mapM_eq_some_iff.mp has⟩

/-- The list in a field that may not be `null` is empty by default. -/
theorem withDefault_list?_cases {as : List α}
    (h : fields.withDefault name [] (Document.list? f) = some as) :
    fields name = none ∧ as = [] ∨ ∃ items, fields name = some (.array items) ∧
      List.Forall₂ (fun d a => f d = some a) items as := by
  unfold withDefault at h
  split at h
  · next hnone => exact .inl ⟨hnone, (Option.some.inj h).symm⟩
  · next d hd =>
    obtain ⟨items, rfl, hitems⟩ := Document.list?_eq_some_iff.mp h
    exact .inr ⟨items, hd, hitems⟩

theorem withDefault_list?_of_array {items : List Document}
    (hfield : fields name = some (.array items)) {as : List α}
    (h : fields.withDefault name [] (Document.list? f) = some as) :
    List.Forall₂ (fun d a => f d = some a) items as := by
  rw [withDefault_of_some hfield] at h
  exact mapM_eq_some_iff.mp h

end Fields

end Json

/-! ### Tokens -/

namespace StateTable

/-- That a table has a state for a token: it has an entry that is the token, without regard
to case and to the blanks around the token. -/
def Holds (table : StateTable) (token : String) (s : JobState) : Prop :=
  ∃ name, (name, s) ∈ table.entries ∧ Text.sameIgnoringCase name (Text.trim token) = true

/-- That no two entries of a table are the same token. -/
def Distinct (table : StateTable) : Prop :=
  (table.entries.map fun entry => Text.foldCase entry.1).Nodup

instance (table : StateTable) : Decidable table.Distinct :=
  inferInstanceAs (Decidable (List.Nodup _))

theorem lookup_eq_none_iff {table : StateTable} {token : String} :
    table.lookup token = none ↔ ∀ s, ¬ table.Holds token s := by
  simp only [lookup, Option.map_eq_none_iff, List.find?_eq_none, Prod.forall, Holds, not_exists,
    not_and]
  exact forall_comm

theorem holds_of_lookup {table : StateTable} {token : String} {s : JobState}
    (h : table.lookup token = some s) : table.Holds token s := by
  obtain ⟨⟨name, s'⟩, hfind, rfl⟩ := Option.map_eq_some_iff.mp h
  have hname := List.find?_some hfind
  exact ⟨name, List.mem_of_find?_eq_some hfind, hname⟩

/-- The tokens that a table of distinct names holds. -/
theorem lookup_eq_some_iff {table : StateTable} (distinct : table.Distinct) {token : String}
    {s : JobState} : table.lookup token = some s ↔ table.Holds token s := by
  refine ⟨holds_of_lookup, ?_⟩
  rintro ⟨name, hmem, hname⟩
  cases hlookup : table.lookup token with
  | none => exact absurd ⟨name, hmem, hname⟩ (lookup_eq_none_iff.mp hlookup s)
  | some s' =>
    obtain ⟨name', hmem', hname'⟩ := holds_of_lookup hlookup
    have hsame : Text.foldCase name' = Text.foldCase name :=
      (eq_of_beq hname').trans (eq_of_beq hname).symm
    rw [(Prod.mk.inj (List.inj_on_of_nodup_map distinct hmem' hmem hsame)).2]

/-- That a table gives a state to a token, by an entry or for want of one. -/
def Gives (table : StateTable) (token : String) (s : JobState) : Prop :=
  table.Holds token s ∨ (∀ t, ¬ table.Holds token t) ∧ table.fallback = some s

theorem map_eq_ok_iff {table : StateTable} (distinct : table.Distinct) {token : String}
    {s : JobState} : table.map token = .ok s ↔ table.Gives token s := by
  rw [Gives, ← lookup_eq_some_iff distinct, ← lookup_eq_none_iff, map]
  split <;> simp [*]

theorem map_eq_error_iff {table : StateTable} {token : String} {e : Error} :
    table.map token = .error e ↔ (∀ s, ¬ table.Holds token s) ∧ table.fallback = none ∧
      e = .unmappedState table.driver token := by
  rw [← lookup_eq_none_iff, map]
  split <;> simp [*, eq_comm]

end StateTable

/-! ### Exchanges -/

namespace Http

namespace Response

theorem decode_of_refused {r : Response} (h : r.accepted = false) (read : Document → Option α) :
    r.decode read = .error (.api r.status r.explanation) := by
  rw [decode, h]
  rfl

theorem decode_of_unread {r : Response} (h : r.accepted = true) {read : Document → Option α}
    (hread : r.document?.bind read = none) : r.decode read = .error undecodable := by
  rw [decode, if_pos h, hread]

theorem decode_of_read {r : Response} (h : r.accepted = true) {read : Document → Option α}
    {a : α} (hread : r.document?.bind read = some a) : r.decode read = .ok a := by
  rw [decode, if_pos h, hread]

theorem status_ne_of_accepted {r : Response} (h : r.accepted = true) : r.status ≠ 404 := by
  have hstatus := accepted_iff.mp h
  omega

/-- What a response tells about the job with an id, where `means` is what the fields of its
document tell once the document can be read. -/
inductive Tells (r : Response) (id : String) (names : List String) (read : Document → Option β)
    (means : Fields → Except Error α → Prop) : Except Error α → Prop
  | missing (status : r.status = 404) : r.Tells id names read means (.error (.notFound id))
  | refused (refusal : r.accepted = false) (status : r.status ≠ 404) :
    r.Tells id names read means (.error (.api r.status r.explanation))
  | unread (accepted : r.accepted = true) (unreadable : r.document?.bind read = none) :
    r.Tells id names read means (.error undecodable)
  | read {d : Document} {b : β} {fields : Fields} {x : Except Error α}
    (accepted : r.accepted = true) (document : r.document? = some d) (readable : read d = some b)
    (has : d.fields? names = some fields) (told : means fields x) : r.Tells id names read means x

/-- **What a call about one job makes of a response**, if `means` describes what it makes of
the fields of a document. -/
theorem decode_eq_iff {names : List String} {read : Document → Option β}
    {f : β → Except Error α} {means : Fields → Except Error α → Prop}
    (h : ∀ d b, read d = some b → ∃ fields, d.fields? names = some fields ∧
      ∀ x, f b = x ↔ means fields x) (r : Response) (id : String) (x : Except Error α) :
    ((r.decode read).mapError (Error.aboutJob id) >>= f) = x ↔
      r.Tells id names read means x := by
  constructor
  · rintro rfl
    cases haccepted : r.accepted with
    | false =>
      rw [decode_of_refused haccepted]
      by_cases hstatus : r.status = 404
      · have : Error.aboutJob id (.api r.status r.explanation) = .notFound id :=
          if_pos (beq_iff_eq.mpr hstatus)
        rw [Except.mapError, this]
        exact .missing hstatus
      · have : Error.aboutJob id (.api r.status r.explanation) = .api r.status r.explanation :=
          if_neg (by simpa [Error.isNotFound] using hstatus)
        rw [Except.mapError, this]
        exact .refused haccepted hstatus
    | true =>
      cases hread : r.document?.bind read with
      | none =>
        rw [decode_of_unread haccepted hread]
        exact .unread haccepted hread
      | some b =>
        rw [decode_of_read haccepted hread]
        obtain ⟨d, hd, hb⟩ := Option.bind_eq_some_iff.mp hread
        obtain ⟨fields, hfields, hmeans⟩ := h d b hb
        exact .read haccepted hd hb hfields ((hmeans _).mp rfl)
  · intro htells
    cases htells with
    | missing status =>
      have haccepted : r.accepted = false :=
        Bool.eq_false_iff.mpr fun h => status_ne_of_accepted h status
      rw [decode_of_refused haccepted, status]
      rfl
    | refused refusal status =>
      rw [decode_of_refused refusal]
      exact congrArg Except.error (if_neg (by simpa [Error.isNotFound] using status))
    | unread accepted unreadable =>
      rw [decode_of_unread accepted unreadable]
      rfl
    | @read d b fields x accepted document readable has told =>
      rw [decode_of_read accepted (Option.bind_eq_some_iff.mpr ⟨d, document, readable⟩)]
      obtain ⟨fields', hfields, hmeans⟩ := h d b readable
      obtain rfl := Option.some.inj (has.symm.trans hfields)
      exact (hmeans x).mpr told

end Response

end Http

end RemoteBatch
