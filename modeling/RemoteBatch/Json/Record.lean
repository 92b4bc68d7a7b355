import RemoteBatch.Json.Number
import RemoteBatch.Json.Document

/-!
# Records in JSON

A record is an object with known fields.  Its fields may come in any order, other
members are skipped unread, and no known field may come twice.  A record may also
be written as an array of its fields in order, with the last ones left out.

## Main definitions

* `Fields` — the fields found, by name.
* `Document.fields?` — the fields of a record.
* `Fields.required`, `Fields.optional`, `Fields.withDefault` — one field's value.
* `Document.text?`, `Document.whole?`, `Document.list?` — the values of fields.
-/

namespace RemoteBatch.Json

/-- The fields of a record that are present. -/
abbrev Fields := String → Option Document

namespace Document

/-- The text of a string. -/
def text? : Document → Option String
  | .string s => s
  | _ => none

/-- A whole number below `bound`, written without point and exponent. -/
def whole? (bound : Nat) : Document → Option Nat
  | .number n =>
    match Number.ofNumeral? n with
    | some (.natural k) => if k < bound then some k else none
    | _ => none
  | _ => none

/-- The items of an array, each read by `f`. -/
def list? (f : Document → Option α) : Document → Option (List α)
  | .array items => items.mapM f
  | _ => none

/-- The first value of a key among the members. -/
def lookup (name : String) (members : List (Option String × Document)) : Option Document :=
  (members.find? fun m => m.1 == some name).map (·.2)

/-- Whether the members have texts as keys and none of the names twice. -/
def distinctFields (names : List String) (members : List (Option String × Document)) : Bool :=
  members.all (·.1.isSome) &&
    names.all fun name => (members.filter fun m => m.1 == some name).length ≤ 1

/-- The fields of a record that is written as an object. -/
def members? (names : List String) : Document → Option Fields
  | .object members => if distinctFields names members then some (lookup · members) else none
  | _ => none

/-- The fields of a record, written as an object or as an array. -/
def fields? (names : List String) : Document → Option Fields
  | .array items =>
    if items.length ≤ names.length then
      some (lookup · ((names.zip items).map fun (name, d) => (some name, d)))
    else none
  | d => d.members? names

theorem length_filter_le_of_distinctFields {names : List String}
    {members : List (Option String × Document)} (h : distinctFields names members = true)
    {name : String} (hname : name ∈ names) :
    (members.filter fun m => m.1 == some name).length ≤ 1 := by
  rw [distinctFields, Bool.and_eq_true, List.all_eq_true (p := fun name => decide _)] at h
  exact of_decide_eq_true (h.2 name hname)

/-- A field that comes once has the value that it comes with. -/
theorem lookup_eq_some_of_mem {names : List String} {members : List (Option String × Document)}
    (h : distinctFields names members = true) {name : String} (hname : name ∈ names) {d : Document}
    (hmem : (some name, d) ∈ members) : lookup name members = some d := by
  have hin : (some name, d) ∈ members.filter fun m => m.1 == some name :=
    List.mem_filter.mpr ⟨hmem, beq_self_eq_true _⟩
  have hone := length_filter_le_of_distinctFields h hname
  rw [lookup, ← List.head?_filter]
  cases hfilter : members.filter fun m => m.1 == some name with
  | nil =>
    rw [hfilter] at hin
    exact absurd hin List.not_mem_nil
  | cons m rest =>
    rw [hfilter] at hin hone
    have hrest : rest = [] := List.eq_nil_of_length_eq_zero (by simpa using hone)
    rw [hrest] at hin
    rw [← List.mem_singleton.mp hin]
    rfl

/-- The fields of a record hold what the members do. -/
theorem field_of_mem {names : List String} {members : List (Option String × Document)}
    {fields : Fields} (h : (object members).members? names = some fields) {name : String}
    (hname : name ∈ names) {d : Document} (hmem : (some name, d) ∈ members) :
    fields name = some d := by
  rw [members?] at h
  split at h
  · next distinct =>
    obtain rfl := Option.some.inj h
    exact lookup_eq_some_of_mem distinct hname hmem
  · exact nomatch h

end Document

namespace Fields

/-- The value of a field that must be there. -/
def required (r : Fields) (name : String) (f : Document → Option α) : Option α :=
  (r name).bind f

/-- The value of a field that may be missing or `null`. -/
def optional (r : Fields) (name : String) (f : Document → Option α) : Option (Option α) :=
  match r name with
  | none => some none
  | some .null => some none
  | some d => (f d).map some

/-- The value of a field that may be missing, but not `null`. -/
def withDefault (r : Fields) (name : String) (default : α) (f : Document → Option α) :
    Option α :=
  match r name with
  | none => some default
  | some d => f d

theorem withDefault_of_some {r : Fields} {name : String} {d : Document} (h : r name = some d)
    (default : α) (f : Document → Option α) : r.withDefault name default f = f d := by
  rw [withDefault, h]

/-- A value is the default or was read. -/
theorem of_withDefault {r : Fields} {name : String} {default a : α} {f : Document → Option α}
    (h : r.withDefault name default f = some a) : a = default ∨ ∃ d, f d = some a := by
  unfold withDefault at h
  split at h
  · exact .inl (Option.some.inj h).symm
  · next d _ => exact .inr ⟨d, h⟩

theorem required_of_some {r : Fields} {name : String} {d : Document} (h : r name = some d)
    (f : Document → Option α) : r.required name f = f d := by
  rw [required, h, Option.bind_some]

end Fields

end RemoteBatch.Json
