import RemoteBatch.Json.Record
import RemoteBatch.Json.Value

/-!
# The parts of a document

Arrays and objects nest less deep in a part of a document than in the whole, and the part
has a value if the whole has one.  So what is wanted of a document can be had of its parts.

## Main results

* `height_lt_of_fields?` — a field is less high than its record.
* `isSome_value?_of_member` — a member has a value if its object has one.
-/

namespace RemoteBatch.Json.Document

/-- What has a value has one inside fewer containers. -/
theorem value?_of_le {m n : Nat} (h : m ≤ n) {d : Document} {v : Value}
    (hv : d.value? n = some v) : d.value? m = some v := by
  obtain ⟨hle, hd⟩ := Option.ite_none_right_eq_some.mp hv
  exact (if_pos (Nat.le_trans (Nat.add_le_add_right h d.height) hle)).trans hd

theorem isSome_value?_iff {n : Nat} {d : Document} : (d.value? n).isSome = true ↔
    n + d.height ≤ maxNesting ∧ d.denote?.isSome = true := by
  unfold value?
  split
  · next hle => rw [and_iff_right hle]
  · next hle => exact iff_of_false Bool.false_ne_true fun h => hle h.1

theorem height_le_of_mem {items : List Document} {d : Document} (h : d ∈ items) :
    d.height ≤ heightOfItems items := by
  induction items with
  | nil => exact absurd h List.not_mem_nil
  | cons item items ih =>
    rw [heightOfItems]
    rcases List.mem_cons.mp h with rfl | h
    · exact Nat.le_max_left _ _
    · exact Nat.le_trans (ih h) (Nat.le_max_right _ _)

theorem height_le_of_member {members : List (Option String × Document)} {key : Option String}
    {d : Document} (h : (key, d) ∈ members) : d.height ≤ heightOfMembers members := by
  induction members with
  | nil => exact absurd h List.not_mem_nil
  | cons m members ih =>
    obtain ⟨key', d'⟩ := m
    rw [heightOfMembers]
    rcases List.mem_cons.mp h with heq | h
    · obtain ⟨-, rfl⟩ := Prod.mk.inj heq
      exact Nat.le_max_left _ _
    · exact Nat.le_trans (ih h) (Nat.le_max_right _ _)

theorem mem_of_lookup {members : List (Option String × Document)} {name : String}
    {d : Document} (h : lookup name members = some d) : (some name, d) ∈ members := by
  obtain ⟨⟨key, d'⟩, hfind, rfl⟩ := Option.map_eq_some_iff.mp h
  have hkey : key = some name := by simpa using List.find?_some hfind
  rw [← hkey]
  exact List.mem_of_find?_eq_some hfind

/-- A field lies below its record. -/
theorem height_lt_of_fields? {record : Document} {names : List String} {fields : Fields}
    (hfields : record.fields? names = some fields) {key : String} {d : Document}
    (hd : fields key = some d) : d.height < record.height := by
  cases record with
  | array items =>
    obtain ⟨-, hsome⟩ := Option.ite_none_right_eq_some.mp hfields
    obtain rfl := Option.some.inj hsome
    obtain ⟨⟨name, item⟩, hmem, heq⟩ := List.mem_map.mp (mem_of_lookup hd)
    obtain ⟨-, rfl⟩ := Prod.mk.inj heq
    exact Nat.lt_succ_of_le (height_le_of_mem (List.of_mem_zip hmem).2)
  | object members =>
    obtain ⟨-, hsome⟩ := Option.ite_none_right_eq_some.mp hfields
    obtain rfl := Option.some.inj hsome
    exact Nat.lt_succ_of_le (height_le_of_member (mem_of_lookup hd))
  | null => exact nomatch hfields
  | bool b => exact nomatch hfields
  | number n => exact nomatch hfields
  | string s => exact nomatch hfields

theorem isSome_denote?_of_member {members : List (Option String × Document)}
    {done : List (String × Value)} (h : (denoteMembers? members done).isSome = true)
    {key : Option String} {d : Document} (hd : (key, d) ∈ members) : d.denote?.isSome = true := by
  induction members generalizing done with
  | nil => exact absurd hd List.not_mem_nil
  | cons m members ih =>
    obtain ⟨values, hvalues⟩ := Option.isSome_iff_exists.mp h
    obtain ⟨key', d'⟩ := m
    simp only [denoteMembers?, Option.bind_eq_bind, Option.bind_eq_some_iff] at hvalues
    obtain ⟨k, -, v, hv, hrest⟩ := hvalues
    rcases List.mem_cons.mp hd with heq | hd
    · obtain ⟨-, rfl⟩ := Prod.mk.inj heq
      exact Option.isSome_of_eq_some hv
    · exact ih (Option.isSome_of_eq_some hrest) hd

/-- What is inside a document with a value has one too. -/
theorem isSome_value?_of_member {members : List (Option String × Document)}
    (h : ((object members).value? 0).isSome = true) {key : Option String} {d : Document}
    (hd : (key, d) ∈ members) : (d.value? 0).isSome = true := by
  rw [isSome_value?_iff, height] at h
  obtain ⟨hle, hdenote⟩ := h
  rw [denote?, Option.isSome_map] at hdenote
  have hheight : d.height ≤ heightOfMembers members := height_le_of_member hd
  exact isSome_value?_iff.mpr ⟨by omega, isSome_denote?_of_member hdenote hd⟩

end RemoteBatch.Json.Document
