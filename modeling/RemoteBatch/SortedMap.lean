/-!
# Maps sorted by key

A finite map from strings, kept as the list of its entries in strictly increasing
order of the keys.  A map with given entries is therefore one value only, so that
equal maps are equal.

## Main definitions

* `SortedMap` — the maps.
* `SortedMap.insert` — gives a key a value, in place of the one it had.
* `SortedMap.find?` — the value of a key.
* `SortedMap.find?_insert`, `SortedMap.ext_find?` — a map is what its keys find.
* `SortedMap.ofList_entries` — and what its entries make.
-/

namespace RemoteBatch

universe u

variable {β : Type u}

/-- The entries are in strictly increasing order of their keys. -/
def KeysAscend (entries : List (String × β)) : Prop :=
  entries.Pairwise fun a b => a.1 < b.1

/-- Puts an entry where it belongs among entries in order. -/
def insertEntry (key : String) (value : β) : List (String × β) → List (String × β)
  | [] => [(key, value)]
  | e :: es =>
    if key < e.1 then (key, value) :: e :: es
    else if key = e.1 then (key, value) :: es
    else e :: insertEntry key value es

theorem mem_insertEntry {key : String} {value : β} {a : String × β} :
    ∀ {es : List (String × β)}, a ∈ insertEntry key value es → a = (key, value) ∨ a ∈ es
  | [], h => by simpa [insertEntry] using h
  | e :: es, h => by
    simp only [insertEntry] at h
    split at h
    · simpa using h
    · split at h
      · rcases List.mem_cons.1 h with h | h
        · exact .inl h
        · exact .inr (List.mem_cons_of_mem _ h)
      · rcases List.mem_cons.1 h with h | h
        · exact .inr (h ▸ List.mem_cons_self)
        · rcases mem_insertEntry h with h | h
          · exact .inl h
          · exact .inr (List.mem_cons_of_mem _ h)

theorem KeysAscend.insertEntry {key : String} {value : β} {es : List (String × β)}
    (h : KeysAscend es) : KeysAscend (insertEntry key value es) := by
  induction es with
  | nil => simp [RemoteBatch.insertEntry, KeysAscend]
  | cons e es ih =>
    obtain ⟨hhead, htail⟩ := List.pairwise_cons.1 h
    simp only [RemoteBatch.insertEntry]
    split
    · next hlt =>
      refine List.pairwise_cons.2 ⟨fun a ha => ?_, h⟩
      rcases List.mem_cons.1 ha with rfl | ha
      · exact hlt
      · exact String.lt_trans hlt (hhead a ha)
    · next hnlt =>
      split
      · next heq => exact List.pairwise_cons.2 ⟨fun a ha => heq ▸ hhead a ha, htail⟩
      · next hne =>
        refine List.pairwise_cons.2 ⟨fun a ha => ?_, ih htail⟩
        rcases mem_insertEntry ha with rfl | ha
        · have hle : e.1 ≤ key := String.not_lt.1 hnlt
          exact String.not_le.1 fun hge => hne (String.le_antisymm hge hle)
        · exact hhead a ha

/-- A finite map from strings. -/
structure SortedMap (β : Type u) where
  entries : List (String × β)
  ascend : KeysAscend entries

namespace SortedMap

instance [DecidableEq β] : DecidableEq (SortedMap β) := fun m n =>
  decidable_of_iff (m.entries = n.entries) (by cases m; cases n; simp)

instance [Repr β] : Repr (SortedMap β) := ⟨fun m _ => repr m.entries⟩

/-- The map without entries. -/
def empty : SortedMap β := ⟨[], .nil⟩

instance : EmptyCollection (SortedMap β) := ⟨empty⟩
instance : Inhabited (SortedMap β) := ⟨empty⟩

/-- Whether a map has no entries. -/
def isEmpty (m : SortedMap β) : Bool := m.entries.isEmpty

/-- Gives a key a value, in place of the one it had. -/
def insert (m : SortedMap β) (key : String) (value : β) : SortedMap β :=
  ⟨insertEntry key value m.entries, m.ascend.insertEntry⟩

/-- The value of a key. -/
def find? (m : SortedMap β) (key : String) : Option β := m.entries.lookup key

/-- The values in the order of their keys. -/
def values (m : SortedMap β) : List β := m.entries.map (·.2)

/-- The map of some entries, where a later one replaces an earlier one. -/
def ofList (entries : List (String × β)) : SortedMap β :=
  entries.foldl (fun m e => m.insert e.1 e.2) empty

@[simp] theorem find?_empty (key : String) : (empty : SortedMap β).find? key = none := rfl

theorem lookup_cons_eq_ite (k key : String) (value : β) (es : List (String × β)) :
    ((key, value) :: es).lookup k = if k = key then some value else es.lookup k := by
  by_cases h : k = key
  · simp [h]
  · have hb : (k == key) = false := by simpa using h
    simp [List.lookup_cons, h, hb]

theorem lookup_insertEntry (key k : String) (value : β) (es : List (String × β)) :
    (insertEntry key value es).lookup k = if k = key then some value else es.lookup k := by
  induction es with
  | nil => simp [insertEntry, lookup_cons_eq_ite]
  | cons e es ih =>
    obtain ⟨e₁, e₂⟩ := e
    simp only [insertEntry]
    split
    · simp [lookup_cons_eq_ite]
    · split
      · next heq => subst heq; by_cases h : k = key <;> simp [lookup_cons_eq_ite, h]
      · next hne =>
        simp only [lookup_cons_eq_ite, ih]
        by_cases h : k = e₁
        · have hk : ¬e₁ = key := fun h' => hne h'.symm
          simp [h, hk]
        · simp [h]

/-- An insertion changes what its own key finds and nothing else. -/
theorem find?_insert (m : SortedMap β) (key k : String) (value : β) :
    (m.insert key value).find? k = if k = key then some value else m.find? k :=
  lookup_insertEntry key k value m.entries

theorem lookup_eq_none_of_lt {key : String} :
    ∀ {es : List (String × β)}, (∀ e ∈ es, key < e.1) → es.lookup key = none
  | [], _ => rfl
  | e :: es, h => by
    have hne : key ≠ e.1 := fun heq =>
      String.lt_irrefl key (by simpa [← heq] using h e List.mem_cons_self)
    have ih := lookup_eq_none_of_lt fun a ha => h a (List.mem_cons_of_mem _ ha)
    obtain ⟨e₁, e₂⟩ := e
    rw [lookup_cons_eq_ite, if_neg hne, ih]

theorem entries_eq_of_lookup : ∀ {es fs : List (String × β)}, KeysAscend es → KeysAscend fs →
    (∀ k, es.lookup k = fs.lookup k) → es = fs
  | [], [], _, _, _ => rfl
  | [], (f₁, f₂) :: fs, _, _, h => by simpa using h f₁
  | (e₁, e₂) :: es, [], _, _, h => by simpa using h e₁
  | (e₁, e₂) :: es, (f₁, f₂) :: fs, he, hf, h => by
    obtain ⟨he', hes⟩ := List.pairwise_cons.1 he
    obtain ⟨hf', hfs⟩ := List.pairwise_cons.1 hf
    have hkey : e₁ = f₁ := by
      refine Decidable.byContradiction fun hne => ?_
      by_cases hlt : e₁ < f₁
      · have hnone : ((f₁, f₂) :: fs).lookup e₁ = none :=
          lookup_eq_none_of_lt fun a ha => by
            rcases List.mem_cons.1 ha with rfl | ha
            · exact hlt
            · exact String.lt_trans hlt (hf' a ha)
        have := (h e₁).symm.trans (by simp : _ = some e₂)
        simp [hnone] at this
      · have hgt : f₁ < e₁ := String.not_le.1 fun hle =>
          hne (String.le_antisymm hle (String.not_lt.1 hlt))
        have hnone : ((e₁, e₂) :: es).lookup f₁ = none :=
          lookup_eq_none_of_lt fun a ha => by
            rcases List.mem_cons.1 ha with rfl | ha
            · exact hgt
            · exact String.lt_trans hgt (he' a ha)
        have := (h f₁).trans (by simp : _ = some f₂)
        simp [hnone] at this
    subst hkey
    have hval : e₂ = f₂ := by simpa using h e₁
    subst hval
    have htail : es = fs := entries_eq_of_lookup hes hfs fun k => by
      by_cases hk : k = e₁
      · subst hk
        rw [lookup_eq_none_of_lt he', lookup_eq_none_of_lt hf']
      · simpa [lookup_cons_eq_ite, hk] using h k
    rw [htail]

/-- Two maps whose keys find the same are the same. -/
theorem ext_find? {m n : SortedMap β} (h : ∀ k, m.find? k = n.find? k) : m = n := by
  cases m with
  | mk es he =>
    cases n with
    | mk fs hf =>
      have : es = fs := entries_eq_of_lookup he hf h
      subst this; rfl

theorem find?_foldl_insert (k : String) {es : List (String × β)} (h : KeysAscend es)
    (m : SortedMap β) :
    (es.foldl (fun m e => m.insert e.1 e.2) m).find? k = (es.lookup k).or (m.find? k) := by
  induction es generalizing m with
  | nil => rfl
  | cons e es ih =>
    obtain ⟨key, value⟩ := e
    obtain ⟨hhead, htail⟩ := List.pairwise_cons.1 h
    rw [List.foldl_cons, ih htail, find?_insert, lookup_cons_eq_ite]
    split
    · -- no later entry has the key
      next heq =>
      subst heq
      rw [lookup_eq_none_of_lt hhead, Option.none_or, Option.some_or]
    · rfl

/-- A map is made of its entries. -/
theorem ofList_entries (m : SortedMap β) : ofList m.entries = m := by
  refine ext_find? fun k => ?_
  rw [ofList, find?_foldl_insert k m.ascend, find?_empty, Option.or_none]
  rfl

end SortedMap

end RemoteBatch
