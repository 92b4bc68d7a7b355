import RemoteBatch.Proofs.Spelling
import RemoteBatch.StateTable

/-!
# What a state table says

A table is searched for the first entry that a token is a spelling of.  The entries and the
policy for other tokens divide the tokens between them: a token with an entry has the state
of the entry, whatever the policy is, and a token without one has the state of the policy or
none.  No two tokens that are alike are told apart, but the error of a token repeats it as it
was written.

## Main definitions

* `StateTable.Lists` — that the first entry for a token has a state.
* `StateTable.Unlisted` — that there is no entry for a token.
* `StateTable.Says` — what a table says of a token.

## Main results

* `StateTable.map_eq_iff` — a table says one thing of a token.
* `StateTable.map_decided` — **what decides about a token.**
-/

namespace RemoteBatch.StateTable

open Text (Alike SameLetters Spells Surrounds Tight spells_iff)

/-- That the first entry that a token is a spelling of has a state. -/
def Lists (table : StateTable) (token : String) (s : JobState) : Prop :=
  ∃ before name after, table.entries = before ++ (name, s) :: after ∧ Spells token name
    ∧ ∀ entry ∈ before, ¬Spells token entry.1

/-- That a token is a spelling of no entry. -/
def Unlisted (table : StateTable) (token : String) : Prop :=
  ∀ entry ∈ table.entries, ¬Spells token entry.1

/-- What a table says of a token: the state of its first entry, or else what the policy for
other tokens says. -/
inductive Says (table : StateTable) (token : String) : Except Error JobState → Prop
  | listed {s : JobState} (lists : table.Lists token s) : Says table token (.ok s)
  | assumed {s : JobState} (unlisted : table.Unlisted token) (policy : table.fallback = some s) :
    Says table token (.ok s)
  | unmapped (unlisted : table.Unlisted token) (policy : table.fallback = none) :
    Says table token (.error (.unmappedState table.driver token))

variable {table : StateTable} {token token' : String} {s : JobState}

/-! ### Searching -/

theorem lookup_eq_some_iff_lists : table.lookup token = some s ↔ table.Lists token s := by
  rw [lookup, Option.map_eq_some_iff]
  constructor
  · rintro ⟨⟨name, state⟩, hfind, rfl⟩
    obtain ⟨hname, before, after, hentries, hbefore⟩ := List.find?_eq_some_iff_append.mp hfind
    refine ⟨before, name, after, hentries, spells_iff.mpr hname, ?_⟩
    intro entry hentry hspells
    have hother := hbefore entry hentry
    rw [spells_iff.mp hspells] at hother
    exact nomatch hother
  · rintro ⟨before, name, after, hentries, hname, hbefore⟩
    refine ⟨(name, s), ?_, rfl⟩
    apply List.find?_eq_some_iff_append.mpr
    refine ⟨spells_iff.mp hname, before, after, hentries, ?_⟩
    intro entry hentry
    rw [Bool.not_eq_true', Bool.eq_false_iff]
    exact fun hsame => hbefore entry hentry (spells_iff.mpr hsame)

theorem lookup_eq_none_iff_unlisted : table.lookup token = none ↔ table.Unlisted token := by
  rw [lookup, Option.map_eq_none_iff, List.find?_eq_none]
  simp only [← spells_iff]
  rfl

/-- A token is listed with a state, or not at all. -/
theorem exists_lists_of_not_unlisted (h : ¬table.Unlisted token) : ∃ s, table.Lists token s := by
  rw [← lookup_eq_none_iff_unlisted] at h
  obtain ⟨s, hs⟩ := Option.ne_none_iff_exists'.mp h
  exact ⟨s, lookup_eq_some_iff_lists.mp hs⟩

/-! ### Saying -/

theorem says_map (table : StateTable) (token : String) : table.Says token (table.map token) := by
  unfold map
  cases hlookup : table.lookup token with
  | some s => exact .listed (lookup_eq_some_iff_lists.mp hlookup)
  | none =>
    have unlisted := lookup_eq_none_iff_unlisted.mp hlookup
    cases policy : table.fallback with
    | some s => exact .assumed unlisted policy
    | none => exact .unmapped unlisted policy

/-- **A table says one thing of a token.** -/
theorem map_eq_iff {said : Except Error JobState} :
    table.map token = said ↔ table.Says token said := by
  constructor
  · rintro rfl
    exact says_map table token
  · intro h
    unfold map
    cases h with
    | listed lists => rw [lookup_eq_some_iff_lists.mpr lists]
    | assumed unlisted policy => rw [lookup_eq_none_iff_unlisted.mpr unlisted, policy]
    | unmapped unlisted policy => rw [lookup_eq_none_iff_unlisted.mpr unlisted, policy]

/-! ### Tokens that are alike -/

/-- Tokens that are alike have the same entries. -/
theorem lookup_of_alike (table : StateTable) (h : Alike token token') :
    table.lookup token' = table.lookup token := by
  have hspells (name : String) : Text.sameIgnoringCase name (Text.trim token')
      = Text.sameIgnoringCase name (Text.trim token) :=
    Bool.eq_iff_iff.mpr (spells_iff.symm.trans ((h.spells_iff name).symm.trans spells_iff))
  simp only [lookup, hspells]

/-- The outcome with another token in its error, if it is one. -/
def retold (table : StateTable) (token : String) : Except Error JobState → Except Error JobState :=
  Except.mapError fun _ => .unmappedState table.driver token

/-- Of tokens that are alike a table says the same, but for the token in the error. -/
theorem map_of_alike (table : StateTable) (h : Alike token token') :
    table.map token' = table.retold token' (table.map token) := by
  unfold map
  rw [table.lookup_of_alike h]
  cases table.lookup token with
  | some s => rfl
  | none =>
    cases table.fallback with
    | some s => rfl
    | none => rfl

/-- **What decides about a token.**  A table says the state of the first entry that the token
is a spelling of; without one, a policy that has a state says that, so that nothing is an
error, and one that has none says that the token is unmapped, so that no state is made up.
Blanks around a token and the case of its ASCII letters do not count, while every other
character of a token stands as it is in the entry. -/
theorem map_decided (table : StateTable) (token : String) :
    (∀ said, table.map token = said ↔ table.Says token said)
      ∧ (∀ s, table.lookup token = some s ↔ table.Lists token s)
      ∧ (table.fallback.isSome = true → ∃ s, table.map token = .ok s)
      ∧ (table.fallback = none → table.Unlisted token → ∀ s, table.map token ≠ .ok s)
      ∧ (∀ token', Alike token token' → table.lookup token' = table.lookup token
        ∧ table.map token' = table.retold token' (table.map token))
      ∧ ∀ name written, Spells token name → Surrounds token written → Tight written →
        ∀ c : Char, 128 ≤ c.toNat → ∀ i : Nat,
          written.toList[i]? = some c ↔ name.toList[i]? = some c := by
  refine ⟨fun said => map_eq_iff, fun s => lookup_eq_some_iff_lists, ?_, ?_, ?_, ?_⟩
  · intro policy
    obtain ⟨fallback, hfallback⟩ := Option.isSome_iff_exists.mp policy
    by_cases unlisted : table.Unlisted token
    · exact ⟨fallback, map_eq_iff.mpr (.assumed unlisted hfallback)⟩
    · obtain ⟨s, lists⟩ := exists_lists_of_not_unlisted unlisted
      exact ⟨s, map_eq_iff.mpr (.listed lists)⟩
  · intro policy unlisted s hstate
    rw [map_eq_iff.mpr (.unmapped unlisted policy)] at hstate
    exact nomatch hstate
  · intro token' alike
    exact ⟨table.lookup_of_alike alike, table.map_of_alike alike⟩
  · intro name written spells surrounds tight c hc i
    have hsame := Text.sameIgnoringCase_iff.mp (spells_iff.mp spells)
    rw [Text.trim_of_surrounds surrounds tight] at hsame
    exact (hsame.getElem?_eq_some_iff hc i).symm

/-- The first of two entries counts, and `É` is no spelling of `é`. -/
example :
    let table : StateTable :=
      { driver := "d"
        entries := [("RUNNING", .active), ("running", .failed), ("ÉCHEC", .failed)]
        fallback := none }
    table.map "\u00a0Running\t" = .ok .active ∧ table.map "Échec" = .ok .failed
      ∧ table.map " échec" = .error (.unmappedState "d" " échec") := by
  decide +kernel

end RemoteBatch.StateTable
