import Mathlib.Data.List.Forall2

/-!
# Steps that may fail

A step that may fail gives a value or the reason why there is none.  Two steps in turn
succeed only if both do.  A reader of items that may fail makes a reader of lists, which
fails as soon as one item cannot be read; when it succeeds, the items and what they are read
as go together one by one, and everything else about such readers follows from that.

## Main results

* `exists_ok_of_bind` — two steps in turn that succeed.
* `mapM_eq_some_iff` — **a list is read exactly if its items are, one by one.**
* `mapM_map_eq_some_iff`, `mapM_map_eq_some` — reading what was written item by item.
* `exists_mem_of_mapM` — what is read comes from one of the items.
-/

namespace RemoteBatch

/-! ### Steps in turn -/

theorem exists_ok_of_bind {ε α β : Type} {x : Except ε α} {f : α → Except ε β} {b : β}
    (h : x >>= f = .ok b) : ∃ a, x = .ok a ∧ f a = .ok b := by
  cases x with
  | error e => exact nomatch h
  | ok a => exact ⟨a, rfl, h⟩

theorem eq_ok_of_toOption {x : Except ε α} {a : α} (h : x.toOption = some a) : x = .ok a := by
  cases x with
  | error e => exact nomatch h
  | ok b => exact congrArg _ (Option.some.inj h)

theorem exists_error_of_toOption {x : Except ε α} (h : x.toOption = none) : ∃ e, x = .error e := by
  cases x with
  | error e => exact ⟨e, rfl⟩
  | ok b => exact nomatch h

/-! ### Items of a list -/

/-- **A list is read exactly if its items are, one by one.** -/
theorem mapM_eq_some_iff {f : α → Option β} {as : List α} {bs : List β} :
    as.mapM f = some bs ↔ List.Forall₂ (fun a b => f a = some b) as bs := by
  induction as generalizing bs with
  | nil => simp [eq_comm]
  | cons a as ih =>
    simp only [List.mapM_cons, Option.bind_eq_bind, Option.bind_eq_some_iff,
      List.forall₂_cons_left_iff, ih]
    constructor
    · rintro ⟨b, hb, bs', hbs, h⟩
      exact ⟨b, bs', hb, hbs, (Option.some.inj h).symm⟩
    · rintro ⟨b, bs', hb, hbs, rfl⟩
      exact ⟨b, hb, bs', hbs, rfl⟩

/-- All items are read as wanted exactly if each of them is. -/
theorem mapM_map_eq_some_iff {f : β → Option γ} {g : α → β} {k : α → γ} {as : List α} :
    (as.map g).mapM f = some (as.map k) ↔ ∀ a ∈ as, f (g a) = some (k a) := by
  rw [mapM_eq_some_iff, List.forall₂_map_left_iff, List.forall₂_map_right_iff, List.forall₂_same]

/-- Items that are read as what they were written from give back the list. -/
theorem mapM_map_eq_some {f : β → Option α} {g : α → β} (h : ∀ a, f (g a) = some a)
    (as : List α) : (as.map g).mapM f = some as := by
  have hread : (as.map g).mapM f = some (as.map id) := mapM_map_eq_some_iff.mpr fun a _ => h a
  rwa [List.map_id] at hread

/-- What all items of a list give comes from one of them. -/
theorem exists_mem_of_mapM {f : α → Option (List β)} {as : List α} {bss : List (List β)}
    (h : as.mapM f = some bss) {b : β} (hb : b ∈ bss.flatten) :
    ∃ a ∈ as, ∃ bs, f a = some bs ∧ b ∈ bs := by
  have hread := mapM_eq_some_iff.mp h
  clear h
  induction hread with
  | nil => exact absurd hb List.not_mem_nil
  | cons hbs _ ih =>
    rw [List.flatten_cons, List.mem_append] at hb
    rcases hb with hb | hb
    · exact ⟨_, List.mem_cons_self, _, hbs, hb⟩
    · obtain ⟨a, ha, found⟩ := ih hb
      exact ⟨a, List.mem_cons_of_mem _ ha, found⟩

end RemoteBatch
