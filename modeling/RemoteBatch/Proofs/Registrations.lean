import Mathlib.Data.List.Induction
import RemoteBatch.CommandLine.Program
import RemoteBatch.Proofs.Success

/-!
# What registrations come to

A registry is used by registering drivers, by looking at their cards and by making them.
Only registrations change it, and of several under one name the last counts, for the card
and for the factory together.  A registry therefore answers by the registrations so far,
whatever else it was used for in between.

## Main definitions

* `Registry.ofEntries` — the registry that some registrations make.
* `Registry.IsLast` — that a registration is the last one under its name.
* `Registry.perform`, `Registry.performAll` — one use of a registry, and several in turn.
* `Registry.Answers`, `Registry.Conversation` — what registries answer.

## Main results

* `Registry.find?_ofEntries` — a name finds the last registration under it.
* `Registry.answers_perform`, `Registry.conversation_performAll` — what one use of a registry
  and what several come to.
* `Registry.last_registration_counts` — **what is told and made after any uses.**
-/

namespace RemoteBatch

namespace SortedMap

variable {β : Type u}

/-- The entries of a map are what its keys find. -/
theorem mem_entries_iff {m : SortedMap β} {key : String} {value : β} :
    (key, value) ∈ m.entries ↔ m.find? key = some value := by
  obtain ⟨es, ascend⟩ := m
  show (key, value) ∈ es ↔ es.lookup key = some value
  induction es with
  | nil => simp
  | cons e es ih =>
    obtain ⟨k, v⟩ := e
    obtain ⟨hhead, htail⟩ := List.pairwise_cons.mp ascend
    rw [lookup_cons_eq_ite, List.mem_cons, ih htail]
    by_cases hkey : key = k
    · -- no later entry has the key of the first
      subst hkey
      rw [if_pos rfl, lookup_eq_none_of_lt hhead]
      simp [eq_comm]
    · rw [if_neg hkey]
      simp [hkey]

/-- It does not matter in which order two keys are given their values. -/
theorem insert_comm (m : SortedMap β) {key key' : String} (h : key ≠ key') (value value' : β) :
    (m.insert key value).insert key' value' = (m.insert key' value').insert key value := by
  apply ext_find?
  intro k
  simp only [find?_insert]
  by_cases hkey : k = key
  · rw [if_neg (hkey ▸ h), if_pos hkey, if_pos hkey]
  · rw [if_neg hkey, if_neg hkey]

end SortedMap

namespace Registry

variable {δ : Type}

/-! ### Registrations -/

/-- A registry with one more registration. -/
def add (r : Registry δ) (e : Entry δ) : Registry δ := r.register e.descriptor e.factory

/-- The registry that some registrations make, one after the other. -/
def ofEntries (es : List (Entry δ)) : Registry δ := es.foldl add empty

/-- That a registration is one of some and the last under its name. -/
def IsLast (es : List (Entry δ)) (e : Entry δ) : Prop :=
  ∃ before after, es = before ++ e :: after
    ∧ ∀ later ∈ after, later.descriptor.name ≠ e.descriptor.name

/-- That nothing is registered under a name. -/
def Unknown (es : List (Entry δ)) (name : String) : Prop := ∀ e ∈ es, e.descriptor.name ≠ name

theorem ofEntries_append (es fs : List (Entry δ)) :
    ofEntries (es ++ fs) = fs.foldl add (ofEntries es) := by
  rw [ofEntries, List.foldl_append, ofEntries]

theorem IsLast.mem {es : List (Entry δ)} {e : Entry δ} (h : IsLast es e) : e ∈ es := by
  obtain ⟨before, after, rfl, -⟩ := h
  simp

/-- One more registration is the last under its name, and takes that from those before. -/
theorem isLast_concat_iff {es : List (Entry δ)} {e f : Entry δ} :
    IsLast (es ++ [f]) e
      ↔ e = f ∨ IsLast es e ∧ f.descriptor.name ≠ e.descriptor.name := by
  constructor
  · rintro ⟨before, after, hes, hafter⟩
    rcases List.eq_nil_or_concat after with rfl | ⟨after, g, rfl⟩
    · exact .inl (List.append_singleton_inj.mp hes).2.symm
    · rw [List.concat_eq_append, ← List.cons_append, ← List.append_assoc] at hes
      obtain ⟨rfl, rfl⟩ := List.append_singleton_inj.mp hes
      rw [List.concat_eq_append, List.forall_mem_append, List.forall_mem_singleton] at hafter
      exact .inr ⟨⟨before, after, rfl, hafter.1⟩, hafter.2⟩
  · rintro (rfl | ⟨⟨before, after, rfl, hafter⟩, hne⟩)
    · exact ⟨es, [], rfl, nofun⟩
    · refine ⟨before, after ++ [f], by simp, ?_⟩
      exact List.forall_mem_append.mpr ⟨hafter, List.forall_mem_singleton.mpr hne⟩

/-- **A name finds the last registration under it.** -/
theorem find?_ofEntries {es : List (Entry δ)} {name : String} {e : Entry δ} :
    (ofEntries es).drivers.find? name = some e ↔ IsLast es e ∧ e.descriptor.name = name := by
  -- from the end, since the last registration decides
  induction es using List.reverseRecOn with
  | nil =>
    refine iff_of_false nofun ?_
    rintro ⟨last, -⟩
    exact absurd last.mem List.not_mem_nil
  | append_singleton es f ih =>
    have hfind : (ofEntries (es ++ [f])).drivers.find? name
        = if name = f.descriptor.name then some f else (ofEntries es).drivers.find? name := by
      rw [ofEntries_append]
      exact SortedMap.find?_insert _ _ _ _
    rw [hfind, isLast_concat_iff]
    by_cases hname : name = f.descriptor.name
    · rw [if_pos hname, Option.some.injEq]
      constructor
      · rintro rfl
        exact ⟨.inl rfl, hname.symm⟩
      · rintro ⟨rfl | ⟨-, hne⟩, he⟩
        · rfl
        · exact absurd (hname.symm.trans he.symm) hne
    · rw [if_neg hname, ih]
      constructor
      · rintro ⟨last, rfl⟩
        exact ⟨.inr ⟨last, Ne.symm hname⟩, rfl⟩
      · rintro ⟨rfl | ⟨last, -⟩, rfl⟩
        · exact absurd rfl hname
        · exact ⟨last, rfl⟩

theorem find?_ofEntries_of_isLast {es : List (Entry δ)} {e : Entry δ} (h : IsLast es e) :
    (ofEntries es).drivers.find? e.descriptor.name = some e :=
  find?_ofEntries.mpr ⟨h, rfl⟩

/-- Under a name that anything is registered under there is a last registration. -/
theorem exists_isLast {es : List (Entry δ)} {e : Entry δ} (h : e ∈ es) :
    ∃ last, IsLast es last ∧ last.descriptor.name = e.descriptor.name := by
  induction es using List.reverseRecOn with
  | nil => exact absurd h List.not_mem_nil
  | append_singleton es f ih =>
    by_cases hname : f.descriptor.name = e.descriptor.name
    · exact ⟨f, isLast_concat_iff.mpr (.inl rfl), hname⟩
    · rcases List.mem_append.mp h with hmem | hmem
      · obtain ⟨last, hlast, heq⟩ := ih hmem
        exact ⟨last, isLast_concat_iff.mpr (.inr ⟨hlast, heq ▸ hname⟩), heq⟩
      · exact absurd (congrArg (·.descriptor.name) (List.mem_singleton.mp hmem).symm) hname

theorem find?_ofEntries_eq_none_iff {es : List (Entry δ)} {name : String} :
    (ofEntries es).drivers.find? name = none ↔ Unknown es name := by
  constructor
  · intro hnone e he hname
    obtain ⟨last, hlast, heq⟩ := exists_isLast he
    rw [find?_ofEntries.mpr ⟨hlast, heq.trans hname⟩] at hnone
    exact nomatch hnone
  · intro unknown
    cases hfind : (ofEntries es).drivers.find? name with
    | none => rfl
    | some e =>
      obtain ⟨last, hname⟩ := find?_ofEntries.mp hfind
      exact absurd hname (unknown e last.mem)

/-- **Registrations under different names commute.** -/
theorem add_comm (r : Registry δ) {e f : Entry δ} (h : e.descriptor.name ≠ f.descriptor.name) :
    (r.add e).add f = (r.add f).add e :=
  congrArg Registry.mk (r.drivers.insert_comm h e f)

/-! ### Cards -/

/-- The names of the cards are the keys that the drivers stand under. -/
theorem map_name_descriptors (es : List (Entry δ)) :
    (ofEntries es).descriptors.map (·.name) = (ofEntries es).drivers.entries.map (·.1) := by
  rw [descriptors, SortedMap.values, List.map_map, List.map_map]
  refine List.map_congr_left fun entry hentry => ?_
  exact (find?_ofEntries.mp (SortedMap.mem_entries_iff.mp hentry)).2

/-- The cards stand in strictly increasing order of their names. -/
theorem pairwise_descriptors (es : List (Entry δ)) :
    ((ofEntries es).descriptors.map (·.name)).Pairwise (· < ·) := by
  rw [map_name_descriptors]
  exact List.pairwise_map.mpr (ofEntries es).drivers.ascend

/-- They are those of the last registrations. -/
theorem mem_descriptors_iff {es : List (Entry δ)} {d : Descriptor} :
    d ∈ (ofEntries es).descriptors ↔ ∃ e, IsLast es e ∧ e.descriptor = d := by
  rw [descriptors, SortedMap.values, List.map_map, List.mem_map]
  constructor
  · rintro ⟨⟨name, e⟩, hentry, rfl⟩
    exact ⟨e, (find?_ofEntries.mp (SortedMap.mem_entries_iff.mp hentry)).1, rfl⟩
  · rintro ⟨e, last, rfl⟩
    exact ⟨(e.descriptor.name, e), SortedMap.mem_entries_iff.mpr (find?_ofEntries_of_isLast last),
      rfl⟩

/-! ### Uses of a registry -/

/-- One use of a registry. -/
inductive Operation (δ : Type)
  | register (e : Entry δ)
  /-- Look at all cards. -/
  | descriptors
  /-- Look at one card. -/
  | descriptor (name : String)
  /-- Make a driver. -/
  | create (name : String) (settings : Settings)

/-- What comes of a use. -/
inductive Reply (δ : Type)
  | done
  | cards (ds : List Descriptor)
  | card (d? : Option Descriptor)
  | driver (made : Except Error δ)

/-- What an operation registers. -/
def Operation.entries : Operation δ → List (Entry δ)
  | register e => [e]
  | _ => []

/-- Uses a registry; what comes of it, and the registry after it. -/
def perform (r : Registry δ) : Operation δ → Reply δ × Registry δ
  | .register e => (.done, r.add e)
  | .descriptors => (.cards r.descriptors, r)
  | .descriptor name => (.card (r.descriptor? name), r)
  | .create name settings => (.driver (r.create name settings), r)

/-- Uses a registry several times in turn. -/
def performAll (r : Registry δ) : List (Operation δ) → List (Reply δ) × Registry δ
  | [] => ([], r)
  | op :: ops =>
    let rest := (r.perform op).2.performAll ops
    ((r.perform op).1 :: rest.1, rest.2)

/-- What a use of a registry comes to after some registrations. -/
inductive Answers (es : List (Entry δ)) : Operation δ → Reply δ → Prop
  | registered (e : Entry δ) : Answers es (.register e) .done
  /-- Each name has one card, in the order of the names: that of its last registration. -/
  | listed {ds : List Descriptor} (ascend : (ds.map (·.name)).Pairwise (· < ·))
    (mem_iff : ∀ d, d ∈ ds ↔ ∃ e, IsLast es e ∧ e.descriptor = d) :
    Answers es .descriptors (.cards ds)
  | described {e : Entry δ} (last : IsLast es e) :
    Answers es (.descriptor e.descriptor.name) (.card (some e.descriptor))
  | undescribed {name : String} (unknown : Unknown es name) :
    Answers es (.descriptor name) (.card none)
  | made {e : Entry δ} (last : IsLast es e) (settings : Settings) :
    Answers es (.create e.descriptor.name settings) (.driver (e.factory settings))
  /-- Without a registration there is an error, which comes from no factory. -/
  | unmade {name : String} (unknown : Unknown es name) (settings : Settings) :
    Answers es (.create name settings) (.driver (.error (.unknownDriver name)))

/-- What uses in turn come to: what each comes to after the registrations so far, of which
the other uses are none. -/
inductive Conversation : List (Entry δ) → List (Operation δ) → List (Reply δ) → Prop
  | nil {es : List (Entry δ)} : Conversation es [] []
  | cons {es : List (Entry δ)} {op : Operation δ} {ops : List (Operation δ)} {reply : Reply δ}
    {replies : List (Reply δ)} (answers : Answers es op reply)
    (rest : Conversation (es ++ op.entries) ops replies) :
    Conversation es (op :: ops) (reply :: replies)

theorem create_of_isLast {es : List (Entry δ)} {e : Entry δ} (last : IsLast es e)
    (settings : Settings) :
    (ofEntries es).create e.descriptor.name settings = e.factory settings := by
  rw [create, find?_ofEntries_of_isLast last]

theorem create_of_unknown {es : List (Entry δ)} {name : String} (unknown : Unknown es name)
    (settings : Settings) :
    (ofEntries es).create name settings = .error (.unknownDriver name) := by
  rw [create, find?_ofEntries_eq_none_iff.mpr unknown]

/-- What a registry finds under a name: a last registration, or nothing. -/
theorem unknown_or_isLast (es : List (Entry δ)) (name : String) :
    Unknown es name ∨ ∃ e, IsLast es e ∧ e.descriptor.name = name := by
  cases hfind : (ofEntries es).drivers.find? name with
  | none => exact .inl (find?_ofEntries_eq_none_iff.mp hfind)
  | some e => exact .inr ⟨e, find?_ofEntries.mp hfind⟩

/-- **What one use comes to.** -/
theorem answers_perform (es : List (Entry δ)) (op : Operation δ) :
    Answers es op ((ofEntries es).perform op).1 := by
  cases op with
  | register e => exact .registered e
  | descriptors => exact .listed (pairwise_descriptors es) fun d => mem_descriptors_iff
  | descriptor name =>
    show Answers es _ (.card ((ofEntries es).descriptor? name))
    rcases unknown_or_isLast es name with unknown | ⟨e, last, rfl⟩
    · rw [descriptor?, find?_ofEntries_eq_none_iff.mpr unknown]
      exact .undescribed unknown
    · rw [descriptor?, find?_ofEntries_of_isLast last]
      exact .described last
  | create name settings =>
    show Answers es _ (.driver ((ofEntries es).create name settings))
    rcases unknown_or_isLast es name with unknown | ⟨e, last, rfl⟩
    · rw [create_of_unknown unknown]
      exact .unmade unknown settings
    · rw [create_of_isLast last]
      exact .made last settings

/-- One use leaves a registry with one more registration, or as it was. -/
theorem perform_snd (es : List (Entry δ)) (op : Operation δ) :
    ((ofEntries es).perform op).2 = ofEntries (es ++ op.entries) := by
  rw [ofEntries_append]
  cases op with
  | register e => rfl
  | descriptors => rfl
  | descriptor name => rfl
  | create name settings => rfl

theorem conversation_performAll (es : List (Entry δ)) (ops : List (Operation δ)) :
    Conversation es ops ((ofEntries es).performAll ops).1 := by
  -- the registrations so far are the state that is carried on
  induction ops generalizing es with
  | nil => exact .nil
  | cons op ops ih =>
    refine .cons (answers_perform es op) ?_
    rw [perform_snd]
    exact ih (es ++ op.entries)

theorem performAll_snd (es : List (Entry δ)) (ops : List (Operation δ)) :
    ((ofEntries es).performAll ops).2 = ofEntries (es ++ ops.flatMap Operation.entries) := by
  induction ops generalizing es with
  | nil => simp [performAll]
  | cons op ops ih =>
    show ((((ofEntries es).perform op).2).performAll ops).2 = _
    rw [perform_snd, ih, List.flatMap_cons, List.append_assoc]

/-- A creation that succeeds is one by the last registration. -/
theorem create_eq_ok_iff {es : List (Entry δ)} {name : String} {settings : Settings} {d : δ} :
    (ofEntries es).create name settings = .ok d
      ↔ ∃ e, IsLast es e ∧ e.descriptor.name = name ∧ e.factory settings = .ok d := by
  constructor
  · intro hmade
    rcases unknown_or_isLast es name with unknown | ⟨e, last, rfl⟩
    · rw [create_of_unknown unknown] at hmade
      exact nomatch hmade
    · exact ⟨e, last, rfl, (create_of_isLast last settings).symm.trans hmade⟩
  · rintro ⟨e, last, rfl, hmade⟩
    rw [create_of_isLast last, hmade]

/-! ### Factories that are run -/

/-- A registration whose factory makes no driver and tells what it was run on. -/
def Entry.reporting (e : Entry δ) : Entry (Entry δ × Settings) :=
  { descriptor := e.descriptor, factory := fun settings => .ok (e, settings) }

/-- The registration whose factory a creation runs, with the settings that it is run on: what
comes back where every factory tells. -/
def ran? (es : List (Entry δ)) (name : String) (settings : Settings) :
    Option (Entry δ × Settings) :=
  ((ofEntries (es.map Entry.reporting)).create name settings).toOption

theorem IsLast.reporting {es : List (Entry δ)} {e : Entry δ} (h : IsLast es e) :
    IsLast (es.map Entry.reporting) e.reporting := by
  obtain ⟨before, after, rfl, hafter⟩ := h
  refine ⟨before.map Entry.reporting, after.map Entry.reporting, by simp, ?_⟩
  exact List.forall_mem_map.mpr hafter

theorem ran?_of_isLast {es : List (Entry δ)} {e : Entry δ} (last : IsLast es e)
    (settings : Settings) : ran? es e.descriptor.name settings = some (e, settings) := by
  have hmade := create_of_isLast last.reporting settings
  rw [ran?]
  exact congrArg Except.toOption hmade

theorem ran?_of_unknown {es : List (Entry δ)} {name : String} (unknown : Unknown es name)
    (settings : Settings) : ran? es name settings = none := by
  have unknown' : Unknown (es.map Entry.reporting) name := List.forall_mem_map.mpr unknown
  rw [ran?, create_of_unknown unknown']
  rfl

/-! ### All uses -/

/-- The registration of the Slurm driver. -/
def slurmEntry : Entry Http.Service :=
  ⟨Slurm.descriptor, fun s => do return (← Slurm.Driver.ofSettings s).service⟩

/-- The registration of the NERSC driver. -/
def nerscEntry : Entry Http.Service :=
  ⟨Nersc.descriptor, fun s => do return (← Nersc.Driver.ofSettings s).service⟩

/-- The registrations of the drivers that come with the library. -/
def bundled : List (Entry Http.Service) := [slurmEntry, nerscEntry]

theorem eq_of_mem_bundled {e : Entry Http.Service} (h : e ∈ bundled) :
    e = slurmEntry ∨ e = nerscEntry := by
  simpa [bundled] using h

theorem builtin_eq_ofEntries : builtin = ofEntries bundled := rfl

/-- The drivers that come with the library are made under their names. -/
theorem create_builtin_eq_ok_iff {name : String} {settings : Settings} {service : Http.Service} :
    builtin.create name settings = .ok service ↔
      (name = "slurm-rest" ∧ ∃ d, Slurm.Driver.ofSettings settings = .ok d ∧ service = d.service)
        ∨ name = "nersc" ∧ ∃ d, Nersc.Driver.ofSettings settings = .ok d ∧ service = d.service := by
  rw [builtin_eq_ofEntries, create_eq_ok_iff]
  constructor
  · rintro ⟨e, last, rfl, hmade⟩
    rcases eq_of_mem_bundled last.mem with rfl | rfl
    · obtain ⟨d, hd, hservice⟩ := exists_ok_of_bind hmade
      exact .inl ⟨rfl, d, hd, (Except.ok.inj hservice).symm⟩
    · obtain ⟨d, hd, hservice⟩ := exists_ok_of_bind hmade
      exact .inr ⟨rfl, d, hd, (Except.ok.inj hservice).symm⟩
  · rintro (⟨rfl, d, hd, rfl⟩ | ⟨rfl, d, hd, rfl⟩)
    · refine ⟨slurmEntry, ⟨[], [nerscEntry], rfl, ?_⟩, rfl, ?_⟩
      · exact List.forall_mem_singleton.mpr (by decide)
      · show (Slurm.Driver.ofSettings settings >>= _) = _
        rw [hd]
        rfl
    · refine ⟨nerscEntry, ⟨[slurmEntry], [], rfl, nofun⟩, rfl, ?_⟩
      show (Nersc.Driver.ofSettings settings >>= _) = _
      rw [hd]
      rfl

/-- **The last registration under a name counts, and nothing else.**  After any registrations,
those of the drivers that come with the library or none, uses of a registry come to what the
last registrations so far say, and the registry changes by further registrations alone.  A
creation runs the factory of the last registration under the name, and none if there is no
registration; the program sets up what that factory makes.  Registrations under different
names commute. -/
theorem last_registration_counts :
    (∀ {δ : Type} (es : List (Entry δ)) (ops : List (Operation δ)),
      Conversation es ops ((ofEntries es).performAll ops).1
        ∧ ((ofEntries es).performAll ops).2 = ofEntries (es ++ ops.flatMap Operation.entries)
        ∧ (∀ e, IsLast es e → ∀ settings,
          ran? es e.descriptor.name settings = some (e, settings))
        ∧ (∀ name, Unknown es name → ∀ settings, ran? es name settings = none)
        ∧ ∀ name settings d, CommandLine.setUp (ofEntries es) name settings = .ok d
          ↔ ∃ e, IsLast es e ∧ e.descriptor.name = name ∧ e.factory settings = .ok d)
      ∧ (∀ δ : Type, (empty : Registry δ) = ofEntries []) ∧ builtin = ofEntries bundled
      ∧ ∀ {δ : Type} (r : Registry δ) (e f : Entry δ), e.descriptor.name ≠ f.descriptor.name →
        (r.add e).add f = (r.add f).add e := by
  refine ⟨fun es ops => ⟨conversation_performAll es ops, performAll_snd es ops, ?_, ?_, ?_⟩,
    fun _ => rfl, builtin_eq_ofEntries, fun r e f h => r.add_comm h⟩
  · intro e last settings
    exact ran?_of_isLast last settings
  · intro name unknown settings
    exact ran?_of_unknown unknown settings
  · intro name settings d
    rw [CommandLine.setUp_eq_ok_iff, create_eq_ok_iff]

/-- A new card under a name replaces the old one in its place. -/
example : (builtin.register { Nersc.descriptor with version := "0.2.0" } fun _ =>
    .error (.protocol "no")).descriptors.map (fun d => (d.name, d.version))
      = [("nersc", "0.2.0"), ("slurm-rest", "0.0.1")] := by
  decide +kernel

end Registry

end RemoteBatch
