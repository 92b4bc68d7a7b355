import Mathlib.Data.List.Induction
import RemoteBatch.Nersc.Service
import RemoteBatch.Proofs.Standing

/-!
# The id of a handle

A handle is bound to an id by a submission or an attachment that succeeds.  An
attachment looks whether the handle is bound already, a submission does not.  So the
id of a handle is lost exactly if a bound handle is submitted.  A caller who submits
new handles only comes to that all the same: a handle that was attached to a job of
which the state is reported as the first one is bound and still new.

## Main definitions

* `Happening.id?`, `Situation.bindings` — the ids that a run binds a handle to.
* `Situation.AtSubmissions` — what holds of a run wherever it submits.

## Main results

* `Situation.length_bindings_le_one_iff`, `Situation.keeps_iff` — when a handle is
  bound once, and when it keeps its id.
* `Situation.found_new_of_bound` — how a handle comes to be bound and new.
* `Situation.bound_once_iff` — **what a run of a caller who submits new handles keeps.**
* `Situation.submit_loses_id` — **a submission that takes the place of an attachment.**
-/

namespace RemoteBatch

/-! ### What binds a handle -/

/-- The id that comes with a happening, if one does. -/
def Happening.id? : Happening → Option String
  | accepted id => some id
  | found id _ => some id
  | reported _ => none

theorem Standing.id_step (v : Standing) (h : Happening) : (v.step h).id = h.id?.or v.id := by
  cases h <;> rfl

namespace Situation

open Http (Network Response)

variable {σ : Type} {b : Backend σ}

/-- The ids that a run binds its handle to, in the order of the actions. -/
def bindings (b : Backend σ) (x : Situation σ) (actions : List Action) : List String :=
  (happenings b x actions).filterMap Happening.id?

@[simp] theorem bindings_nil (x : Situation σ) : bindings b x [] = [] := rfl

@[simp] theorem bindings_cons (x : Situation σ) (a : Action) (actions : List Action) :
    bindings b x (a :: actions)
      = ((happening? b x a).bind Happening.id?).toList ++ bindings b (after b x a) actions := by
  rw [bindings, happenings_cons, List.filterMap_append]
  cases happening? b x a with
  | none => rfl
  | some h => cases hid : h.id? <;> simp [hid, bindings]

theorem nativeId_after (b : Backend σ) (x : Situation σ) (a : Action) :
    (after b x a).job.nativeId = ((happening? b x a).bind Happening.id?).or x.job.nativeId := by
  have h := congrArg Standing.id (standing_after b x a)
  cases happened : happening? b x a with
  | none => rwa [happened] at h
  | some happening =>
    rw [happened] at h
    exact h.trans (Standing.id_step _ _)

/-- Only a submission binds a handle that is bound. -/
theorem eq_submit_of_bound {x : Situation σ} {a : Action} {id : String}
    (bound : x.job.nativeId ≠ none) (h : (happening? b x a).bind Happening.id? = some id) :
    a = .submit ∧ happening? b x .submit = some (.accepted id) := by
  obtain ⟨happening, happened, hid⟩ := Option.bind_eq_some_iff.mp h
  rcases happening?_cases happened with ⟨id', rfl, rfl⟩ | ⟨id', state, -, -, -, unbound, -⟩ |
      ⟨state, -, rfl⟩
  · obtain rfl := Option.some.inj hid
    exact ⟨rfl, happened⟩
  · exact absurd unbound bound
  · exact nomatch hid

/-! ### Submissions of a run -/

/-- That something holds of the situation wherever a run submits its handle. -/
def AtSubmissions (b : Backend σ) (P : Situation σ → Prop) (x : Situation σ)
    (actions : List Action) : Prop :=
  ∀ first rest, actions = first ++ .submit :: rest → P (reach b x first)

theorem atSubmissions_nil (P : Situation σ → Prop) (x : Situation σ) :
    AtSubmissions b P x [] := by
  intro first rest h
  simp at h

theorem atSubmissions_cons {P : Situation σ → Prop} {x : Situation σ} {a : Action}
    {actions : List Action} : AtSubmissions b P x (a :: actions)
      ↔ (a = .submit → P x) ∧ AtSubmissions b P (after b x a) actions := by
  constructor
  · intro h
    constructor
    · rintro rfl
      exact h [] actions rfl
    · intro first rest hactions
      exact h (a :: first) rest (by rw [hactions, List.cons_append])
  · rintro ⟨here, later⟩ first rest hactions
    cases first with
    | nil => exact here (List.cons.inj hactions).1
    | cons c first =>
      obtain ⟨rfl, hrest⟩ := List.cons.inj hactions
      exact later first rest hrest

theorem reach_append (x : Situation σ) (first rest : List Action) :
    reach b x (first ++ rest) = reach b (reach b x first) rest := List.foldl_append

theorem atSubmissions_append {P : Situation σ → Prop} {x : Situation σ}
    {first rest : List Action} : AtSubmissions b P x (first ++ rest)
      ↔ AtSubmissions b P x first ∧ AtSubmissions b P (reach b x first) rest := by
  induction first generalizing x with
  | nil => simp [atSubmissions_nil]
  | cons a first ih => rw [List.cons_append, atSubmissions_cons, atSubmissions_cons, ih, and_assoc,
      reach_cons]

/-- That a submission would bind the handle, and is bound already. -/
def BindsAgain (b : Backend σ) (x : Situation σ) : Prop :=
  x.job.nativeId ≠ none ∧ ∃ id, happening? b x .submit = some (.accepted id)

/-- A handle is bound no more than once exactly if it is not submitted when bound. -/
theorem length_bindings_le_one_iff (x : Situation σ) (actions : List Action) :
    (x.job.nativeId.toList ++ bindings b x actions).length ≤ 1
      ↔ AtSubmissions b (fun y => ¬ BindsAgain b y) x actions := by
  -- the handle is left free, and may be bound to begin with
  induction actions generalizing x with
  | nil =>
    refine iff_of_true ?_ (atSubmissions_nil _ _)
    cases x.job.nativeId <;> simp
  | cons a actions ih =>
    rw [atSubmissions_cons, ← ih, bindings_cons, nativeId_after]
    cases hid : (happening? b x a).bind Happening.id? with
    | none =>
      have once : a = .submit → ¬ BindsAgain b x := by
        rintro rfl ⟨-, id, happened⟩
        rw [happened] at hid
        exact nomatch hid
      rw [and_iff_right once]
      rfl
    | some id =>
      cases bound : x.job.nativeId with
      | none =>
        have once : ¬ BindsAgain b x := fun again => again.1 bound
        simp [once]
      | some n =>
        obtain ⟨rfl, happened⟩ := eq_submit_of_bound (by rw [bound]; exact nofun) hid
        have again : BindsAgain b x := ⟨by rw [bound]; exact nofun, id, happened⟩
        simp [again]

theorem nativeId_reach (x : Situation σ) (actions : List Action) :
    (reach b x actions).job.nativeId
      = (x.job.nativeId.toList ++ bindings b x actions).getLast? := by
  induction actions generalizing x with
  | nil => cases bound : x.job.nativeId <;> simp [bound]
  | cons a actions ih =>
    rw [reach_cons, ih, nativeId_after, bindings_cons]
    cases (happening? b x a).bind Happening.id? with
    | none => rfl
    | some id => cases x.job.nativeId <;> simp [List.getLast?_cons]

/-- A handle is bound by the bindings of its run, and by no more than one of them
exactly if it is not submitted when bound. -/
theorem bindings_eq_iff {x : Situation σ} (unbound : x.job.nativeId = none)
    (actions : List Action) : bindings b x actions = (reach b x actions).job.nativeId.toList
      ↔ AtSubmissions b (fun y => ¬ BindsAgain b y) x actions := by
  rw [← length_bindings_le_one_iff, nativeId_reach, unbound, Option.toList_none, List.nil_append]
  generalize bindings b x actions = ids
  constructor
  · intro h
    rw [h]
    cases ids.getLast? <;> simp
  · intro h
    rcases ids with _ | ⟨id, _ | ⟨id', ids⟩⟩
    · rfl
    · rfl
    · simp at h

/-! ### Keeping the id -/

/-- That a submission would bind the handle to another id than it has. -/
def BindsAnew (b : Backend σ) (x : Situation σ) : Prop :=
  ∃ n id, x.job.nativeId = some n ∧ happening? b x .submit = some (.accepted id) ∧ id ≠ n

/-- That a handle keeps the id that it is bound to, from any point of a run to any
later one. -/
def Keeps (b : Backend σ) (x : Situation σ) (actions : List Action) : Prop :=
  ∀ first more rest n, actions = first ++ more ++ rest →
    (reach b x first).job.nativeId = some n → (reach b x (first ++ more)).job.nativeId = some n

theorem nativeId_reach_of_bound {x : Situation σ} {n : String} (bound : x.job.nativeId = some n)
    {actions : List Action} (h : AtSubmissions b (fun y => ¬ BindsAnew b y) x actions) :
    (reach b x actions).job.nativeId = some n := by
  induction actions generalizing x with
  | nil => exact bound
  | cons a actions ih =>
    obtain ⟨here, later⟩ := atSubmissions_cons.mp h
    refine ih ?_ later
    rw [nativeId_after]
    cases hid : (happening? b x a).bind Happening.id? with
    | none => exact bound
    | some id =>
      obtain ⟨rfl, happened⟩ := eq_submit_of_bound (by rw [bound]; exact nofun) hid
      by_cases same : id = n
      · rw [same]
        rfl
      · exact absurd ⟨n, id, bound, happened, same⟩ (here rfl)

theorem keeps_iff {x : Situation σ} {actions : List Action} :
    Keeps b x actions ↔ AtSubmissions b (fun y => ¬ BindsAnew b y) x actions := by
  constructor
  · rintro keeps first rest hactions ⟨n, id, bound, happened, other⟩
    have later := keeps first [.submit] rest n (by rw [hactions]; simp) bound
    rw [reach_append, reach_cons, reach_nil, nativeId_after, happened] at later
    exact other (Option.some.inj later)
  · rintro h first more rest n rfl bound
    obtain ⟨-, hmore⟩ := atSubmissions_append.mp (atSubmissions_append.mp h).1
    rw [reach_append]
    exact nativeId_reach_of_bound bound hmore

/-! ### Bound and still new -/

/-- **A handle that is bound and still new was attached**, to a job whose state was
reported as the first one. -/
theorem found_new_of_bound {x : Situation σ} (unbound : x.job.nativeId = none)
    {actions : List Action} {n : String} (fresh : (reach b x actions).job.state = .new)
    (bound : (reach b x actions).job.nativeId = some n) :
    ∃ first rest, actions = first ++ .attach n :: rest
      ∧ (heard b (reach b x first) (.status n)).outcome = .ok .new := by
  -- from the end of the run, where the handle was last bound
  induction actions using List.reverseRecOn with
  | nil => exact nomatch unbound.symm.trans bound
  | append_singleton actions a ih =>
    rw [reach_append, reach_cons, reach_nil] at fresh bound
    have hstanding := standing_after b (reach b x actions) a
    -- an action that leaves the job new and bound finds it so, or is the attachment
    have earlier (hfresh : (reach b x actions).job.state = .new)
        (hbound : (reach b x actions).job.nativeId = some n) :
        ∃ first rest, actions ++ [a] = first ++ .attach n :: rest
          ∧ (heard b (reach b x first) (.status n)).outcome = .ok .new := by
      obtain ⟨first, rest, hactions, reported⟩ := ih hfresh hbound
      exact ⟨first, rest ++ [a], by rw [hactions, List.append_assoc, List.cons_append], reported⟩
    cases happened : happening? b (reach b x actions) a with
    | none =>
      rw [happened] at hstanding
      exact earlier ((congrArg Standing.state hstanding).symm.trans fresh)
        ((congrArg Standing.id hstanding).symm.trans bound)
    | some h =>
      rw [happened] at hstanding
      have hstate := (congrArg Standing.state hstanding).symm.trans fresh
      have hid := (congrArg Standing.id hstanding).symm.trans bound
      rcases happening?_cases happened with ⟨id, -, rfl⟩ | ⟨id, state, rfl, rfl, -, -, answered⟩ |
          ⟨state, -, rfl⟩
      · -- a job that a scheduler takes is queued
        exact nomatch (JobState.next_eq_new_iff.mp hstate).2
      · obtain rfl : state = .new := (JobState.next_eq_new_iff.mp hstate).2
        obtain rfl : id = n := Option.some.inj hid
        exact ⟨actions, [], rfl, answered⟩
      · exact earlier (JobState.next_eq_new_iff.mp hstate).1 hid

/-- **What a run from a new handle keeps if it submits the handle only while that is
new**: the handle results from one submission or attachment exactly if it is never
submitted when bound; it keeps its id exactly if no submission brings another; and a
handle that is submitted when bound was attached to a job whose state was reported as
the first one. -/
theorem bound_once_iff (b : Backend σ) (id : JobId) (spec : JobSpec) (now : Calendar.Instant)
    (s : σ) (actions : List Action)
    (fresh : AtSubmissions b (fun y => y.job.state = .new) ⟨Job.create id spec now, s⟩ actions) :
    let x : Situation σ := ⟨Job.create id spec now, s⟩
    (bindings b x actions = (reach b x actions).job.nativeId.toList
        ↔ AtSubmissions b (fun y => ¬ BindsAgain b y) x actions)
      ∧ (Keeps b x actions ↔ AtSubmissions b (fun y => ¬ BindsAnew b y) x actions)
      ∧ ∀ first rest n, actions = first ++ .submit :: rest →
          (reach b x first).job.nativeId = some n →
          ∃ before between, first = before ++ .attach n :: between
            ∧ (heard b (reach b x before) (.status n)).outcome = .ok .new := by
  intro x
  refine ⟨bindings_eq_iff rfl actions, keeps_iff, ?_⟩
  intro first rest n hactions bound
  exact found_new_of_bound rfl (fresh first rest hactions) bound

/-! ### A bound handle that is submitted -/

/-- The backend of a NERSC machine. -/
def machine : Backend Network := (Nersc.Driver.mk ⟨"http://h"⟩ "t" "m").service.backend

/-- A new handle before a network that gives some replies. -/
def newcomer (replies : List String) : Situation Network :=
  ⟨Job.create .zero { executable := "/bin/true" } .epoch,
    { line := .up (replies.map fun reply =>
        .response ⟨200, .whole (Text.encodeUtf8 reply.toList)⟩)
      now := .epoch }⟩

/-- What a job gets that is submitted and then looked up. -/
def taken : List String :=
  ["\x7b\"jobid\":1000\x7d", "\x7b\"output\":[\x7b\"state\":\"RUNNING\"\x7d]\x7d"]

/-- What a job gets that is attached in a state that no table holds, and then
submitted. -/
def unlisted : List String :=
  ["\x7b\"output\":[\x7b\"state\":\"CONFIGURING\"\x7d]\x7d", "\x7b\"jobid\":1000\x7d"]

/-- A job that is submitted once is bound once and keeps its id. -/
theorem bound_once_iff_taken :
    (reach machine (newcomer taken) [.submit, .refresh]).job.state = .active
      ∧ bindings machine (newcomer taken) [.submit, .refresh] = ["1000"]
      ∧ Keeps machine (newcomer taken) [.submit, .refresh] := by
  have fresh : AtSubmissions machine (fun y => y.job.state = .new) (newcomer taken)
      [.submit, .refresh] := by
    rw [atSubmissions_cons, atSubmissions_cons]
    exact ⟨fun _ => rfl, nofun, atSubmissions_nil _ _⟩
  obtain ⟨once, keeps, -⟩ := bound_once_iff machine _ _ _ _ _ fresh
  have hbindings : bindings machine (newcomer taken) [.submit, .refresh] = ["1000"] := by
    decide +kernel
  refine ⟨by decide +kernel, hbindings, keeps.mpr ?_⟩
  have apart := once.mp (by decide +kernel)
  rintro first rest hactions ⟨n, id, bound, happened, -⟩
  exact apart first rest hactions ⟨by rw [bound]; exact nofun, id, happened⟩

/-- **A submission of a new handle that loses an id.**  The job 999 is reported in a
state that no table holds, which counts as the first one; the handle that was attached
to it is new, and is submitted as the job 1000. -/
theorem submit_loses_id :
    AtSubmissions machine (fun y => y.job.state = .new) (newcomer unlisted)
        [.attach "999", .submit]
      ∧ (reach machine (newcomer unlisted) [.attach "999"]).job.nativeId = some "999"
      ∧ (reach machine (newcomer unlisted) [.attach "999", .submit]).job.nativeId = some "1000"
      ∧ bindings machine (newcomer unlisted) [.attach "999", .submit] = ["999", "1000"] := by
  refine ⟨?_, ?_, ?_, ?_⟩
  · rw [atSubmissions_cons, atSubmissions_cons]
    refine ⟨nofun, ?_, atSubmissions_nil _ _⟩
    intro _
    show (reach machine (newcomer unlisted) [.attach "999"]).job.state = .new
    decide +kernel
  · decide +kernel
  · decide +kernel
  · decide +kernel

end Situation

end RemoteBatch
