import RemoteBatch.Lifecycle

/-!
# Runs of a handle

A caller submits, attaches, cancels, lists and refreshes in any order, over a
backend that may answer anything at any time.  What such a run can do to the
handle is read off the plans once, as a relation with one case per change; the
invariants of the handle then only look at that relation.

## Main definitions

* `Action`, `Action.plan` — what a caller can do, and the plan behind it.
* `Situation`, `Situation.after`, `Situation.reach` — a handle with the world of
  its backend, after one action and after several.
* `Change` — the changes that one action can make to a handle.
* `Job.Sound` — what holds of every handle that a run reaches.
* `Job.Precedes` — what one handle promises about all later ones.

## Main results

* `Situation.change_after` — **an action keeps the handle or makes a `Change`.**
* `Situation.sound_reach`, `Situation.precedes_reach` — the two invariants of runs.
* `Situation.reach_create` — **what every run from a new handle keeps.**
-/

namespace RemoteBatch

open Calendar (Instant)
open Lifecycle (Report Refresh)

/-! ### Mapping plans -/

/-- A report with another value. -/
def Lifecycle.Report.map (f : α → β) (r : Report α) : Report β :=
  { value := f r.value, job := r.job, events := r.events }

@[simp] theorem Lifecycle.Report.job_map (f : α → β) (r : Report α) :
    (r.map f).job = r.job := rfl

/-- A plan whose result is passed on through a function. -/
def Plan.map (f : β → γ) : Plan β → Plan γ
  | settled result => settled (f result)
  | ask q conclude => ask q fun answer => f (conclude answer)

@[simp] theorem Plan.map_settled (f : β → γ) (result : β) :
    (settled result).map f = settled (f result) := rfl

@[simp] theorem Plan.map_ask (f : β → γ) (q : Query) (conclude : Answer q.Reply → β) :
    (ask q conclude).map f = ask q fun answer => f (conclude answer) := rfl

/-! ### Actions -/

/-- What a caller can do with a handle. -/
inductive Action
  | submit
  | attach (id : String)
  | cancel
  | list
  | refresh
  deriving DecidableEq, Repr

/-- What an action shows its caller. -/
inductive Yield
  | done (result : Except Error Unit)
  | names (result : Except Error (List String))
  | shown (seen : Refresh)

/-- The plan behind an action.  A listing has nothing to do with the handle. -/
def Action.plan (job : Job) : Action → Plan (Report Yield)
  | submit => (Lifecycle.submit job).map (·.map .done)
  | attach id => (Lifecycle.attach job id).map (·.map .done)
  | cancel => (Lifecycle.cancel job).map (·.map .done)
  | list => Lifecycle.listing.map fun told => { value := .names told.1, job, events := told.2 }
  | refresh => (Lifecycle.refresh job).map (·.map .shown)

/-- A handle and the world that its backend is in. -/
structure Situation (σ : Type) where
  job : Job
  world : σ

namespace Situation

/-- The situation after an action. -/
def after (b : Backend σ) (x : Situation σ) (a : Action) : Situation σ :=
  let ran := (a.plan x.job).run b x.world
  ⟨ran.1.1.job, ran.2⟩

/-- The situation after several actions, the first of the list first. -/
def reach (b : Backend σ) (x : Situation σ) (actions : List Action) : Situation σ :=
  actions.foldl (after b) x

/-- The time at which an action gets its answer, if it asks for one. -/
def answeredAt (b : Backend σ) (x : Situation σ) (a : Action) : Option Instant :=
  (a.plan x.job).query?.map fun q => (b.answer q x.world).1.time

@[simp] theorem reach_nil (b : Backend σ) (x : Situation σ) : reach b x [] = x := rfl

@[simp] theorem reach_cons (b : Backend σ) (x : Situation σ) (a : Action)
    (actions : List Action) : reach b x (a :: actions) = reach b (after b x a) actions := rfl

end Situation

/-! ### What an action can change -/

/-- The changes that an action can make to a handle when its answer comes at a
time.  There is no other way for a handle to change. -/
inductive Change (now : Instant) (job : Job) : Action → Job → Prop
  /-- A submission brought an id. -/
  | submitted {id : String} (given : Text.isBlankText id = false) :
    Change now job .submit ((job.bind id).transition .queued now)
  /-- The job to attach to is in a state. -/
  | attached {id : String} {state : JobState} (fresh : job.state = .new)
    (unbound : job.nativeId = none) (given : Text.isBlankText id = false) :
    Change now job (.attach id) ((job.bind id).transition state now)
  /-- The job that the handle follows is in a state. -/
  | refreshed {id : String} {state : JobState} (bound : job.nativeId = some id)
    (live : job.state.isTerminal = false) :
    Change now job .refresh (job.transition state now)

namespace Lifecycle

theorem job_concludeSubmit (job : Job) (answer : Answer String) :
    (concludeSubmit job answer).job = job
      ∨ Change answer.time job .submit (concludeSubmit job answer).job := by
  unfold concludeSubmit
  cases answer.outcome with
  | error e => exact .inl rfl
  | ok id =>
    cases blank : Text.isBlankText id with
    | true => exact .inl (by simp [blank])
    | false => exact .inr (by simpa [blank] using Change.submitted blank)

theorem job_concludeAttach {job : Job} {id : String} (fresh : job.state = .new)
    (unbound : job.nativeId = none) (given : Text.isBlankText id = false)
    (answer : Answer JobState) :
    (concludeAttach job id answer).job = job
      ∨ Change answer.time job (.attach id) (concludeAttach job id answer).job := by
  unfold concludeAttach
  cases answer.outcome with
  | error e => exact .inl rfl
  | ok state => exact .inr (.attached fresh unbound given)

theorem job_concludeRefresh {job : Job} {id : String} (bound : job.nativeId = some id)
    (live : job.state.isTerminal = false) (answer : Answer JobState) :
    (concludeRefresh job id answer).job = job
      ∨ Change answer.time job .refresh (concludeRefresh job id answer).job := by
  unfold concludeRefresh
  cases answer.outcome with
  | error e => exact .inl rfl
  | ok state => exact .inr (.refreshed bound live)

/-- An attachment asks exactly if the handle is fresh and there is an id. -/
theorem attach_cases (job : Job) (id : String) :
    (job.state ≠ .new ∨ job.nativeId ≠ none ∨ Text.isBlankText id = true)
        ∧ (∃ e, attach job id = .settled { value := .error e, job })
      ∨ job.state = .new ∧ job.nativeId = none ∧ Text.isBlankText id = false
        ∧ attach job id = .ask (.status id) (concludeAttach job id) := by
  by_cases used : job.state ≠ .new ∨ job.nativeId.isSome
  · have why : job.state ≠ .new ∨ job.nativeId ≠ none :=
      used.imp_right Option.isSome_iff_ne_none.mp
    exact .inl ⟨why.imp_right .inl, notFresh job, by rw [attach, if_pos used]⟩
  · cases blank : Text.isBlankText id with
    | true =>
      exact .inl ⟨.inr (.inr rfl), blankTarget, by rw [attach, if_neg used, blank, if_pos rfl]⟩
    | false =>
      have unused : job.state = .new ∧ job.nativeId = none := by simpa using used
      refine .inr ⟨unused.1, unused.2, rfl, ?_⟩
      rw [attach, if_neg used, blank, if_neg (by decide)]

/-- A refresh asks exactly if the handle is bound and has not ended. -/
theorem refresh_cases (job : Job) :
    (job.nativeId = none ∨ job.state.isTerminal = true)
        ∧ refresh job = .settled { value := .unchanged job.state, job }
      ∨ ∃ id, job.nativeId = some id ∧ job.state.isTerminal = false
        ∧ refresh job = .ask (.status id) (concludeRefresh job id) := by
  cases bound : job.nativeId with
  | none => exact .inl ⟨.inl rfl, by simp [refresh, bound]⟩
  | some id =>
    cases live : job.state.isTerminal with
    | true => exact .inl ⟨.inr rfl, by simp [refresh, bound, live]⟩
    | false => exact .inr ⟨id, rfl, rfl, refresh_of_live bound live⟩

end Lifecycle

namespace Situation

/-- **An action keeps the handle, or changes it at the time of its answer.** -/
theorem change_after (b : Backend σ) (x : Situation σ) (a : Action) :
    (after b x a).job = x.job
      ∨ ∃ now, answeredAt b x a = some now ∧ Change now x.job a (after b x a).job := by
  cases a with
  | submit =>
    -- the only plan that asks whatever the handle says
    rcases Lifecycle.job_concludeSubmit x.job (b.answer (.submit x.job.spec) x.world).1
      with h | h
    · exact .inl h
    · exact .inr ⟨_, rfl, h⟩
  | attach id =>
    rcases Lifecycle.attach_cases x.job id with ⟨-, e, h⟩ | ⟨fresh, unbound, given, h⟩
    · exact .inl (by simp [after, Action.plan, h])
    · rcases Lifecycle.job_concludeAttach fresh unbound given
        (b.answer (.status id) x.world).1 with hjob | hjob
      · exact .inl (by simpa [after, Action.plan, h] using hjob)
      · refine .inr ⟨_, ?_, by simpa [after, Action.plan, h] using hjob⟩
        simp [answeredAt, Action.plan, h, Plan.query?]
  | cancel =>
    -- bound or not, a cancellation hands the handle back as it is
    left
    cases bound : x.job.nativeId with
    | none => simp [after, Action.plan, Lifecycle.cancel, bound]
    | some id => simp [after, Action.plan, Lifecycle.cancel, bound]
  | list => exact .inl rfl
  | refresh =>
    rcases Lifecycle.refresh_cases x.job with ⟨-, h⟩ | ⟨id, bound, live, h⟩
    · exact .inl (by simp [after, Action.plan, h])
    · rcases Lifecycle.job_concludeRefresh bound live (b.answer (.status id) x.world).1
        with hjob | hjob
      · exact .inl (by simpa [after, Action.plan, h] using hjob)
      · refine .inr ⟨_, ?_, by simpa [after, Action.plan, h] using hjob⟩
        simp [answeredAt, Action.plan, h, Plan.query?]

end Situation

/-! ### Invariants -/

/-- What holds of every handle that a run from a new one reaches. -/
structure Job.Sound (job : Job) : Prop where
  /-- An id is something to ask a scheduler for. -/
  given : ∀ id, job.nativeId = some id → Text.isBlankText id = false
  /-- A job in progress is known to a scheduler. -/
  bound : job.state ≠ .new → job.nativeId.isSome

/-- What an earlier handle of a run promises about a later one. -/
structure Job.Precedes (earlier later : Job) : Prop where
  id : later.id = earlier.id
  spec : later.spec = earlier.spec
  /-- A job that has left its first state never comes back to it. -/
  started : earlier.state ≠ .new → later.state ≠ .new
  /-- A job that has ended stays as it is. -/
  ended : earlier.state.isTerminal = true → later.state = earlier.state

/-- Whether the time of change was written between two handles exactly if the
state changed, and then with the time given. -/
def Job.Stamped (before after : Job) (now : Option Instant) : Prop :=
  after.state = before.state ∧ after.updatedAt = before.updatedAt
    ∨ after.state ≠ before.state ∧ now = some after.updatedAt

namespace Job

theorem sound_create (id : JobId) (spec : JobSpec) (now : Instant) :
    (create id spec now).Sound where
  given := by simp [create]
  bound := by simp [create]

theorem sound_bind_transition (job : Job) {id : String} (given : Text.isBlankText id = false)
    (s : JobState) (now : Instant) : ((job.bind id).transition s now).Sound where
  given := by
    intro id' h
    rw [nativeId_transition, nativeId_bind, Option.some.injEq] at h
    exact h ▸ given
  bound := by simp

theorem Sound.transition {job : Job} (h : job.Sound) {id : String}
    (bound : job.nativeId = some id) (s : JobState) (now : Instant) :
    (job.transition s now).Sound where
  given := by simpa using h.given
  bound := by simp [bound]

theorem Precedes.refl (job : Job) : job.Precedes job := ⟨rfl, rfl, fun h => h, fun _ => rfl⟩

theorem Precedes.trans {a b c : Job} (hab : a.Precedes b) (hbc : b.Precedes c) :
    a.Precedes c where
  id := hbc.id.trans hab.id
  spec := hbc.spec.trans hab.spec
  started h := hbc.started (hab.started h)
  ended h := (hbc.ended (hab.ended h ▸ h)).trans (hab.ended h)

theorem precedes_bind (job : Job) (id : String) : job.Precedes (job.bind id) :=
  ⟨rfl, rfl, fun h => h, fun _ => rfl⟩

theorem precedes_transition (job : Job) (s : JobState) (now : Instant) :
    job.Precedes (job.transition s now) where
  id := id_transition job s now
  spec := spec_transition job s now
  started h := by
    rw [state_transition]
    split
    · -- no handle is let back into the first state
      next admitted => exact (admits_iff.mp admitted).2.2
    · exact h
  ended h := by
    rw [state_transition, if_neg]
    intro admitted
    rw [(admits_iff.mp admitted).2.1] at h
    exact Bool.false_ne_true h

theorem stamped_transition (job : Job) (s : JobState) (now : Instant) :
    job.Stamped (job.transition s now) (some now) := by
  unfold Stamped
  rw [state_transition, updatedAt_transition]
  cases admitted : job.admits s with
  | false => exact .inl ⟨rfl, rfl⟩
  | true => exact .inr ⟨fun h => (admits_iff.mp admitted).1 h.symm, rfl⟩

end Job

namespace Change

theorem sound {now : Instant} {job after : Job} {a : Action} (h : Change now job a after)
    (sound : job.Sound) : after.Sound := by
  cases h with
  | submitted given => exact Job.sound_bind_transition job given _ now
  | attached _ _ given => exact Job.sound_bind_transition job given _ now
  | refreshed bound _ => exact sound.transition bound _ now

theorem precedes {now : Instant} {job after : Job} {a : Action} (h : Change now job a after) :
    job.Precedes after := by
  cases h with
  | submitted _ => exact (Job.precedes_bind job _).trans (Job.precedes_transition _ _ now)
  | attached _ _ _ => exact (Job.precedes_bind job _).trans (Job.precedes_transition _ _ now)
  | refreshed _ _ => exact Job.precedes_transition job _ now

/-- Binding touches neither the state nor its time, so only the transition counts. -/
theorem stamped {now : Instant} {job after : Job} {a : Action} (h : Change now job a after) :
    job.Stamped after (some now) := by
  cases h with
  | submitted _ => exact Job.stamped_transition (job.bind _) _ now
  | attached _ _ _ => exact Job.stamped_transition (job.bind _) _ now
  | refreshed _ _ => exact Job.stamped_transition job _ now

end Change

namespace Situation

theorem sound_after (b : Backend σ) {x : Situation σ} (h : x.job.Sound) (a : Action) :
    (after b x a).job.Sound := by
  rcases change_after b x a with kept | ⟨now, -, change⟩
  · exact kept ▸ h
  · exact change.sound h

theorem precedes_after (b : Backend σ) (x : Situation σ) (a : Action) :
    x.job.Precedes (after b x a).job := by
  rcases change_after b x a with kept | ⟨now, -, change⟩
  · exact kept ▸ Job.Precedes.refl x.job
  · exact change.precedes

theorem stamped_after (b : Backend σ) (x : Situation σ) (a : Action) :
    x.job.Stamped (after b x a).job (answeredAt b x a) := by
  rcases change_after b x a with kept | ⟨now, answered, change⟩
  · exact .inl (kept ▸ ⟨rfl, rfl⟩)
  · exact answered ▸ change.stamped

/-- Every action keeps a handle sound, and so does every run. -/
theorem sound_reach (b : Backend σ) {x : Situation σ} (h : x.job.Sound)
    (actions : List Action) : (reach b x actions).job.Sound := by
  -- the handle is left free, as every action starts from another one
  induction actions generalizing x with
  | nil => exact h
  | cons a actions ih => exact ih (sound_after b h a)

/-- A run only moves a handle forward. -/
theorem precedes_reach (b : Backend σ) (x : Situation σ) (actions : List Action) :
    x.job.Precedes (reach b x actions).job := by
  induction actions generalizing x with
  | nil => exact Job.Precedes.refl x.job
  | cons a actions ih => exact (precedes_after b x a).trans (ih (after b x a))

/-- **What every run from a new handle keeps**, over every backend and in every
order of actions: the handle is sound, its id and specification are those it was
made with, whatever follows moves it forward only, and one more action writes the
time of change exactly if it changes the state. -/
theorem reach_create (b : Backend σ) (id : JobId) (spec : JobSpec) (now : Instant) (s : σ)
    (actions : List Action) :
    let x := reach b ⟨Job.create id spec now, s⟩ actions
    (∀ nativeId, x.job.nativeId = some nativeId → Text.isBlankText nativeId = false)
      ∧ (x.job.state ≠ .new → x.job.nativeId.isSome)
      ∧ x.job.id = id ∧ x.job.spec = spec
      ∧ (∀ more, let y := reach b x more
          (x.job.state ≠ .new → y.job.state ≠ .new)
            ∧ (x.job.state.isTerminal = true → y.job.state = x.job.state))
      ∧ ∀ a, let y := after b x a
          y.job.state = x.job.state ∧ y.job.updatedAt = x.job.updatedAt
            ∨ y.job.state ≠ x.job.state ∧ answeredAt b x a = some y.job.updatedAt := by
  intro x
  have sound : x.job.Sound := sound_reach b (Job.sound_create id spec now) actions
  have start : (Job.create id spec now).Precedes x.job :=
    precedes_reach b ⟨Job.create id spec now, s⟩ actions
  refine ⟨sound.given, sound.bound, start.id, start.spec, ?_, ?_⟩
  · intro more
    have later := precedes_reach b x more
    exact ⟨later.started, later.ended⟩
  · intro a
    exact stamped_after b x a

end Situation

end RemoteBatch
