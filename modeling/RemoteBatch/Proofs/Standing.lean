import RemoteBatch.Proofs.Account

/-!
# Where a job stands

Of a handle, the state and the id are what a scheduler has a say in.  A small machine
says how they move: a scheduler takes a job, knows it, or reports its state, and a
report moves every job that has not ended to the state reported, unless that is the
first one.  The lifecycle refines this machine, action by action and so along every
run, and what a refresh shows its caller is the move that the machine made.

## Main definitions

* `JobState.next` — the state of a job of which a state is reported.
* `Standing`, `Happening`, `Standing.step` — the machine.
* `Job.standing` — where the job of a handle stands.
* `Situation.happening?`, `Situation.happenings` — what happens to the job in an action
  and along a run.
* `Situation.Refines` — that handle and machine go together.

## Main results

* `Situation.standing_after`, `Situation.standing_reach` — **an action and a run move a
  handle as the machine moves.**
* `Situation.refines` — **what the actions of a caller do, and what they show.**
-/

namespace RemoteBatch

open Lifecycle (Report Refresh)

/-! ### The machine -/

/-- The state of a job of which a state is reported: a job that has ended stays as it
is, and no job becomes new. -/
def JobState.next (current reported : JobState) : JobState :=
  if current.isTerminal = true ∨ reported = .new then current else reported

theorem JobState.new_next (s : JobState) : JobState.new.next s = s := by
  cases s <;> rfl

theorem JobState.next_of_live {s t : JobState} (live : s.isTerminal = false) :
    s.next t = if t = .new then s else t := by
  simp [next, live]

/-- Only a report of the first state leaves a job in it. -/
theorem JobState.next_eq_new_iff {s t : JobState} : s.next t = .new ↔ s = .new ∧ t = .new := by
  cases s <;> cases t <;> decide

/-- Where a job stands: its state, and the id that a scheduler knows it by. -/
structure Standing where
  state : JobState
  id : Option String
  deriving DecidableEq, Repr

/-- What happens to a job, as far as schedulers let know. -/
inductive Happening
  /-- A scheduler takes the job and gives it an id. -/
  | accepted (id : String)
  /-- A scheduler has a job with an id, in a state. -/
  | found (id : String) (state : JobState)
  /-- The scheduler that has the job reports its state. -/
  | reported (state : JobState)
  deriving DecidableEq, Repr

/-- Where a job stands after something happened to it. -/
def Standing.step (v : Standing) : Happening → Standing
  | .accepted id => { state := v.state.next .queued, id := some id }
  | .found id state => { state := v.state.next state, id := some id }
  | .reported state => { state := v.state.next state, id := v.id }

namespace Job

/-- Where the job of a handle stands. -/
def standing (job : Job) : Standing := { state := job.state, id := job.nativeId }

theorem state_transition_eq_next (job : Job) (s : JobState) (now : Calendar.Instant) :
    (job.transition s now).state = job.state.next s := by
  rw [state_transition, JobState.next]
  cases ended : job.state.isTerminal with
  | true => simp [admits, ended]
  | false =>
    by_cases fresh : s = .new
    · simp [admits, fresh]
    · by_cases same : job.state = s
      · simp [admits, same]
      · have admitted : job.admits s = true := admits_iff.mpr ⟨same, ended, fresh⟩
        simp [admitted, fresh]

@[simp] theorem standing_transition (job : Job) (s : JobState) (now : Calendar.Instant) :
    (job.transition s now).standing = job.standing.step (.reported s) := by
  simp [standing, Standing.step, state_transition_eq_next]

end Job

/-! ### Actions and runs -/

namespace Situation

/-- What happens to the job of a handle in an action, if anything does. -/
def happening? (b : Backend σ) (x : Situation σ) : Action → Option Happening
  | .submit =>
    ((heard b x (.submit x.job.spec)).outcome.toOption.filter (!Text.isBlankText ·)).map .accepted
  | .attach id =>
    ((Action.attach id).query? x.job).bind fun _ =>
      (heard b x (.status id)).outcome.toOption.map (.found id)
  | .refresh =>
    (if x.job.state.isTerminal then none else x.job.nativeId).bind fun id =>
      (heard b x (.status id)).outcome.toOption.map .reported
  | .cancel => none
  | .list => none

/-- What happens is told by an action of its own kind. -/
theorem happening?_cases {b : Backend σ} {x : Situation σ} {a : Action} {h : Happening}
    (happened : happening? b x a = some h) :
    (∃ id, a = .submit ∧ h = .accepted id)
      ∨ (∃ id state, a = .attach id ∧ h = .found id state ∧ x.job.state = .new
        ∧ x.job.nativeId = none ∧ (heard b x (.status id)).outcome = .ok state)
      ∨ ∃ state, a = .refresh ∧ h = .reported state := by
  cases a with
  | submit =>
    obtain ⟨id, -, rfl⟩ := Option.map_eq_some_iff.mp happened
    exact .inl ⟨id, rfl, rfl⟩
  | attach id =>
    obtain ⟨q, asked, hmap⟩ := Option.bind_eq_some_iff.mp happened
    obtain ⟨state, hstate, rfl⟩ := Option.map_eq_some_iff.mp hmap
    have unsettled : ¬ (Action.attach id).SettledBy x.job := by
      rw [← Action.query?_eq_none_iff, asked]
      exact nofun
    simp only [Action.SettledBy, not_or, Classical.not_not] at unsettled
    have brought : (heard b x (.status id)).outcome = .ok state := by
      cases answered : (heard b x (.status id)).outcome with
      | error e => simp [answered, Except.toOption] at hstate
      | ok reported => simpa [answered, Except.toOption] using hstate
    exact .inr (.inl ⟨id, state, rfl, rfl, unsettled.1, unsettled.2.1, brought⟩)
  | cancel => cases happened
  | list => cases happened
  | refresh =>
    obtain ⟨id, -, hmap⟩ := Option.bind_eq_some_iff.mp happened
    obtain ⟨state, -, rfl⟩ := Option.map_eq_some_iff.mp hmap
    exact .inr (.inr ⟨state, rfl, rfl⟩)

/-- What happens to the job of a handle along a run, in the order of the actions. -/
def happenings (b : Backend σ) (x : Situation σ) : List Action → List Happening
  | [] => []
  | a :: actions => (happening? b x a).toList ++ happenings b (after b x a) actions

@[simp] theorem happenings_nil (b : Backend σ) (x : Situation σ) : happenings b x [] = [] := rfl

@[simp] theorem happenings_cons (b : Backend σ) (x : Situation σ) (a : Action)
    (actions : List Action) : happenings b x (a :: actions)
      = (happening? b x a).toList ++ happenings b (after b x a) actions := rfl

/-- An action moves the job of its handle as the machine moves. -/
theorem Course.standing {b : Backend σ} {x : Situation σ} {a : Action} {q? : Option Query}
    {r : Report Yield} (h : Course b x a q? r) :
    r.job.standing = (happening? b x a).elim x.job.standing x.job.standing.step := by
  cases h with
  | submitFailed failed => simp [happening?, failed, Except.toOption]
  | submitBlank brought blank =>
    simp [happening?, brought, blank, Except.toOption, Option.filter_some]
  | @submitted id brought given =>
    have happened : happening? b x .submit = some (.accepted id) := by
      simp [happening?, brought, given, Except.toOption, Option.filter_some]
    rw [happened]
    exact Job.standing_transition _ _ _
  | attachRefused used =>
    have settled : (Action.attach _).SettledBy x.job := used
    simp [happening?, Action.query?_eq_none_iff.mpr settled]
  | attachFailed _ _ _ failed => simp [happening?, failed, Except.toOption]
  | @attached id state fresh unbound given brought =>
    have happened : happening? b x (.attach id) = some (.found id state) := by
      simp [happening?, Action.query?, fresh, unbound, given, brought, Except.toOption]
    rw [happened]
    exact Job.standing_transition _ _ _
  | cancelRefused _ => rfl
  | canceled _ => rfl
  | listed => rfl
  | refreshIdle idle =>
    rcases idle with unbound | ended
    · simp [happening?, unbound]
    · simp [happening?, ended]
  | refreshFailed bound live failed => simp [happening?, bound, live, failed, Except.toOption]
  | refreshed bound live brought => simp [happening?, bound, live, brought, Except.toOption]

/-- **An action moves a handle as the machine moves.** -/
theorem standing_after (b : Backend σ) (x : Situation σ) (a : Action) :
    (after b x a).job.standing = (happening? b x a).elim x.job.standing x.job.standing.step :=
  (course_told b x a).standing

/-- **A run moves a handle as the machine moves.** -/
theorem standing_reach (b : Backend σ) (x : Situation σ) (actions : List Action) :
    (reach b x actions).job.standing
      = (happenings b x actions).foldl Standing.step x.job.standing := by
  induction actions generalizing x with
  | nil => rfl
  | cons a actions ih =>
    rw [reach_cons, ih, standing_after, happenings_cons, List.foldl_append]
    cases happening? b x a <;> rfl

/-! ### What callers see -/

theorem not_failsWith_of_ok {b : Backend σ} {x : Situation σ} {a : Action} {q : Query}
    (asked : a.query? x.job = some q) {reply : q.Reply}
    (answered : (heard b x q).outcome = .ok reply) (e : Error) : ¬ FailsWith b x a e := by
  rintro ⟨q', asked', failed⟩
  obtain rfl := Option.some.inj (asked.symm.trans asked')
  exact nomatch answered.symm.trans failed

namespace Course

variable {b : Backend σ} {x : Situation σ} {q? : Option Query} {r : Report Yield}

theorem submit_ok_iff (h : Course b x .submit q? r) : r.value = .done (.ok ()) ↔
    ∃ id, (heard b x (.submit x.job.spec)).outcome = .ok id ∧ Text.isBlankText id = false := by
  cases h with
  | submitFailed failed => simp [failed]
  | submitBlank brought blank => simp [brought, blank]
  | submitted brought given => simp [brought, given]

theorem of_submitted (h : Course b x .submit q? r) (ok : r.value = .done (.ok ())) :
    r.job.state = x.job.state.next .queued
      ∧ ∃ id, r.job.nativeId = some id ∧ (heard b x (.submit x.job.spec)).outcome = .ok id := by
  cases h with
  | submitFailed _ => exact nomatch ok
  | submitBlank _ _ => exact nomatch ok
  | @submitted id brought _ =>
    refine ⟨Job.state_transition_eq_next _ _ _, id, ?_, brought⟩
    rw [Job.nativeId_transition, Job.nativeId_bind]

theorem attach_ok_iff {id : String} (h : Course b x (.attach id) q? r) :
    r.value = .done (.ok ()) ↔ ¬ (Action.attach id).SettledBy x.job
      ∧ ∃ state, (heard b x (.status id)).outcome = .ok state := by
  cases h with
  | attachRefused used =>
    have settled : (Action.attach id).SettledBy x.job := used
    simp [settled]
  | attachFailed fresh unbound given failed => simp [failed]
  | attached fresh unbound given brought =>
    simp [Action.SettledBy, fresh, unbound, given, brought]

theorem of_attached {id : String} (h : Course b x (.attach id) q? r)
    (ok : r.value = .done (.ok ())) :
    r.job.nativeId = some id ∧ (heard b x (.status id)).outcome = .ok r.job.state := by
  cases h with
  | attachRefused _ => exact nomatch ok
  | attachFailed _ _ _ _ => exact nomatch ok
  | attached fresh _ _ brought =>
    constructor
    · rw [Job.nativeId_transition, Job.nativeId_bind]
    · -- a fresh handle goes wherever the report says, also nowhere
      rw [Job.state_transition_eq_next, Job.state_bind, fresh, JobState.new_next]
      exact brought

/-- A refresh shows a failure, that no move was made, or the move that was. -/
theorem shown_cases (h : Course b x .refresh q? r) :
    (∃ e, r.value = .shown (.failed e) ∧ FailsWith b x .refresh e ∧ r.job.state = x.job.state)
      ∨ (r.value = .shown (.unchanged r.job.state) ∧ (∀ e, ¬ FailsWith b x .refresh e)
        ∧ r.job.state = x.job.state)
      ∨ r.value = .shown (.updated x.job.state r.job.state) ∧ r.job.state ≠ x.job.state
        ∧ x.job.state.isTerminal = false ∧ r.job.state ≠ .new := by
  have hquery := h.query?_eq
  cases h with
  | refreshIdle idle =>
    right; left
    refine ⟨rfl, ?_, rfl⟩
    rintro e ⟨q, asked, -⟩
    exact nomatch hquery.trans asked
  | refreshFailed _ _ failed => exact .inl ⟨_, rfl, ⟨_, hquery.symm, failed⟩, rfl⟩
  | @refreshed id state bound live brought =>
    right
    have moved := Job.state_transition x.job state (heard b x (.status id)).time
    cases admitted : x.job.admits state with
    | false =>
      left
      rw [admitted, if_neg Bool.false_ne_true] at moved
      exact ⟨by simp, not_failsWith_of_ok hquery.symm brought, moved⟩
    | true =>
      right
      rw [admitted, if_pos rfl] at moved
      obtain ⟨apart, -, started⟩ := Job.admits_iff.mp admitted
      rw [← moved] at apart started
      exact ⟨by simp [moved], apart.symm, live, started⟩

theorem updated_iff (h : Course b x .refresh q? r) (before now : JobState) :
    r.value = .shown (.updated before now)
      ↔ r.job.state ≠ x.job.state ∧ before = x.job.state ∧ now = r.job.state := by
  rcases h.shown_cases with ⟨e, hvalue, -, kept⟩ | ⟨hvalue, -, kept⟩ | ⟨hvalue, moved, -, -⟩
  · simp [hvalue, kept]
  · simp [hvalue, kept]
  · simp [hvalue, moved, eq_comm]

theorem unchanged_iff (h : Course b x .refresh q? r) (state : JobState) :
    r.value = .shown (.unchanged state) ↔ r.job.state = x.job.state
      ∧ (∀ e, ¬ FailsWith b x .refresh e) ∧ state = r.job.state := by
  rcases h.shown_cases with ⟨e, hvalue, fails, -⟩ | ⟨hvalue, sound, kept⟩ | ⟨hvalue, moved, -, -⟩
  · rw [hvalue]
    exact iff_of_false nofun fun unchanged => unchanged.2.1 e fails
  · simp [hvalue, kept, sound, eq_comm]
  · simp [hvalue, moved]

theorem of_updated (h : Course b x .refresh q? r) {before now : JobState}
    (hvalue : r.value = .shown (.updated before now)) :
    before.isTerminal = false ∧ now ≠ .new := by
  obtain ⟨moved, rfl, rfl⟩ := (h.updated_iff before now).mp hvalue
  rcases h.shown_cases with ⟨e, -, -, kept⟩ | ⟨-, -, kept⟩ | ⟨-, -, live, started⟩
  · exact absurd kept moved
  · exact absurd kept moved
  · exact ⟨live, started⟩

end Course

/-- That handle and machine go together in the actions of a caller: what each of them
does to the handle, and what it shows. -/
structure Refines (b : Backend σ) (x : Situation σ) : Prop where
  /-- A submission succeeds exactly if it brings an id. -/
  submit_ok_iff : (told b x .submit).value = .done (.ok ())
    ↔ ∃ id, (heard b x (.submit x.job.spec)).outcome = .ok id ∧ Text.isBlankText id = false
  /-- It binds a new handle to that id and leaves it queued. -/
  submitted : x.job.state = .new → (told b x .submit).value = .done (.ok ()) →
    (after b x .submit).job.state = .queued
      ∧ ∃ id, (after b x .submit).job.nativeId = some id
        ∧ (heard b x (.submit x.job.spec)).outcome = .ok id
  /-- An attachment succeeds exactly if the handle is fresh and the state comes. -/
  attach_ok_iff : ∀ id, (told b x (.attach id)).value = .done (.ok ())
    ↔ ¬ (Action.attach id).SettledBy x.job
      ∧ ∃ state, (heard b x (.status id)).outcome = .ok state
  /-- It binds the handle to the id given and leaves it in the state reported. -/
  attached : ∀ id, (told b x (.attach id)).value = .done (.ok ()) →
    (after b x (.attach id)).job.nativeId = some id
      ∧ (heard b x (.status id)).outcome = .ok (after b x (.attach id)).job.state
  /-- A refresh moves a live handle to the state reported, unless that is the first. -/
  refreshed : ∀ id state, x.job.nativeId = some id → x.job.state.isTerminal = false →
    (heard b x (.status id)).outcome = .ok state →
    (after b x .refresh).job.state = if state = .new then x.job.state else state
  /-- It shows a change exactly if there was one, with the states before and after. -/
  updated_iff : ∀ before now, (told b x .refresh).value = .shown (.updated before now)
    ↔ (after b x .refresh).job.state ≠ x.job.state
      ∧ before = x.job.state ∧ now = (after b x .refresh).job.state
  /-- It shows no change exactly if there was none and nothing failed. -/
  unchanged_iff : ∀ state, (told b x .refresh).value = .shown (.unchanged state)
    ↔ (after b x .refresh).job.state = x.job.state
      ∧ (∀ e, ¬ FailsWith b x .refresh e) ∧ state = (after b x .refresh).job.state
  /-- No change that it shows leaves a terminal state or goes to the first one. -/
  updated_moves : ∀ before now, (told b x .refresh).value = .shown (.updated before now) →
    before.isTerminal = false ∧ now ≠ .new
  /-- Along a run, the handle stands where the machine stands. -/
  runs : ∀ actions, (reach b x actions).job.standing
    = (happenings b x actions).foldl Standing.step x.job.standing

/-- **What the actions of a caller do, and what they show**, go together with the
machine, whatever the handle and the backend are. -/
theorem refines (b : Backend σ) (x : Situation σ) : Refines b x where
  submit_ok_iff := (course_told b x .submit).submit_ok_iff
  submitted := by
    intro fresh ok
    obtain ⟨hstate, hid⟩ := (course_told b x .submit).of_submitted ok
    rw [fresh] at hstate
    exact ⟨hstate, hid⟩
  attach_ok_iff id := (course_told b x (.attach id)).attach_ok_iff
  attached id := (course_told b x (.attach id)).of_attached
  refreshed := by
    intro id state bound live brought
    have hstanding := congrArg Standing.state (standing_after b x .refresh)
    have happened : happening? b x .refresh = some (.reported state) := by
      simp [happening?, bound, live, brought, Except.toOption]
    rw [happened] at hstanding
    rw [← JobState.next_of_live live]
    exact hstanding
  updated_iff := (course_told b x .refresh).updated_iff
  unchanged_iff := (course_told b x .refresh).unchanged_iff
  updated_moves _ _ := (course_told b x .refresh).of_updated
  runs := standing_reach b x

end Situation

end RemoteBatch
