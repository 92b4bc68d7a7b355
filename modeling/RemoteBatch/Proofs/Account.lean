import RemoteBatch.Proofs.Handle

/-!
# What an action asks and tells

An action takes one of a few courses: the handle settles it, or one query is asked
and fails, or it brings an id or a state or a list.  Each course is listed once, with
the query and the whole report.  That the account given to a caller is in order, the
handle, the queries and the events together, is then read off the list.

## Main definitions

* `Backend.logged` — a backend that writes down what it is asked.
* `Yield.error?` — the error that a caller is shown.
* `Action.query?`, `Action.SettledBy` — what an action asks, and the actions that a
  handle settles.
* `Situation.heard`, `Situation.told` — the answer to a query, and the report of an
  action.
* `Situation.Course` — the courses that actions take.
* `Situation.Accounted` — an account that is in order.

## Main results

* `Situation.course_told` — **an action takes one of the courses.**
* `Situation.accounted` — **the account of every action is in order.**
-/

namespace RemoteBatch

open Lifecycle (Report Refresh)

/-! ### Queries -/

/-- A backend that writes down what it is asked, and answers as before. -/
def Backend.logged (b : Backend σ) : Backend (σ × List Query) where
  descriptor := b.descriptor
  states := b.states
  answer q s := ((b.answer q s.1).1, (b.answer q s.1).2, s.2 ++ [q])

/-- Writing down what is asked changes nothing else. -/
theorem Plan.run_logged (b : Backend σ) (s : σ) (log : List Query) (plan : Plan β) :
    plan.run b.logged (s, log)
      = ((plan.run b s).1, (plan.run b s).2, log ++ plan.query?.toList) := by
  cases plan with
  | settled result => simp [Plan.query?]
  | ask q conclude => rfl

namespace Action

/-- The query that an action asks for a handle, if it asks one. -/
def query? (job : Job) : Action → Option Query
  | submit => some (.submit job.spec)
  | attach id =>
    if job.state = .new ∧ job.nativeId = none ∧ Text.isBlankText id = false then some (.status id)
    else none
  | cancel => job.nativeId.map .cancel
  | list => some .list
  | refresh => if job.state.isTerminal then none else job.nativeId.map .status

/-- Whether a handle settles an action, so that there is nothing to ask. -/
def SettledBy (job : Job) : Action → Prop
  | submit => False
  | attach id => job.state ≠ .new ∨ job.nativeId ≠ none ∨ Text.isBlankText id = true
  | cancel => job.nativeId = none
  | list => False
  | refresh => job.nativeId = none ∨ job.state.isTerminal = true

theorem query?_eq_none_iff {job : Job} {a : Action} : a.query? job = none ↔ a.SettledBy job := by
  cases a with
  | submit => simp [query?, SettledBy]
  | attach id =>
    by_cases fresh : job.state = .new
    · cases bound : job.nativeId with
      | none => cases given : Text.isBlankText id <;> simp [query?, SettledBy, fresh, bound, given]
      | some n => simp [query?, SettledBy, fresh, bound]
    · simp [query?, SettledBy, fresh]
  | cancel => simp [query?, SettledBy]
  | list => simp [query?, SettledBy]
  | refresh => cases live : job.state.isTerminal <;> simp [query?, SettledBy, live]

end Action

/-- The error that a caller is shown. -/
def Yield.error? : Yield → Option Error
  | done (.error e) => some e
  | names (.error e) => some e
  | shown seen => seen.error?
  | _ => none

namespace Situation

/-- The answer that a query would get. -/
def heard (b : Backend σ) (x : Situation σ) (q : Query) : Answer q.Reply := (b.answer q x.world).1

/-- What an action reports. -/
def told (b : Backend σ) (x : Situation σ) (a : Action) : Report Yield :=
  ((a.plan x.job).run b x.world).1.1

/-! ### Courses -/

/-- The courses that an action can take, with the query that it asks and what it
reports. -/
inductive Course (b : Backend σ) (x : Situation σ) : Action → Option Query → Report Yield → Prop
  | submitFailed {e : Error} (answered : (heard b x (.submit x.job.spec)).outcome = .error e) :
    Course b x .submit (some (.submit x.job.spec))
      { value := .done (.error e), job := x.job, events := [Lifecycle.submitFailed x.job e] }
  | submitBlank {id : String} (answered : (heard b x (.submit x.job.spec)).outcome = .ok id)
    (blank : Text.isBlankText id = true) :
    Course b x .submit (some (.submit x.job.spec))
      { value := .done (.error Lifecycle.blankId), job := x.job
        events := [Lifecycle.submitFailed x.job Lifecycle.blankId] }
  | submitted {id : String} (answered : (heard b x (.submit x.job.spec)).outcome = .ok id)
    (given : Text.isBlankText id = false) :
    Course b x .submit (some (.submit x.job.spec))
      { value := .done (.ok ())
        job := (x.job.bind id).transition .queued (heard b x (.submit x.job.spec)).time
        events := [Lifecycle.submitted x.job id] }
  | attachRefused {id : String} {e : Error}
    (used : x.job.state ≠ .new ∨ x.job.nativeId ≠ none ∨ Text.isBlankText id = true) :
    Course b x (.attach id) none { value := .done (.error e), job := x.job }
  | attachFailed {id : String} {e : Error} (fresh : x.job.state = .new)
    (unbound : x.job.nativeId = none) (given : Text.isBlankText id = false)
    (answered : (heard b x (.status id)).outcome = .error e) :
    Course b x (.attach id) (some (.status id))
      { value := .done (.error e), job := x.job
        events := [.error ("Failed to attach to job " ++ id ++ ": " ++ e.message)] }
  | attached {id : String} {state : JobState} (fresh : x.job.state = .new)
    (unbound : x.job.nativeId = none) (given : Text.isBlankText id = false)
    (answered : (heard b x (.status id)).outcome = .ok state) :
    Course b x (.attach id) (some (.status id))
      { value := .done (.ok ())
        job := (x.job.bind id).transition state (heard b x (.status id)).time
        events := [Lifecycle.attached
          ((x.job.bind id).transition state (heard b x (.status id)).time) id] }
  | cancelRefused (unbound : x.job.nativeId = none) :
    Course b x .cancel none { value := .done (.error Lifecycle.cannotCancel), job := x.job }
  | canceled {id : String} (bound : x.job.nativeId = some id) :
    Course b x .cancel (some (.cancel id))
      { value := .done (heard b x (.cancel id)).outcome, job := x.job
        events := [Lifecycle.cancelEvent id (heard b x (.cancel id)).outcome] }
  | listed :
    Course b x .list (some .list)
      { value := .names (heard b x .list).outcome, job := x.job
        events := Lifecycle.listingEvents (heard b x .list).outcome }
  | refreshIdle (idle : x.job.nativeId = none ∨ x.job.state.isTerminal = true) :
    Course b x .refresh none { value := .shown (.unchanged x.job.state), job := x.job }
  | refreshFailed {id : String} {e : Error} (bound : x.job.nativeId = some id)
    (live : x.job.state.isTerminal = false)
    (answered : (heard b x (.status id)).outcome = .error e) :
    Course b x .refresh (some (.status id))
      { value := .shown (.failed e), job := x.job
        events := [.warning ("Failed to update status for job " ++ id ++ ": " ++ e.message)] }
  | refreshed {id : String} {state : JobState} (bound : x.job.nativeId = some id)
    (live : x.job.state.isTerminal = false)
    (answered : (heard b x (.status id)).outcome = .ok state) :
    Course b x .refresh (some (.status id))
      { value := .shown (if x.job.admits state then .updated x.job.state state
          else .unchanged (x.job.transition state (heard b x (.status id)).time).state)
        job := x.job.transition state (heard b x (.status id)).time }

theorem course_submit (b : Backend σ) (x : Situation σ) :
    Course b x .submit (some (.submit x.job.spec)) (told b x .submit) := by
  have hrun : told b x .submit
      = (Lifecycle.concludeSubmit x.job (heard b x (.submit x.job.spec))).map .done := rfl
  rw [hrun]
  cases answered : (heard b x (.submit x.job.spec)).outcome with
  | error e =>
    rw [Lifecycle.concludeSubmit_of_error answered]
    exact .submitFailed answered
  | ok id =>
    cases blank : Text.isBlankText id with
    | false =>
      rw [Lifecycle.concludeSubmit_of_ok answered blank]
      exact .submitted answered blank
    | true =>
      have hblank : Lifecycle.concludeSubmit x.job (heard b x (.submit x.job.spec))
          = { value := .error Lifecycle.blankId, job := x.job
              events := [Lifecycle.submitFailed x.job Lifecycle.blankId] } := by
        simp [Lifecycle.concludeSubmit, answered, blank]
      rw [hblank]
      exact .submitBlank answered blank

theorem course_attach (b : Backend σ) (x : Situation σ) (id : String) :
    Course b x (.attach id) ((Action.attach id).plan x.job).query? (told b x (.attach id)) := by
  rcases Lifecycle.attach_cases x.job id with ⟨used, e, h⟩ | ⟨fresh, unbound, given, h⟩
  · have hquery : ((Action.attach id).plan x.job).query? = none := by
      simp [Action.plan, h, Plan.query?]
    have htold : told b x (.attach id) = { value := .done (.error e), job := x.job } := by
      simp [told, Action.plan, h, Report.map]
    rw [hquery, htold]
    exact .attachRefused used
  · have hquery : ((Action.attach id).plan x.job).query? = some (.status id) := by
      simp [Action.plan, h, Plan.query?]
    have htold : told b x (.attach id)
        = (Lifecycle.concludeAttach x.job id (heard b x (.status id))).map .done := by
      simp [told, Action.plan, h, heard]
    rw [hquery, htold]
    cases answered : (heard b x (.status id)).outcome with
    | error e =>
      simp only [Lifecycle.concludeAttach, answered]
      exact .attachFailed fresh unbound given answered
    | ok state =>
      simp only [Lifecycle.concludeAttach, answered]
      exact .attached fresh unbound given answered

theorem course_cancel (b : Backend σ) (x : Situation σ) :
    Course b x .cancel (Action.cancel.plan x.job).query? (told b x .cancel) := by
  cases bound : x.job.nativeId with
  | none =>
    have hquery : (Action.cancel.plan x.job).query? = none := by
      simp [Action.plan, Lifecycle.cancel, bound, Plan.query?]
    have htold : told b x .cancel
        = { value := .done (.error Lifecycle.cannotCancel), job := x.job } := by
      simp [told, Action.plan, Lifecycle.cancel, bound, Report.map]
    rw [hquery, htold]
    exact .cancelRefused bound
  | some id =>
    have hquery : (Action.cancel.plan x.job).query? = some (.cancel id) := by
      simp [Action.plan, Lifecycle.cancel, bound, Plan.query?]
    have htold : told b x .cancel
        = { value := .done (heard b x (.cancel id)).outcome, job := x.job
            events := [Lifecycle.cancelEvent id (heard b x (.cancel id)).outcome] } := by
      simp [told, Action.plan, Lifecycle.cancel, bound, Report.map, heard]
    rw [hquery, htold]
    exact .canceled bound

theorem course_refresh (b : Backend σ) (x : Situation σ) :
    Course b x .refresh (Action.refresh.plan x.job).query? (told b x .refresh) := by
  rcases Lifecycle.refresh_cases x.job with ⟨idle, h⟩ | ⟨id, bound, live, h⟩
  · have hquery : (Action.refresh.plan x.job).query? = none := by
      simp [Action.plan, h, Plan.query?]
    have htold : told b x .refresh
        = { value := .shown (.unchanged x.job.state), job := x.job } := by
      simp [told, Action.plan, h, Report.map]
    rw [hquery, htold]
    exact .refreshIdle idle
  · have hquery : (Action.refresh.plan x.job).query? = some (.status id) := by
      simp [Action.plan, h, Plan.query?]
    have htold : told b x .refresh
        = (Lifecycle.concludeRefresh x.job id (heard b x (.status id))).map .shown := by
      simp [told, Action.plan, h, heard]
    rw [hquery, htold]
    cases answered : (heard b x (.status id)).outcome with
    | error e =>
      simp only [Lifecycle.concludeRefresh, answered]
      exact .refreshFailed bound live answered
    | ok state =>
      simp only [Lifecycle.concludeRefresh, answered]
      exact .refreshed bound live answered

/-- **An action takes one of the courses.** -/
theorem course_told (b : Backend σ) (x : Situation σ) (a : Action) :
    Course b x a (a.plan x.job).query? (told b x a) := by
  cases a with
  | submit => exact course_submit b x
  | attach id => exact course_attach b x id
  | cancel => exact course_cancel b x
  | list => exact .listed
  | refresh => exact course_refresh b x

/-- That the query of an action fails with an error. -/
def FailsWith (b : Backend σ) (x : Situation σ) (a : Action) (e : Error) : Prop :=
  ∃ q, a.query? x.job = some q ∧ (heard b x q).outcome = .error e

/-- That an action submits a job and gets a blank id for it. -/
def BringsBlank (b : Backend σ) (x : Situation σ) (a : Action) : Prop :=
  a = .submit ∧ ∃ id, (heard b x (.submit x.job.spec)).outcome = .ok id
    ∧ Text.isBlankText id = true

namespace Course

variable {b : Backend σ} {x : Situation σ} {a : Action} {q? : Option Query} {r : Report Yield}

theorem query?_eq (h : Course b x a q? r) : q? = a.query? x.job := by
  cases h with
  | submitFailed _ => rfl
  | submitBlank _ _ => rfl
  | submitted _ _ => rfl
  | attachRefused used =>
    have settled : (Action.attach _).SettledBy x.job := used
    exact (Action.query?_eq_none_iff.mpr settled).symm
  | attachFailed fresh unbound given _ => simp [Action.query?, fresh, unbound, given]
  | attached fresh unbound given _ => simp [Action.query?, fresh, unbound, given]
  | cancelRefused unbound => simp [Action.query?, unbound]
  | canceled bound => simp [Action.query?, bound]
  | listed => rfl
  | refreshIdle idle =>
    have settled : Action.refresh.SettledBy x.job := idle
    exact (Action.query?_eq_none_iff.mpr settled).symm
  | refreshFailed bound live _ => simp [Action.query?, bound, live]
  | refreshed bound live _ => simp [Action.query?, bound, live]

/-- What shows an error has changed nothing. -/
theorem job_eq_of_error (h : Course b x a q? r) (shown : r.value.error? ≠ none) :
    r.job = x.job := by
  cases h with
  | submitted _ _ => exact absurd rfl shown
  | attached _ _ _ _ => exact absurd rfl shown
  | refreshed _ _ _ =>
    refine absurd ?_ shown
    simp only [Yield.error?]
    split <;> rfl
  | _ => rfl

theorem job_eq_of_aside (h : Course b x a q? r) (aside : a = .cancel ∨ a = .list) :
    r.job = x.job := by
  rcases aside with rfl | rfl
  · cases h <;> rfl
  · cases h
    rfl

/-- The error of a query is what the caller is shown, and one event tells of it. -/
theorem of_failed {q : Query} (h : Course b x a (some q) r) {e : Error}
    (answered : (heard b x q).outcome = .error e) :
    r.value.error? = some e
      ∧ r.events.map (·.level) = [if a = .refresh then .warning else .error] := by
  cases h with
  | submitFailed failed =>
    obtain rfl := Except.error.inj (failed.symm.trans answered)
    exact ⟨rfl, rfl⟩
  | attachFailed _ _ _ failed =>
    obtain rfl := Except.error.inj (failed.symm.trans answered)
    exact ⟨rfl, rfl⟩
  | refreshFailed _ _ failed =>
    obtain rfl := Except.error.inj (failed.symm.trans answered)
    exact ⟨rfl, rfl⟩
  | canceled _ =>
    rw [answered]
    exact ⟨rfl, rfl⟩
  | listed =>
    rw [answered]
    exact ⟨rfl, rfl⟩
  -- the other courses start from a reply
  | submitBlank brought _ => exact nomatch brought.symm.trans answered
  | submitted brought _ => exact nomatch brought.symm.trans answered
  | attached _ _ _ brought => exact nomatch brought.symm.trans answered
  | refreshed _ _ brought => exact nomatch brought.symm.trans answered

/-- A blank id counts as a failure of the submission. -/
theorem of_blank (h : Course b x .submit q? r) {id : String}
    (answered : (heard b x (.submit x.job.spec)).outcome = .ok id)
    (blank : Text.isBlankText id = true) :
    r.value.error? = some Lifecycle.blankId ∧ r.events.map (·.level) = [.error] := by
  cases h with
  | submitFailed failed => exact nomatch failed.symm.trans answered
  | submitBlank _ _ => exact ⟨rfl, rfl⟩
  | submitted brought given =>
    obtain rfl := Except.ok.inj (brought.symm.trans answered)
    exact absurd (given.symm.trans blank) Bool.false_ne_true

/-- An action that gets what it asked for shows no error, and one event tells of it if
something was done. -/
theorem of_ok {q : Query} (h : Course b x a (some q) r) {reply : q.Reply}
    (answered : (heard b x q).outcome = .ok reply) (given : ¬ BringsBlank b x a) :
    r.value.error? = none
      ∧ r.events.map (·.level) = if a = .list ∨ a = .refresh then [] else [.info] := by
  cases h with
  | submitted _ _ => exact ⟨rfl, rfl⟩
  | attached _ _ _ _ => exact ⟨rfl, rfl⟩
  | canceled _ =>
    rw [answered]
    exact ⟨rfl, rfl⟩
  | listed =>
    rw [answered]
    exact ⟨rfl, rfl⟩
  | refreshed _ _ _ =>
    refine ⟨?_, rfl⟩
    simp only [Yield.error?]
    split <;> rfl
  | submitBlank brought blank => exact absurd ⟨rfl, _, brought, blank⟩ given
  -- the other courses start from an error
  | submitFailed failed => exact nomatch failed.symm.trans answered
  | attachFailed _ _ _ failed => exact nomatch failed.symm.trans answered
  | refreshFailed _ _ failed => exact nomatch failed.symm.trans answered

/-- Nothing is told of what the handle settles.  The caller is shown an error, or, by a
refresh, the state as it was. -/
theorem of_settled (h : Course b x a none r) : r.events = []
    ∧ (a = .refresh → r.value = .shown (.unchanged x.job.state))
    ∧ (a ≠ .refresh → ∃ e, r.value = .done (.error e)) := by
  cases h with
  | attachRefused _ => exact ⟨rfl, nofun, fun _ => ⟨_, rfl⟩⟩
  | cancelRefused _ => exact ⟨rfl, nofun, fun _ => ⟨_, rfl⟩⟩
  | refreshIdle _ => exact ⟨rfl, fun _ => rfl, fun other => absurd rfl other⟩

end Course

/-! ### Accounts in order -/

/-- That the account of an action is in order: what becomes of the handle, which
queries are asked, what the caller is shown and what the events tell. -/
structure Accounted (b : Backend σ) (x : Situation σ) (a : Action) : Prop where
  /-- An action that shows an error leaves the handle as it is. -/
  kept_of_error : (told b x a).value.error? ≠ none → (after b x a).job = x.job
  /-- So does every cancellation, and every listing. -/
  kept_of_aside : a = .cancel ∨ a = .list → (after b x a).job = x.job
  /-- At most one query is asked, and none exactly if the handle settles the action. -/
  asked : ∀ log : List Query, ∃ more, ((a.plan x.job).run b.logged (x.world, log)).2.2 = log ++ more
    ∧ more.length ≤ 1 ∧ (more = [] ↔ a.SettledBy x.job) ∧ ∀ q ∈ more, a.query? x.job = some q
  /-- An error goes to the caller as it came, and one event tells of it. -/
  failed : ∀ e, FailsWith b x a e → (told b x a).value.error? = some e
    ∧ (told b x a).events.map (·.level) = [if a = .refresh then .warning else .error]
  blank : BringsBlank b x a → (told b x a).value.error? = some Lifecycle.blankId
    ∧ (told b x a).events.map (·.level) = [.error]
  /-- In all other cases an action that asks succeeds. -/
  succeeded : ¬ a.SettledBy x.job → (∀ e, ¬ FailsWith b x a e) → ¬ BringsBlank b x a →
    (told b x a).value.error? = none ∧ (told b x a).events.map (·.level)
      = if a = .list ∨ a = .refresh then [] else [.info]
  /-- Nothing is told of an action that the handle settles.  A cancellation and an attachment
  show an error then, and a refresh that nothing has changed. -/
  settled : a.SettledBy x.job → (told b x a).events = []
    ∧ (a = .refresh → (told b x a).value = .shown (.unchanged x.job.state))
    ∧ (a ≠ .refresh → ∃ e, (told b x a).value = .done (.error e))

/-- **The account of every action is in order**, whatever the handle and the backend
are. -/
theorem accounted (b : Backend σ) (x : Situation σ) (a : Action) : Accounted b x a := by
  have course := course_told b x a
  have hquery : (a.plan x.job).query? = a.query? x.job := course.query?_eq
  exact {
    kept_of_error := course.job_eq_of_error
    kept_of_aside := course.job_eq_of_aside
    asked := by
      intro log
      refine ⟨(a.query? x.job).toList, ?_, ?_, ?_, ?_⟩
      · rw [Plan.run_logged, hquery]
      · cases a.query? x.job <;> simp
      · rw [Option.toList_eq_nil_iff, Action.query?_eq_none_iff]
      · intro q hq
        exact Option.mem_toList.mp hq
    failed := by
      rintro e ⟨q, asked, answered⟩
      rw [hquery, asked] at course
      exact course.of_failed answered
    blank := by
      rintro ⟨rfl, id, answered, blank⟩
      exact course.of_blank answered blank
    succeeded := by
      intro unsettled sound given
      rw [hquery] at course
      cases asked : a.query? x.job with
      | none => exact absurd (Action.query?_eq_none_iff.mp asked) unsettled
      | some q =>
        rw [asked] at course
        cases answered : (heard b x q).outcome with
        | error e => exact absurd ⟨q, asked, answered⟩ (sound e)
        | ok reply => exact course.of_ok answered given
    settled := by
      intro settled
      rw [hquery, Action.query?_eq_none_iff.mpr settled] at course
      exact course.of_settled }

end Situation

end RemoteBatch
