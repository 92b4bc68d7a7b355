import RemoteBatch.Backend

/-!
# The life of a job

Submission, cancellation, listing, attachment and refreshing, the same for every
backend.  Each is a plan: it is settled at once, or it asks one query and draws a
conclusion from the answer.  Nothing is ever asked twice.

## Main definitions

* `Plan`, `Plan.run` — plans, and what becomes of one over a backend.
* `Report` — a value, the handle after it, and what is to be told.
* `submit`, `cancel`, `listing`, `attach`, `refresh` — the plans.
* `Refresh` — what a refresh shows.
-/

namespace RemoteBatch

/-- Something to do that takes at most one query. -/
inductive Plan (β : Type)
  | settled (b : β)
  | ask (q : Query) (conclude : Answer q.Reply → β)

namespace Plan

/-- The query that a plan asks, if any. -/
def query? : Plan β → Option Query
  | settled _ => none
  | ask q _ => some q

/-- What becomes of a plan over a backend: its result, what the backend reported
on the way, and the world after it. -/
def run (b : Backend σ) (s : σ) : Plan β → (β × List Event) × σ
  | settled result => ((result, []), s)
  | ask q conclude =>
    ((conclude (b.answer q s).1, (b.answer q s).1.events), (b.answer q s).2)

@[simp] theorem run_settled (b : Backend σ) (s : σ) (result : β) :
    (settled result).run b s = ((result, []), s) := rfl

@[simp] theorem run_ask (b : Backend σ) (s : σ) (q : Query) (conclude : Answer q.Reply → β) :
    (ask q conclude).run b s
      = ((conclude (b.answer q s).1, (b.answer q s).1.events), (b.answer q s).2) := rfl

end Plan

namespace Lifecycle

/-- A value, the handle after it, and what the lifecycle has to tell. -/
structure Report (α : Type) where
  value : α
  job : Job
  events : List Event := []

/-- The message of a failure to submit. -/
def submitFailed (job : Job) (e : Error) : Event :=
  .error ("Failed to submit job " ++ job.id.text ++ ": " ++ e.message)

/-- The message of a submission. -/
def submitted (job : Job) (id : String) : Event :=
  .info ("Job " ++ job.id.text ++ " submitted as " ++ id)

/-- The error of a submission that brings a blank id. -/
def blankId : Error := .protocol "scheduler returned an empty job id"

/-- What follows from the answer to a submission. -/
def concludeSubmit (job : Job) (answer : Answer String) : Report (Except Error Unit) :=
  match answer.outcome with
  | .error e => { value := .error e, job, events := [submitFailed job e] }
  | .ok id =>
    if Text.isBlankText id then
      { value := .error blankId, job, events := [submitFailed job blankId] }
    else
      { value := .ok ()
        job := (job.bind id).transition .queued answer.time
        events := [submitted job id] }

theorem concludeSubmit_of_error {job : Job} {answer : Answer String} {e : Error}
    (h : answer.outcome = .error e) :
    concludeSubmit job answer = { value := .error e, job, events := [submitFailed job e] } := by
  rw [concludeSubmit, h]

theorem concludeSubmit_of_ok {job : Job} {answer : Answer String} {id : String}
    (h : answer.outcome = .ok id) (hid : Text.isBlankText id = false) :
    concludeSubmit job answer =
      { value := .ok ()
        job := (job.bind id).transition .queued answer.time
        events := [submitted job id] } := by
  simp only [concludeSubmit, h, hid, Bool.false_eq_true, if_false]

/-- Submits a job: on success the handle has the native id and is queued, on
failure it is as before. -/
def submit (job : Job) : Plan (Report (Except Error Unit)) :=
  .ask (.submit job.spec) (concludeSubmit job)

/-- The error of cancelling a job that no scheduler knows. -/
def cannotCancel : Error := .precondition "Cannot cancel a job without a native ID"

/-- What is told about the outcome of a cancellation. -/
def cancelEvent (id : String) : Except Error Unit → Event
  | .error e => .error ("Failed to cancel job " ++ id ++ ": " ++ e.message)
  | .ok () => .info ("Cancellation requested for job " ++ id)

/-- Asks for the end of a job; the handle does not change. -/
def cancel (job : Job) : Plan (Report (Except Error Unit)) :=
  match job.nativeId with
  | none => .settled { value := .error cannotCancel, job }
  | some id =>
    .ask (.cancel id) fun answer =>
      { value := answer.outcome, job, events := [cancelEvent id answer.outcome] }

/-- What is told about the outcome of a listing. -/
def listingEvents : Except Error (List String) → List Event
  | .error e => [.error ("Failed to list jobs: " ++ e.message)]
  | .ok _ => []

/-- Names the jobs that can be seen. -/
def listing : Plan (Except Error (List String) × List Event) :=
  .ask .list fun answer => (answer.outcome, listingEvents answer.outcome)

/-- The error of attaching a handle that is in use. -/
def notFresh (job : Job) : Error :=
  .precondition ("Job " ++ job.id.text
    ++ " must be in NEW state and unbound to be attached (state " ++ job.state.name
    ++ ", native id " ++ Text.quotedOption job.nativeId ++ ")")

/-- The error of attaching to a blank id. -/
def blankTarget : Error := .precondition "Cannot attach to an empty native ID"

/-- The message of an attachment. -/
def attached (job : Job) (id : String) : Event :=
  .info ("Job " ++ job.id.text ++ " attached to " ++ id ++ " in state " ++ job.state.name)

/-- What follows from the answer about the job that a handle is to be attached
to. -/
def concludeAttach (job : Job) (id : String) (answer : Answer JobState) :
    Report (Except Error Unit) :=
  match answer.outcome with
  | .error e =>
    { value := .error e
      job
      events := [.error ("Failed to attach to job " ++ id ++ ": " ++ e.message)] }
  | .ok state =>
    let after := (job.bind id).transition state answer.time
    { value := .ok (), job := after, events := [attached after id] }

/-- Binds a fresh handle to a job that the scheduler already knows, and takes over
its state; on failure the handle is as before. -/
def attach (job : Job) (id : String) : Plan (Report (Except Error Unit)) :=
  if job.state ≠ .new ∨ job.nativeId.isSome then
    .settled { value := .error (notFresh job), job }
  else if Text.isBlankText id then .settled { value := .error blankTarget, job }
  else .ask (.status id) (concludeAttach job id)

/-- What a refresh shows. -/
inductive Refresh
  /-- The handle kept its state. -/
  | unchanged (state : JobState)
  | updated (before after : JobState)
  /-- The state could not be fetched; the handle kept its own. -/
  | failed (e : Error)
  deriving DecidableEq, Repr

/-- The error that a refresh met. -/
def Refresh.error? : Refresh → Option Error
  | .failed e => some e
  | _ => none

/-- What follows from the answer about the state of a job. -/
def concludeRefresh (job : Job) (id : String) (answer : Answer JobState) : Report Refresh :=
  match answer.outcome with
  | .error e =>
    { value := .failed e
      job
      events := [.warning ("Failed to update status for job " ++ id ++ ": " ++ e.message)] }
  | .ok state =>
    let after := job.transition state answer.time
    { value := if job.admits state then .updated job.state state else .unchanged after.state
      job := after }

/-- Fetches the state of a job and applies it to the handle.  A handle without a
native id has nothing to fetch, and one in a terminal state nothing to learn. -/
def refresh (job : Job) : Plan (Report Refresh) :=
  match job.nativeId with
  | none => .settled { value := .unchanged job.state, job }
  | some id =>
    if job.state.isTerminal then .settled { value := .unchanged job.state, job }
    else .ask (.status id) (concludeRefresh job id)

theorem refresh_of_live {job : Job} {id : String} (bound : job.nativeId = some id)
    (live : job.state.isTerminal = false) :
    refresh job = .ask (.status id) (concludeRefresh job id) := by
  simp [refresh, bound, live]

end Lifecycle

end RemoteBatch
