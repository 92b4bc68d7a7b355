import RemoteBatch.Calendar.Instant
import RemoteBatch.Job.Id
import RemoteBatch.Job.Spec
import RemoteBatch.Job.State

/-!
# Job handles

A handle follows one job through its life.  Its id and specification are fixed
when it is made; only the native id, the state and the time of the last change of
state move.

## Main definitions

* `Job` — the handles.
* `Job.create` — a handle of a job that no scheduler knows yet.
* `Job.bind` — records the id that a scheduler gave the job.
* `Job.admits` — the changes of state that a handle allows.
* `Job.transition` — moves the handle to a state, if it may go there.
-/

namespace RemoteBatch

open Calendar (Instant)

/-- A job handle. -/
structure Job where
  id : JobId
  spec : JobSpec
  state : JobState
  /-- The id that the scheduler knows the job by. -/
  nativeId : Option String
  /-- When the state last changed. -/
  updatedAt : Instant
  deriving DecidableEq, Repr

namespace Job

/-- A handle of a job that no scheduler knows yet. -/
def create (id : JobId) (spec : JobSpec) (now : Instant) : Job :=
  { id, spec, state := .new, nativeId := none, updatedAt := now }

/-- Records the id that a scheduler gave the job. -/
def bind (job : Job) (nativeId : String) : Job := { job with nativeId := some nativeId }

@[simp] theorem id_bind (job : Job) (n : String) : (job.bind n).id = job.id := rfl

@[simp] theorem spec_bind (job : Job) (n : String) : (job.bind n).spec = job.spec := rfl

@[simp] theorem state_bind (job : Job) (n : String) : (job.bind n).state = job.state := rfl

@[simp] theorem nativeId_bind (job : Job) (n : String) : (job.bind n).nativeId = some n := rfl

@[simp] theorem updatedAt_bind (job : Job) (n : String) :
    (job.bind n).updatedAt = job.updatedAt := rfl

/-- Whether a handle may go to a state: a terminal state is never left, no state
goes back to the first one, and a state does not change into itself. -/
def admits (job : Job) (target : JobState) : Bool :=
  job.state != target && !job.state.isTerminal && target != .new

theorem admits_iff {job : Job} {target : JobState} :
    job.admits target = true
      ↔ job.state ≠ target ∧ job.state.isTerminal = false ∧ target ≠ .new := by
  simp [admits, and_assoc]

/-- Moves the handle to a state if it may go there, and notes the time. -/
def transition (job : Job) (target : JobState) (now : Instant) : Job :=
  if job.admits target then { job with state := target, updatedAt := now } else job

@[simp] theorem id_transition (job : Job) (s : JobState) (now : Instant) :
    (job.transition s now).id = job.id := by unfold transition; split <;> rfl

@[simp] theorem spec_transition (job : Job) (s : JobState) (now : Instant) :
    (job.transition s now).spec = job.spec := by unfold transition; split <;> rfl

@[simp] theorem nativeId_transition (job : Job) (s : JobState) (now : Instant) :
    (job.transition s now).nativeId = job.nativeId := by unfold transition; split <;> rfl

theorem state_transition (job : Job) (s : JobState) (now : Instant) :
    (job.transition s now).state = if job.admits s then s else job.state := by
  unfold transition; split <;> rfl

theorem updatedAt_transition (job : Job) (s : JobState) (now : Instant) :
    (job.transition s now).updatedAt = if job.admits s then now else job.updatedAt := by
  unfold transition; split <;> rfl

end Job

end RemoteBatch
