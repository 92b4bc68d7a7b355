import RemoteBatch.Error
import RemoteBatch.Job.Basic
import RemoteBatch.Journal

/-!
# Queries to a scheduler

The four things that can be asked of a scheduler, and what comes back: a reply of
the kind that the question has, or an error.  Answers carry what was reported
while they were fetched and the time at which they came.

## Main definitions

* `Query` — the questions.
* `Query.Reply` — what answers a question.
* `Answer` — a reply or an error, with the circumstances.
-/

namespace RemoteBatch

/-- A question to a scheduler. -/
inductive Query
  /-- Run a job; the reply is its native id. -/
  | submit (spec : JobSpec)
  /-- Stop a job. -/
  | cancel (id : String)
  /-- Name all jobs that can be seen. -/
  | list
  /-- Tell the state of a job. -/
  | status (id : String)
  deriving DecidableEq, Repr, Inhabited

/-- What a question is answered with. -/
abbrev Query.Reply : Query → Type
  | .submit _ => String
  | .cancel _ => Unit
  | .list => List String
  | .status _ => JobState

/-- What came back for a question. -/
structure Answer (α : Type) where
  outcome : Except Error α
  /-- What was reported on the way. -/
  events : List Event := []
  time : Calendar.Instant

/-- Whether a reply came back. -/
def Answer.succeeded (a : Answer α) : Bool := a.outcome.isOk

theorem Answer.succeeded_of_ok {a : Answer α} {x : α} (h : a.outcome = .ok x) :
    a.succeeded = true := by simp [succeeded, h, Except.isOk, Except.toBool]

theorem Answer.succeeded_of_error {a : Answer α} {e : Error} (h : a.outcome = .error e) :
    a.succeeded = false := by simp [succeeded, h, Except.isOk, Except.toBool]

end RemoteBatch
