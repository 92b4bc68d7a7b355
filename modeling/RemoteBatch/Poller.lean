import RemoteBatch.Lifecycle

/-!
# Following a job

A poller refreshes one job until it reaches a terminal state.  A failed refresh
is tolerated, but not too many in a row; every success starts the count anew.

## Main definitions

* `Poller` — how many failures in a row are too many.
* `Poller.Progress`, `Poller.advance` — the poll so far, and one more refresh.
* `Poller.follow` — refreshes until the end.
-/

namespace RemoteBatch

open Lifecycle (Refresh)

/-- How many failed refreshes in a row end a poll. -/
structure Poller where
  maxFailures : Nat := 10
  maxFailures_pos : 0 < maxFailures := by decide
  deriving DecidableEq, Repr

namespace Poller

/-- The poller that gives up after `n` failures in a row; zero is raised to one. -/
def ofMaxFailures (n : Nat) : Poller := ⟨max n 1, by omega⟩

/-- Why a poll ended without a terminal state. -/
inductive Fault
  | unbound (job : Job)
  | abandoned (id : String) (failures : Nat) (e : Error)
  deriving DecidableEq, Repr

/-- The wording of a fault. -/
def Fault.message : Fault → String
  | unbound job => "Job " ++ job.id.text ++ " has no native id; nothing to poll"
  | abandoned id failures e =>
    "Giving up on job " ++ id ++ " after " ++ Decimal.numeral failures
      ++ " failed status refreshes: " ++ e.message

/-- A change of state, with the state of the handle when it was seen. -/
structure Change where
  before : JobState
  after : JobState
  shown : JobState
  deriving DecidableEq, Repr

/-- A poll so far. -/
structure Progress where
  job : Job
  /-- The failures since the last success. -/
  failures : Nat := 0
  /-- The changes of state, oldest first. -/
  changes : List Change := []
  /-- What was reported, oldest first. -/
  events : List Event := []

/-- A poll that has ended. -/
structure Outcome where
  result : Except Fault JobState
  progress : Progress

/-- The progress after one more refresh, or the end of the poll. -/
def advance (poller : Poller) (id : String) (p : Progress) (told : List Event)
    (report : Lifecycle.Report Refresh) : Progress × Option (Except Fault JobState) :=
  let p := { p with job := report.job, events := p.events ++ told ++ report.events }
  match report.value with
  | .unchanged state =>
    ({ p with failures := 0 }, if state.isTerminal then some (.ok state) else none)
  | .updated before after =>
    ({ p with
        failures := 0
        changes := p.changes ++ [⟨before, after, report.job.state⟩] },
      if after.isTerminal then some (.ok after) else none)
  | .failed e =>
    ({ p with failures := p.failures + 1 },
      if poller.maxFailures ≤ p.failures + 1 then
        some (.error (.abandoned id (p.failures + 1) e))
      else none)

/-- A refresh leaves the native id as it is. -/
theorem nativeId_run_refresh (b : Backend σ) (job : Job) (s : σ) :
    ((Lifecycle.refresh job).run b s).1.1.job.nativeId = job.nativeId := by
  cases bound : job.nativeId with
  | none => simp [Lifecycle.refresh, bound]
  | some id =>
    cases live : job.state.isTerminal with
    | true => simp [Lifecycle.refresh, bound, live]
    | false =>
      simp only [Lifecycle.refresh_of_live bound live, Plan.run_ask, Lifecycle.concludeRefresh]
      split <;> simp [bound]

@[simp] theorem job_advance (poller : Poller) (id : String) (p : Progress) (told : List Event)
    (report : Lifecycle.Report Refresh) :
    (poller.advance id p told report).1.job = report.job := by
  unfold advance
  split <;> rfl

/-- How far a poll is from its end: what the backend can still supply, and how many
failures are still tolerated. -/
def distance (poller : Poller) {b : Backend σ} (dry : RunsDry b) (p : Progress) (s : σ) :
    Nat × Nat :=
  (dry.supply s, poller.maxFailures - p.failures)

/-- A refresh that does not end the poll brings its end nearer. -/
theorem distance_advance_lt (poller : Poller) {b : Backend σ} (dry : RunsDry b) {id : String}
    {p : Progress} {s : σ} (bound : p.job.nativeId = some id)
    (goesOn : (poller.advance id p ((Lifecycle.refresh p.job).run b s).1.2
      ((Lifecycle.refresh p.job).run b s).1.1).2 = none) :
    Prod.Lex (· < ·) (· < ·)
      (poller.distance dry (poller.advance id p ((Lifecycle.refresh p.job).run b s).1.2
        ((Lifecycle.refresh p.job).run b s).1.1).1 ((Lifecycle.refresh p.job).run b s).2)
      (poller.distance dry p s) := by
  cases live : p.job.state.isTerminal with
  | true => simp [Lifecycle.refresh, bound, live, advance] at goesOn
  | false =>
    rw [Lifecycle.refresh_of_live bound live] at goesOn ⊢
    simp only [Plan.run_ask] at goesOn ⊢
    have hle := dry.supply_le (.status id) s
    have hlt := dry.supply_lt (.status id) s
    generalize b.answer (.status id) s = came at hle hlt goesOn ⊢
    cases hout : came.1.outcome with
    | ok state =>
      refine Prod.Lex.left _ _ (hlt ?_)
      simp [Answer.succeeded, hout, Except.isOk, Except.toBool]
    | error e =>
      simp only [Lifecycle.concludeRefresh, hout, advance] at goesOn ⊢
      by_cases hmax : poller.maxFailures ≤ p.failures + 1
      · simp [hmax] at goesOn
      · rcases Nat.lt_or_eq_of_le hle with h | h
        · exact Prod.Lex.left _ _ h
        · simp only [distance, h]
          exact Prod.Lex.right _ (by omega)

/-- Refreshes a job until its state is terminal or too many refreshes in a row
have failed.  As the backend runs dry, one of the two must happen. -/
def loop (poller : Poller) (b : Backend σ) (dry : RunsDry b) (id : String) (p : Progress)
    (bound : p.job.nativeId = some id) (s : σ) : Outcome × σ :=
  let ran := (Lifecycle.refresh p.job).run b s
  let next := poller.advance id p ran.1.2 ran.1.1
  match _goesOn : next.2 with
  | some result => (⟨result, next.1⟩, ran.2)
  | none =>
    loop poller b dry id next.1
      ((congrArg Job.nativeId (job_advance ..)).trans
        ((nativeId_run_refresh b p.job s).trans bound)) ran.2
  termination_by poller.distance dry p s
  decreasing_by exact distance_advance_lt poller dry bound _goesOn

/-- Follows a job until its end.  A job that no scheduler knows cannot be followed,
and one that has ended need not be. -/
def follow (poller : Poller) (b : Backend σ) (dry : RunsDry b) (job : Job) (s : σ) :
    Outcome × σ :=
  match bound : job.nativeId with
  | none => (⟨.error (.unbound job), { job }⟩, s)
  | some id =>
    if job.state.isTerminal then (⟨.ok job.state, { job }⟩, s)
    else poller.loop b dry id { job } bound s

end Poller

end RemoteBatch
