import RemoteBatch.Http.Network
import RemoteBatch.Query

/-!
# Calls

One exchange with a service, from the first report about it to the value that it
brings.  A call sends at most one request: none if the request cannot be made.

## Main definitions

* `Call` — the parts of an exchange.
* `Call.run` — a call over a network.

## Main results

* `Call.outcome_run_eq` — the outcome of a call, by what the line brings.
-/

namespace RemoteBatch.Http

/-- An exchange that brings an `α`. -/
structure Call (α : Type) where
  /-- What is reported before anything else. -/
  opening : List Event := []
  /-- The request, or why there is none. -/
  request : Except Error Request
  /-- The value that a response brings. -/
  interpret : Response → Except Error α
  /-- What is reported about a value. -/
  closing : α → List Event := fun _ => []

namespace Call

/-- The answer for an outcome of a call. -/
def answer (call : Call α) (outcome : Except Error α) (time : Calendar.Instant) : Answer α :=
  match outcome with
  | .ok a => { outcome := .ok a, events := call.opening ++ call.closing a, time }
  | .error e => { outcome := .error e, events := call.opening, time }

/-- Runs a call over a network. -/
def run (call : Call α) (net : Network) : Answer α × Network :=
  match call.request with
  | .error e => (call.answer (.error e) net.now, net)
  | .ok r =>
    let (received, after) := net.send r
    (call.answer (received.bind call.interpret) after.now, after)

theorem outcome_answer (call : Call α) (outcome : Except Error α) (time : Calendar.Instant) :
    (call.answer outcome time).outcome = outcome := by
  cases outcome <;> rfl

/-- A call's outcome, by what the line brings. -/
theorem outcome_run_eq (call : Call α) (net : Network) :
    (call.run net).1.outcome = call.request.bind fun request =>
      net.line.response?.elim (.error request.unanswered) call.interpret := by
  unfold run
  cases call.request with
  | error e => exact outcome_answer call _ _
  | ok request =>
    simp only [outcome_answer, Network.fst_send]
    cases net.line.response? <;> rfl

/-- A call succeeds if it is sent and makes something of the response that it meets. -/
theorem succeeded_run_iff (call : Call α) (net : Network) : (call.run net).1.succeeded = true ↔
    call.request.isOk = true
      ∧ ∃ r, net.line.response? = some r ∧ (call.interpret r).isOk = true := by
  rw [Answer.succeeded, outcome_run_eq]
  cases call.request with
  | error e => simp [Except.bind, Except.isOk, Except.toBool]
  | ok request => cases net.line.response? <;> simp [Except.bind, Except.isOk, Except.toBool]

/-- No call adds replies. -/
theorem waiting_run_le (call : Call α) (net : Network) :
    (call.run net).2.line.waiting ≤ net.line.waiting := by
  unfold run
  split
  · exact Nat.le_refl _
  · exact Network.waiting_send_le _ _

/-- A call that succeeds takes one of the replies. -/
theorem waiting_run_lt {call : Call α} {net : Network}
    (h : (call.run net).1.succeeded = true) :
    (call.run net).2.line.waiting < net.line.waiting := by
  unfold run at h ⊢
  split at h
  · simp [Answer.succeeded, outcome_answer, Except.isOk, Except.toBool] at h
  · next r hr =>
    refine Network.waiting_send_lt ?_
    simp only [Answer.succeeded, outcome_answer] at h
    revert h
    cases (net.send r).1 <;> simp [Except.bind, Except.isOk, Except.toBool]

end Call

end RemoteBatch.Http
