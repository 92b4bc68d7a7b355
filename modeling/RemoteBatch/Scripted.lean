import RemoteBatch.Backend

/-!
# Scripted backends

A backend that stands in for a scheduler: it answers from a script, one cue per
query, and remembers what it was asked.  When the script is at its end every
query fails.

## Main definitions

* `Cue` — what answers one query, whatever it asks.
* `Scripted` — a script with the queries so far.
* `Scripted.backend` — the backend that follows it.
-/

namespace RemoteBatch

/-- What answers one query, whatever it asks. -/
structure Cue where
  reply : (q : Query) → Except Error q.Reply

/-- A script that is being followed. -/
structure Scripted where
  cues : List Cue
  /-- The queries so far, oldest first. -/
  asked : List Query := []
  /-- The time at which answers come. -/
  now : Calendar.Instant

namespace Scripted

/-- The error of a query that the script does not foresee. -/
def atEnd : Error := .protocol "unscripted call"

/-- The answer to a query, and the script after it. -/
def answer (q : Query) (s : Scripted) : Answer q.Reply × Scripted :=
  match s.cues with
  | [] => ({ outcome := .error atEnd, time := s.now }, { s with asked := s.asked ++ [q] })
  | cue :: cues =>
    ({ outcome := cue.reply q, time := s.now }, { s with cues, asked := s.asked ++ [q] })

/-- The backend that follows a script. -/
def backend (descriptor : Descriptor) (states : StateTable) : Backend Scripted :=
  { descriptor, states, answer }

/-- Every query but those at the end uses up a cue. -/
def runsDry (descriptor : Descriptor) (states : StateTable) :
    RunsDry (backend descriptor states) where
  supply s := s.cues.length
  supply_le q s := by
    rcases s with ⟨_ | _, _, _⟩ <;> simp [backend, answer]
  supply_lt q s := by
    rcases s with ⟨_ | _, _, _⟩ <;>
      simp [backend, answer, Answer.succeeded, Except.isOk, Except.toBool]

end Scripted

end RemoteBatch
