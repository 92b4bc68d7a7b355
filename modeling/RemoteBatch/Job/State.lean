import RemoteBatch.Json.Printer
import RemoteBatch.Json.Record
import RemoteBatch.Text.Ascii
import RemoteBatch.Text.Blank

/-!
# Job states

Every native status of a scheduler is reduced to one of six states.  Three of
them are terminal: a job that reaches one never leaves it.

## Main definitions

* `JobState` — the states.
* `JobState.isTerminal` — the states in which a job has ended.
* `JobState.name`, `JobState.ofName?` — the name of a state and the state of a name.
* `JobState.ofText?` — the state that a person's text names.
-/

namespace RemoteBatch

/-- The state of a job. -/
inductive JobState
  /-- Not yet accepted by a scheduler. -/
  | new
  /-- Accepted and waiting. -/
  | queued
  /-- Running. -/
  | active
  /-- Ended with success. -/
  | completed
  /-- Ended by request. -/
  | canceled
  /-- Ended with failure. -/
  | failed
  deriving DecidableEq, Repr, Inhabited

namespace JobState

/-- All states. -/
def all : List JobState := [new, queued, active, completed, canceled, failed]

/-- Whether a job in this state has ended. -/
def isTerminal : JobState → Bool
  | new | queued | active => false
  | completed | canceled | failed => true

/-- The name of a state. -/
def name : JobState → String
  | new => "NEW"
  | queued => "QUEUED"
  | active => "ACTIVE"
  | completed => "COMPLETED"
  | canceled => "CANCELED"
  | failed => "FAILED"

/-- The state with a name. -/
def ofName? (s : String) : Option JobState := all.find? fun state => state.name == s

@[simp] theorem ofName?_name (s : JobState) : ofName? s.name = some s := by
  cases s <;> decide

/-- The state that a text names, without regard to case and surrounding blanks. -/
def ofText? (s : String) : Option JobState :=
  all.find? fun state => Text.sameIgnoringCase state.name (Text.trim s)

/-- What is said of a text that names no state. -/
def unknownMessage (s : String) : String := "unknown job state: " ++ s

/-- A state as JSON: its name. -/
def toDocument (s : JobState) : Json.Document := .ofText s.name

/-- The state that a JSON document names: a name, or an object with the name as
its only key and `null` as its value. -/
def ofDocument? : Json.Document → Option JobState
  | .string name => name.bind ofName?
  | .object [(key, .null)] => key.bind ofName?
  | _ => none

end JobState

end RemoteBatch
