import RemoteBatch.Error
import RemoteBatch.Job.State

/-!
# State tables

A driver's table from native status tokens to job states, with what to do about a
token that the table does not hold.  Tokens are compared without regard to ASCII
case and to the blanks around them; of several entries the first counts.

## Main definitions

* `StateTable` — the tables.
* `StateTable.lookup` — the state of a token that the table holds.
* `StateTable.map` — the state of any token, or the reason why there is none.
-/

namespace RemoteBatch

/-- A table of native status tokens. -/
structure StateTable where
  /-- The driver that the table belongs to. -/
  driver : String
  entries : List (String × JobState)
  /-- The state of tokens outside the table; `none` if they are errors. -/
  fallback : Option JobState
  deriving DecidableEq, Repr, Inhabited

namespace StateTable

/-- The state of a token that the table holds. -/
def lookup (table : StateTable) (token : String) : Option JobState :=
  (table.entries.find? fun entry => Text.sameIgnoringCase entry.1 (Text.trim token)).map (·.2)

/-- The state of a token. -/
def map (table : StateTable) (token : String) : Except Error JobState :=
  match table.lookup token, table.fallback with
  | some state, _ => .ok state
  | none, some state => .ok state
  | none, none => .error (.unmappedState table.driver token)

end StateTable

end RemoteBatch
