/-!
# Journal

What drivers and the lifecycle report while they work, as events of three levels
in the order of their occurrence.

## Main definitions

* `Level`, `Event` — one report.
* `Journal` — the reports so far.
* `Journal.messages` — the reports of one level.
-/

namespace RemoteBatch

/-- How grave an event is. -/
inductive Level
  | info
  | warning
  | error
  deriving DecidableEq, Repr, Inhabited

/-- One report. -/
structure Event where
  level : Level
  message : String
  deriving DecidableEq, Repr, Inhabited

namespace Event

/-- A report of normal progress. -/
def info (message : String) : Event := ⟨.info, message⟩

/-- A report of something that may still turn out well. -/
def warning (message : String) : Event := ⟨.warning, message⟩

/-- A report of a failure. -/
def error (message : String) : Event := ⟨.error, message⟩

end Event

/-- The reports so far, oldest first. -/
abbrev Journal := List Event

namespace Journal

/-- The journal with one more event. -/
def record (journal : Journal) (e : Event) : Journal := journal ++ [e]

/-- The messages of one level, oldest first. -/
def messages (journal : Journal) (level : Level) : List String :=
  (journal.filter (·.level == level)).map (·.message)

end Journal

end RemoteBatch
