/-!
# Durations

A length of time in whole seconds and nanoseconds.

## Main definitions

* `Duration` — the lengths.
* `Duration.wholeSeconds` — a length without its part of a second.
* `Duration.minutes` — whole minutes, never below one.
-/

namespace RemoteBatch

/-- A length of time. -/
structure Duration where
  seconds : UInt64
  nanos : Fin 1000000000 := 0
  deriving DecidableEq, Repr, Inhabited

namespace Duration

/-- Some whole seconds. -/
def ofSeconds (seconds : UInt64) : Duration := ⟨seconds, 0⟩

/-- Some seconds and any number of nanoseconds, which may amount to seconds too. -/
def ofParts (seconds nanos : Nat) : Duration :=
  ⟨UInt64.ofNat (seconds + nanos / 1000000000), ⟨nanos % 1000000000, by omega⟩⟩

/-- Whether no time passes. -/
def isZero (d : Duration) : Bool := d.seconds == 0 && d.nanos == 0

/-- The length without its part of a second. -/
def wholeSeconds (d : Duration) : Duration := ofSeconds d.seconds

/-- Whole minutes, never below one. -/
def minutes (d : Duration) : Nat := max (d.seconds.toNat / 60) 1

@[simp] theorem minutes_wholeSeconds (d : Duration) : d.wholeSeconds.minutes = d.minutes := rfl

end Duration

end RemoteBatch
