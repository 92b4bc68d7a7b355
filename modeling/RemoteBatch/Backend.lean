import RemoteBatch.Descriptor
import RemoteBatch.Query
import RemoteBatch.StateTable

/-!
# Backends

Something that answers queries: a scheduler behind its driver, or a script that
stands in for one.  A backend runs dry if every success uses up some of a finite
supply, so that no run of queries can succeed for ever.

## Main definitions

* `Backend` — a driver in a world with states `σ`.
* `RunsDry` — that successes use up a supply.
-/

namespace RemoteBatch

/-- A driver whose answers depend on a state of the world. -/
structure Backend (σ : Type) where
  descriptor : Descriptor
  states : StateTable
  /-- The answer to a query, and the world after it. -/
  answer : (q : Query) → σ → Answer q.Reply × σ

/-- A measure that no query raises and every success lowers. -/
structure RunsDry {σ : Type} (b : Backend σ) where
  supply : σ → Nat
  supply_le : ∀ q s, supply (b.answer q s).2 ≤ supply s
  supply_lt : ∀ q s, (b.answer q s).1.succeeded = true → supply (b.answer q s).2 < supply s

end RemoteBatch
