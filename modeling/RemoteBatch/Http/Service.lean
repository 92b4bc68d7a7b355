import RemoteBatch.Backend
import RemoteBatch.Http.Call

/-!
# Services

A scheduler that is reached by one exchange per query.

## Main definitions

* `Service` — the exchanges for the queries.
* `Service.backend` — a service as a backend over networks.
-/

namespace RemoteBatch.Http

/-- A scheduler reached over a network. -/
structure Service where
  descriptor : Descriptor
  states : StateTable
  call : (q : Query) → Call q.Reply

namespace Service

/-- A service as a backend; the world is the network. -/
def backend (service : Service) : Backend Network where
  descriptor := service.descriptor
  states := service.states
  answer q net := (service.call q).run net

/-- Every success takes a reply from the network. -/
def runsDry (service : Service) : RunsDry service.backend where
  supply net := net.line.waiting
  supply_le q net := Call.waiting_run_le (service.call q) net
  supply_lt _ _ := Call.waiting_run_lt

end Service

end RemoteBatch.Http
