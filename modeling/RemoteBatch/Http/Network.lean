import RemoteBatch.Calendar.Instant
import RemoteBatch.Http.Message

/-!
# Networks

What lies between a sender and the servers, as far as a sender can tell: a line
that is down, or one at whose end replies are waiting in a fixed order.  A
network remembers what was sent over it.

An exchange is one send of the client, and the reply is what that send yields.  A client
that follows redirects does so within one send, so that what it asks of other addresses on
the way, and the responses that lead it there, are outside of this description.

## Main definitions

* `Reply` — what waits for one request.
* `Line`, `Line.response?` — the state of the line, and the response that the next request
  meets.
* `Network`, `Network.send` — one exchange.
-/

namespace RemoteBatch.Http

/-- What waits for one request: what one send of the client yields, redirects and all. -/
inductive Reply
  | response (r : Response)
  /-- The exchange breaks off before a response. -/
  | lost
  deriving DecidableEq, Repr, Inhabited

/-- What a sender meets. -/
inductive Line
  /-- No server can be reached, so nothing is sent. -/
  | down
  /-- Each request takes one of the replies; when none is left, nothing answers. -/
  | up (replies : List Reply)
  deriving DecidableEq, Repr, Inhabited

/-- A network, with the requests sent over it, oldest first. -/
structure Network where
  line : Line
  sent : List Request := []
  /-- The time at which answers arrive. -/
  now : Calendar.Instant
  deriving DecidableEq, Repr

/-- How many replies wait at the end of a line. -/
def Line.waiting : Line → Nat
  | .down => 0
  | .up replies => replies.length

/-- The response that the next request over a line meets, if any. -/
def Line.response? : Line → Option Response
  | .up (.response r :: _) => some r
  | _ => none

theorem Line.response?_eq_some_iff {line : Line} {r : Response} :
    line.response? = some r ↔ ∃ rest, line = .up (.response r :: rest) := by
  unfold response?
  split <;> simp_all

namespace Network

/-- Sends a request once; what that send yields, and the network after it. -/
def send (net : Network) (r : Request) : Except Error Response × Network :=
  match net.line with
  | .down => (.error r.unanswered, net)
  | .up [] => (.error r.unanswered, { net with sent := net.sent ++ [r] })
  | .up (.lost :: replies) =>
    (.error r.unanswered, { net with line := .up replies, sent := net.sent ++ [r] })
  | .up (.response response :: replies) =>
    (.ok response, { net with line := .up replies, sent := net.sent ++ [r] })

/-- What a send yields is the response that it meets. -/
theorem fst_send (net : Network) (request : Request) :
    (net.send request).1 = net.line.response?.elim (.error request.unanswered) .ok := by
  unfold send Line.response?
  split <;> simp [*]

/-- No exchange adds replies. -/
theorem waiting_send_le (net : Network) (r : Request) :
    (net.send r).2.line.waiting ≤ net.line.waiting := by
  rcases net with ⟨line, sent, now⟩
  rcases line with _ | _ | ⟨_ | _, _⟩ <;> simp [send, Line.waiting]

/-- An exchange that brings a response takes one of the replies. -/
theorem waiting_send_lt {net : Network} {r : Request} (h : (net.send r).1.isOk = true) :
    (net.send r).2.line.waiting < net.line.waiting := by
  rcases net with ⟨line, sent, now⟩
  rcases line with _ | _ | ⟨_ | _, _⟩ <;> simp_all [send, Line.waiting, Except.isOk, Except.toBool]

end Network

end RemoteBatch.Http
