import RemoteBatch.Decimal.Natural
import RemoteBatch.Text.Quoted

/-!
# Errors

What can go wrong between a caller and a scheduler, by cause.  A cause has one
wording and belongs to some of five classes that callers decide by.

## Main definitions

* `Error` — the causes.
* `Error.message` — the wording.
* `Error.isNotFound` and the other predicates — the classes.
-/

namespace RemoteBatch

/-- Why a request got no response. -/
inductive TransportFault
  /-- The request could not be made: its address or a header is malformed. -/
  | unsendable
  /-- Nothing answered at the address. -/
  | unanswered (url : String)
  deriving DecidableEq, Repr, Inhabited

/-- The wording of a fault. -/
def TransportFault.message : TransportFault → String
  | unsendable => "builder error"
  | unanswered url => "error sending request for url (" ++ url ++ ")"

/-- An error of a call to a scheduler. -/
inductive Error
  /-- The request got no response. -/
  | transport (fault : TransportFault)
  /-- The scheduler refused with a status code. -/
  | api (status : Nat) (body : String)
  /-- The scheduler accepted but its reply is not what it must be. -/
  | protocol (reason : String)
  /-- The scheduler does not know the job. -/
  | notFound (id : String)
  /-- The driver's table has no state for a native status. -/
  | unmappedState (driver token : String)
  /-- The caller asked for what the job does not allow; nothing was sent. -/
  | precondition (reason : String)
  /-- The settings are unusable. -/
  | invalidConfig (reason : String)
  /-- No driver has the name. -/
  | unknownDriver (name : String)
  deriving DecidableEq, Repr, Inhabited

namespace Error

/-- The wording of an error. -/
def message : Error → String
  | transport fault => "HTTP request failed: " ++ fault.message
  | api status body => "API error (status " ++ Decimal.numeral status ++ "): " ++ body
  | protocol reason => "Protocol error: " ++ reason
  | notFound id => "Job not found: " ++ id
  | unmappedState driver token =>
    "Driver " ++ driver ++ " cannot map job state " ++ Text.quoted token
  | precondition reason => "Precondition violated: " ++ reason
  | invalidConfig reason => "Invalid driver configuration: " ++ reason
  | unknownDriver name => "Unknown driver: " ++ name

/-- Whether the scheduler says that the job does not exist. -/
def isNotFound : Error → Bool
  | notFound _ => true
  | api status _ => status == 404
  | _ => false

/-- Whether the failure is one of the exchange rather than of its content. -/
def isTransport : Error → Bool
  | transport _ | api _ _ => true
  | _ => false

/-- Whether nothing was sent because the caller may not ask. -/
def isPrecondition : Error → Bool
  | precondition _ => true
  | _ => false

/-- Whether the status code blames the request. -/
def isClientError : Error → Bool
  | api status _ => 400 ≤ status && status < 500
  | _ => false

/-- Whether the status code blames the server. -/
def isServerError : Error → Bool
  | api status _ => 500 ≤ status
  | _ => false

/-- The error of a call about one job: a refusal that says the job does not exist
becomes that cause. -/
def aboutJob (id : String) (e : Error) : Error := if e.isNotFound then notFound id else e

theorem isOk_iff {x : Except Error α} : x.isOk = true ↔ ∃ a, x = .ok a := by
  cases x <;> simp [Except.isOk, Except.toBool]

theorem isOk_mapError (x : Except Error α) (g : Error → Error) :
    (x.mapError g).isOk = x.isOk := by
  cases x <;> rfl

/-- Whether a call succeeds does not depend on how its errors are put. -/
theorem isOk_mapError_bind (x : Except Error α) (g : Error → Error) (f : α → Except Error β) :
    (x.mapError g >>= f).isOk = (x >>= f).isOk := by
  cases x <;> rfl

end Error

instance instDecidableEqExcept [DecidableEq ε] [DecidableEq α] : DecidableEq (Except ε α)
  | .ok a, .ok b =>
    if h : a = b then isTrue (congrArg Except.ok h) else isFalse fun hab => h (Except.ok.inj hab)
  | .error d, .error e =>
    if h : d = e then isTrue (congrArg Except.error h)
    else isFalse fun hde => h (Except.error.inj hde)
  | .ok _, .error _ => isFalse nofun
  | .error _, .ok _ => isFalse nofun

end RemoteBatch
