import RemoteBatch.Http.Endpoint
import RemoteBatch.Http.Service
import RemoteBatch.NativeId
import RemoteBatch.Slurm.Wire

/-!
# The Slurm driver

Slurm behind its REST service.  Every request names a user and carries the user's
token.  A state outside the table is an error: a wrong guess could leave a caller
waiting for ever.

## Main definitions

* `states`, `descriptor` — the driver's table and card.
* `Slurm.Driver` — a configured driver.
* `Driver.service` — its exchanges.
-/

namespace RemoteBatch.Slurm

open Http (Call Content Endpoint Method Request Response Service)

/-- The name that the driver is selected by. -/
def name : String := "slurm-rest"

/-- The driver's card. -/
def descriptor : Descriptor :=
  { name
    niceName := "Slurm REST API"
    version := "0.0.1"
    description := "Executor for the Slurm REST API" }

/-- The base address unless settings give another. -/
def defaultUrl : String := "http://localhost:6820"

/-- The driver's table; there is no state for other tokens. -/
def states : StateTable :=
  { driver := name
    entries :=
      [("PENDING", .queued), ("CONFIGURING", .new), ("REQUEUED", .queued),
       ("RESIZING", .queued), ("SUSPENDED", .queued), ("RUNNING", .active),
       ("COMPLETING", .active), ("COMPLETED", .completed), ("CANCELLED", .canceled),
       ("FAILED", .failed), ("TIMEOUT", .failed), ("PREEMPTED", .failed),
       ("NODE_FAIL", .failed), ("BOOT_FAIL", .failed), ("DEADLINE", .failed),
       ("OUT_OF_MEMORY", .failed)]
    fallback := none }

/-- What can be wrong with an accepted reply. -/
inductive Fault
  /-- The reply holds errors. -/
  | complaint (context text : String)
  | missingId
  | missingJobs (context : String)
  | missingState (id : String)
  deriving DecidableEq, Repr

/-- A fault as an error of the call. -/
def Fault.error : Fault → Error
  | complaint context text => .protocol (context ++ ": " ++ text)
  | missingId => .protocol "Slurm submit response has no job_id"
  | missingJobs context => .protocol (context ++ ": response has no jobs field")
  | missingState id => .protocol ("Slurm job " ++ id ++ " has no job_state")

/-- Refuses a reply that holds errors. -/
def checkErrors (errors : List Complaint) (context : String) : Except Error Unit :=
  match errors with
  | [] => .ok ()
  | c :: _ => .error (Fault.complaint context c.text).error

/-- The native id in the reply to a submission. -/
def SubmitReply.id (reply : SubmitReply) : Except Error String := do
  checkErrors reply.errors "Slurm rejected the submission"
  match reply.jobId.bind nativeId? with
  | some id => return id
  | none => throw Fault.missingId.error

/-- The jobs in a reply about jobs. -/
def JobsReply.infos (reply : JobsReply) (context : String) : Except Error (List JobInfo) := do
  checkErrors reply.errors context
  match reply.jobs with
  | some infos => return infos
  | none => throw (Fault.missingJobs context).error

/-- The state of the job with an id in the reply about it. -/
def JobsReply.state (reply : JobsReply) (id : String) : Except Error JobState := do
  let infos ← reply.infos ("Slurm failed to look up job " ++ id)
  match infos with
  | [] => throw (.notFound id)
  | info :: _ =>
    match info.primary? with
    | some token => states.map token
    | none => throw (Fault.missingState id).error

/-- A configured driver. -/
structure Driver where
  endpoint : Endpoint
  userName : String
  token : String
  deriving DecidableEq, Repr

namespace Driver

/-- The driver that settings describe. -/
def ofSettings (s : Settings) : Except Error Driver := do
  let endpoint ← Endpoint.ofSettings s defaultUrl
  return { endpoint, userName := s.userName.getD "root", token := s.token }

/-- The headers that identify the user. -/
def headers (d : Driver) : List (String × String) :=
  [("x-slurm-user-token", d.token), ("x-slurm-user-name", d.userName)]

/-- A request to the place with a path. -/
def request (d : Driver) (method : Method) (path : String) (content : Content) :
    Except Error Request := do
  let url ← d.endpoint.url path
  Request.make method url d.headers content

/-- A request about one job. -/
def jobRequest (d : Driver) (method : Method) (id : String) : Except Error Request := do
  let url ← d.endpoint.segmentUrl "slurm/v0.0.40/job" id
  Request.make method url d.headers .empty

/-- The exchange that submits a job. -/
def submit (d : Driver) (spec : JobSpec) : Call String where
  opening := [.info ("Submitting job " ++ spec.name.getD "<unnamed>" ++ " to Slurm")]
  request := d.request .post "slurm/v0.0.41/job/submit" (.json (submission spec))
  interpret r := r.decode SubmitReply.ofDocument? >>= SubmitReply.id
  closing id := [.info ("Job submitted: " ++ id)]

/-- The exchange that stops a job. -/
def cancel (d : Driver) (id : String) : Call Unit where
  opening := [.info ("Cancelling job " ++ id)]
  request := d.jobRequest .delete id
  interpret r := r.expectSuccess.mapError (Error.aboutJob id)

/-- The exchange that names all jobs. -/
def list (d : Driver) : Call (List String) where
  opening := [.info "Listing all jobs"]
  request := d.request .get "slurm/v0.0.40/jobs" .empty
  interpret r := do
    let reply ← r.decode JobsReply.ofDocument?
    let infos ← reply.infos "Slurm failed to list jobs"
    return infos.filterMap fun info => info.jobId.bind nativeId?

/-- The exchange that tells the state of a job. -/
def status (d : Driver) (id : String) : Call JobState where
  opening := [.info ("Getting status for job " ++ id)]
  request := d.jobRequest .get id
  interpret r := do
    let reply ← (r.decode JobsReply.ofDocument?).mapError (Error.aboutJob id)
    reply.state id

/-- The exchanges of a driver. -/
def service (d : Driver) : Service where
  descriptor := descriptor
  states := states
  call
    | .submit spec => d.submit spec
    | .cancel id => d.cancel id
    | .list => d.list
    | .status id => d.status id

end Driver

end RemoteBatch.Slurm
