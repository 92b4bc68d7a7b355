import RemoteBatch.Http.Endpoint
import RemoteBatch.Http.Service
import RemoteBatch.NativeId
import RemoteBatch.Nersc.Wire

/-!
# The NERSC driver

The machines of one computing facility behind its web service.  Requests about
jobs carry a bearer token.  A state outside the table counts as not yet started:
the facility has several states of its own before a job runs.

## Main definitions

* `states`, `descriptor` — the driver's table and card.
* `Nersc.Driver` — a configured driver.
* `Driver.service` — its exchanges.
* `Driver.facilityStatus` — how the facility is doing.
-/

namespace RemoteBatch.Nersc

open Http (Call Content Endpoint Method Request Response Service)

/-- The name that the driver is selected by. -/
def name : String := "nersc"

/-- The driver's card. -/
def descriptor : Descriptor :=
  { name
    niceName := "NERSC"
    version := "0.1.0"
    description := "Executor for the NERSC computing facility" }

/-- The base address unless settings give another. -/
def defaultUrl : String := "https://api.nersc.gov/api/v1.2"

/-- The machine unless another is chosen. -/
def defaultMachine : String := "perlmutter"

/-- The driver's table; every other token counts as new. -/
def states : StateTable :=
  { driver := name
    entries :=
      [("PENDING", .queued), ("SUSPENDED", .queued), ("RUNNING", .active),
       ("COMPLETED", .completed), ("CANCELLED", .canceled), ("FAILED", .failed),
       ("TIMEOUT", .failed), ("PREEMPTED", .failed), ("NODE_FAIL", .failed)]
    fallback := some .new }

/-- What can be wrong with an accepted reply. -/
inductive Fault
  | missingId
  /-- A listing says that it failed. -/
  | listFailed (text : String)
  | missingOutput
  /-- The report about a job says that it failed. -/
  | statusFailed (id text : String)
  | missingState (id : String)
  | missingStatus (id : String)
  deriving DecidableEq, Repr

/-- A fault as an error of the call. -/
def Fault.error : Fault → Error
  | missingId => .protocol "Failed to get job ID from NERSC"
  | listFailed text => .protocol ("NERSC failed to list jobs: " ++ text)
  | missingOutput => .protocol "NERSC job list has no output"
  | statusFailed id text => .protocol ("NERSC reported an error for job " ++ id ++ ": " ++ text)
  | missingState id => .protocol ("NERSC job " ++ id ++ " record has no state")
  | missingStatus id => .protocol ("NERSC response for job " ++ id ++ " has no status")

/-- The records of a listing. -/
def Listing.jobs : Listing → Except Error (List Record)
  | .records jobs => .ok jobs
  | .report r =>
    match r.failure? with
    | some text => .error (Fault.listFailed text).error
    | none =>
      match r.output with
      | some jobs => .ok jobs
      | none => .error Fault.missingOutput.error

/-- The token that decides the state of a job: that of its first record, or the
status of the report if that has no records at all. -/
def Report.token (r : Report) (id : String) : Except Error String :=
  match r.output, r.status with
  | some [], _ => .error (.notFound id)
  | some (record :: _), _ =>
    match record.state with
    | some token => .ok token
    | none => .error (Fault.missingState id).error
  | none, some status => .ok status
  | none, none => .error (Fault.missingStatus id).error

/-- The state of the job with an id in the report about it. -/
def Report.state (r : Report) (id : String) : Except Error JobState :=
  match r.failure? with
  | some text => .error (Fault.statusFailed id text).error
  | none => r.token id >>= states.map

/-- A configured driver. -/
structure Driver where
  endpoint : Endpoint
  token : String
  machine : String := defaultMachine
  deriving DecidableEq, Repr

namespace Driver

/-- The driver that settings describe. -/
def ofSettings (s : Settings) : Except Error Driver := do
  let endpoint ← Endpoint.ofSettings s defaultUrl
  return { endpoint, token := s.token }

/-- The header that asks for JSON. -/
def acceptJson : String × String := ("accept", "application/json")

/-- The headers of requests about jobs. -/
def headers (d : Driver) : List (String × String) :=
  [acceptJson, ("authorization", "Bearer " ++ d.token)]

/-- The path of the machine's jobs. -/
def jobsPath (d : Driver) : String := "compute/jobs/" ++ d.machine

/-- A request about one job. -/
def jobRequest (d : Driver) (method : Method) (id : String) : Except Error Request := do
  let url ← d.endpoint.segmentUrl d.jobsPath id
  Request.make method url d.headers .empty

/-- The exchange that submits a job. -/
def submit (d : Driver) (spec : JobSpec) : Call String where
  opening :=
    [.info ("Submitting job " ++ spec.name.getD "<unnamed>" ++ " to NERSC " ++ d.machine)]
  request := do
    let url ← d.endpoint.url d.jobsPath
    Request.make .post url d.headers (.form (submission spec))
  interpret r := do
    let id ← r.decode submitId?
    match id.bind nativeId? with
    | some id => return id
    | none => throw Fault.missingId.error
  closing id := [.info ("Job submitted to NERSC, received native_id: " ++ id)]

/-- The exchange that stops a job. -/
def cancel (d : Driver) (id : String) : Call Unit where
  opening := [.info ("Cancelling job " ++ id ++ " on NERSC.")]
  request := d.jobRequest .delete id
  interpret r := r.expectSuccess

/-- The exchange that names all jobs. -/
def list (d : Driver) : Call (List String) where
  opening := [.info "Listing jobs on NERSC."]
  request := do
    let url ← d.endpoint.url d.jobsPath
    let query := [("index", "0"), ("sacct", "false"), ("cached", "true")]
    Request.make .get (url.appendQuery query) d.headers .empty
  interpret r := do
    let listing ← r.decode Listing.ofDocument?
    let records ← listing.jobs
    return records.filterMap fun record => record.jobId.bind nativeId?
  closing ids := [.info ("Found " ++ Decimal.numeral ids.length ++ " jobs.")]

/-- The exchange that tells the state of a job. -/
def status (d : Driver) (id : String) : Call JobState where
  opening := [.info ("Getting status for job " ++ id ++ " from NERSC.")]
  request := d.jobRequest .get id
  interpret r := do
    let report ← (r.decode Report.ofDocument?).mapError (Error.aboutJob id)
    report.state id

/-- The exchanges of a driver. -/
def service (d : Driver) : Service where
  descriptor := descriptor
  states := states
  call
    | .submit spec => d.submit spec
    | .cancel id => d.cancel id
    | .list => d.list
    | .status id => d.status id

/-- The exchange that tells how the facility is doing. -/
def facilityStatus (d : Driver) : Call Json.Value where
  request := do
    let url ← d.endpoint.url "status"
    Request.make .get url [acceptJson] .empty
  interpret r := r.decode (Json.Document.value? 0)

end Driver

end RemoteBatch.Nersc
