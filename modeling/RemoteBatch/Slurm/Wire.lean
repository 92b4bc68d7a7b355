import RemoteBatch.Job.Spec
import RemoteBatch.Json.Printer
import RemoteBatch.Json.Record
import RemoteBatch.Json.Value
import RemoteBatch.Script.Compose

/-!
# Slurm's messages

The submission that Slurm's REST service takes and the replies that it gives.  A
reply may hold errors beside, or in place of, what was asked for.

## Main definitions

* `submission` — the payload for a specification.
* `Complaint` — one error in a reply.
* `SubmitReply`, `JobsReply` — the replies.
-/

namespace RemoteBatch.Slurm

open Json (Document Value)

/-! ### Requests -/

/-- A variable and its value in one text. -/
def assignment (key value : String) : String := key ++ "=" ++ value

/-- The environment of a job; the service refuses an empty one. -/
def environment (spec : JobSpec) : List String :=
  if spec.environment.isEmpty then ["PATH=/bin:/usr/bin"]
  else spec.environment.entries.map fun (key, value) => assignment key value

/-- A member that is left out when it has no value. -/
def member (name : String) (value : Option Document) : List (String × Document) :=
  value.toList.map (name, ·)

/-- The description of a job. -/
def jobDocument (spec : JobSpec) : Document :=
  .record
    (member "name" (spec.name.map .ofText)
      ++ [("nodes", .ofText (Decimal.numeral spec.resources.nodes))]
      ++ member "tasks_per_node" (spec.resources.processesPerNode.map fun n => .ofNat n.toNat)
      ++ member "tres_per_node" (spec.resources.gpusPerNode.map fun n =>
          .ofText ("gres/gpu:" ++ Decimal.numeral n.toNat))
      ++ [("time_limit", .record [("set", .bool true), ("number", .ofNat spec.minutes)])]
      ++ member "current_working_directory" (spec.directory.map fun d => .ofText d.path)
      ++ [("environment", .array ((environment spec).map .ofText)),
          ("script", .ofText (Script.plain spec))])

/-- The payload of a submission. -/
def submission (spec : JobSpec) : Document := .record [("job", jobDocument spec)]

/-! ### Replies -/

/-- One error in a reply. -/
structure Complaint where
  error : Option String
  description : Option String
  deriving DecidableEq, Repr

/-- What a complaint says: its description, unless that is empty, or its error. -/
def Complaint.text (c : Complaint) : String :=
  ((c.description.filter (!·.isEmpty)) <|> c.error).getD "unknown error"

/-- The complaint that a document holds. -/
def Complaint.ofDocument? (d : Document) : Option Complaint := do
  let fields ← d.fields? ["error", "description"]
  let error ← fields.optional "error" Document.text?
  let description ← fields.optional "description" Document.text?
  some { error, description }

/-- The reply to a submission. -/
structure SubmitReply where
  jobId : Option Value
  errors : List Complaint
  deriving Repr

/-- The reply to a submission that a document holds. -/
def SubmitReply.ofDocument? (d : Document) : Option SubmitReply := do
  let fields ← d.fields? ["job_id", "errors"]
  let jobId ← fields.optional "job_id" (Document.value? 1)
  let errors ← fields.withDefault "errors" [] (Document.list? Complaint.ofDocument?)
  some { jobId, errors }

/-- The state of a job: one token, or several of which the first counts. -/
def stateToken? : Document → Option (List String)
  | .string s => s.map ([·])
  | .array items => items.mapM Document.text?
  | _ => none

/-- What a reply says of one job. -/
structure JobInfo where
  jobId : Option Value
  /-- The tokens of the job's state, if it has the field. -/
  state : Option (List String)
  deriving Repr

/-- What a document says of one job. -/
def JobInfo.ofDocument? (d : Document) : Option JobInfo := do
  let fields ← d.fields? ["job_id", "job_state"]
  let jobId ← fields.optional "job_id" (Document.value? 3)
  let state ← fields.optional "job_state" stateToken?
  some { jobId, state }

/-- The token that decides the state of a job. -/
def JobInfo.primary? (info : JobInfo) : Option String :=
  (info.state.bind List.head?).filter (!·.isEmpty)

/-- A reply about jobs. -/
structure JobsReply where
  jobs : Option (List JobInfo)
  errors : List Complaint
  deriving Repr

/-- The reply about jobs that a document holds. -/
def JobsReply.ofDocument? (d : Document) : Option JobsReply := do
  let fields ← d.fields? ["jobs", "errors"]
  let jobs ← fields.optional "jobs" (Document.list? JobInfo.ofDocument?)
  let errors ← fields.withDefault "errors" [] (Document.list? Complaint.ofDocument?)
  some { jobs, errors }

end RemoteBatch.Slurm
