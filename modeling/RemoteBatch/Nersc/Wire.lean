import RemoteBatch.Json.Record
import RemoteBatch.Json.Value
import RemoteBatch.Script.Compose

/-!
# NERSC's messages

The form that the facility takes for a submission and the replies that it gives.
A reply may say in its status field that the request failed, whatever else it
holds.

## Main definitions

* `submission` — the form for a specification.
* `Record` — what a reply says of one job.
* `Report` — a reply with a status of its own.
* `Listing` — a reply that names jobs.
-/

namespace RemoteBatch.Nersc

open Json (Document Value)

/-- The form of a submission: the whole specification as one script. -/
def submission (spec : JobSpec) : List (String × String) :=
  [("isPath", "false"), ("job", Script.complete spec), ("callbackTimeout", "0")]

/-- The id in the reply to a submission. -/
def submitId? (d : Document) : Option (Option Value) := do
  let fields ← d.fields? ["jobid"]
  fields.optional "jobid" (Document.value? 1)

/-- What a reply says of one job. -/
structure Record where
  jobId : Option Value
  state : Option String
  deriving Repr

/-- What a document inside `enclosing` containers says of one job. -/
def Record.ofDocument? (enclosing : Nat) (d : Document) : Option Record := do
  let fields ← d.fields? ["jobid", "state"]
  let jobId ← fields.optional "jobid" (Document.value? enclosing)
  let state ← fields.optional "state" Document.text?
  some { jobId, state }

/-- A reply with a status of its own. -/
structure Report where
  status : Option String
  error : Option String
  output : Option (List Record)
  deriving Repr

namespace Report

/-- The report that some fields hold. -/
def ofFields? (fields : Json.Fields) : Option Report := do
  let status ← fields.optional "status" Document.text?
  let error ← fields.optional "error" Document.text?
  let output ← fields.optional "output" (Document.list? (Record.ofDocument? 3))
  some { status, error, output }

/-- The names of the fields. -/
def fieldNames : List String := ["status", "error", "output"]

/-- The report that a document holds. -/
def ofDocument? (d : Document) : Option Report := (d.fields? fieldNames).bind ofFields?

/-- What went wrong, if the report says that something did. -/
def failure? (r : Report) : Option String :=
  if r.status.any (Text.sameIgnoringCase · "ERROR") then some (r.error.getD "unknown error")
  else none

end Report

/-- A reply that names jobs: their records, or a report with them. -/
inductive Listing
  | records (jobs : List Record)
  | report (r : Report)
  deriving Repr

/-- The listing that a document holds; all of the document must have a value. -/
def Listing.ofDocument? (d : Document) : Option Listing :=
  if (d.value? 0).isNone then none
  else match d with
    | .array items => (items.mapM (Record.ofDocument? 0)).map .records
    | d => ((d.members? Report.fieldNames).bind Report.ofFields?).map .report

end RemoteBatch.Nersc
