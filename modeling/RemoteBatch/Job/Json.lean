import RemoteBatch.Job.Basic
import RemoteBatch.Job.SpecJson

/-!
# Job handles in JSON

A handle is a record of its five fields, so that it can be kept between two runs.

## Main definitions

* `Job.toDocument` — a handle as JSON.
* `Job.ofDocument?` — the handle that a document describes.
* `Job.text`, `Job.ofText?` — the same over texts.
-/

namespace RemoteBatch

open Json (Document)
open Calendar (Instant)

namespace Job

/-- The names of the fields. -/
def fieldNames : List String := ["id", "spec", "state", "native_id", "updated_at"]

/-- A handle as JSON. -/
def toDocument (job : Job) : Document :=
  .record
    [("id", .ofText job.id.text),
     ("spec", job.spec.toDocument),
     ("state", job.state.toDocument),
     ("native_id", .ofOption .ofText job.nativeId),
     ("updated_at", .ofText job.updatedAt.text)]

/-- Whether all fields are there, as an array must have them. -/
def isComplete : Document → Bool
  | .array items => items.length == fieldNames.length
  | _ => true

/-- The handle that a document describes. -/
def ofDocument? (d : Document) : Option Job :=
  if !isComplete d then none
  else do
    let fields ← d.fields? fieldNames
    let id ← fields.required "id" fun d => d.text?.bind JobId.read?
    let spec ← fields.required "spec" JobSpec.ofDocument?
    let state ← fields.required "state" JobState.ofDocument?
    let nativeId ← fields.optional "native_id" Document.text?
    let updatedAt ← fields.required "updated_at" fun d => d.text?.bind Instant.read?
    some { id, spec, state, nativeId, updatedAt }

/-- The compact JSON text of a handle. -/
def text (job : Job) : String := job.toDocument.toText

/-- The handle that a JSON text describes. -/
def ofText? (s : String) : Option Job := (Document.ofString? s).bind ofDocument?

end Job

end RemoteBatch
