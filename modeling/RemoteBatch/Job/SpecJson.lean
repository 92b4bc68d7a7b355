import RemoteBatch.Job.Spec
import RemoteBatch.Json.Printer
import RemoteBatch.Json.Record

/-!
# Job specifications in JSON

A specification is a record with its fields under fixed names.  All but the
executable may be missing.  The wall time is written in whole seconds, and a node
count of zero is read as one.

## Main definitions

* `JobSpec.toDocument` — a specification as JSON.
* `JobSpec.ofDocument?` — the specification that a document describes.
* `JobSpec.text`, `JobSpec.ofText?` — the same over texts.
-/

namespace RemoteBatch

open Json (Document Fields)

/-- A whole number of 32 bits. -/
def word32? (d : Document) : Option UInt32 := (d.whole? UInt32.size).map UInt32.ofNat

/-- A whole number of 64 bits. -/
def word64? (d : Document) : Option UInt64 := (d.whole? UInt64.size).map UInt64.ofNat

/-- A word of 32 bits as JSON. -/
def ofWord32 (n : UInt32) : Document := .ofNat n.toNat

/-- The entry that a member of an object gives. -/
def entry? (member : Option String × Document) : Option (String × String) := do
  let key ← member.1
  let value ← member.2.text?
  some (key, value)

/-- The environment that an object describes; the last value of a key counts. -/
def environment? : Document → Option (SortedMap String)
  | .object members => (members.mapM entry?).map SortedMap.ofList
  | _ => none

/-- An environment as JSON. -/
def ofEnvironment (m : SortedMap String) : Document :=
  .record (m.entries.map fun (key, value) => (key, .ofText value))

namespace Resources

/-- The names of the fields. -/
def fieldNames : List String := ["node_count", "processes_per_node", "gpus_per_node"]

/-- A request for resources as JSON. -/
def toDocument (r : Resources) : Document :=
  .record
    [("node_count", ofWord32 r.nodeCount),
     ("processes_per_node", .ofOption ofWord32 r.processesPerNode),
     ("gpus_per_node", .ofOption ofWord32 r.gpusPerNode)]

/-- The request for resources that a document describes. -/
def ofDocument? (d : Document) : Option Resources := do
  let fields ← d.fields? fieldNames
  let nodeCount ← fields.withDefault "node_count" 1 word32?
  let processesPerNode ← fields.optional "processes_per_node" word32?
  let gpusPerNode ← fields.optional "gpus_per_node" word32?
  some (raised { nodeCount, processesPerNode, gpusPerNode })

end Resources

namespace JobSpec

/-- The names of the fields. -/
def fieldNames : List String :=
  ["name", "executable", "arguments", "directory", "environment", "duration", "resources"]

/-- A specification as JSON. -/
def toDocument (spec : JobSpec) : Document :=
  .record
    [("name", .ofOption .ofText spec.name),
     ("executable", .ofText spec.executable),
     ("arguments", .array (spec.arguments.map .ofText)),
     ("directory", .ofOption (fun d => .ofText d.path) spec.directory),
     ("environment", ofEnvironment spec.environment),
     ("duration", .ofNat spec.duration.seconds.toNat),
     ("resources", spec.resources.toDocument)]

/-- The specification that a document describes. -/
def ofDocument? (d : Document) : Option JobSpec := do
  let fields ← d.fields? fieldNames
  let name ← fields.optional "name" Document.text?
  let executable ← fields.required "executable" Document.text?
  let arguments ← fields.withDefault "arguments" [] (Document.list? Document.text?)
  let directory ← fields.optional "directory" fun d => d.text?.map Directory.mk
  let environment ← fields.withDefault "environment" ∅ environment?
  let duration ← fields.withDefault "duration" (.ofSeconds 600) fun d => (word64? d).map .ofSeconds
  let resources ← fields.withDefault "resources" {} Resources.ofDocument?
  some { name, executable, arguments, directory, environment, duration, resources }

/-- The compact JSON text of a specification. -/
def text (spec : JobSpec) : String := spec.toDocument.toText

/-- The specification that a JSON text describes. -/
def ofText? (s : String) : Option JobSpec := (Document.ofString? s).bind ofDocument?

end JobSpec

end RemoteBatch
