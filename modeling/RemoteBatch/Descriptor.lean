import RemoteBatch.Json.Printer
import RemoteBatch.Json.Record

/-!
# Driver descriptors

How a driver presents itself: the name that it is selected by, a name for people,
a version and a description.

## Main definitions

* `Descriptor` — a driver's card.
* `Descriptor.toDocument`, `Descriptor.ofDocument?` — the card in JSON.
-/

namespace RemoteBatch

open Json (Document)

/-- A driver's card. -/
structure Descriptor where
  name : String
  niceName : String
  version : String
  description : String
  deriving DecidableEq, Repr, Inhabited

namespace Descriptor

/-- The names of the fields. -/
def fieldNames : List String := ["name", "nice_name", "version", "description"]

/-- A card as JSON. -/
def toDocument (d : Descriptor) : Document :=
  .record
    [("name", .ofText d.name), ("nice_name", .ofText d.niceName),
     ("version", .ofText d.version), ("description", .ofText d.description)]

/-- The card that a document describes; no field may be missing. -/
def ofDocument? (d : Document) : Option Descriptor := do
  let fields ← d.fields? fieldNames
  let name ← fields.required "name" Document.text?
  let niceName ← fields.required "nice_name" Document.text?
  let version ← fields.required "version" Document.text?
  let description ← fields.required "description" Document.text?
  some { name, niceName, version, description }

/-- The compact JSON text of a card. -/
def text (d : Descriptor) : String := d.toDocument.toText

/-- The card that a JSON text describes. -/
def ofText? (s : String) : Option Descriptor := (Document.ofString? s).bind ofDocument?

end Descriptor

end RemoteBatch
