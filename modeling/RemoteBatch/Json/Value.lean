import RemoteBatch.Json.Document
import RemoteBatch.Json.Number

/-!
# JSON values

What a document denotes when all of it is wanted: every number must have a value,
every string must be a text, a key that repeats keeps its last value, and arrays
and objects nest at most 127 deep in the whole text that they come from.

## Main definitions

* `Value` — the values.
* `Document.value?` — the value of a document inside a given number of containers.
-/

namespace RemoteBatch.Json

/-- A JSON value. -/
inductive Value
  | null
  | bool (b : Bool)
  | number (n : Number)
  | string (s : String)
  | array (items : List Value)
  /-- The members, each key once. -/
  | object (members : List (String × Value))
  deriving Repr, Inhabited

/-- Gives a key a value, in place of the one it had. -/
def assign (key : String) (v : Value) : List (String × Value) → List (String × Value)
  | [] => [(key, v)]
  | (k, w) :: ms => if k = key then (k, v) :: ms else (k, w) :: assign key v ms

/-- How deep arrays and objects may nest in a text whose parts are all wanted. -/
def maxNesting : Nat := 127

namespace Document

mutual

/-- The value of a document, whatever its height. -/
def denote? : Document → Option Value
  | .null => some .null
  | .bool b => some (.bool b)
  | .number n => (Number.ofNumeral? n).map .number
  | .string s => s.map .string
  | .array items => (denoteItems? items).map .array
  | .object members => (denoteMembers? members []).map .object

/-- The values of the items of an array. -/
def denoteItems? : List Document → Option (List Value)
  | [] => some []
  | d :: ds => do
    let v ← d.denote?
    let vs ← denoteItems? ds
    some (v :: vs)

/-- The members of an object, onto those before them. -/
def denoteMembers? : List (Option String × Document) → List (String × Value) →
    Option (List (String × Value))
  | [], done => some done
  | (key, d) :: ms, done => do
    let key ← key
    let v ← d.denote?
    denoteMembers? ms (assign key v done)

end

/-- The value of a document that lies inside `enclosing` arrays and objects. -/
def value? (enclosing : Nat) (d : Document) : Option Value :=
  if enclosing + d.height ≤ maxNesting then d.denote? else none

end Document

end RemoteBatch.Json
