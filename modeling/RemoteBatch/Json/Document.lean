import RemoteBatch.Json.Token

/-!
# JSON documents

A document is the tree a text writes, with nothing decided beyond its shape:
numbers keep their digits, members keep their order and their repetitions, and a
string that is no text is still a string.  What a part of it means is left to the
reader of that part, so that a reader can skip what it does not know.

Reading is a pass over the tokens with a stack of the open arrays and objects.

## Main definitions

* `Document` — the trees.
* `Document.height` — how deep arrays and objects nest.
* `step` — what one token does to the open containers.
* `Document.read?`, `Document.ofString?` — the document that a text writes.
-/

namespace RemoteBatch.Json

/-- A JSON tree as written. -/
inductive Document
  | null
  | bool (b : Bool)
  | number (n : Numeral)
  /-- A string; `none` if its characters are no text. -/
  | string (s : Option String)
  | array (items : List Document)
  /-- The members in the order written, with the same caveat on their keys. -/
  | object (members : List (Option String × Document))
  deriving Repr, Inhabited

namespace Document

mutual

/-- How many arrays and objects lie inside one another, at most. -/
def height : Document → Nat
  | .array items => heightOfItems items + 1
  | .object members => heightOfMembers members + 1
  | _ => 0

/-- The greatest height among the items of an array. -/
def heightOfItems : List Document → Nat
  | [] => 0
  | d :: ds => max d.height (heightOfItems ds)

/-- The greatest height among the values of an object. -/
def heightOfMembers : List (Option String × Document) → Nat
  | [] => 0
  | (_, d) :: ms => max d.height (heightOfMembers ms)

end

end Document

/-- An open container, with what it holds so far in reverse. -/
inductive Frame
  | array (items : List Document)
  | object (members : List (Option String × Document))
  /-- An object whose next member has a key and no value yet. -/
  | member (members : List (Option String × Document)) (key : Option String)
  deriving Inhabited

/-- What the tokens so far have opened, and what may come next. -/
inductive State
  /-- A value must follow. -/
  | value (frames : List Frame)
  /-- The first item of an array, or its end. -/
  | firstItem (frames : List Frame)
  /-- The first key of an object, or its end. -/
  | firstKey (frames : List Frame)
  /-- A key must follow. -/
  | key (members : List (Option String × Document)) (frames : List Frame)
  /-- The colon after a key must follow. -/
  | colon (frames : List Frame)
  /-- A value is complete; a comma or the end of its container must follow. -/
  | after (frames : List Frame)
  /-- The document is complete. -/
  | done (d : Document)
  deriving Inhabited

/-- Hands a complete value to the innermost open container. -/
def State.complete (d : Document) : List Frame → Option State
  | [] => some (.done d)
  | .array items :: frames => some (.after (.array (d :: items) :: frames))
  | .member members name :: frames => some (.after (.object ((name, d) :: members) :: frames))
  | .object _ :: _ => none

/-- Starts a value: a scalar is complete at once, a bracket opens a container. -/
def State.open (frames : List Frame) : Token → Option State
  | .null => complete .null frames
  | .bool b => complete (.bool b) frames
  | .number n => complete (.number n) frames
  | .string s => complete (.string s) frames
  | .openBracket => some (.firstItem (.array [] :: frames))
  | .openBrace => some (.firstKey (.object [] :: frames))
  | _ => none

/-- What one token does. -/
def step : State → Token → Option State
  | .value frames, t => State.open frames t
  | .firstItem (.array items :: frames), .closeBracket =>
    State.complete (.array items.reverse) frames
  | .firstItem frames, t => State.open frames t
  | .firstKey (.object members :: frames), .closeBrace =>
    State.complete (.object members.reverse) frames
  | .firstKey (.object members :: frames), .string name =>
    some (.colon (.member members name :: frames))
  | .key members frames, .string name => some (.colon (.member members name :: frames))
  | .colon frames, .colon => some (.value frames)
  | .after (.array items :: frames), .comma => some (.value (.array items :: frames))
  | .after (.array items :: frames), .closeBracket =>
    State.complete (.array items.reverse) frames
  | .after (.object members :: frames), .comma => some (.key members frames)
  | .after (.object members :: frames), .closeBrace =>
    State.complete (.object members.reverse) frames
  | _, _ => none

namespace Document

/-- The document that a list of tokens writes. -/
def ofTokens? (ts : List Token) : Option Document :=
  match ts.foldlM step (.value []) with
  | some (.done d) => some d
  | _ => none

/-- The document that a text writes; nothing but blanks may surround it. -/
def read? (gs : List Glyph) : Option Document := (lex gs).bind ofTokens?

/-- The document that a string writes. -/
def ofString? (s : String) : Option Document := read? (glyphsOf s)

/-- The document that an octet string writes. -/
def ofBytes? (bytes : List UInt8) : Option Document := read? (Text.glyphs bytes)

end Document

end RemoteBatch.Json
