import RemoteBatch.Url.Basic

/-!
# Paths of segments

A path is read segment by segment, where one dot stands for the place reached so
far and two dots for the place above.  A single segment can be added to a path
that is already read; nothing in it separates segments, but a segment that comes
out as dots still has their meaning.

## Main definitions

* `isDot`, `isDoubleDot` — the segments with a meaning of their own.
* `resolve` — the segments that a written path names.
* `Path.push?` — a path with one more segment.
-/

namespace RemoteBatch.Url

/-- The characters that the parts of an address escape in common. -/
def isControl (c : Char) : Bool := c.toNat ≤ 0x1F || c.toNat == 0x7F

/-- The characters that a fragment escapes. -/
def escapesInFragment (c : Char) : Bool := isControl c || " \"<>\x60".toList.contains c

/-- The characters that a path escapes. -/
def escapesInPath (c : Char) : Bool := escapesInFragment c || "#?\x7b\x7d".toList.contains c

/-- The characters that a segment escapes when it is added on its own. -/
def escapesInSegment (special : Bool) (c : Char) : Bool :=
  escapesInPath c || c == '/' || c == '%' || (special && c == '\\')

/-- Whether a segment names the place reached so far. -/
def isDot (segment : List Char) : Bool :=
  Text.foldCase (String.ofList segment) ∈ [".", "%2e"]

/-- Whether a segment names the place above. -/
def isDoubleDot (segment : List Char) : Bool :=
  Text.foldCase (String.ofList segment) ∈ ["..", ".%2e", "%2e.", "%2e%2e"]

/-- Whether a segment names a drive: a letter and a mark. -/
def isDrive : List Char → Bool
  | [c, mark] => c.isAlpha && (mark == ':' || mark == '|')
  | _ => false

/-- The segments without the last, unless that names a drive. -/
def shorten (segments : List (List Char)) : List (List Char) :=
  if segments.getLast?.any isDrive then segments else segments.dropLast

/-- The segments that a written path names, after those of `done`.  A path that
ends in dots names a place, and so ends in an empty segment. -/
def resolve (done : List (List Char)) : List (List Char) → List (List Char)
  | [] => done
  | [s] =>
    if isDoubleDot s then shorten done ++ [[]]
    else if isDot s then done ++ [[]]
    else done ++ [s]
  | s :: rest =>
    if isDoubleDot s then resolve (shorten done) rest
    else if isDot s then resolve done rest
    else resolve (done ++ [s]) rest

/-- Whether a character is left out wherever an address holds it. -/
def isDropped (c : Char) : Bool := c == '\t' || c == '\n' || c == '\r'

/-- The segments without an empty last one. -/
def withoutEmptyLast (segments : List (List Char)) : List (List Char) :=
  if segments.getLast? = some [] then segments.dropLast else segments

/-- The form that a text has as a segment. -/
def segmentOf (special : Bool) (text : List Char) : List Char :=
  Text.percentEncode (escapesInSegment special) (text.filter (!isDropped ·))

/-- The segments behind which one more can be added: the root is none. -/
def pushBase (segments : List (List Char)) : List (List Char) :=
  let base := if segments.length ≤ 1 then segments else withoutEmptyLast segments
  if base = [[]] then [] else base

/-- A path with a text as one more segment, in place of an empty last one. -/
def Path.push? (special : Bool) (text : List Char) : Path → Option Path
  | .segments parts =>
    some (.segments (resolve (pushBase parts) [segmentOf special text]))
  | .flat _ => none

end RemoteBatch.Url
