/-!
# Directories

The place where a job runs, as a slash-separated path.  Two spellings name the
same place if their components agree: repeated and trailing slashes and inner
dots do not count, a leading dot and every double dot do.

## Main definitions

* `Directory` — a path as written.
* `Directory.components` — what its spelling names.
* `Directory.same` — whether two spellings name the same place.
-/

namespace RemoteBatch

/-- A directory on the machine that runs a job. -/
structure Directory where
  path : String
  deriving DecidableEq, Repr, Inhabited

namespace Directory

/-- The steps of a path below its start. -/
def steps (ps : List (List Char)) : List (List Char) :=
  ps.filter fun part => part != [] && part != ['.']

/-- The components of a path: the root or a leading dot, and the steps below. -/
def components (d : Directory) : List (List Char) :=
  match d.path.toList.splitOn '/' with
  | [] :: rest@(_ :: _) => ['/'] :: steps rest
  | ['.'] :: rest => ['.'] :: steps rest
  | ps => steps ps

/-- Whether two spellings name the same directory. -/
def same (a b : Directory) : Bool := a.components == b.components

@[simp] theorem same_self (d : Directory) : same d d = true := by simp [same]

end Directory

end RemoteBatch
