import RemoteBatch.Job.Directory
import RemoteBatch.Job.Duration
import RemoteBatch.SortedMap
import RemoteBatch.Text.Blank

/-!
# Job specifications

What to run and with which resources, said without regard to the scheduler that
will run it.

## Main definitions

* `Resources` — nodes, and processes and accelerators on each.
* `JobSpec` — a specification.
* `JobSpec.isInline` — whether the executable is a script rather than a path.
* `JobSpec.same` — equality up to the spelling of the directory.
-/

namespace RemoteBatch

/-- The resources that a job asks for. -/
structure Resources where
  nodeCount : UInt32 := 1
  processesPerNode : Option UInt32 := none
  gpusPerNode : Option UInt32 := none
  deriving DecidableEq, Repr, Inhabited

namespace Resources

/-- The number of nodes to ask a scheduler for: never zero. -/
def nodes (r : Resources) : Nat := max r.nodeCount.toNat 1

/-- The resources with the node count raised to at least one. -/
def raised (r : Resources) : Resources := { r with nodeCount := max r.nodeCount 1 }

theorem toNat_max_one (n : UInt32) : (max n 1).toNat = max n.toNat 1 := by
  show (if n ≤ 1 then 1 else n).toNat = _
  split
  · next h => have := UInt32.le_iff_toNat_le.1 h; simp at this; simp; omega
  · next h => have := mt UInt32.le_iff_toNat_le.2 h; simp at this; omega

@[simp] theorem nodes_raised (r : Resources) : r.raised.nodes = r.nodes := by
  simp only [nodes, raised, toNat_max_one]
  omega

@[simp] theorem raised_raised (r : Resources) : r.raised.raised = r.raised := by
  have h : max (max r.nodeCount 1) 1 = max r.nodeCount 1 :=
    UInt32.toNat_inj.mp (by simp only [toNat_max_one]; omega)
  simp only [raised, h]

end Resources

/-- A job specification. -/
structure JobSpec where
  name : Option String := none
  /-- A path on the machine that runs the job, or the text of a script. -/
  executable : String
  arguments : List String := []
  directory : Option Directory := none
  environment : SortedMap String := ∅
  /-- The limit on the wall time. -/
  duration : Duration := .ofSeconds 600
  resources : Resources := {}
  deriving DecidableEq, Repr, Inhabited

namespace JobSpec

/-- The specification with one more argument. -/
def withArgument (spec : JobSpec) (argument : String) : JobSpec :=
  { spec with arguments := spec.arguments ++ [argument] }

/-- The specification with an environment variable set. -/
def withVariable (spec : JobSpec) (key value : String) : JobSpec :=
  { spec with environment := spec.environment.insert key value }

/-- The specification on a number of nodes; zero is raised to one. -/
def withNodes (spec : JobSpec) (count : UInt32) : JobSpec :=
  { spec with resources := { spec.resources with nodeCount := max count 1 } }

/-- The script that starts with the first two characters given, if the executable
is one. -/
def script? (spec : JobSpec) : Option (List Char) :=
  match Text.dropBlanks spec.executable.toList with
  | '#' :: '!' :: rest => some ('#' :: '!' :: rest)
  | _ => none

/-- Whether the executable is the text of a script rather than a path. -/
def isInline (spec : JobSpec) : Bool := spec.script?.isSome

/-- The wall time in whole minutes, never below one. -/
def minutes (spec : JobSpec) : Nat := spec.duration.minutes

/-- Whether two optional directories name the same place. -/
def sameDirectory : Option Directory → Option Directory → Bool
  | none, none => true
  | some a, some b => a.same b
  | _, _ => false

/-- Whether two specifications ask for the same, however they spell the
directory. -/
def same (a b : JobSpec) : Bool :=
  sameDirectory a.directory b.directory
    && { a with directory := none } == { b with directory := none }

/-- What remains of a specification that was written down and read back: whole
seconds and at least one node. -/
def settled (spec : JobSpec) : JobSpec :=
  { spec with duration := spec.duration.wholeSeconds, resources := spec.resources.raised }

end JobSpec

end RemoteBatch
