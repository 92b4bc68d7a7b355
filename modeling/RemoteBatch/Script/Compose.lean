import RemoteBatch.Decimal.Natural
import RemoteBatch.Job.Spec
import RemoteBatch.Script.Quote
import RemoteBatch.Text.Blank
import RemoteBatch.Text.Lines

/-!
# Batch scripts

The script that a scheduler runs for a specification: the script that the
specification holds, or one that starts its executable with its arguments.  A
scheduler that takes nothing but a script gets the rest of the specification in
it too, as directives behind the first line and as exports behind the comments
that follow.

## Main definitions

* `body` — the script itself.
* `directives`, `exports` — the lines that say the rest.
* `splice` — a script with such lines inserted.
* `plain`, `complete` — the script without and with the rest of the specification.
-/

namespace RemoteBatch.Script

/-- The command that starts the executable of a specification. -/
def command (spec : JobSpec) : List Char :=
  "exec ".toList ++ quoteWord spec.executable
    ++ spec.arguments.flatMap fun argument => ' ' :: quoteWord argument

/-- The first line of a script that needs none in particular. -/
def shebang : List Char := "#!/bin/sh".toList

/-- The script itself. -/
def body (spec : JobSpec) : List Char :=
  match spec.script? with
  | some script => script
  | none => shebang ++ '\n' :: command spec ++ ['\n']

/-- A directive to the scheduler. -/
def directive (name : String) (value : List Char) : List Char :=
  "#SBATCH --".toList ++ name.toList ++ '=' :: value

/-- A directive with a number, if there is one. -/
def countDirective (name : String) (count : Option UInt32) : List (List Char) :=
  count.toList.map fun n => directive name (Nat.toDigits 10 n.toNat)

/-- The directives for a specification. -/
def directives (spec : JobSpec) : List (List Char) :=
  (spec.name.toList.map fun name => directive "job-name" name.toList)
    ++ [directive "nodes" (Nat.toDigits 10 spec.resources.nodes)]
    ++ countDirective "ntasks-per-node" spec.resources.processesPerNode
    ++ countDirective "gpus-per-node" spec.resources.gpusPerNode
    ++ [directive "time" (Nat.toDigits 10 spec.minutes)]
    ++ spec.directory.toList.map fun d => directive "chdir" d.path.toList

/-- The command that sets one environment variable. -/
def exportLine (key value : String) : List Char :=
  "export ".toList ++ key.toList ++ '=' :: quoteWord value

/-- The commands that set the environment of a specification. -/
def exports (spec : JobSpec) : List (List Char) :=
  spec.environment.entries.map fun (key, value) => exportLine key value

/-- Whether a line is blank or a comment. -/
def isHeader (line : List Char) : Bool :=
  match Text.dropBlanks line with
  | [] => true
  | c :: _ => c == '#'

/-- The lines of a script, with directives behind the first and exports behind
the header that follows it. -/
def spliceLines (directives exports lines : List (List Char)) : List (List Char) :=
  let rest := lines.drop 1
  lines.headD shebang :: directives ++ rest.takeWhile isHeader ++ exports
    ++ rest.dropWhile isHeader

/-- A script with directives and exports, each on a line of its own. -/
def splice (directives exports : List (List Char)) (script : List Char) : List Char :=
  if directives.isEmpty && exports.isEmpty then script
  else Text.unlines (spliceLines directives exports (Text.lines script))

/-- The script of a specification, to be sent beside the rest of it. -/
def plain (spec : JobSpec) : String := String.ofList (splice [] [] (body spec))

/-- The script that carries the whole specification. -/
def complete (spec : JobSpec) : String :=
  String.ofList (splice (directives spec) (exports spec) (body spec))

end RemoteBatch.Script
