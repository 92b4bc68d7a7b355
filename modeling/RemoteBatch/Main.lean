import RemoteBatch.CommandLine.Program

/-!
# The executable

Reads the command line, the environment and the specification file, runs the
program and prints what it says.  No line to a scheduler is attached, so that every
request that can be made goes unanswered.
-/

namespace RemoteBatch.CommandLine

open Calendar (Date Instant)

/-- The time that job handles of one run are made at; nothing shows it. -/
def startOfRun : Instant := .epoch

/-- The id of the one job handle of a run; nothing shows it. -/
def handleOfRun : JobId := .zero

/-- The specification file that an invocation reads. -/
def specFile? : Command → Option String
  | .submit { origin := .file path, .. } => some path
  | _ => none

/-- The text of a file, if it can be read. -/
def readText? (path : String) : IO (Option String) := do
  try
    let text ← IO.FS.readFile path
    return some text
  catch _ => return none

/-- The values of the variables that the program knows. -/
def readVariables : IO (List (String × String)) := do
  let names := ["DRIVER", "URL", "TOKEN", "VERIFY_TLS", "USER_NAME", "TIMEOUT"].map
    ("BATCHBRIDGE_" ++ ·)
  let found ← names.mapM fun name => do
    return (← IO.getEnv name).map (name, ·)
  return found.filterMap id

/-- A failure as it is reported to a person. -/
def explain : List String → String
  | [] => ""
  | [cause] => line ("Error: " ++ cause)
  | cause :: causes =>
    line ("Error: " ++ cause) ++ line "" ++ line "Caused by:"
      ++ String.join (causes.map fun c => line ("    " ++ c))

/-- Runs the program on a command line; the result is the exit code. -/
def start (args : List String) : IO UInt32 := do
  let found ← readVariables
  let env? := fun name => found.lookup name
  match Invocation.ofArgs? (defaultDriver env?) args with
  | none =>
    (← IO.getStderr).putStr (line "error: invalid command line")
    return UInt32.ofNat usageExitCode
  | some invocation =>
    let path := specFile? invocation.command
    let text ← match path with
      | some path => readText? path
      | none => pure none
    let stdout ← IO.getStdout
    let surroundings : Surroundings :=
      { env?
        file? := fun p => if some p = path then text else none
        palette := ⟨← stdout.isTty⟩
        now := startOfRun
        jobId := handleOfRun }
    let (result, _) :=
      run surroundings Registry.builtin invocation { line := .down, now := startOfRun }
    stdout.putStr result.output
    (← IO.getStderr).putStr (explain (result.failure.getD []))
    return UInt32.ofNat result.exitCode

end RemoteBatch.CommandLine

/-- The entry point. -/
def main (args : List String) : IO UInt32 := RemoteBatch.CommandLine.start args
