import RemoteBatch.CommandLine.Invocation
import RemoteBatch.CommandLine.Style
import RemoteBatch.Job.SpecJson
import RemoteBatch.Poller
import RemoteBatch.Registry

/-!
# The program

What an invocation does: what it prints, whether it fails and why, and what it
sends.  A failure is a chain of messages, each explained by the one after it.

## Main definitions

* `Result` — what is printed, and the failure.
* `Surroundings` — what an invocation depends on besides the network.
* `run` — what an invocation does over a network.
* `Result.exitCode` — the code that tells the caller how it went.
-/

namespace RemoteBatch.CommandLine

open Http (Network Service)

/-- What a program did, as far as its caller sees. -/
structure Result where
  output : String := ""
  /-- The messages of a failure, the outermost first. -/
  failure : Option (List String) := none
  deriving DecidableEq, Repr, Inhabited

/-- The code that tells the caller how it went. -/
def Result.exitCode (r : Result) : Nat := if r.failure.isSome then 1 else 0

theorem Result.exitCode_of_ne_zero {r : Result} (h : r.exitCode ≠ 0) : r.exitCode = 1 := by
  by_cases failed : r.failure.isSome = true
  · exact if_pos failed
  · exact absurd (if_neg failed) h

/-- The code for a command line that asks for nothing the program can do. -/
def usageExitCode : Nat := 2

namespace Result

/-- A failure without output. -/
def failing (causes : List String) : Result := { failure := some causes }

/-- A result with text printed before it. -/
def after (text : String) (r : Result) : Result := { r with output := text ++ r.output }

end Result

/-- What a program depends on besides its command line and the network. -/
structure Surroundings where
  /-- The variables of the environment. -/
  env? : String → Option String
  /-- The texts of files; `none` for one that cannot be read. -/
  file? : String → Option String
  palette : Palette
  /-- The time of the start. -/
  now : Calendar.Instant
  /-- The id of the job handle that the program makes. -/
  jobId : JobId

/-- The line of a text. -/
def line (s : String) : String := s ++ "\n"

/-! ### Setting up -/

/-- The settings that the environment and the flags give, or the failure. -/
def settingsOf (env? : String → Option String) (flags : Flags) :
    Except (List String) Settings :=
  match Settings.ofVariables env? with
  | .ok s => .ok (flags.overlay s)
  | .error e => .error ["Invalid BATCHBRIDGE_* environment", e.message]

/-- The driver that is asked for, or the failure. -/
def setUp (registry : Registry δ) (driver : String) (s : Settings) : Except (List String) δ :=
  match registry.create driver s with
  | .ok d => .ok d
  | .error e => .error ["Failed to set up driver " ++ driver, e.message]

theorem setUp_eq_ok_iff {registry : Registry δ} {driver : String} {s : Settings} {d : δ} :
    setUp registry driver s = .ok d ↔ registry.create driver s = .ok d := by
  unfold setUp
  cases registry.create driver s with
  | ok d' => simp
  | error e => simp

/-! ### Specifications -/

/-- The specification that a submission starts from, or the failure. -/
def originSpec (file? : String → Option String) : Origin → Except (List String) JobSpec
  | .executable path => .ok { executable := path }
  | .file path =>
    match file? path with
    | none => .error ["Failed to read " ++ path]
    | some text =>
      match JobSpec.ofText? text with
      | some spec => .ok spec
      | none => .error ["Failed to parse job specification " ++ path]

/-- A specification with the arguments of a submission applied. -/
def SubmitArgs.overlay (args : SubmitArgs) (spec : JobSpec) : JobSpec :=
  let spec := { spec with arguments := spec.arguments ++ args.arguments }
  let spec := match args.name with
    | some name => { spec with name := some name }
    | none => spec
  let spec := match args.directory with
    | some path => { spec with directory := some ⟨path⟩ }
    | none => spec
  let spec := args.environment.foldl (fun spec (key, value) => spec.withVariable key value) spec
  let spec := match args.nodes with
    | some n => spec.withNodes n
    | none => spec
  match args.minutes with
  | some n => { spec with duration := .ofSeconds (n * 60) }
  | none => spec

/-- The specification that a submission describes, or the failure. -/
def SubmitArgs.spec (args : SubmitArgs) (file? : String → Option String) :
    Except (List String) JobSpec := do
  let spec ← originSpec file? args.origin
  return args.overlay spec

/-! ### Commands -/

/-- The line of one table entry. -/
def entryLine (token state : String) : String := line ("      " ++ token ++ " → " ++ state)

/-- The lines of a state table. -/
def tableLines (p : Palette) (table : StateTable) : String :=
  let known := table.entries.map fun (token, state) => entryLine (padTo 14 token) state.name
  let other := p.paint .dimmed (padTo 14 "(unknown)")
  let fallback := match table.fallback with
    | some state => state.name
    | none => p.paint .red "error"
  String.join known ++ entryLine other fallback

/-- The lines of one driver. -/
def driverLines (p : Palette) (d : Descriptor) : String :=
  line ("  " ++ p.paint .cyan "▸" ++ " " ++ p.paint .bold d.name ++ " "
      ++ p.paint .dimmed ("v" ++ d.version))
    ++ line ("    " ++ d.niceName)
    ++ if d.description.isEmpty then "" else line ("    " ++ p.paint .dimmed d.description)

/-- Prints drivers one after the other, with their tables if `states` says so. -/
def describeDrivers (p : Palette) (registry : Registry Service) (states : Bool) :
    List Descriptor → Result
  | [] => {}
  | d :: ds =>
    let table : Except (List String) String :=
      if states then
        match registry.create d.name {} with
        | .ok service => .ok (tableLines p service.states)
        | .error e => .error [e.message]
      else .ok ""
    match table with
    | .ok table =>
      (describeDrivers p registry states ds).after (driverLines p d ++ table ++ line "")
    | .error causes => (Result.failing causes).after (driverLines p d)

/-- Prints the drivers that can be selected. -/
def listDrivers (p : Palette) (registry : Registry Service) (states : Bool) : Result :=
  let ds := registry.descriptors
  (describeDrivers p registry states ds).after
    (line (p.paint .bold (Decimal.numeral ds.length ++ " driver(s) available:")) ++ line "")

/-- The handle of a job that is known by its id only, attached to it. -/
def attach (s : Surroundings) (service : Service) (id : String) (net : Network) :
    Except (List String) Job × Network :=
  let job := Job.create s.jobId { executable := "" } s.now
  let ran := (Lifecycle.attach job id).run service.backend net
  let report := ran.1.1
  match report.value with
  | .ok () => (.ok report.job, ran.2)
  | .error e => (.error ["Failed to attach to job " ++ id, e.message], ran.2)

/-- The line of a change of state. -/
def changeLine (p : Palette) (id : String) (c : Poller.Change) : String :=
  line ("  " ++ p.paint .cyan "▸" ++ " " ++ id ++ " " ++ p.state c.before ++ " → "
    ++ p.state c.after)

/-- The end of a job that was followed: only completion is a success. -/
def ended (p : Palette) (state : JobState) : Result :=
  { output := line ("Job finished: " ++ p.state state)
    failure := if state = .completed then none else some ["Job ended in state " ++ state.name] }

/-- Follows a job until it ends, and prints the changes of its state. -/
def follow (s : Surroundings) (service : Service) (job : Job) (net : Network) :
    Result × Network :=
  let poller : Poller := {}
  let (outcome, net) := poller.follow service.backend service.runsDry job net
  let changes := outcome.progress.changes.map (changeLine s.palette (job.nativeId.getD "?"))
  let last := match outcome.result with
    | .ok state => ended s.palette state
    | .error fault => Result.failing [fault.message]
  (last.after (String.join changes), net)

/-- Submits a job, and follows it if asked to. -/
def submit (s : Surroundings) (driver : String) (service : Service) (args : SubmitArgs)
    (net : Network) : Result × Network :=
  match args.spec s.file? with
  | .error causes => (.failing causes, net)
  | .ok spec =>
    let job := Job.create s.jobId spec s.now
    let ran := (Lifecycle.submit job).run service.backend net
    let report := ran.1.1
    match report.value with
    | .error e => (.failing ["Failed to submit job", e.message], ran.2)
    | .ok () =>
      let id := report.job.nativeId.getD "?"
      let text := line (s.palette.paint .green "✓" ++ " Submitted job "
        ++ s.palette.paint .bold id ++ " via " ++ s.palette.paint .cyan driver)
      if args.wait then
        let (result, net) := follow s service report.job ran.2
        (result.after text, net)
      else ({ output := text }, ran.2)

/-- Asks for the end of a job. -/
def cancel (s : Surroundings) (service : Service) (id : String) (net : Network) :
    Result × Network :=
  match attach s service id net with
  | (.error causes, net) => (.failing causes, net)
  | (.ok job, net) =>
    let ran := (Lifecycle.cancel job).run service.backend net
    match ran.1.1.value with
    | .error e => (.failing ["Failed to cancel job " ++ id, e.message], ran.2)
    | .ok () =>
      ({ output := line (s.palette.paint .green "✓" ++ " Cancellation requested for job "
          ++ s.palette.paint .bold id) }, ran.2)

/-- What a listing prints. -/
def listingText (p : Palette) (ids : List String) : String :=
  if ids.isEmpty then line (p.paint .yellow "No jobs found.")
  else
    line (p.paint .bold ("Found " ++ Decimal.numeral ids.length ++ " job(s):"))
      ++ String.join (ids.map fun id => line ("  " ++ p.paint .cyan "▸" ++ " " ++ id))

/-- Prints the ids of all jobs that can be seen. -/
def list (s : Surroundings) (service : Service) (net : Network) : Result × Network :=
  let ran := Lifecycle.listing.run service.backend net
  match ran.1.1.1 with
  | .error e => (.failing ["Failed to list jobs", e.message], ran.2)
  | .ok ids => ({ output := listingText s.palette ids }, ran.2)

/-- Prints the state of a job. -/
def status (s : Surroundings) (driver : String) (service : Service) (id : String)
    (net : Network) : Result × Network :=
  match attach s service id net with
  | (.error causes, net) => (.failing causes, net)
  | (.ok job, net) =>
    ({ output := line (s.palette.paint .bold "Job Details:")
        ++ line ("  Native ID: " ++ s.palette.paint .cyan id)
        ++ line ("  Driver:    " ++ driver)
        ++ line ("  State:     " ++ s.palette.state job.state) }, net)

/-- Attaches to a job and follows it until it ends. -/
def watch (s : Surroundings) (service : Service) (id : String) (net : Network) :
    Result × Network :=
  match attach s service id net with
  | (.error causes, net) => (.failing causes, net)
  | (.ok job, net) =>
    let text := line ("Job " ++ s.palette.paint .bold id ++ " is " ++ s.palette.state job.state)
    let (result, net) := follow s service job net
    (result.after text, net)

/-- A command that needs the driver. -/
def runWith (registry : Registry Service) (driver : String) (settings : Settings)
    (net : Network) (command : Service → Network → Result × Network) :
    Result × Network :=
  match setUp registry driver settings with
  | .error causes => (.failing causes, net)
  | .ok service => command service net

/-- What an invocation does over a network. -/
def run (s : Surroundings) (registry : Registry Service) (i : Invocation) (net : Network) :
    Result × Network :=
  match settingsOf s.env? i.flags with
  | .error causes => (.failing causes, net)
  | .ok settings =>
    let reach := runWith registry i.driver settings net
    match i.command with
    | .drivers states => (listDrivers s.palette registry states, net)
    | .submit args => reach fun service => submit s i.driver service args
    | .cancel id => reach fun service => cancel s service id
    | .list => reach fun service => list s service
    | .status id => reach fun service => status s i.driver service id
    | .watch id _ => reach fun service => watch s service id

/-- The driver that is used unless the command line names one. -/
def defaultDriver (env? : String → Option String) : String :=
  (env? "BATCHBRIDGE_DRIVER").getD "slurm-rest"

end RemoteBatch.CommandLine
