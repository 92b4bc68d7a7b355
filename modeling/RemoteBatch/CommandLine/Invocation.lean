import RemoteBatch.CommandLine.Grammar
import RemoteBatch.Decimal.Natural
import RemoteBatch.Settings

/-!
# Invocations

What a command line asks for: a driver, how to reach its scheduler, and a command
with its arguments.

## Main definitions

* `Flags`, `Flags.overlay` — connection flags, and settings with them applied.
* `SubmitArgs`, `Command`, `Invocation` — what is asked for.
* `Invocation.ofArgs?` — the invocation that a command line writes.
-/

namespace RemoteBatch.CommandLine

/-- Connection flags; each replaces a setting. -/
structure Flags where
  url : Option String := none
  token : Option String := none
  userName : Option String := none
  insecure : Bool := false
  /-- In seconds. -/
  timeout : Option UInt64 := none
  deriving DecidableEq, Repr, Inhabited

/-- Settings with flags applied; an empty address or user name removes a setting. -/
def Flags.overlay (flags : Flags) (s : Settings) : Settings :=
  { url := match flags.url with
      | some url => Settings.nonempty url
      | none => s.url
    token := flags.token.getD s.token
    verifyTls := if flags.insecure then false else s.verifyTls
    userName := match flags.userName with
      | some name => Settings.nonempty name
      | none => s.userName
    timeout := match flags.timeout with
      | some seconds => .ofSeconds seconds
      | none => s.timeout }

/-- Where the specification of a new job starts from. -/
inductive Origin
  | executable (path : String)
  | file (path : String)
  deriving DecidableEq, Repr, Inhabited

/-- The arguments of a submission. -/
structure SubmitArgs where
  origin : Origin
  arguments : List String := []
  name : Option String := none
  directory : Option String := none
  environment : List (String × String) := []
  nodes : Option UInt32 := none
  minutes : Option UInt64 := none
  /-- Whether to follow the job until it ends. -/
  wait : Bool := false
  /-- Seconds between two refreshes. -/
  interval : UInt64 := 5
  deriving DecidableEq, Repr, Inhabited

/-- A command. -/
inductive Command
  | drivers (states : Bool)
  | submit (args : SubmitArgs)
  | cancel (id : String)
  | list
  | status (id : String)
  | watch (id : String) (interval : UInt64)
  deriving DecidableEq, Repr, Inhabited

/-- What a command line asks for. -/
structure Invocation where
  driver : String
  flags : Flags := {}
  command : Command
  deriving DecidableEq, Repr, Inhabited

/-! ### Values -/

/-- A number of 64 bits. -/
def word64? (s : String) : Option UInt64 := (Decimal.below? UInt64.size s).map UInt64.ofNat

/-- A number of 32 bits; a minus sign may stand before zero. -/
def word32? (s : String) : Option UInt32 :=
  match s.toList with
  | '-' :: digits => ((Decimal.natural? digits).filter (· = 0)).map fun _ => 0
  | _ => (Decimal.below? UInt32.size s).map UInt32.ofNat

/-- A variable and its value, separated by the first equals sign. -/
def assignment? (s : String) : Option (String × String) :=
  match cutAtEquals s.toList with
  | (key, some value) => if key.isEmpty then none else some (key, value)
  | (_, none) => none

/-- A path, which may not be empty. -/
def path? (s : String) : Option String := Settings.nonempty s

/-! ### Commands -/

/-- What stands before the command. -/
def mainGrammar : Grammar :=
  { valued := ["driver", "url", "token", "user-name", "timeout"]
    flags := ["insecure"]
    stopsAtOperand := true }

/-- What a submission accepts. -/
def submitGrammar : Grammar :=
  { valued := ["spec", "name", "directory", "nodes", "minutes", "interval"]
    repeated := ["env"]
    flags := ["wait"]
    trailingFrom := some 1 }

/-- The flags among items. -/
def flagsOf? (items : List Item) : Option Flags := do
  let url ← atMostOne "url" items
  let token ← atMostOne "token" items
  let userName ← atMostOne "user-name" items
  let insecure ← givenFlag "insecure" items
  let timeout ← atMostOneAs word64? "timeout" items
  some { url, token, userName, insecure, timeout }

/-- Where a specification starts from, and the arguments that follow: a file and
nothing else, or an executable and its arguments. -/
def origin? (file : Option String) (operands : List String) : Option (Origin × List String) :=
  match file, operands with
  | some path, [] => some (.file path, [])
  | none, executable :: arguments => some (.executable executable, arguments)
  | _, _ => none

/-- The arguments of a submission. -/
def submitArgs? (items : List Item) : Option SubmitArgs := do
  let file ← atMostOneAs path? "spec" items
  let (origin, arguments) ← origin? file (operandsOf items)
  let name ← atMostOne "name" items
  let directory ← atMostOneAs path? "directory" items
  let environment ← (valuesOf "env" items).mapM assignment?
  let nodes ← atMostOneAs word32? "nodes" items
  let minutes ← atMostOneAs word64? "minutes" items
  let wait ← givenFlag "wait" items
  let interval ← atMostOneAs word64? "interval" items
  some { origin, arguments, name, directory, environment, nodes, minutes, wait,
         interval := interval.getD 5 }

/-- All items of the words of a command. -/
def itemsOf? (g : Grammar) (words : List String) : Option (List Item) :=
  (g.scan 0 words).map (·.1)

/-- The only operand among items. -/
def onlyOperand? (items : List Item) : Option String :=
  match operandsOf items with
  | [word] => some word
  | _ => none

/-- The command that its name and its words write. -/
def command? : List String → Option Command
  | "drivers" :: words => do
    let items ← itemsOf? { flags := ["states"] } words
    let states ← givenFlag "states" items
    if (operandsOf items).isEmpty then some (.drivers states) else none
  | "submit" :: words => do
    let items ← itemsOf? submitGrammar words
    let args ← submitArgs? items
    some (.submit args)
  | "cancel" :: words => do
    let items ← itemsOf? {} words
    (onlyOperand? items).map .cancel
  | "list" :: words => do
    let items ← itemsOf? {} words
    if items.isEmpty then some .list else none
  | "status" :: words => do
    let items ← itemsOf? {} words
    (onlyOperand? items).map .status
  | "watch" :: words => do
    let items ← itemsOf? { valued := ["interval"] } words
    let id ← onlyOperand? items
    let interval ← atMostOneAs word64? "interval" items
    some (.watch id (interval.getD 5))
  | _ => none

/-- The invocation that a command line writes; `driver` is the one to use if the
line names none. -/
def Invocation.ofArgs? (driver : String) (words : List String) : Option Invocation := do
  let (items, rest) ← mainGrammar.scan 0 words
  let named ← atMostOne "driver" items
  let flags ← flagsOf? items
  let command ← command? rest
  some { driver := named.getD driver, flags, command }

end RemoteBatch.CommandLine
