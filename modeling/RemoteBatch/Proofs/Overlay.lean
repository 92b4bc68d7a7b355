import Mathlib.Data.List.Induction
import RemoteBatch.CommandLine.Program
import RemoteBatch.Proofs.Environment
import RemoteBatch.Proofs.Replies
import RemoteBatch.Proofs.Settled
import RemoteBatch.Slurm.Service

/-!
# What a command line submits

The options of a submission are laid over the specification in a file.  Most of them
replace a field, the arguments are added to those of the file, and the variables are set
one after the other, so that the last value of a name counts.  A variable is given as one
text and goes to Slurm as one text, and between the two it is a name with a value: the
text is cut at its first equals sign and joined again, and comes out as it was.

## Main definitions

* `CommandLine.Assigns` — the texts that set a variable.
* `CommandLine.lastText?` — the last of some texts that sets a variable.
* `CommandLine.SubmitArgs.Overlays` — a specification with options laid over it.
* `CommandLine.CarriesTexts` — that a submission to Slurm carries the texts given.
* `Slurm.Driver.sentTexts?` — the texts that Slurm is sent for the environment.

## Main results

* `CommandLine.overlays_overlay` — an overlay, field by field.
* `CommandLine.spec_of_file` — **what is submitted, and the texts that Slurm gets of it.**
-/

namespace RemoteBatch

open CommandLine (assignment? cutAtEquals cutAtEquals_append)
open Json (Document)

/-! ### Setting variables one after the other -/

/-- A key finds the value that it was given last. -/
theorem SortedMap.find?_foldl_insert_last (m : SortedMap β) (es : List (String × β))
    (key : String) : (es.foldl (fun m e => m.insert e.1 e.2) m).find? key =
      (es.reverse.lookup key).or (m.find? key) := by
  -- from the end, since the last insertion decides
  induction es using List.reverseRecOn with
  | nil => rfl
  | append_singleton es e ih =>
    rw [List.foldl_append, List.foldl_cons, List.foldl_nil, find?_insert, ih,
      List.reverse_append, List.reverse_singleton, List.singleton_append, lookup_cons_eq_ite]
    split
    · rfl
    · rfl

namespace CommandLine

theorem foldl_withVariable (spec : JobSpec) (es : List (String × String)) :
    es.foldl (fun spec e => spec.withVariable e.1 e.2) spec =
      { spec with environment := es.foldl (fun m e => m.insert e.1 e.2) spec.environment } := by
  induction es generalizing spec with
  | nil => rfl
  | cons e es ih =>
    rw [List.foldl_cons, ih]
    rfl

/-- That a specification is another one with the options of a submission laid over it. -/
structure SubmitArgs.Overlays (args : SubmitArgs) (base spec : JobSpec) : Prop where
  name : spec.name = args.name.or base.name
  executable : spec.executable = base.executable
  /-- The arguments are added behind. -/
  arguments : spec.arguments = base.arguments ++ args.arguments
  directory : spec.directory = (args.directory.map Directory.mk).or base.directory
  /-- The value given last counts, and the other variables stay. -/
  environment : ∀ key, spec.environment.find? key =
    (args.environment.reverse.lookup key).or (base.environment.find? key)
  /-- The limit stays unless there is another one. -/
  unlimited : args.minutes = none → spec.duration = base.duration
  limited : ∀ m, args.minutes = some m →
    spec.duration.seconds.toNat = m.toNat * 60 ∧ spec.duration.nanos = 0
  nodeCount : spec.resources.nodeCount =
    (args.nodes.map (max · 1)).getD base.resources.nodeCount
  processesPerNode : spec.resources.processesPerNode = base.resources.processesPerNode
  gpusPerNode : spec.resources.gpusPerNode = base.resources.gpusPerNode

/-- An overlay in one piece. -/
theorem SubmitArgs.overlay_eq (args : SubmitArgs) (base : JobSpec) : args.overlay base =
    { name := args.name.or base.name
      executable := base.executable
      arguments := base.arguments ++ args.arguments
      directory := (args.directory.map Directory.mk).or base.directory
      environment := args.environment.foldl (fun m e => m.insert e.1 e.2) base.environment
      duration := (args.minutes.map fun m => .ofSeconds (m * 60)).getD base.duration
      resources := { base.resources with
        nodeCount := (args.nodes.map (max · 1)).getD base.resources.nodeCount } } := by
  obtain ⟨_, _, name, directory, _, nodes, minutes, _, _⟩ := args
  simp only [overlay, foldl_withVariable]
  cases name <;> cases directory <;> cases nodes <;> cases minutes <;> rfl

/-- A variable of an overlay has the value given last, or else the one that it had. -/
theorem SubmitArgs.find?_overlay (args : SubmitArgs) (base : JobSpec) (key : String) :
    (args.overlay base).environment.find? key =
      (args.environment.reverse.lookup key).or (base.environment.find? key) := by
  rw [args.overlay_eq base]
  exact SortedMap.find?_foldl_insert_last base.environment args.environment key

/-- **An overlay, field by field.** -/
theorem overlays_overlay {args : SubmitArgs} (base : JobSpec)
    (hminutes : ∀ m, args.minutes = some m → m.toNat * 60 < UInt64.size) :
    args.Overlays base (args.overlay base) := by
  have henvironment := args.find?_overlay base
  rw [args.overlay_eq base] at henvironment ⊢
  refine ⟨rfl, rfl, rfl, rfl, henvironment, ?_, ?_, rfl, rfl, rfl⟩
  · intro h
    rw [h]
    rfl
  · intro m hm
    have hsize : m.toNat * 60 < 2 ^ 64 := hminutes m hm
    have hseconds : (m * 60).toNat = m.toNat * 60 := by
      rw [UInt64.toNat_mul]
      exact Nat.mod_eq_of_lt hsize
    rw [hm]
    exact ⟨hseconds, rfl⟩

/-- There is a node in a specification that was read from a text. -/
theorem one_le_nodeCount_of_ofText? {text : String} {spec : JobSpec}
    (h : JobSpec.ofText? text = some spec) : 1 ≤ spec.resources.nodeCount := by
  rw [← JobSpec.settled_of_ofText? h]
  show 1 ≤ max spec.resources.nodeCount 1
  rw [UInt32.le_iff_toNat_le, Resources.toNat_max_one]
  exact Nat.le_max_right _ _

/-- There is a node in an overlay if there was one before. -/
theorem SubmitArgs.Overlays.one_le_nodeCount {args : SubmitArgs} {base spec : JobSpec}
    (h : args.Overlays base spec) (hbase : 1 ≤ base.resources.nodeCount) :
    1 ≤ spec.resources.nodeCount := by
  rw [h.nodeCount]
  cases args.nodes with
  | none => exact hbase
  | some n =>
    show 1 ≤ max n 1
    rw [UInt32.le_iff_toNat_le, Resources.toNat_max_one]
    exact Nat.le_max_right _ _

/-! ### Texts that set a variable -/

/-- That a text sets a variable to a value: the name before its first equals sign, which
is not empty, to what is behind. -/
def Assigns (raw key value : String) : Prop :=
  raw = key ++ "=" ++ value ∧ key ≠ "" ∧ '=' ∉ key.toList

/-- The name that a text sets. -/
def keyOf (raw : String) : String := (cutAtEquals raw.toList).1

/-- The last of some texts that sets a variable. -/
def lastText? (raws : List String) (key : String) : Option String :=
  raws.reverse.find? (keyOf · == key)

/-- A text that is cut in two is its parts with the first equals sign between them. -/
theorem cutAtEquals_eq_iff {cs : List Char} {key value : String} :
    cutAtEquals cs = (key, some value) ↔
      cs = key.toList ++ '=' :: value.toList ∧ '=' ∉ key.toList := by
  constructor
  · intro h
    have hkey : (cutAtEquals cs).1 = key := congrArg Prod.fst h
    refine ⟨?_, hkey ▸ notMem_cutAtEquals cs⟩
    have hparts : cs.takeWhile (· != '=') ++ cs.dropWhile (· != '=') = cs :=
      List.takeWhile_append_dropWhile
    rw [cutAtEquals] at h
    split at h
    · have hnone : none = some value := congrArg Prod.snd h
      cases hnone
    · next c behind hbehind =>
      -- the sign is where the name ends
      have hc : (c != '=') = false := by
        have hhead := List.head?_dropWhile_not (· != '=') cs
        rwa [hbehind] at hhead
      obtain rfl := bne_eq_false_iff_eq.mp hc
      obtain ⟨rfl, hvalue⟩ := Prod.mk.inj h
      obtain rfl := Option.some.inj hvalue
      rw [String.toList_ofList, String.toList_ofList, ← hbehind, hparts]
  · rintro ⟨rfl, hkey⟩
    rw [cutAtEquals_append hkey, String.ofList_toList, String.ofList_toList]

/-- A text is read as a variable and a value exactly if it sets the one to the other. -/
theorem assignment?_eq_some_iff {raw key value : String} :
    assignment? raw = some (key, value) ↔ Assigns raw key value := by
  have hcut : cutAtEquals raw.toList = (key, some value) ↔
      raw = key ++ "=" ++ value ∧ '=' ∉ key.toList := by
    rw [cutAtEquals_eq_iff, ← Slurm.toList_assignment, String.toList_inj]
    exact Iff.rfl
  constructor
  · intro h
    rw [assignment?] at h
    split at h
    · next k v hparts =>
      split at h
      · exact nomatch h
      · next hne =>
        obtain ⟨rfl, rfl⟩ := Prod.mk.inj (Option.some.inj h)
        obtain ⟨hraw, hkey⟩ := hcut.mp hparts
        exact ⟨hraw, mt String.isEmpty_iff.mpr hne, hkey⟩
    · exact nomatch h
  · rintro ⟨hraw, hne, hkey⟩
    rw [assignment?, hcut.mpr ⟨hraw, hkey⟩]
    exact if_neg (mt String.isEmpty_iff.mp hne)

theorem Assigns.keyOf_eq {raw key value : String} (h : Assigns raw key value) :
    keyOf raw = key := by
  obtain ⟨rfl, -, hkey⟩ := h
  have htext : (key ++ "=" ++ value).toList = key.toList ++ '=' :: value.toList :=
    Slurm.toList_assignment key value
  rw [keyOf, htext, cutAtEquals_append hkey, String.ofList_toList]

/-- The value that a variable is first set to is what the first text for it says. -/
theorem map_lookup_eq_find? {raws : List String} {es : List (String × String)}
    (h : List.Forall₂ (fun raw e => assignment? raw = some e) raws es) (key : String) :
    (es.lookup key).map (Slurm.assignment key) = raws.find? (keyOf · == key) := by
  induction h with
  | nil => rfl
  | @cons raw e raws es hraw _ ih =>
    have hassigns : Assigns raw e.1 e.2 := assignment?_eq_some_iff.mp hraw
    rw [SortedMap.lookup_cons_eq_ite, List.find?_cons, hassigns.keyOf_eq]
    split
    · next heq =>
      obtain rfl := heq
      rw [beq_self_eq_true]
      exact congrArg some hassigns.1.symm
    · next hne =>
      rw [beq_false_of_ne (Ne.symm hne)]
      exact ih

/-- The value that a variable is set to last is what the last text for it says. -/
theorem map_lookup_reverse_eq_lastText? {raws : List String} {es : List (String × String)}
    (h : raws.mapM assignment? = some es) (key : String) :
    (es.reverse.lookup key).map (Slurm.assignment key) = lastText? raws key :=
  map_lookup_eq_find? (List.forall₂_reverse_iff.mpr (mapM_eq_some_iff.mp h)) key

/-- The texts of a command line are all read as variables, in order. -/
theorem mapM_assignment?_of_submitArgs? {items : List Item} {args : SubmitArgs}
    (h : submitArgs? items = some args) :
    (valuesOf "env" items).mapM assignment? = some args.environment := by
  simp only [submitArgs?, Option.bind_eq_bind, Option.bind_eq_some_iff, Option.some.injEq] at h
  obtain ⟨_, -, _, -, _, -, _, -, environment, henvironment, _, -, _, -, _, -, _, -, rfl⟩ := h
  exact henvironment

end CommandLine

/-! ### What Slurm is sent -/

namespace Slurm

theorem isWritten_submission (spec : JobSpec) : (submission spec).isWritten = true := by
  have hmember {α : Type} (name : String) {f : α → Document} (hf : ∀ a, (f a).isWritten = true)
      (a? : Option α) : ∀ m ∈ member name (a?.map f), m.2.isWritten = true := by
    intro m hm
    obtain ⟨d, hd, rfl⟩ := List.mem_map.mp hm
    obtain ⟨a, -, rfl⟩ := Option.map_eq_some_iff.mp (Option.mem_toList.mp hd)
    exact hf a
  have hlimit : (Document.record
      [("set", .bool true), ("number", .ofNat spec.minutes)]).isWritten = true := by
    refine Document.isWritten_record ?_
    simp only [List.forall_mem_cons]
    exact ⟨rfl, Document.isWritten_ofNat _, nofun⟩
  have henvironment : (Document.array ((environment spec).map .ofText)).isWritten = true :=
    Document.areWritten_map Document.isWritten_ofText _
  refine Document.isWritten_record (List.forall_mem_singleton.mpr (Document.isWritten_record ?_))
  simp only [List.forall_mem_append, List.forall_mem_cons]
  exact ⟨⟨⟨⟨⟨⟨hmember "name" Document.isWritten_ofText _, rfl, nofun⟩,
    hmember "tasks_per_node" (fun _ => Document.isWritten_ofNat _) _⟩,
    hmember "tres_per_node" (fun _ => Document.isWritten_ofText _) _⟩, hlimit, nofun⟩,
    hmember "current_working_directory" (fun _ => Document.isWritten_ofText _) _⟩,
    henvironment, rfl, nofun⟩

/-- The texts that a request brings for the environment. -/
def sentTexts? (r : Http.Request) : Option (List String) :=
  (Document.ofString? (String.ofList r.body)).bind submittedTexts?

theorem Driver.sentTexts?_submit {d : Driver} {spec : JobSpec} {r : Http.Request}
    (h : (d.submit spec).request = .ok r) : sentTexts? r = some (environment spec) := by
  obtain ⟨url, -, hmake⟩ := exists_ok_of_bind h
  have hbody : String.ofList r.body = (submission spec).toText :=
    congrArg String.ofList (Http.Request.parts_of_make hmake).2
  rw [sentTexts?, hbody, Document.ofString?_toText (isWritten_submission spec), Option.bind_some,
    submittedTexts?_submission]

end Slurm

namespace CommandLine

/-- A text comes last for the name that it sets if no text is behind it. -/
theorem exists_lastText? {raws : List String} (h : raws ≠ []) :
    ∃ key raw, lastText? raws key = some raw := by
  obtain ⟨raws, raw, rfl⟩ := (List.eq_nil_or_concat' raws).resolve_left h
  refine ⟨keyOf raw, raw, ?_⟩
  rw [lastText?, List.reverse_append, List.reverse_singleton, List.singleton_append,
    List.find?_cons, beq_self_eq_true]

/-- That a submission to Slurm carries the texts that its variables were given by: one for
each variable, in the order of the names, which is the last of the texts given for it, or
else the one that the specification makes that the submission starts from. -/
structure CarriesTexts (raws : List String) (base spec : JobSpec) : Prop where
  sent : ∀ (d : Slurm.Driver) (r : Http.Request), (d.submit spec).request = .ok r →
    Slurm.sentTexts? r = some (spec.environment.entries.map fun e => Slurm.assignment e.1 e.2)
  text : ∀ key, (spec.environment.find? key).map (Slurm.assignment key) =
    (lastText? raws key).or ((base.environment.find? key).map (Slurm.assignment key))

theorem SubmitArgs.carriesTexts_overlay {args : SubmitArgs} (base : JobSpec)
    {raws : List String} (hne : raws ≠ [])
    (hraws : raws.mapM assignment? = some args.environment) :
    CarriesTexts raws base (args.overlay base) := by
  have htext (key : String) :
      ((args.overlay base).environment.find? key).map (Slurm.assignment key) =
        (lastText? raws key).or ((base.environment.find? key).map (Slurm.assignment key)) := by
    rw [args.find?_overlay base, ← map_lookup_reverse_eq_lastText? hraws]
    cases args.environment.reverse.lookup key with
    | none => rfl
    | some value => rfl
  have hentries : (args.overlay base).environment.entries ≠ [] := by
    intro hnil
    obtain ⟨key, raw, hlast⟩ := exists_lastText? hne
    have hfind := htext key
    rw [hlast, SortedMap.find?, hnil] at hfind
    exact nomatch hfind
  refine ⟨fun d r hr => ?_, htext⟩
  rw [Slurm.Driver.sentTexts?_submit hr, Slurm.environment_of_ne_nil hentries]

theorem SubmitArgs.spec_of_origin {args : SubmitArgs} {file? : String → Option String}
    {base : JobSpec} (h : originSpec file? args.origin = .ok base) :
    args.spec file? = .ok (args.overlay base) := by
  rw [spec, h]
  rfl

theorem originSpec_of_file {file? : String → Option String} {path text : String}
    {base : JobSpec} (hread : file? path = some text)
    (hparse : JobSpec.ofText? text = some base) : originSpec file? (.file path) = .ok base := by
  simp only [originSpec, hread, hparse]

/-- **What is submitted, and the texts that Slurm gets of it.**  A text sets a variable
exactly if there is a name before its first equals sign, and the texts on a command line
are read so, in order.  If there are any, every request that submits to Slurm carries the
last text of each name that was given, wherever the submission starts from.  One that
starts from a file with a specification in it submits that one with the options laid over
it, on one node at least. -/
theorem spec_of_file {file? : String → Option String} {path text : String} {base : JobSpec}
    {args : SubmitArgs} (horigin : args.origin = .file path) (hread : file? path = some text)
    (hparse : JobSpec.ofText? text = some base)
    (hminutes : ∀ m, args.minutes = some m → m.toNat * 60 < UInt64.size) :
    ((∀ raw, (∃ e, assignment? raw = some e) ↔ ∃ key value, Assigns raw key value) ∧
      ∀ items given, submitArgs? items = some given →
        (valuesOf "env" items).mapM assignment? = some given.environment) ∧
      (∀ (files? : String → Option String) (given : SubmitArgs) start,
        originSpec files? given.origin = .ok start →
        ∀ raws, raws ≠ [] → raws.mapM assignment? = some given.environment →
          ∃ spec, given.spec files? = .ok spec ∧ CarriesTexts raws start spec) ∧
      originSpec file? args.origin = .ok base ∧
      ∃ spec, args.spec file? = .ok spec ∧ args.Overlays base spec ∧
        1 ≤ spec.resources.nodeCount := by
  have haccepted (raw : String) :
      (∃ e, assignment? raw = some e) ↔ ∃ key value, Assigns raw key value := by
    rw [Prod.exists]
    exact exists₂_congr fun key value => assignment?_eq_some_iff
  have hstart : originSpec file? args.origin = .ok base := by
    rw [horigin]
    exact originSpec_of_file hread hparse
  have hoverlays : args.Overlays base (args.overlay base) := overlays_overlay base hminutes
  refine ⟨⟨haccepted, fun items given => mapM_assignment?_of_submitArgs?⟩, ?_,
    hstart, args.overlay base, SubmitArgs.spec_of_origin hstart, hoverlays,
    hoverlays.one_le_nodeCount (one_le_nodeCount_of_ofText? hparse)⟩
  intro files? given start hgiven raws hne hraws
  exact ⟨given.overlay start, SubmitArgs.spec_of_origin hgiven,
    SubmitArgs.carriesTexts_overlay start hne hraws⟩

/-- The words of a submission from a file, with a variable given twice and no node. -/
def overlaidWords : List String :=
  ["submit", "--spec", "job.json", "--env", "A=1", "--nodes", "0", "--env=C=x=y",
    "--minutes", "90", "--name", "n", "--env", "A==2"]

/-- What they ask for. -/
def overlaidArgs : SubmitArgs :=
  { origin := .file "job.json"
    name := some "n"
    environment := [("A", "1"), ("C", "x=y"), ("A", "=2")]
    nodes := some 0
    minutes := some 90 }

/-- The specification that they submit, with a file in which others are written. -/
def overlaidSpec : JobSpec :=
  { name := some "n"
    executable := "/bin"
    environment := .ofList [("A", "=2"), ("B", "2"), ("C", "x=y")]
    duration := .ofSeconds 5400 }

/-- The texts of both reach Slurm in order, and as they were given. -/
theorem spec_of_file_overlaid :
    command? overlaidWords = some (.submit overlaidArgs) ∧
    JobSpec.ofText? JobSpec.respelt = some JobSpec.respeltSpec ∧
    overlaidArgs.spec (fun _ => some JobSpec.respelt) = .ok overlaidSpec ∧
    overlaidArgs.Overlays JobSpec.respeltSpec overlaidSpec ∧
    ∃ r, (Slurm.Driver.submit ⟨⟨"http://h"⟩, "root", "t"⟩ overlaidSpec).request = .ok r ∧
      Slurm.sentTexts? r = some ["A==2", "B=2", "C=x=y"] := by
  have hparse : JobSpec.ofText? JobSpec.respelt = some JobSpec.respeltSpec := by decide +kernel
  have hminutes : ∀ m, overlaidArgs.minutes = some m → m.toNat * 60 < UInt64.size := by
    intro m hm
    obtain rfl : (90 : UInt64) = m := Option.some.inj hm
    decide
  let file? : String → Option String := fun _ => some JobSpec.respelt
  have horigin : overlaidArgs.origin = .file "job.json" := rfl
  have hread : file? "job.json" = some JobSpec.respelt := rfl
  obtain ⟨-, hcarries, hstart, spec, hspec, hoverlays, -⟩ :=
    spec_of_file horigin hread hparse hminutes
  have hoverlay : overlaidArgs.overlay JobSpec.respeltSpec = overlaidSpec := by decide
  obtain rfl : overlaidSpec = spec := hoverlay.symm.trans
    (Except.ok.inj ((SubmitArgs.spec_of_origin hstart).symm.trans hspec))
  obtain ⟨spec, hspec', htexts⟩ := hcarries file? overlaidArgs _ hstart
    ["A=1", "C=x=y", "A==2"] (List.cons_ne_nil _ _) (by decide)
  obtain rfl : overlaidSpec = spec := Except.ok.inj (hspec.symm.trans hspec')
  let r : Http.Request :=
    { method := .post
      url :=
        { scheme := "http".toList, host := some (.domain "h".toList),
          path := .segments
            ["slurm".toList, "v0.0.41".toList, "job".toList, "submit".toList] }
      headers := [("x-slurm-user-token", "t"), ("x-slurm-user-name", "root"),
        ("content-type", "application/json"), ("accept", "*/*")]
      body := (Slurm.submission overlaidSpec).print }
  have hr : (Slurm.Driver.submit ⟨⟨"http://h"⟩, "root", "t"⟩ overlaidSpec).request = .ok r := by
    decide +kernel
  refine ⟨by decide +kernel, hparse, hspec, hoverlays, r, hr, (htexts.sent _ r hr).trans ?_⟩
  decide

end CommandLine

end RemoteBatch
