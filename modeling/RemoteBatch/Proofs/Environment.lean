import RemoteBatch.Proofs.Directives
import RemoteBatch.Proofs.ShellWord
import RemoteBatch.Slurm.Wire

/-!
# The environment of a job

The variables of a job go to Slurm as texts with the name before an equals sign and
the value behind it, and into a complete script as commands that export them.  The
values may be anything: the one way does not look into them and the other writes them
as words.  The names are written as they are, so they come back if they look like
names: without an equals sign to Slurm, and as names of a shell in a script.

## Main definitions

* `Slurm.submittedTexts?` — the texts that a submission to Slurm brings for the environment.
* `Slurm.submittedVariables?` — the variables that they write.

## Main results

* `Slurm.submittedVariables?_submission_iff` — the environments that Slurm gets.
* `Script.runs_exports` — the commands that a script exports variables with.
* `Script.settings?_exports_iff` — the environments that a shell sets.
* `Script.environment_carried_iff` — **the environments that reach the job.**
* `Script.environment_lost` — names that are cut, lost and run.
-/

namespace RemoteBatch

open CommandLine (cutAtEquals cutAtEquals_append)
open Json (Document)

/-! ### One field of a record -/

namespace Json.Document

/-- The value of one field of a record. -/
def member? (d : Document) (name : String) (f : Document → Option α) : Option α :=
  (d.fields? [name]).bind fun fields => fields.required name f

/-- A field that comes once is found wherever it stands. -/
theorem member?_record {before behind : List (String × Document)} {name : String}
    (h : ∀ m ∈ before ++ behind, m.1 ≠ name) (d : Document) (f : Document → Option α) :
    (record (before ++ (name, d) :: behind)).member? name f = f d := by
  let key (m : String × Document) : Option String × Document := (some m.1, m.2)
  have hothers {ms : List (String × Document)} (hms : ∀ m ∈ ms, m.1 ≠ name) :
      (ms.map key).filter (·.1 == some name) = [] := by
    rw [List.filter_eq_nil_iff, List.forall_mem_map]
    intro m hm
    rw [beq_iff_eq, Option.some.injEq]
    exact hms m hm
  have hfilter : ((before ++ (name, d) :: behind).map key).filter (·.1 == some name) =
      [(some name, d)] := by
    rw [List.forall_mem_append] at h
    rw [List.map_append, List.map_cons, List.filter_append, hothers h.1,
      List.filter_cons_of_pos (a := key (name, d)) (beq_self_eq_true (some name)), hothers h.2,
      List.nil_append]
  have hdistinct : distinctFields [name] ((before ++ (name, d) :: behind).map key) = true := by
    rw [distinctFields, List.all_cons, hfilter, List.all_map]
    simp [key]
  have hlookup : lookup name ((before ++ (name, d) :: behind).map key) = some d := by
    rw [lookup, ← List.head?_filter, hfilter]
    rfl
  have hrecord : record (before ++ (name, d) :: behind) =
      .object ((before ++ (name, d) :: behind).map key) := rfl
  rw [hrecord, member?, fields?, members?, if_pos hdistinct, Option.bind_some, Fields.required,
    hlookup, Option.bind_some]
  intro _ h
  cases h

end Json.Document

/-! ### Slurm -/

namespace Slurm

/-- The name and the value in one text. -/
def assigned? (assignment : String) : Option (String × String) :=
  let cut := cutAtEquals assignment.toList
  cut.2.map (cut.1, ·)

/-- The texts that a submission brings for the environment. -/
def submittedTexts? (submission : Document) : Option (List String) :=
  submission.member? "job" fun job => job.member? "environment" (Document.list? Document.text?)

/-- The variables that a submission brings, each cut at its first equals sign. -/
def submittedVariables? (submission : Document) : Option (List (String × String)) :=
  (submittedTexts? submission).bind (·.mapM assigned?)

theorem submittedTexts?_submission (spec : JobSpec) :
    submittedTexts? (submission spec) = some (environment spec) := by
  have hmember {name : String} (hname : name ≠ "environment") (value : Option Document) :
      ∀ m ∈ member name value, m.1 ≠ "environment" := by
    intro m hm
    obtain ⟨d, -, rfl⟩ := List.mem_map.mp hm
    exact hname
  have htext (s : String) : (Document.ofText s).text? = some s := rfl
  have htexts : ((environment spec).map Document.ofText).mapM Document.text? =
      some (environment spec) := mapM_map_eq_some htext (environment spec)
  have henvironment : (jobDocument spec).member? "environment" (Document.list? Document.text?) =
      some (environment spec) := by
    unfold jobDocument
    rw [Document.member?_record]
    · exact htexts
    · simp only [List.forall_mem_append, List.forall_mem_singleton]
      exact ⟨⟨⟨⟨⟨⟨hmember (by decide) _, by decide⟩, hmember (by decide) _⟩,
        hmember (by decide) _⟩, by decide⟩, hmember (by decide) _⟩, by decide⟩
  have hothers : ∀ m ∈ ([] ++ [] : List (String × Document)), m.1 ≠ "job" :=
    fun m hm => absurd hm List.not_mem_nil
  exact (Document.member?_record hothers (jobDocument spec) _).trans henvironment

theorem submittedVariables?_submission (spec : JobSpec) :
    submittedVariables? (submission spec) = (environment spec).mapM assigned? := by
  rw [submittedVariables?, submittedTexts?_submission, Option.bind_some]

theorem environment_of_ne_nil {spec : JobSpec} (hne : spec.environment.entries ≠ []) :
    environment spec = spec.environment.entries.map fun e => assignment e.1 e.2 := by
  rw [environment, SortedMap.isEmpty, List.isEmpty_eq_false_iff.mpr hne]
  rfl

theorem toList_assignment (key value : String) :
    (assignment key value).toList = key.toList ++ '=' :: value.toList := by
  rw [assignment, String.toList_append, String.toList_append, List.append_assoc]
  rfl

theorem assigned?_assignment_iff (key value : String) :
    assigned? (assignment key value) = some (key, value) ↔ '=' ∉ key.toList := by
  rw [assigned?, toList_assignment]
  constructor
  · intro h
    -- what stands before the first equals sign has none
    obtain ⟨value', -, hpair⟩ := Option.map_eq_some_iff.mp h
    have hkey : (cutAtEquals (key.toList ++ '=' :: value.toList)).1 = key :=
      congrArg Prod.fst hpair
    rw [← hkey]
    exact CommandLine.notMem_cutAtEquals _
  · intro h
    rw [cutAtEquals_append h, String.ofList_toList, String.ofList_toList]
    rfl

/-- **The environments that Slurm gets**: those without an equals sign in a name. -/
theorem submittedVariables?_submission_iff {spec : JobSpec}
    (hne : spec.environment.entries ≠ []) :
    submittedVariables? (submission spec) = some spec.environment.entries ↔
      ∀ e ∈ spec.environment.entries, '=' ∉ e.1.toList := by
  have hread : (spec.environment.entries.map fun e => assignment e.1 e.2).mapM assigned? =
        some (spec.environment.entries.map id) ↔
        ∀ e ∈ spec.environment.entries, assigned? (assignment e.1 e.2) = some e :=
    mapM_map_eq_some_iff
  rw [List.map_id] at hread
  rw [submittedVariables?_submission, environment_of_ne_nil hne, hread]
  exact forall₂_congr fun e _ => assigned?_assignment_iff e.1 e.2

end Slurm

namespace Script

open Shell (Reads Runs Word isName literal? operand? exported? settings?)

theorem isPlain_of_isNameChar {c : Char} (h : Shell.isNameChar c = true) : isPlain c = true := by
  rw [Shell.isNameChar, Bool.or_eq_true, beq_iff_eq] at h
  rcases h with h | rfl
  · rw [isPlain, h, Bool.true_or]
  · decide

theorem isNameChar_of_isName {name : List Char} (h : isName name = true) :
    ∀ c ∈ name, Shell.isNameChar c = true := by
  cases name with
  | nil => nofun
  | cons c cs =>
    rw [isName, Bool.and_eq_true, List.all_eq_true] at h
    refine List.forall_mem_cons.mpr ⟨?_, h.2⟩
    obtain ⟨hstart, -⟩ := h
    rw [Shell.isNameStart, Bool.or_eq_true] at hstart
    rw [Shell.isNameChar, Bool.or_eq_true]
    refine hstart.imp_left ?_
    intro halpha
    rw [Text.isAsciiAlphanumeric, Char.isAlphanum, halpha, Bool.true_or]

theorem notMem_of_isName {name : List Char} (h : isName name = true) {c : Char}
    (hc : Shell.isNameChar c = false) : c ∉ name := by
  intro hmem
  rw [isNameChar_of_isName h c hmem] at hc
  exact Bool.noConfusion hc

/-- The command that exports a variable. -/
def exportCommand (e : String × String) : List String := ["export", Slurm.assignment e.1 e.2]

theorem literal?_append {v w : Word} {s t : String} (hv : literal? v = some s)
    (hw : literal? w = some t) : literal? (v ++ w) = some (s ++ t) := by
  rw [Shell.literal?_eq_some_iff] at hv hw ⊢
  obtain ⟨hvinert, rfl⟩ := hv
  obtain ⟨hwinert, rfl⟩ := hw
  constructor
  · rw [List.any_append, hvinert, hwinert, Bool.or_self]
  · rw [Shell.text, Shell.text, Shell.text, List.map_append, String.ofList_append]

/-- A name with its equals sign is written without quotes. -/
theorem quoteWord_assignedName {key : String} (hkey : isName key.toList = true) :
    quoteWord (key ++ "=") = key.toList ++ ['='] := by
  have htext : (key ++ "=").toList = key.toList ++ ['='] := String.toList_append
  have hplain : isPlainText (key ++ "=") = true := by
    rw [isPlainText, htext, List.all_append, Bool.and_eq_true, Bool.and_eq_true, List.all_eq_true]
    refine ⟨by simp, ?_, by decide⟩
    intro c hc
    exact isPlain_of_isNameChar (isNameChar_of_isName hkey c hc)
  rw [quoteWord_of_isPlainText hplain, htext]

/-- An export is a command of its name and one operand. -/
theorem runs_exportLine {key value : String} (hkey : isName key.toList = true)
    (hnul : '\x00' ∉ value.toList) :
    Runs (exportLine key value ++ ['\n']) [exportCommand (key, value)] := by
  have hkeynul : '\x00' ∉ (key ++ "=").toList := by
    rw [String.toList_append, List.mem_append, not_or]
    exact ⟨notMem_of_isName hkey (by decide), by decide⟩
  have hread : Reads (exportLine key value ++ ['\n'])
      ([wordOf "export", wordOf (key ++ "=") ++ wordOf value].map .word ++ [.newline]) := by
    intro before
    have hexport : Shell.scan "export ".toList ⟨.bare, none, before⟩ =
        some ⟨.bare, none, before ++ [.word (wordOf "export")]⟩ := rfl
    have hline : exportLine key value ++ ['\n'] =
        "export ".toList ++ (quoteWord (key ++ "=") ++ (quoteWord value ++ ['\n'])) := by
      unfold exportLine
      rw [quoteWord_assignedName hkey]
      simp only [List.append_assoc, List.cons_append, List.nil_append]
    rw [hline, Shell.scan_append, hexport, Option.bind_some, Shell.scan_append,
      scan_quoteWord hkeynul, Option.bind_some, Shell.scan_append, scan_quoteWord hnul,
      Option.bind_some, Shell.scan_cons, Shell.step_newline, Option.bind_some, Shell.scan_nil]
    simp only [List.append_assoc]
    rfl
  have hhead : (Shell.isReserved (wordOf "export") || Shell.isAssignment (wordOf "export"))
      = false := by
    decide
  have hliteral : [wordOf "export", wordOf (key ++ "=") ++ wordOf value].mapM literal? =
      some (exportCommand (key, value)) := by
    rw [List.mapM_cons, List.mapM_cons, literal?_wordOf,
      literal?_append (literal?_wordOf _) (literal?_wordOf _)]
    rfl
  exact Runs.words hread hhead hliteral (List.cons_ne_nil _ _)

/-- Exports run one after another, and no other command does. -/
theorem runs_exports {spec : JobSpec}
    (hkeys : ∀ e ∈ spec.environment.entries, isName e.1.toList = true)
    (hnul : ∀ e ∈ spec.environment.entries, '\x00' ∉ e.2.toList) :
    Runs (Text.unlines (exports spec)) (spec.environment.entries.map exportCommand) := by
  rw [List.map_eq_flatMap]
  exact Runs.unlines fun e he => runs_exportLine (hkeys e he) (hnul e he)

theorem exported?_exportCommand {key value : String} (hkey : isName key.toList = true) :
    exported? (exportCommand (key, value)) = some [(key, value)] := by
  have hcut : cutAtEquals (Slurm.assignment key value).toList = (key, some value) := by
    rw [Slurm.toList_assignment, cutAtEquals_append (notMem_of_isName hkey (by decide)),
      String.ofList_toList, String.ofList_toList]
  have hoperand : operand? (Slurm.assignment key value) = some [(key, value)] := by
    simp only [operand?, hcut, hkey, if_true]
    rfl
  rw [exported?, exportCommand, List.head?_cons, if_pos rfl, List.tail_cons, List.mapM_cons,
    hoperand]
  rfl

/-- **The environments that a shell sets**: those with names for keys. -/
theorem settings?_exports_iff {spec : JobSpec}
    (hnul : ∀ e ∈ spec.environment.entries, '\x00' ∉ e.2.toList) :
    settings? (Text.unlines (exports spec)) = some spec.environment.entries ↔
      ∀ e ∈ spec.environment.entries, isName e.1.toList = true := by
  constructor
  · intro h e he
    exact Shell.isName_of_mem_settings? h he
  · intro h
    have hexported : (spec.environment.entries.map exportCommand).mapM exported? =
        some (spec.environment.entries.map ([·])) :=
      mapM_map_eq_some_iff.mpr fun e he => exported?_exportCommand (h e he)
    rw [settings?, (runs_exports h hnul).commands?_eq, Option.bind_some, hexported,
      Option.map_some, ← List.flatMap_def, List.flatMap_singleton']

/-- Exports stand on lines of their own in a complete script. -/
theorem toList_complete_exports (spec : JobSpec) : ∃ before behind,
    (complete spec).toList =
      Text.unlines before ++ (Text.unlines (exports spec) ++ Text.unlines behind) := by
  rw [toList_complete]
  simp only [spliceLines, List.append_assoc _ (exports spec),
    Text.unlines_append _ (exports spec ++ _), Text.unlines_append (exports spec)]
  exact ⟨_, _, rfl⟩

/-- **The environments that reach the job.**  To Slurm, each variable comes with its
name and value exactly if no name holds an equals sign.  A complete script has the
exports on lines of their own, and a shell that runs them sets the variables to their
values, and does nothing else, exactly if every name is one to the shell. -/
theorem environment_carried_iff {spec : JobSpec} (hne : spec.environment.entries ≠ [])
    (hnul : ∀ e ∈ spec.environment.entries, '\x00' ∉ e.2.toList) :
    (Slurm.submittedVariables? (Slurm.submission spec) = some spec.environment.entries ↔
        ∀ e ∈ spec.environment.entries, '=' ∉ e.1.toList) ∧
      (∃ before behind, (complete spec).toList =
        Text.unlines before ++ (Text.unlines (exports spec) ++ Text.unlines behind)) ∧
      (settings? (Text.unlines (exports spec)) = some spec.environment.entries ↔
        ∀ e ∈ spec.environment.entries, isName e.1.toList = true) :=
  ⟨Slurm.submittedVariables?_submission_iff hne, toList_complete_exports spec,
    settings?_exports_iff hnul⟩

/-- A specification with two variables, one of them empty. -/
def namedSpec : JobSpec :=
  { executable := "/bin/true"
    environment := .ofList [("B", ""), ("A", "it\x27s = $HOME\n#")] }

/-- Both of them reach the job. -/
theorem environment_carried_named :
    (namedSpec.environment.entries ≠ [] ∧
      ∀ e ∈ namedSpec.environment.entries, '\x00' ∉ e.2.toList) ∧
    Slurm.submittedVariables? (Slurm.submission namedSpec) =
      some [("A", "it\x27s = $HOME\n#"), ("B", "")] ∧
    settings? (Text.unlines (exports namedSpec)) =
      some [("A", "it\x27s = $HOME\n#"), ("B", "")] := by
  have hne : namedSpec.environment.entries ≠ [] := by decide
  have hnul : ∀ e ∈ namedSpec.environment.entries, '\x00' ∉ e.2.toList := by decide
  obtain ⟨hslurm, -, hshell⟩ := environment_carried_iff hne hnul
  exact ⟨⟨hne, hnul⟩, hslurm.mpr (by decide), hshell.mpr (by decide)⟩

/-- A specification with a name that is cut and one that is run. -/
def strangeSpec : JobSpec :=
  { executable := "/bin/true"
    environment := .ofList [("A=B", "1"), ("X\nreboot #", "2")] }

/-- **Names that are cut, lost and run.** -/
theorem environment_lost :
    strangeSpec.environment.entries = [("A=B", "1"), ("X\nreboot #", "2")] ∧
      Slurm.submittedVariables? (Slurm.submission strangeSpec) =
        some [("A", "B=1"), ("X\nreboot #", "2")] ∧
      Slurm.submittedVariables? (Slurm.submission strangeSpec) ≠
        some strangeSpec.environment.entries ∧
      Shell.commands? (Text.unlines (exports strangeSpec)) =
        some [["export", "A=B=1"], ["export", "X"], ["reboot"]] ∧
      settings? (Text.unlines (exports strangeSpec)) ≠ some strangeSpec.environment.entries := by
  have hslurm : Slurm.submittedVariables? (Slurm.submission strangeSpec) =
      some [("A", "B=1"), ("X\nreboot #", "2")] := by
    decide +kernel
  have hcommands : Shell.commands? (Text.unlines (exports strangeSpec)) =
      some [["export", "A=B=1"], ["export", "X"], ["reboot"]] := by
    decide +kernel
  -- one of the commands is no export
  have hsettings : settings? (Text.unlines (exports strangeSpec)) = none := by
    rw [settings?, hcommands]
    decide
  refine ⟨by decide, hslurm, ?_, hcommands, ?_⟩
  · rw [hslurm]
    decide
  · rw [hsettings]
    nofun

end Script

end RemoteBatch
