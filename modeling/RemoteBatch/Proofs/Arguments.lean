import RemoteBatch.Proofs.Environment

/-!
# The command of a script

Both schedulers are given a script that replaces itself by the executable.  One gets
the script as it is built; the other gets it taken apart into lines, with directives
and exports between them, and put together again.  A word between quotes may go over
several lines, and then it is what its lines are written back to: a carriage return
before a line feed is lost.  Every other text comes to the executable as it is.

## Main definitions

* `unified` — a text with line feeds for its line breaks.
* `unifiedSpec` — a specification that runs such texts.
* `execs?` — the commands of a script that replace the shell.

## Main results

* `unifyBreaks_command` — a command written back is a command.
* `runs_complete` — **what a shell runs of a complete script.**
* `execs?_complete_iff` — **when both scripts run the same words.**
* `execs?_complete_loses_return` — an argument that loses a character.
-/

namespace RemoteBatch.Script

open Shell (Runs commands? isName)
open Text (unifyBreaks lines unlines)

/-! ### Words with line breaks -/

/-- A text with line feeds for its line breaks. -/
def unified (s : String) : String := String.ofList (unifyBreaks s.toList)

theorem toList_unified (s : String) : (unified s).toList = unifyBreaks s.toList :=
  String.toList_ofList

theorem unified_eq_self_iff {s : String} : unified s = s ↔ ¬ ['\r', '\n'] <:+: s.toList := by
  rw [← String.toList_inj, toList_unified, Text.unifyBreaks_eq_self_iff]

theorem notMem_unified {s : String} {c : Char} (h : c ∉ s.toList) : c ∉ (unified s).toList := by
  rw [toList_unified]
  intro hmem
  exact h ((Text.unifyBreaks_sublist s.toList).subset hmem)

theorem all_isPlain_unifyBreaks (cs : List Char) :
    (unifyBreaks cs).all isPlain = cs.all isPlain := by
  induction cs using Text.unifyBreaks_induction with
  | nil => rfl
  | pair cs ih =>
    -- neither character of a line break goes without quotes
    rw [Text.unifyBreaks_break]
    rfl
  | cons c cs h ih => rw [Text.unifyBreaks_cons h, List.all_cons, List.all_cons, ih]

theorem isPlainText_unified (s : String) : isPlainText (unified s) = isPlainText s := by
  have hempty : (unifyBreaks s.toList).isEmpty = s.toList.isEmpty := by
    rw [Bool.eq_iff_iff, List.isEmpty_iff, List.isEmpty_iff, Text.unifyBreaks_eq_nil_iff]
  rw [isPlainText, isPlainText, toList_unified, all_isPlain_unifyBreaks, hempty]

theorem head?_flatMap_quoteWordChar {cs : List Char}
    (h : (cs.flatMap quoteWordChar).head? = some '\n') : cs.head? = some '\n' := by
  cases cs with
  | nil => exact nomatch h
  | cons c cs =>
    rw [List.flatMap_cons, quoteWordChar] at h
    split at h
    · exact absurd (Option.some.inj h) (by decide)
    · exact h

theorem getLast?_quoteWordChar {c : Char} (h : (quoteWordChar c).getLast? = some '\r') :
    c = '\r' := by
  rw [quoteWordChar] at h
  split at h
  · exact absurd (Option.some.inj h) (by decide)
  · exact Option.some.inj h

/-- A quote is no part of a line break. -/
theorem unifyBreaks_flatMap_quoteWordChar (cs : List Char) :
    unifyBreaks (cs.flatMap quoteWordChar) = (unifyBreaks cs).flatMap quoteWordChar := by
  induction cs using Text.unifyBreaks_induction with
  | nil => rfl
  | pair cs ih =>
    show unifyBreaks ('\r' :: '\n' :: cs.flatMap quoteWordChar) = _
    rw [Text.unifyBreaks_break, Text.unifyBreaks_break, ih]
    rfl
  | cons c cs h ih =>
    have hapart : (quoteWordChar c).getLast? ≠ some '\r' ∨
        (cs.flatMap quoteWordChar).head? ≠ some '\n' :=
      h.imp (mt getLast?_quoteWordChar) (mt head?_flatMap_quoteWordChar)
    have hchar : unifyBreaks (quoteWordChar c) = quoteWordChar c := by
      rw [quoteWordChar]
      split
      · rfl
      · rw [Text.unifyBreaks_cons (.inr (by decide)), Text.unifyBreaks_nil]
    rw [List.flatMap_cons, Text.unifyBreaks_append hapart, hchar, ih, Text.unifyBreaks_cons h,
      List.flatMap_cons]

theorem getLast?_quoteWord (s : String) : (quoteWord s).getLast? ≠ some '\r' := by
  cases hplain : isPlainText s with
  | true =>
    rw [quoteWord_of_isPlainText hplain]
    intro hlast
    rw [isPlainText, Bool.and_eq_true, List.all_eq_true] at hplain
    exact absurd (hplain.2 '\r' (List.mem_of_getLast? hlast)) (by decide)
  | false =>
    rw [quoteWord_of_not_isPlainText hplain, List.getLast?_concat]
    decide

/-- A word written back is a word. -/
theorem unifyBreaks_quoteWord (s : String) : unifyBreaks (quoteWord s) = quoteWord (unified s) := by
  have hunified := isPlainText_unified s
  cases hplain : isPlainText s with
  | true =>
    rw [hplain] at hunified
    rw [quoteWord_of_isPlainText hplain, quoteWord_of_isPlainText hunified, toList_unified]
  | false =>
    rw [hplain] at hunified
    rw [quoteWord_of_not_isPlainText hplain, quoteWord_of_not_isPlainText hunified,
      toList_unified, List.cons_append, Text.unifyBreaks_cons (.inl (by decide)),
      Text.unifyBreaks_append (.inr (by decide)), unifyBreaks_flatMap_quoteWordChar]
    rfl

/-! ### The command written back -/

/-- The specification that runs texts with line feeds for their line breaks. -/
def unifiedSpec (spec : JobSpec) : JobSpec :=
  { spec with
    executable := unified spec.executable
    arguments := spec.arguments.map unified }

theorem unifyBreaks_operands (texts : List String) :
    unifyBreaks ((texts.flatMap fun s => ' ' :: quoteWord s) ++ ['\n']) =
      ((texts.map unified).flatMap fun s => ' ' :: quoteWord s) ++ ['\n'] := by
  induction texts with
  | nil => rfl
  | cons s texts ih =>
    rw [List.flatMap_cons, List.cons_append, List.cons_append, List.append_assoc,
      Text.unifyBreaks_cons (.inl (by decide)),
      Text.unifyBreaks_append (.inl (getLast?_quoteWord s)), unifyBreaks_quoteWord, ih,
      List.map_cons, List.flatMap_cons, List.cons_append, List.cons_append, List.append_assoc]

/-- A command written back is a command. -/
theorem unifyBreaks_command (spec : JobSpec) :
    unifyBreaks (command spec ++ ['\n']) = command (unifiedSpec spec) ++ ['\n'] := by
  unfold command
  rw [List.append_assoc, List.append_assoc, Text.unifyBreaks_append (.inl (by decide)),
    Text.unifyBreaks_append (.inl (getLast?_quoteWord _)), unifyBreaks_quoteWord,
    unifyBreaks_operands, List.append_assoc, List.append_assoc]
  rfl

/-- The command is no part of the header of its script. -/
theorem lines_command (spec : JobSpec) : ∃ l ls,
    lines (command spec ++ ['\n']) = l :: ls ∧ isHeader l = false := by
  have hcommand : ∃ rest, command spec ++ ['\n'] = 'e' :: rest := ⟨_, rfl⟩
  obtain ⟨rest, hrest⟩ := hcommand
  refine ⟨'e' :: (lines rest).headD [], (lines rest).drop 1, ?_, rfl⟩
  rw [hrest, Text.lines_cons (by decide) (.inl (by decide))]

theorem toList_complete_of_not_isInline {spec : JobSpec} (h : spec.isInline = false) :
    (complete spec).toList = shebang ++ '\n' ::
      (directiveBlock spec ++ (unlines (exports spec) ++
        (command (unifiedSpec spec) ++ ['\n']))) := by
  obtain ⟨l, ls, hlines, hheader⟩ := lines_command spec
  have hbody : lines (body spec) = shebang :: l :: ls := by
    rw [body_of_not_isInline h, ← hlines]
    rfl
  have hback : unlines (l :: ls) = command (unifiedSpec spec) ++ ['\n'] := by
    rw [← hlines, Text.unlines_lines, unifyBreaks_command, Text.closeLine_append_newline]
  have hsplice : spliceLines (directives spec) (exports spec) (shebang :: l :: ls) =
      shebang :: (directives spec ++ (exports spec ++ l :: ls)) := by
    simp [spliceLines, hheader]
  rw [toList_complete, hbody, hsplice, Text.unlines_cons, Text.unlines_append,
    Text.unlines_append, hback, directiveBlock]

/-! ### What is run -/

/-- The texts of a specification. -/
def texts (spec : JobSpec) : List String :=
  spec.name.toList ++ spec.executable :: spec.arguments ++ spec.directory.toList.map (·.path)
    ++ spec.environment.entries.flatMap fun (key, value) => [key, value]

section Texts

variable {spec : JobSpec} (hnul : ∀ s ∈ texts spec, '\x00' ∉ s.toList)

include hnul

theorem notMem_argv : ∀ s ∈ argv spec, '\x00' ∉ s.toList := by
  refine List.forall_mem_cons.mpr ⟨by decide, ?_⟩
  intro s hs
  refine hnul s ?_
  rw [texts, List.mem_append, List.mem_append, List.mem_append]
  exact .inl (.inl (.inr hs))

theorem notMem_argv_unifiedSpec : ∀ s ∈ argv (unifiedSpec spec), '\x00' ∉ s.toList := by
  have hargv : argv (unifiedSpec spec) = (argv spec).map unified := by
    rw [argv, argv, List.map_cons, List.map_cons]
    rfl
  rw [hargv, List.forall_mem_map]
  intro s hs
  exact notMem_unified (notMem_argv hnul s hs)

theorem omits_of_texts : Omits spec '\x00' := by
  constructor
  · intro name hname
    refine hnul name ?_
    rw [texts, List.mem_append, List.mem_append, List.mem_append, Option.mem_toList]
    exact .inl (.inl (.inl hname))
  · intro d hd
    refine hnul d.path ?_
    rw [texts, List.mem_append, List.mem_append]
    exact .inl (.inr (List.mem_map_of_mem (Option.mem_toList.mpr hd)))

theorem notMem_value : ∀ e ∈ spec.environment.entries, '\x00' ∉ e.2.toList := by
  intro e he
  refine hnul e.2 ?_
  rw [texts, List.mem_append, List.mem_flatMap]
  exact .inr ⟨e, he, List.mem_cons_of_mem e.1 List.mem_cons_self⟩

end Texts

theorem runs_shebang : Runs (shebang ++ ['\n']) [] :=
  Runs.comment (by decide) (by decide)

/-- What a shell runs of a script that is sent as it is built. -/
theorem runs_plain {spec : JobSpec} (hinline : spec.isInline = false)
    (hnul : ∀ s ∈ argv spec, '\x00' ∉ s.toList) : Runs (plain spec).toList [argv spec] := by
  have hboth := runs_shebang.append (runs_command hnul)
  rwa [List.nil_append, List.append_assoc, List.singleton_append, ← body_of_not_isInline hinline,
    ← toList_plain] at hboth

/-- **What a shell runs of a complete script**: the exports and then the command, with
line feeds for the line breaks in its words. -/
theorem runs_complete {spec : JobSpec} (hinline : spec.isInline = false)
    (hfeed : Omits spec '\n')
    (hkeys : ∀ e ∈ spec.environment.entries, isName e.1.toList = true)
    (hnul : ∀ s ∈ texts spec, '\x00' ∉ s.toList) :
    Runs (complete spec).toList
      (spec.environment.entries.map exportCommand ++ [argv (unifiedSpec spec)]) := by
  have hdirectives := runs_directiveBlock hfeed (omits_of_texts hnul)
  have hexports := runs_exports hkeys (notMem_value hnul)
  have hcommand := runs_command (notMem_argv_unifiedSpec hnul)
  have hall := runs_shebang.append (hdirectives.append (hexports.append hcommand))
  rwa [List.nil_append, List.nil_append, List.append_assoc shebang, List.singleton_append,
    ← toList_complete_of_not_isInline hinline] at hall

/-- The commands of a script that replace the shell by another program. -/
def execs? (script : String) : Option (List (List String)) :=
  (commands? script.toList).map (·.filter (·.head? == some "exec"))

/-- No export is such a command. -/
theorem execs?_eq {script : String} (environment : List (String × String)) {spec : JobSpec}
    (h : Runs script.toList (environment.map exportCommand ++ [argv spec])) :
    execs? script = some [argv spec] := by
  have hnone : (environment.map exportCommand).filter (·.head? == some "exec") = [] := by
    rw [List.filter_eq_nil_iff, List.forall_mem_map]
    intro e _
    exact Bool.false_ne_true
  rw [execs?, h.commands?_eq, Option.map_some, List.filter_append, hnone, List.nil_append]
  rfl

/-- **When both scripts run the same words.**  The script that is sent as it is built
runs the executable with its arguments.  The complete script runs them with line feeds
for their line breaks, and so the same exactly if none of them holds a carriage return
before a line feed. -/
theorem execs?_complete_iff {spec : JobSpec} (hinline : spec.isInline = false)
    (hfeed : Omits spec '\n')
    (hkeys : ∀ e ∈ spec.environment.entries, isName e.1.toList = true)
    (hnul : ∀ s ∈ texts spec, '\x00' ∉ s.toList) :
    execs? (plain spec) = some ["exec" :: spec.executable :: spec.arguments] ∧
      execs? (complete spec) =
        some ["exec" :: (spec.executable :: spec.arguments).map unified] ∧
      (execs? (complete spec) = execs? (plain spec) ↔
        ∀ s ∈ spec.executable :: spec.arguments, ¬ ['\r', '\n'] <:+: s.toList) := by
  have hplain : execs? (plain spec) = some [argv spec] :=
    execs?_eq [] (runs_plain hinline (notMem_argv hnul))
  have hcomplete : execs? (complete spec) = some [argv (unifiedSpec spec)] :=
    execs?_eq _ (runs_complete hinline hfeed hkeys hnul)
  have hunified : argv (unifiedSpec spec) =
      "exec" :: (spec.executable :: spec.arguments).map unified := rfl
  refine ⟨hplain, hunified ▸ hcomplete, ?_⟩
  have hsame : (spec.executable :: spec.arguments).map unified = spec.executable :: spec.arguments ↔
      ∀ s ∈ spec.executable :: spec.arguments, unified s = s := by
    rw [← List.map_inj_left (g := fun s => s), List.map_id']
  rw [hcomplete, hplain, hunified, argv, Option.some.injEq, List.singleton_inj,
    List.cons_inj_right, hsame]
  exact forall₂_congr fun s _ => unified_eq_self_iff

/-- A specification with directives, exports and an argument of two lines. -/
def linedSpec : JobSpec :=
  { name := some "two lines"
    executable := "/opt/it\x27s here"
    arguments := ["", "# a\nreboot"]
    directory := some ⟨"/tmp"⟩
    environment := .ofList [("LANG", "C")] }

/-- Both of its scripts run the same words. -/
theorem execs?_complete_lined : linedSpec.isInline = false ∧ Omits linedSpec '\n' ∧
    (∀ e ∈ linedSpec.environment.entries, isName e.1.toList = true) ∧
    (∀ s ∈ texts linedSpec, '\x00' ∉ s.toList) ∧
    execs? (complete linedSpec) = execs? (plain linedSpec) ∧
    execs? (plain linedSpec) = some [["exec", "/opt/it\x27s here", "", "# a\nreboot"]] := by
  have hinline : linedSpec.isInline = false := by decide
  have hfeed : Omits linedSpec '\n' := ⟨by decide, by decide⟩
  have hkeys : ∀ e ∈ linedSpec.environment.entries, isName e.1.toList = true := by decide
  have hnul : ∀ s ∈ texts linedSpec, '\x00' ∉ s.toList := by decide
  have hkept : ∀ s ∈ linedSpec.executable :: linedSpec.arguments, unified s = s := by decide
  obtain ⟨hplain, -, hsame⟩ := execs?_complete_iff hinline hfeed hkeys hnul
  have hboth : execs? (complete linedSpec) = execs? (plain linedSpec) :=
    hsame.mpr fun s hs => unified_eq_self_iff.mp (hkept s hs)
  exact ⟨hinline, hfeed, hkeys, hnul, hboth, hplain⟩

/-- A specification with a carriage return before a line feed. -/
def returnSpec : JobSpec := { executable := "/bin/echo", arguments := ["a\r\nb"] }

/-- **An argument that loses a character** in one script and keeps it in the other. -/
theorem execs?_complete_loses_return :
    returnSpec.isInline = false ∧ Omits returnSpec '\n' ∧
      returnSpec.environment.entries = [] ∧ (∀ s ∈ texts returnSpec, '\x00' ∉ s.toList) ∧
      execs? (plain returnSpec) = some [["exec", "/bin/echo", "a\r\nb"]] ∧
      execs? (complete returnSpec) = some [["exec", "/bin/echo", "a\nb"]] ∧
      execs? (complete returnSpec) ≠ execs? (plain returnSpec) := by
  have hplain : execs? (plain returnSpec) = some [["exec", "/bin/echo", "a\r\nb"]] := by
    decide +kernel
  have hcomplete : execs? (complete returnSpec) = some [["exec", "/bin/echo", "a\nb"]] := by
    decide +kernel
  have hne : execs? (complete returnSpec) ≠ execs? (plain returnSpec) := by
    rw [hplain, hcomplete]
    decide
  exact ⟨by decide, ⟨by decide, by decide⟩, rfl, by decide, hplain, hcomplete, hne⟩

end RemoteBatch.Script
