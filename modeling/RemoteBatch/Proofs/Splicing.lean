import Mathlib.Data.List.TakeWhile
import RemoteBatch.Proofs.Directives

/-!
# Lines spliced into a script

The complete script of a specification is the script itself with two pieces of text put
into it: the directives behind the first line, and the exports behind the header, which
is the longest run of blank lines and comments that follows.  Nothing else happens to
the script but that its last line is closed.  A scheduler reads directives up to the
first command, so those that the script has of its own count as long as the inserted
ones bring no command, which they do if the name or the directory has a further line
that is one.

## Main definitions

* `Idle` — the lines without a command.
* `Spliced` — how a script and the complete one are made of the same lines.
* `GoesOnIdle` — that no further line of the name and the directory is a command.

## Main results

* `exists_spliced` — **what is put into a script, and where.**
* `Spliced.closedLines_complete` — the lines of the complete script, in order.
* `idle_directiveBlock_iff` — when there is no command in front of the header.
* `complete_spliced` — **the script in the complete one.**
* `complete_spliced_breakout` — a command in front of the directives of a script.
-/

namespace RemoteBatch

open Text (closeLine closedLines lines unlines)

/-! ### Lines of parts -/

namespace Text

theorem closedLines_unlines_append (ls ms : List (List Char)) :
    closedLines (unlines (ls ++ ms)) = closedLines (unlines ls) ++ closedLines (unlines ms) := by
  rw [closedLines_unlines, closedLines_unlines, closedLines_unlines, List.flatMap_append]

/-- What stands in front of a text without a line feed goes to its first line. -/
theorem splitOn_append_of_notMem {before : List Char} (h : '\n' ∉ before) (cs : List Char) :
    (before ++ cs).splitOn '\n' =
      (before ++ (cs.splitOn '\n').headD []) :: (cs.splitOn '\n').tail := by
  have hbefore {ds : List Char} (hds : '\n' ∉ ds) : '\n' ∉ before ++ ds := by
    rw [List.mem_append, not_or]
    exact ⟨h, hds⟩
  by_cases hfeed : '\n' ∈ cs
  · obtain ⟨first, rest, rfl, hfirst⟩ := List.eq_append_cons_of_mem hfeed
    rw [← List.append_assoc, List.splitOn_append_cons_self_of_not_mem (hbefore hfirst),
      List.splitOn_append_cons_self_of_not_mem hfirst]
    rfl
  · rw [List.splitOn_eq_singleton hfeed, List.splitOn_eq_singleton (hbefore hfeed)]
    rfl

end Text

namespace Script

/-! ### Lines without a command -/

/-- That a line has no command: it is blank, or a comment behind blanks. -/
def Idle (line : List Char) : Prop :=
  (∀ c ∈ line, Text.isBlank c = true) ∨
    ∃ blanks rest, line = blanks ++ '#' :: rest ∧ ∀ c ∈ blanks, Text.isBlank c = true

theorem idle_of_comment (rest : List Char) : Idle ('#' :: rest) :=
  .inr ⟨[], rest, rfl, nofun⟩

/-- The lines that a header may have are those without a command. -/
theorem isHeader_iff {line : List Char} : isHeader line = true ↔ Idle line := by
  rw [isHeader]
  constructor
  · intro h
    obtain ⟨blanks, hline, hblank⟩ := Text.exists_eq_append_dropBlanks line
    split at h
    · next hnil =>
      rw [hnil, List.append_nil] at hline
      exact .inl (hline ▸ hblank)
    · next c rest hcons =>
      obtain rfl := beq_iff_eq.mp h
      rw [hcons] at hline
      exact .inr ⟨blanks, rest, hline, hblank⟩
  · rintro (hblank | ⟨blanks, rest, rfl, hblank⟩)
    · rw [Text.dropBlanks_eq_nil_iff.mpr (List.all_eq_true.mpr hblank)]
    · rw [Text.dropBlanks_append_of_forall hblank, Text.dropBlanks_cons (by decide)]
      rfl

/-! ### The parts of a script -/

/-- That a script and the complete one are made of the same lines: a first one, a header
and the rest.  The directives stand behind the first line and the exports behind the
header, and the header is as long as it can be. -/
structure Spliced (spec : JobSpec) (first : List Char) (header rest : List (List Char)) :
    Prop where
  body : closeLine (body spec) = first ++ '\n' :: (unlines header ++ unlines rest)
  complete : (complete spec).toList = first ++ '\n' ::
    (directiveBlock spec ++ (unlines header ++ (unlines (exports spec) ++ unlines rest)))
  /-- The parts are cut at the ends of lines. -/
  whole : ∀ l ∈ first :: (header ++ rest), '\n' ∉ l
  shebang : ['#', '!'] <+: first
  idle : ∀ l ∈ header, Idle l
  longest : ∀ l ∈ rest.head?, ¬Idle l

theorem exists_body_eq (spec : JobSpec) : ∃ rest, body spec = '#' :: '!' :: rest := by
  rw [body]
  split
  · next script h =>
    rw [JobSpec.script?] at h
    split at h
    · next rest _ => exact ⟨rest, (Option.some.inj h).symm⟩
    · exact nomatch h
  · exact ⟨_, rfl⟩

/-- The first line of a script is a shebang. -/
theorem exists_lines_body_eq (spec : JobSpec) :
    ∃ first rest, lines (body spec) = first :: rest ∧ ['#', '!'] <+: first := by
  obtain ⟨rest, hbody⟩ := exists_body_eq spec
  rw [hbody, Text.lines_cons (by decide) (.inl (by decide)),
    Text.lines_cons (by decide) (.inl (by decide)), List.headD_cons]
  exact ⟨_, _, rfl, _, rfl⟩

/-- **What is put into a script, and where.** -/
theorem exists_spliced {spec : JobSpec} (h : '\r' ∉ body spec) :
    ∃ first header rest, Spliced spec first header rest := by
  obtain ⟨first, others, hlines, hshebang⟩ := exists_lines_body_eq spec
  have hparts : others.takeWhile isHeader ++ others.dropWhile isHeader = others :=
    List.takeWhile_append_dropWhile
  refine ⟨first, others.takeWhile isHeader, others.dropWhile isHeader, ?_, ?_, ?_, hshebang,
    ?_, ?_⟩
  · have hunified : Text.unifyBreaks (body spec) = body spec := by
      rw [Text.unifyBreaks_eq_self_iff]
      intro hbreak
      exact h (hbreak.subset List.mem_cons_self)
    rw [← hunified, ← Text.unlines_lines, hlines, Text.unlines_cons, ← Text.unlines_append, hparts]
  · rw [toList_complete, hlines, directiveBlock, ← Text.unlines_append, ← Text.unlines_append,
      ← Text.unlines_append, ← Text.unlines_cons]
    simp only [spliceLines, List.headD_cons, List.drop_one, List.tail_cons, List.cons_append,
      List.append_assoc]
  · rw [hparts, ← hlines]
    exact fun l hl => Text.notMem_of_mem_lines hl
  · intro l hl
    exact isHeader_iff.mp (List.all_eq_true.mp List.all_takeWhile l hl)
  · intro l hl hidle
    have hhead := List.head?_dropWhile_not isHeader others
    rw [hl] at hhead
    exact absurd (isHeader_iff.mpr hidle) (by simp [hhead])

namespace Spliced

variable {spec : JobSpec} {first : List Char} {header rest : List (List Char)}
  (h : Spliced spec first header rest)

include h

/-- The lines of the script itself, in order. -/
theorem closedLines_body : closedLines (closeLine (Script.body spec)) =
    first :: (header ++ rest) := by
  rw [h.body, ← Text.unlines_append, ← Text.unlines_cons]
  exact Text.closedLines_unlines_of_notMem h.whole

/-- **The lines of the complete script**, in order. -/
theorem closedLines_complete : closedLines (Script.complete spec).toList =
    first :: (closedLines (directiveBlock spec) ++
      (header ++ (closedLines (unlines (exports spec)) ++ rest))) := by
  have hwhole := h.whole
  rw [List.forall_mem_cons, List.forall_mem_append] at hwhole
  obtain ⟨hfirst, hheader, hrest⟩ := hwhole
  have hsplit : closedLines (unlines [first]) = [first] :=
    Text.closedLines_unlines_of_notMem (List.forall_mem_singleton.mpr hfirst)
  have htext : (Script.complete spec).toList = unlines ([first] ++
      (directives spec ++ (header ++ (exports spec ++ rest)))) := by
    rw [h.complete, directiveBlock, List.singleton_append, Text.unlines_cons,
      Text.unlines_append, Text.unlines_append, Text.unlines_append]
  rw [htext, Text.closedLines_unlines_append, Text.closedLines_unlines_append,
    Text.closedLines_unlines_append, Text.closedLines_unlines_append, hsplit,
    Text.closedLines_unlines_of_notMem hheader, Text.closedLines_unlines_of_notMem hrest]
  rfl

end Spliced

/-! ### Commands in front of the header -/

/-- That no line but the first of a text is a command. -/
def GoesOnIdle (cs : List Char) : Prop := ∀ l ∈ (cs.splitOn '\n').tail, Idle l

theorem goesOnIdle_of_notMem {cs : List Char} (h : '\n' ∉ cs) : GoesOnIdle cs := by
  rw [GoesOnIdle, List.splitOn_eq_singleton h]
  nofun

theorem exists_directive_eq (name : String) (value : List Char) :
    ∃ rest, directive name value = '#' :: rest := by
  have hprefix : "#SBATCH --".toList.isPrefixOf (directive name value) = true := rfl
  obtain ⟨rest, hrest⟩ := List.isPrefixOf_iff_prefix.mp hprefix
  rw [← hrest]
  exact ⟨_, rfl⟩

/-- The lines of a directive are without a command if those that its value adds are. -/
theorem idle_directive_iff {name : String} (hname : name.toList.all (32 ≤ ·.toNat))
    {value : List Char} :
    (∀ l ∈ (directive name value).splitOn '\n', Idle l) ↔ GoesOnIdle value := by
  have hbefore : '\n' ∉ directive name [] :=
    (notMem_directive_iff (by decide) hname).mpr List.not_mem_nil
  have hdirective : directive name value = directive name [] ++ value :=
    List.append_cons ("#SBATCH --".toList ++ name.toList) '=' value
  obtain ⟨rest, hcomment⟩ := exists_directive_eq name []
  rw [hdirective, Text.splitOn_append_of_notMem hbefore, List.forall_mem_cons, hcomment,
    List.cons_append]
  exact and_iff_right (idle_of_comment _)

/-- **When there is no command in front of the header**: when the name and the directory
have no further lines that are one. -/
theorem idle_directiveBlock_iff (spec : JobSpec) :
    (∀ l ∈ closedLines (directiveBlock spec), Idle l) ↔
      (∀ name ∈ spec.name, GoesOnIdle name.toList) ∧
        ∀ d ∈ spec.directory, GoesOnIdle d.path.toList := by
  rw [directiveBlock, Text.closedLines_unlines, List.forall_mem_flatMap]
  apply forall_mem_directives_iff (P := fun d => ∀ l ∈ d.splitOn '\n', Idle l)
  · intro name value hname
    exact idle_directive_iff hname
  · intro n
    exact goesOnIdle_of_notMem (notMem_toDigits (by decide) n)

/-- **The script in the complete one.**  A script without carriage returns has a first line,
which is a shebang, a header, which is the longest run of blank lines and comments, and
further lines, and the complete script has the same lines in the same order: without the
directives behind the first and the exports behind the header it is the script again, with
its last line closed.  In front of the header and in it there is no command exactly if the
name and the directory have no further lines that are one. -/
theorem complete_spliced {spec : JobSpec} (h : '\r' ∉ body spec) :
    ∃ first header rest, Spliced spec first header rest ∧
      closedLines (closeLine (body spec)) = first :: (header ++ rest) ∧
      closedLines (complete spec).toList = first :: (closedLines (directiveBlock spec) ++
        (header ++ (closedLines (unlines (exports spec)) ++ rest))) ∧
      ((∀ l ∈ first :: (closedLines (directiveBlock spec) ++ header), Idle l) ↔
        (∀ name ∈ spec.name, GoesOnIdle name.toList) ∧
          ∀ d ∈ spec.directory, GoesOnIdle d.path.toList) := by
  obtain ⟨first, header, rest, hspliced⟩ := exists_spliced h
  have hfirst : Idle first := by
    obtain ⟨behind, rfl⟩ := hspliced.shebang
    exact idle_of_comment _
  refine ⟨first, header, rest, hspliced, hspliced.closedLines_body,
    hspliced.closedLines_complete, ?_⟩
  rw [List.forall_mem_cons, List.forall_mem_append, ← idle_directiveBlock_iff,
    and_iff_right hfirst, and_iff_left hspliced.idle]

/-- A specification with a script whose last line is open, and with a directory whose
second line is a comment. -/
def splicedSpec : JobSpec :=
  { executable := " \n#!/bin/bash\n#SBATCH -q debug\n\n  # own\nsrun x\n# late"
    directory := some ⟨"/tmp\n# y"⟩
    environment := .ofList [("A", "1")] }

/-- Its lines stand in the complete script as they should. -/
theorem complete_spliced_directed : '\r' ∉ body splicedSpec ∧
    (∃ first header rest, Spliced splicedSpec first header rest ∧
      first :: (header ++ rest) = ["#!/bin/bash", "#SBATCH -q debug", "", "  # own", "srun x",
        "# late"].map String.toList ∧
      ∀ l ∈ first :: (closedLines (directiveBlock splicedSpec) ++ header), Idle l) ∧
    closedLines (complete splicedSpec).toList = ["#!/bin/bash", "#SBATCH --nodes=1",
      "#SBATCH --time=10", "#SBATCH --chdir=/tmp", "# y", "#SBATCH -q debug", "", "  # own",
      "export A=1", "srun x", "# late"].map String.toList := by
  have h : '\r' ∉ body splicedSpec := by decide
  obtain ⟨first, header, rest, hspliced, hlines, -, hidle⟩ := complete_spliced h
  refine ⟨h, ⟨first, header, rest, hspliced, ?_, hidle.mpr ⟨nofun, ?_⟩⟩, by decide +kernel⟩
  · rw [← hlines]
    decide +kernel
  · intro d hd l hl
    obtain rfl : (⟨"/tmp\n# y"⟩ : Directory) = d := Option.some.inj hd
    have htail : ("/tmp\n# y".toList.splitOn '\n').tail = ["# y".toList] := by decide
    rw [htail, List.mem_singleton] at hl
    rw [hl]
    exact idle_of_comment _

/-- A specification with a directive in its script, and a name that goes on as a command. -/
def overtakenSpec : JobSpec :=
  { name := some "x\nreboot"
    executable := "#!/bin/bash\n#SBATCH -q debug\nsrun x\n" }

/-- **A command in front of the directives of a script.**  The directive stands in the header
of the script, but not among the lines that come before a command in the complete one. -/
theorem complete_spliced_breakout : '\r' ∉ body overtakenSpec ∧
    closedLines (body overtakenSpec) =
      ["#!/bin/bash", "#SBATCH -q debug", "srun x"].map String.toList ∧
    (closedLines (body overtakenSpec)).takeWhile isHeader =
      ["#!/bin/bash", "#SBATCH -q debug"].map String.toList ∧
    closedLines (complete overtakenSpec).toList = ["#!/bin/bash", "#SBATCH --job-name=x",
      "reboot", "#SBATCH --nodes=1", "#SBATCH --time=10", "#SBATCH -q debug",
      "srun x"].map String.toList ∧
    (closedLines (complete overtakenSpec).toList).takeWhile isHeader =
      ["#!/bin/bash", "#SBATCH --job-name=x"].map String.toList ∧
    ¬Idle "reboot".toList := by
  have hown : closedLines (body overtakenSpec) =
      ["#!/bin/bash", "#SBATCH -q debug", "srun x"].map String.toList := by
    decide +kernel
  have hcomplete : closedLines (complete overtakenSpec).toList = ["#!/bin/bash",
      "#SBATCH --job-name=x", "reboot", "#SBATCH --nodes=1", "#SBATCH --time=10",
      "#SBATCH -q debug", "srun x"].map String.toList := by
    decide +kernel
  refine ⟨by decide, hown, ?_, hcomplete, ?_, ?_⟩
  · rw [hown]
    decide
  · rw [hcomplete]
    decide
  · rw [← isHeader_iff]
    decide

end Script

end RemoteBatch
