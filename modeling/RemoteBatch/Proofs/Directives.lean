import RemoteBatch.Proofs.Lines
import RemoteBatch.Proofs.Shell
import RemoteBatch.Script.Compose

/-!
# Directives in a script

The complete script of a specification is the script without its resources, with a
block of directives behind the first line.  A directive is one line as long as no
value in it holds a line feed, and the values that can are those that are texts: the
name of the job and its directory.  Without one, the block is the directives line by
line, and comments to a shell.  With one, it has further lines.

## Main definitions

* `directiveBlock` — the text that is inserted behind the first line.
* `directiveName?` — the name of the directive that a line is.
* `directiveNames` — the names of the directives for a specification, in order.
* `Omits` — that neither the name nor the directory holds a character.

## Main results

* `toList_complete_eq` — **where the block of directives stands.**
* `map_directiveName?_directives` — which directives there are.
* `closedLines_directiveBlock_iff` — **when a directive is a line.**
* `closedLines_directiveBlock_breakout` — a name that is run, and a directory that is
  a directive of its own.
-/

namespace RemoteBatch.Script

open Text (closedLines lines unlines)

/-! ### The lines of a complete script -/

theorem directives_ne_nil (spec : JobSpec) : directives spec ≠ [] := by
  intro h
  have hmem : directive "nodes" (Nat.toDigits 10 spec.resources.nodes) ∈ directives spec := by
    simp only [directives, List.mem_append, List.mem_singleton, true_or, or_true]
  rw [h] at hmem
  exact List.not_mem_nil hmem

theorem toList_complete (spec : JobSpec) : (complete spec).toList =
    unlines (spliceLines (directives spec) (exports spec) (lines (body spec))) := by
  have hne : (directives spec).isEmpty = false :=
    List.isEmpty_eq_false_iff.mpr (directives_ne_nil spec)
  rw [complete, String.toList_ofList, splice, hne, Bool.false_and, if_neg Bool.false_ne_true]

/-- Directives stand between the first line and all others. -/
theorem spliceLines_eq (directives exports ls : List (List Char)) :
    spliceLines directives exports ls =
      ls.headD shebang :: (directives ++ (spliceLines [] exports ls).tail) := by
  simp only [spliceLines, List.cons_append, List.nil_append, List.tail_cons, List.append_assoc]

/-- The directives for a specification, as they are inserted into its script. -/
def directiveBlock (spec : JobSpec) : List Char := unlines (directives spec)

/-- **Where the block of directives stands**: behind the first line of the script that
has everything else. -/
theorem toList_complete_eq (spec : JobSpec) : ∃ first own,
    spliceLines [] (exports spec) (lines (body spec)) = first :: own ∧ '\n' ∉ first ∧
      (complete spec).toList = first ++ '\n' :: (directiveBlock spec ++ unlines own) := by
  refine ⟨(lines (body spec)).headD shebang,
    (spliceLines [] (exports spec) (lines (body spec))).tail, ?_, ?_, ?_⟩
  · rw [spliceLines_eq, List.nil_append]
    rfl
  · cases hlines : lines (body spec) with
    | nil => decide
    | cons l ls => exact Text.notMem_of_mem_lines (hlines ▸ List.mem_cons_self)
  · rw [toList_complete, spliceLines_eq, Text.unlines_cons, Text.unlines_append, directiveBlock]

/-! ### Which directives there are -/

/-- The name of the directive that a line is. -/
def directiveName? (line : List Char) : Option String :=
  if "#SBATCH --".toList.isPrefixOf line then some (CommandLine.cutAtEquals (line.drop 10)).1
  else none

/-- The names of the directives for a specification, in order. -/
def directiveNames (spec : JobSpec) : List String :=
  ([("job-name", spec.name.isSome), ("nodes", true),
    ("ntasks-per-node", spec.resources.processesPerNode.isSome),
    ("gpus-per-node", spec.resources.gpusPerNode.isSome), ("time", true),
    ("chdir", spec.directory.isSome)].filter (·.2)).map (·.1)

theorem directiveName?_directive {name : String} (h : '=' ∉ name.toList) (value : List Char) :
    directiveName? (directive name value) = some name := by
  have hdrop : (directive name value).drop 10 = name.toList ++ '=' :: value := rfl
  have hprefix : "#SBATCH --".toList.isPrefixOf (directive name value) = true := rfl
  rw [directiveName?, if_pos hprefix, hdrop, CommandLine.cutAtEquals_append h,
    String.ofList_toList]

theorem map_directiveName?_directives (spec : JobSpec) :
    (directives spec).map directiveName? = (directiveNames spec).map some := by
  have hoptional {α : Type} {name : String} (h : '=' ∉ name.toList) (value : Option α)
      (f : α → List Char) : (value.toList.map fun a => directive name (f a)).map directiveName? =
        if value.isSome then [some name] else [] := by
    cases value with
    | none => rfl
    | some a => exact congrArg ([·]) (directiveName?_directive h (f a))
  have hnumber {name : String} (h : '=' ∉ name.toList) (value : List Char) :
      [directive name value].map directiveName? = [some name] :=
    congrArg ([·]) (directiveName?_directive h value)
  simp only [directives, countDirective, List.map_append]
  rw [hoptional (by decide), hnumber (by decide), hoptional (by decide), hoptional (by decide),
    hnumber (by decide), hoptional (by decide), directiveNames]
  cases spec.name.isSome <;> cases spec.resources.processesPerNode.isSome <;>
    cases spec.resources.gpusPerNode.isSome <;> cases spec.directory.isSome <;> simp

theorem length_directives (spec : JobSpec) :
    (directives spec).length = (directiveNames spec).length := by
  have h := congrArg List.length (map_directiveName?_directives spec)
  rwa [List.length_map, List.length_map] at h

/-! ### Directives as lines -/

/-- That neither the name nor the directory of a specification holds a character. -/
def Omits (spec : JobSpec) (c : Char) : Prop :=
  (∀ name ∈ spec.name, c ∉ name.toList) ∧ ∀ d ∈ spec.directory, c ∉ d.path.toList

/-- What holds of all directives, if it is a matter of their values and numbers meet it: it
is then a matter of the name and the directory. -/
theorem forall_mem_directives_iff {P Q : List Char → Prop}
    (hdirective : ∀ (name : String) (value : List Char), name.toList.all (32 ≤ ·.toNat) →
      (P (directive name value) ↔ Q value))
    (hdigits : ∀ n, Q (Nat.toDigits 10 n)) (spec : JobSpec) : (∀ l ∈ directives spec, P l) ↔
      (∀ name ∈ spec.name, Q name.toList) ∧ ∀ d ∈ spec.directory, Q d.path.toList := by
  have htext {α : Type} (name : String) (hname : name.toList.all (32 ≤ ·.toNat))
      (value : Option α) (f : α → List Char) :
      (∀ l ∈ value.toList.map fun a => directive name (f a), P l) ↔ ∀ a ∈ value, Q (f a) := by
    rw [List.forall_mem_map]
    simp only [Option.mem_toList, Option.mem_def, hdirective name _ hname]
  have hnumber (name : String) (hname : name.toList.all (32 ≤ ·.toNat)) (n : Nat) :
      ∀ l ∈ [directive name (Nat.toDigits 10 n)], P l := by
    rw [List.forall_mem_singleton, hdirective name _ hname]
    exact hdigits n
  have hcount (name : String) (hname : name.toList.all (32 ≤ ·.toNat)) (n? : Option UInt32) :
      ∀ l ∈ countDirective name n?, P l := by
    rw [countDirective, htext name hname]
    exact fun n _ => hdigits n.toNat
  simp only [directives, List.forall_mem_append]
  rw [htext "job-name" (by decide), htext "chdir" (by decide),
    and_iff_left (hnumber "nodes" (by decide) _),
    and_iff_left (hcount "ntasks-per-node" (by decide) _),
    and_iff_left (hcount "gpus-per-node" (by decide) _),
    and_iff_left (hnumber "time" (by decide) _)]

section Control

variable {c : Char} (hc : c.toNat < 32)

include hc

theorem notMem_of_printable {cs : List Char} (h : cs.all (32 ≤ ·.toNat)) : c ∉ cs := by
  intro hmem
  have hprintable := List.all_eq_true.mp h c hmem
  rw [decide_eq_true_eq] at hprintable
  omega

theorem notMem_toDigits (n : Nat) : c ∉ Nat.toDigits 10 n := by
  intro hmem
  have hdigit := Text.toNat_of_isDigit
    (Nat.isDigit_of_mem_toDigits (by decide) (by decide) hmem)
  omega

theorem notMem_directive_iff {name : String} (hname : name.toList.all (32 ≤ ·.toNat))
    {value : List Char} : c ∉ directive name value ↔ c ∉ value := by
  have hprefix : c ∉ "#SBATCH --".toList ++ name.toList ++ ['='] := by
    refine notMem_of_printable hc ?_
    rw [List.all_append, List.all_append, hname]
    decide
  unfold directive
  rw [List.append_cons, List.mem_append, not_or, and_iff_right hprefix]

/-- A control character in a directive comes from the name or the directory. -/
theorem notMem_directives_iff (spec : JobSpec) :
    (∀ l ∈ directives spec, c ∉ l) ↔ Omits spec c := by
  rw [Omits]
  apply forall_mem_directives_iff (P := (c ∉ ·)) (Q := (c ∉ ·))
  · intro name value hname
    exact notMem_directive_iff hc hname
  · exact notMem_toDigits hc

end Control

/-- Every directive starts as a comment does. -/
theorem eq_cons_of_mem_directives {spec : JobSpec} {l : List Char} (h : l ∈ directives spec) :
    ∃ rest, l = '#' :: rest := by
  have hmem : directiveName? l ∈ (directiveNames spec).map some := by
    rw [← map_directiveName?_directives]
    exact List.mem_map_of_mem h
  obtain ⟨name, -, hname⟩ := List.mem_map.mp hmem
  rw [directiveName?] at hname
  split at hname
  · next hprefix =>
    obtain ⟨rest, rfl⟩ := List.isPrefixOf_iff_prefix.mp hprefix
    exact ⟨_, rfl⟩
  · exact nomatch hname

/-- A directive of one line is a comment. -/
theorem eq_comment_of_mem_directives {spec : JobSpec} (hfeed : Omits spec '\n')
    (hnul : Omits spec '\x00') {l : List Char} (hl : l ∈ directives spec) :
    ∃ rest, l = '#' :: rest ∧ '\x00' ∉ rest ∧ '\n' ∉ rest := by
  have hlfeed := (notMem_directives_iff (by decide) spec).mpr hfeed l hl
  have hlnul := (notMem_directives_iff (by decide) spec).mpr hnul l hl
  obtain ⟨rest, rfl⟩ := eq_cons_of_mem_directives hl
  rw [List.mem_cons, not_or] at hlfeed hlnul
  exact ⟨rest, rfl, hlnul.2, hlfeed.2⟩

section Comments

variable {spec : JobSpec} (hfeed : Omits spec '\n') (hnul : Omits spec '\x00')

include hfeed hnul

/-- Whatever a comment gives, directives of one line each give one after another. -/
theorem directiveBlock_of_comment {R : List Char → List α → Prop} (hnil : R [] [])
    (happend : ∀ {cs ds as bs}, R cs as → R ds bs → R (cs ++ ds) (as ++ bs)) {as : List α}
    (hcomment : ∀ {cs}, '\x00' ∉ cs → '\n' ∉ cs → R ('#' :: cs ++ ['\n']) as) :
    R (directiveBlock spec) ((directives spec).flatMap fun _ => as) := by
  have hlines : R (unlines ((directives spec).map id)) ((directives spec).flatMap fun _ => as) := by
    refine Shell.unlines_of_append hnil happend ?_
    intro l hl
    obtain ⟨rest, rfl, hrestnul, hrestfeed⟩ := eq_comment_of_mem_directives hfeed hnul hl
    exact hcomment hrestnul hrestfeed
  rwa [List.map_id] at hlines

theorem reads_directiveBlock : Shell.Reads (directiveBlock spec)
    ((directives spec).flatMap fun _ => [.comment, .newline]) :=
  directiveBlock_of_comment hfeed hnul Shell.Reads.nil Shell.Reads.append Shell.Reads.comment

/-- A shell runs no directive of one line. -/
theorem runs_directiveBlock : Shell.Runs (directiveBlock spec) [] := by
  have hnone := directiveBlock_of_comment hfeed hnul Shell.Runs.nil Shell.Runs.append
    Shell.Runs.comment
  rwa [List.flatMap_eq_nil_iff.mpr fun _ _ => rfl] at hnone

end Comments

/-- **When a directive is a line.**  The block has one line per directive, each with
its name and in order, exactly if neither the name nor the directory holds a line feed;
a shell then reads nothing but comments in it. -/
theorem closedLines_directiveBlock_iff (spec : JobSpec) :
    (∃ first own, spliceLines [] (exports spec) (lines (body spec)) = first :: own ∧
        '\n' ∉ first ∧
        (complete spec).toList = first ++ '\n' :: (directiveBlock spec ++ unlines own)) ∧
      ((closedLines (directiveBlock spec)).map directiveName? = (directiveNames spec).map some ↔
        Omits spec '\n') ∧
      (Omits spec '\n' → closedLines (directiveBlock spec) = directives spec) ∧
      (Omits spec '\n' → Omits spec '\x00' → Shell.tokens? (directiveBlock spec) =
        some ((directives spec).flatMap fun _ => [.comment, .newline])) := by
  have hlines (h : Omits spec '\n') : closedLines (directiveBlock spec) = directives spec :=
    Text.closedLines_unlines_of_notMem ((notMem_directives_iff (by decide) spec).mpr h)
  refine ⟨toList_complete_eq spec, ⟨?_, ?_⟩, hlines, ?_⟩
  · intro h
    -- as many lines as directives leave no line feed for a directive
    have hlength := congrArg List.length h
    rw [List.length_map, List.length_map, ← length_directives] at hlength
    rw [← notMem_directives_iff (by decide)]
    exact Text.length_closedLines_unlines_iff.mp hlength
  · intro h
    rw [hlines h, map_directiveName?_directives]
  · intro hfeed hnul
    exact (reads_directiveBlock hfeed hnul).tokens?_eq

/-- A specification with all directives. -/
def directedSpec : JobSpec :=
  { name := some "it\x27s # one job"
    executable := "/bin/true"
    directory := some ⟨"/scratch/my files"⟩
    resources := { nodeCount := 4, processesPerNode := some 8, gpusPerNode := some 1 } }

/-- Each of its directives is a line. -/
theorem closedLines_directiveBlock_directed : Omits directedSpec '\n' ∧
    (closedLines (directiveBlock directedSpec)).map directiveName? =
      ["job-name", "nodes", "ntasks-per-node", "gpus-per-node", "time", "chdir"].map some ∧
    closedLines (directiveBlock directedSpec) = directives directedSpec := by
  have hfeed : Omits directedSpec '\n' := ⟨by decide, by decide⟩
  obtain ⟨-, hnames, hlines, -⟩ := closedLines_directiveBlock_iff directedSpec
  exact ⟨hfeed, hnames.mpr hfeed, hlines hfeed⟩

/-- A specification whose name goes on as a command and whose directory goes on as a
directive. -/
def breakoutSpec : JobSpec :=
  { name := some "x\nreboot"
    executable := "/bin/true"
    directory := some ⟨"/tmp\n#SBATCH --account=root"⟩ }

/-- **A name that is run, and a directory that is a directive of its own.** -/
theorem closedLines_directiveBlock_breakout :
    closedLines (directiveBlock breakoutSpec) =
        ["#SBATCH --job-name=x".toList, "reboot".toList, "#SBATCH --nodes=1".toList,
          "#SBATCH --time=10".toList, "#SBATCH --chdir=/tmp".toList,
          "#SBATCH --account=root".toList] ∧
      directiveNames breakoutSpec = ["job-name", "nodes", "time", "chdir"] ∧
      (closedLines (directiveBlock breakoutSpec)).map directiveName? ≠
        (directiveNames breakoutSpec).map some ∧
      Shell.commands? (complete breakoutSpec).toList =
        some [["reboot"], ["exec", "/bin/true"]] := by
  have hlines : closedLines (directiveBlock breakoutSpec) =
      ["#SBATCH --job-name=x".toList, "reboot".toList, "#SBATCH --nodes=1".toList,
        "#SBATCH --time=10".toList, "#SBATCH --chdir=/tmp".toList,
        "#SBATCH --account=root".toList] := by
    decide +kernel
  have hnames : directiveNames breakoutSpec = ["job-name", "nodes", "time", "chdir"] := by
    decide
  refine ⟨hlines, hnames, ?_, by decide +kernel⟩
  intro h
  -- two of the six lines are more than the directives
  rw [hlines, hnames] at h
  exact absurd (congrArg List.length h) (by decide)

end RemoteBatch.Script
