import RemoteBatch.Proofs.Shell
import RemoteBatch.Script.Compose

/-!
# Texts as words of a shell

A text that is written as a word is read as that word and nothing else, whatever
stands in it and wherever it stands: without quotes it holds nothing that a shell
looks at twice, and between quotes nothing but the quote itself means anything.  So
the command of a script is read as the words that it was made of.

## Main definitions

* `wordOf` — the word that a text is read as.
* `argv` — the words of the command of a script.
* `behindFirstLine` — a script without its first line.

## Main results

* `scan_quoteWord` — **a text is read as its word, in any place of a line.**
* `literal?_wordOf` — no expansion changes that word.
* `reads_command` — the words of the command of a script.
* `commands?_plain` — **the script of a specification is one command.**
-/

namespace RemoteBatch.Script

open Shell (Letter Reads Runs Token Word scan tokens? commands? literal?)

/-! ### Words without quotes -/

/-- Whether a text is written without quotes. -/
def isPlainText (s : String) : Bool := !s.toList.isEmpty && s.toList.all isPlain

/-- The word that a text is read as: quotes are on all of its characters or on none. -/
def wordOf (s : String) : Word := s.toList.map (⟨·, !isPlainText s⟩)

theorem isSpecial_of_isPlain {c : Char} (h : isPlain c = true) : Shell.isSpecial c = false := by
  have hnone : ("&|;<>()".toList ++ "\x00\n \t\x27\"\\#".toList).any isPlain = false := by decide
  cases hspecial : Shell.isSpecial c with
  | false => rfl
  | true =>
    rw [Shell.isSpecial, Shell.isOperator, Bool.or_eq_true, List.contains_iff_mem,
      List.contains_iff_mem, ← List.mem_append] at hspecial
    exact absurd h (List.any_eq_false.mp hnone c hspecial)

theorem isActive_of_isPlain {c : Char} (h : isPlain c = true) (quoted : Bool) :
    Letter.isActive ⟨c, quoted⟩ = false := by
  have hnone : "$\x60*?[~".toList.any isPlain = false := by decide
  cases hactive : Letter.isActive ⟨c, quoted⟩ with
  | false => rfl
  | true =>
    rw [Letter.isActive, Bool.and_eq_true, List.contains_iff_mem] at hactive
    exact absurd h (List.any_eq_false.mp hnone c hactive.2)

theorem isActive_of_quoted (c : Char) : Letter.isActive ⟨c, true⟩ = false := rfl

theorem quoteWord_of_isPlainText {s : String} (h : isPlainText s = true) :
    quoteWord s = s.toList := if_pos h

theorem quoteWord_of_not_isPlainText {s : String} (h : isPlainText s = false) :
    quoteWord s = '\x27' :: s.toList.flatMap quoteWordChar ++ ['\x27'] :=
  if_neg (by rw [isPlainText] at h; rw [h]; exact Bool.false_ne_true)

/-- No expansion changes the word of a text. -/
theorem literal?_wordOf (s : String) : literal? (wordOf s) = some s := by
  have hinert : (wordOf s).any Letter.isActive = false := by
    rw [wordOf, List.any_map, List.any_eq_false]
    intro c hc
    rw [Function.comp_apply, Bool.not_eq_true]
    cases hplain : isPlainText s with
    | true =>
      rw [isPlainText, Bool.and_eq_true, List.all_eq_true] at hplain
      exact isActive_of_isPlain (hplain.2 c hc) _
    | false => exact isActive_of_quoted c
  have htext : Shell.text (wordOf s) = s := by
    rw [Shell.text, wordOf, List.map_map, Function.comp_def, List.map_id', String.ofList_toList]
  exact Shell.literal?_eq_some_iff.mpr ⟨hinert, htext⟩

theorem mapM_literal?_wordOf (texts : List String) :
    (texts.map wordOf).mapM literal? = some texts := mapM_map_eq_some literal?_wordOf texts

/-! ### Words in a line -/

/-- What stands between single quotes is read as it was, with each quote put back. -/
theorem scan_quoteWordChars {cs : List Char} (hnul : '\x00' ∉ cs) (w : Word)
    (ts : List Token) : scan (cs.flatMap quoteWordChar) ⟨.single, some w, ts⟩ =
      some ⟨.single, some (w ++ cs.map (⟨·, true⟩)), ts⟩ := by
  induction cs generalizing w with
  | nil => rw [List.flatMap_nil, Shell.scan_nil, List.map_nil, List.append_nil]
  | cons c cs ih =>
    rw [List.mem_cons, not_or] at hnul
    have hchar : scan (quoteWordChar c) ⟨.single, some w, ts⟩ =
        some ⟨.single, some (w ++ [⟨c, true⟩]), ts⟩ := by
      by_cases hquote : c = '\x27'
      · -- the quotes close, an escaped quote follows, and they open again
        rw [hquote]
        rfl
      · rw [quoteWordChar, if_neg hquote, Shell.scan_cons,
          Shell.step_single _ _ (Ne.symm hnul.1) hquote]
        rfl
    rw [List.flatMap_cons, Shell.scan_append, hchar, Option.bind_some, ih hnul.2, List.map_cons,
      List.append_assoc, List.singleton_append]

/-- **A text is read as its word**, at the start of a word and within one. -/
theorem scan_quoteWord {s : String} (hnul : '\x00' ∉ s.toList) (w : Option Word)
    (ts : List Token) : scan (quoteWord s) ⟨.bare, w, ts⟩ =
      some ⟨.bare, some (w.getD [] ++ wordOf s), ts⟩ := by
  cases hplain : isPlainText s with
  | true =>
    rw [quoteWord_of_isPlainText hplain, wordOf, hplain]
    rw [isPlainText, Bool.and_eq_true, List.all_eq_true] at hplain
    obtain ⟨hne, hall⟩ := hplain
    have hs : s.toList ≠ [] := by
      rintro hs
      rw [hs] at hne
      exact Bool.noConfusion hne
    exact Shell.scan_ordinary hs (fun c hc => isSpecial_of_isPlain (hall c hc)) w ts
  | false =>
    rw [quoteWord_of_not_isPlainText hplain, wordOf, hplain, List.cons_append, Shell.scan_cons,
      Shell.step_singleQuote, Option.bind_some, Shell.scan_append, scan_quoteWordChars hnul,
      Option.bind_some]
    rfl

/-- The rest of a line: words with a space before each. -/
theorem scan_operands {texts : List String} (hnul : ∀ s ∈ texts, '\x00' ∉ s.toList) (w : Word)
    (ts : List Token) :
    scan ((texts.flatMap fun s => ' ' :: quoteWord s) ++ ['\n']) ⟨.bare, some w, ts⟩ =
      some ⟨.bare, none, ts ++ ((w :: texts.map wordOf).map .word ++ [.newline])⟩ := by
  induction texts generalizing w ts with
  | nil =>
    rw [List.flatMap_nil, List.nil_append, Shell.scan_cons, Shell.step_newline, Option.bind_some,
      Shell.scan_nil, List.append_assoc]
    rfl
  | cons s texts ih =>
    have hs : '\x00' ∉ s.toList := hnul s List.mem_cons_self
    have htexts : ∀ a ∈ texts, '\x00' ∉ a.toList := fun a ha =>
      hnul a (List.mem_cons_of_mem s ha)
    rw [List.flatMap_cons, List.cons_append, List.cons_append, List.append_assoc, Shell.scan_cons,
      Shell.step_space, Option.bind_some, Shell.scan_append, scan_quoteWord hs, Option.bind_some,
      Option.getD_none, List.nil_append, ih htexts, List.append_assoc]
    rfl

/-! ### The command of a script -/

/-- The words of the command that starts the executable. -/
def argv (spec : JobSpec) : List String := "exec" :: spec.executable :: spec.arguments

/-- A script without its first line. -/
def behindFirstLine (script : String) : List Char :=
  (script.toList.dropWhile (· != '\n')).drop 1

theorem reads_command {spec : JobSpec} (hnul : ∀ s ∈ argv spec, '\x00' ∉ s.toList) :
    Reads (command spec ++ ['\n']) ((argv spec).map (.word ∘ wordOf) ++ [.newline]) := by
  intro before
  rw [argv, List.forall_mem_cons, List.forall_mem_cons] at hnul
  obtain ⟨-, hexecutable, harguments⟩ := hnul
  have hexec : scan "exec ".toList ⟨.bare, none, before⟩ =
      some ⟨.bare, none, before ++ [.word (wordOf "exec")]⟩ := rfl
  unfold command
  rw [List.append_assoc, List.append_assoc, Shell.scan_append, hexec, Option.bind_some,
    Shell.scan_append, scan_quoteWord hexecutable, Option.bind_some, scan_operands harguments,
    List.append_assoc, argv, List.map_cons, List.map_cons, List.map_cons, List.map_map]
  rfl

/-- The command of a script is one command. -/
theorem runs_command {spec : JobSpec} (hnul : ∀ s ∈ argv spec, '\x00' ∉ s.toList) :
    Runs (command spec ++ ['\n']) [argv spec] := by
  have hread := reads_command hnul
  rw [← List.map_map] at hread
  have hhead : (Shell.isReserved (wordOf "exec") || Shell.isAssignment (wordOf "exec"))
      = false := by
    decide
  exact Runs.words hread hhead (mapM_literal?_wordOf _) (List.cons_ne_nil _ _)

theorem body_of_not_isInline {spec : JobSpec} (h : spec.isInline = false) :
    body spec = shebang ++ '\n' :: (command spec ++ ['\n']) := by
  have hnone : spec.script? = none :=
    Option.isNone_iff_eq_none.mp (Option.isSome_eq_false_iff.mp h)
  rw [body, hnone]
  rfl

theorem toList_plain (spec : JobSpec) : (plain spec).toList = body spec := String.toList_ofList

theorem behindFirstLine_plain {spec : JobSpec} (h : spec.isInline = false) :
    behindFirstLine (plain spec) = command spec ++ ['\n'] := by
  rw [behindFirstLine, toList_plain, body_of_not_isInline h]
  rfl

/-- **The script of a specification is one command.**  Behind the first line a shell
reads words and the end of a line, no operator and no comment; no expansion changes
the words, and they are the executable and its arguments. -/
theorem commands?_plain {spec : JobSpec} (hinline : spec.isInline = false)
    (hnul : ∀ s ∈ spec.executable :: spec.arguments, '\x00' ∉ s.toList) :
    (plain spec).toList = shebang ++ '\n' :: behindFirstLine (plain spec) ∧
      (∃ words : List Word, tokens? (behindFirstLine (plain spec)) =
          some (words.map .word ++ [.newline]) ∧
        words.map literal? =
          ("exec" :: spec.executable :: spec.arguments).map some) ∧
      commands? (behindFirstLine (plain spec)) =
        some ["exec" :: spec.executable :: spec.arguments] := by
  have hargv : ∀ s ∈ argv spec, '\x00' ∉ s.toList :=
    List.forall_mem_cons.mpr ⟨by decide, hnul⟩
  rw [behindFirstLine_plain hinline]
  refine ⟨?_, ⟨(argv spec).map wordOf, ?_, ?_⟩, ?_⟩
  · rw [toList_plain, body_of_not_isInline hinline]
  · rw [(reads_command hargv).tokens?_eq, List.map_map]
  · rw [List.map_map]
    exact List.map_congr_left fun s _ => literal?_wordOf s
  · exact (runs_command hargv).commands?_eq

/-- A specification whose arguments look like everything else that a shell knows. -/
def oddSpec : JobSpec :=
  { executable := "/bin/echo"
    arguments := ["it\x27s", "", "$HOME", "# a\nreboot", "; \x60true\x60 \\", "~/*", "é"] }

/-- Its script runs nothing but the executable. -/
theorem commands?_plain_odd : oddSpec.isInline = false ∧
    commands? (behindFirstLine (plain oddSpec)) = some
      [["exec", "/bin/echo", "it\x27s", "", "$HOME", "# a\nreboot", "; \x60true\x60 \\", "~/*",
        "é"]] := by
  have hinline : oddSpec.isInline = false := by decide
  exact ⟨hinline, (commands?_plain hinline (by decide)).2.2⟩

end RemoteBatch.Script
