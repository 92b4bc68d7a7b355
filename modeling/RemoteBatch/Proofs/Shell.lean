import RemoteBatch.CommandLine.Grammar
import RemoteBatch.Proofs.Success
import RemoteBatch.Script.Quote
import RemoteBatch.Text.Ascii
import RemoteBatch.Text.Lines

/-!
# What a shell reads

How a POSIX shell takes a text apart.  Characters become the words, operators,
comments and line ends of the text; quotes and backslashes are taken off the words,
and what they protected has no special meaning any more.  The words between two
line ends are a simple command unless an operator joins them, an expansion changes
them, or the first of them starts something else.

The reading stops at what only a whole shell could tell: a text with operators,
expansions, assignments or reserved words has tokens but no commands here, and a
text with a null character has not even tokens.

## Main definitions

* `Letter`, `Token` — what words and texts consist of.
* `step`, `scan`, `tokens?` — the tokens of a text.
* `literal?` — the text of a word that no expansion changes.
* `commands?` — the simple commands of a text that has nothing else.
* `settings?` — the variables that a text sets, if it does nothing else.
* `Reads`, `Runs` — the tokens and the commands of whole lines, wherever they stand.

## Main results

* `Reads.append`, `Runs.append` — **whole lines can be read one after another.**
* `isName_of_mem_settings?` — only names are set.
-/

namespace RemoteBatch.Shell

/-! ### Tokens -/

/-- A character of a word, and whether it is quoted: it then stands for itself. -/
structure Letter where
  char : Char
  quoted : Bool
  deriving DecidableEq, Repr

/-- A word without the quotes and backslashes that it was written with. -/
abbrev Word := List Letter

/-- What a text consists of. -/
inductive Token
  | word (letters : Word)
  /-- A character of an operator. -/
  | operator (c : Char)
  /-- A number sign and the rest of its line. -/
  | comment
  | newline
  deriving DecidableEq, Repr

/-- Where in a text a character stands. -/
inductive Mode
  /-- Outside of quotes, in a word or between two. -/
  | bare
  /-- Behind a backslash outside of quotes. -/
  | escaped
  /-- Between single quotes. -/
  | single
  /-- Between double quotes. -/
  | double
  /-- Behind a backslash between double quotes. -/
  | doubleEscaped
  | comment
  deriving DecidableEq, Repr

/-- What has been read of a text. -/
structure State where
  mode : Mode := .bare
  /-- The word that is being read, if one has begun. -/
  word : Option Word := none
  tokens : List Token := []
  deriving DecidableEq, Repr

namespace State

/-- The word that is being read goes on, or begins, with a letter. -/
def add (s : State) (c : Char) (quoted : Bool) : State :=
  { s with word := some (s.word.getD [] ++ [⟨c, quoted⟩]) }

/-- A quote opens or closes; there is a word from now on, be it empty. -/
def quote (s : State) (mode : Mode) : State := { s with mode, word := some (s.word.getD []) }

/-- The word that is being read, if there is one, is complete. -/
def delimit (s : State) : State :=
  { s with word := none, tokens := s.tokens ++ s.word.toList.map .word }

/-- One more token that is no word. -/
def emit (s : State) (t : Token) : State := { s with tokens := s.tokens ++ [t] }

end State

/-- The characters of operators. -/
def isOperator (c : Char) : Bool := "&|;<>()".toList.contains c

/-- The characters that start expansions between double quotes too. -/
def isExpansion (c : Char) : Bool := c = '$' || c = '\x60'

/-- What a character does outside of quotes. -/
def readBare (s : State) (c : Char) : State :=
  if c = '\n' then s.delimit.emit .newline
  else if c = ' ' ∨ c = '\t' then s.delimit
  else if c = '\x27' then s.quote .single
  else if c = '"' then s.quote .double
  else if c = '\\' then { s with mode := .escaped }
  else if c = '#' ∧ s.word = none then { s.emit .comment with mode := .comment }
  else if isOperator c then s.delimit.emit (.operator c)
  else s.add c false

/-- What a character does between double quotes. -/
def readDouble (s : State) (c : Char) : State :=
  if c = '"' then s.quote .bare
  else if c = '\\' then { s with mode := .doubleEscaped }
  else s.add c (!isExpansion c)

/-- What a character does behind a backslash between double quotes.  A backslash
before any other character stands for itself. -/
def readDoubleEscaped (s : State) (c : Char) : State :=
  if c = '\n' then { s with mode := .double }
  else if isExpansion c ∨ c = '"' ∨ c = '\\' then { s.add c true with mode := .double }
  else { (s.add '\\' true).add c true with mode := .double }

/-- What one character does.  A backslash before a line feed takes it away. -/
def step (s : State) (c : Char) : Option State :=
  if c = '\x00' then none
  else some <|
    match s.mode with
    | .bare => readBare s c
    | .escaped => if c = '\n' then { s with mode := .bare } else { s.add c true with mode := .bare }
    | .single => if c = '\x27' then s.quote .bare else s.add c true
    | .double => readDouble s c
    | .doubleEscaped => readDoubleEscaped s c
    | .comment => if c = '\n' then { s.emit .newline with mode := .bare } else s

/-- What the characters of a text do, one after another. -/
def scan (cs : List Char) (s : State) : Option State := cs.foldlM step s

/-- The tokens that have been read when the text ends, unless it ends in quotes or
behind a backslash. -/
def State.finish? (s : State) : Option (List Token) :=
  if s.mode = .bare ∨ s.mode = .comment then some s.delimit.tokens else none

/-- The tokens of a text. -/
def tokens? (cs : List Char) : Option (List Token) := (scan cs {}).bind State.finish?

@[simp] theorem scan_nil (s : State) : scan [] s = some s := rfl

@[simp] theorem scan_cons (c : Char) (cs : List Char) (s : State) :
    scan (c :: cs) s = (step s c).bind (scan cs) := rfl

theorem scan_append (cs ds : List Char) (s : State) :
    scan (cs ++ ds) s = (scan cs s).bind (scan ds) :=
  List.foldlM_append

/-! ### Steps -/

section Steps

variable (w : Option Word) (ts : List Token)

@[simp] theorem step_newline : step ⟨.bare, w, ts⟩ '\n' =
    some ⟨.bare, none, ts ++ w.toList.map .word ++ [.newline]⟩ := rfl

@[simp] theorem step_space : step ⟨.bare, w, ts⟩ ' ' =
    some ⟨.bare, none, ts ++ w.toList.map .word⟩ := rfl

@[simp] theorem step_singleQuote : step ⟨.bare, w, ts⟩ '\x27' =
    some ⟨.single, some (w.getD []), ts⟩ := rfl

@[simp] theorem step_comment : step ⟨.bare, none, ts⟩ '#' =
    some ⟨.comment, none, ts ++ [.comment]⟩ := rfl

@[simp] theorem step_comment_newline : step ⟨.comment, w, ts⟩ '\n' =
    some ⟨.bare, w, ts ++ [.newline]⟩ := rfl

/-- Between single quotes every character but the quote stands for itself. -/
theorem step_single {c : Char} (hnul : c ≠ '\x00') (hquote : c ≠ '\x27') :
    step ⟨.single, w, ts⟩ c = some ⟨.single, some (w.getD [] ++ [⟨c, true⟩]), ts⟩ := by
  simp only [step, if_neg hnul, if_neg hquote, State.add]

theorem step_inComment {c : Char} (hnul : c ≠ '\x00') (hfeed : c ≠ '\n') :
    step ⟨.comment, w, ts⟩ c = some ⟨.comment, w, ts⟩ := by
  simp only [step, if_neg hnul, if_neg hfeed]

/-- The characters that do more outside of quotes than to stand in a word. -/
def isSpecial (c : Char) : Bool := isOperator c || "\x00\n \t\x27\"\\#".toList.contains c

theorem step_ordinary {c : Char} (h : isSpecial c = false) :
    step ⟨.bare, w, ts⟩ c = some ⟨.bare, some (w.getD [] ++ [⟨c, false⟩]), ts⟩ := by
  rw [isSpecial, Bool.or_eq_false_iff, List.contains_eq_mem, decide_eq_false_iff_not] at h
  obtain ⟨hoperator, hmem⟩ := h
  simp only [String.reduceToList, List.mem_cons, List.not_mem_nil, or_false, not_or] at hmem
  obtain ⟨hnul, hfeed, hspace, htab, hsingle, hdouble, hbackslash, hnumber⟩ := hmem
  rw [step, if_neg hnul]
  simp only [readBare, if_neg hfeed, if_neg hsingle, if_neg hdouble, if_neg hbackslash, hspace,
    htab, hnumber, hoperator, or_self, false_and, if_false, Bool.false_eq_true, State.add]

end Steps

/-- Ordinary characters begin a word or go on with it. -/
theorem scan_ordinary {cs : List Char} (hne : cs ≠ []) (h : ∀ c ∈ cs, isSpecial c = false)
    (w : Option Word) (ts : List Token) : scan cs ⟨.bare, w, ts⟩ =
      some ⟨.bare, some (w.getD [] ++ cs.map (⟨·, false⟩)), ts⟩ := by
  induction cs generalizing w with
  | nil => exact absurd rfl hne
  | cons c cs ih =>
    have hc : isSpecial c = false := h c List.mem_cons_self
    have hcs : ∀ d ∈ cs, isSpecial d = false := fun d hd => h d (List.mem_cons_of_mem c hd)
    rw [scan_cons, step_ordinary _ _ hc, Option.bind_some]
    cases cs with
    | nil => rfl
    | cons d cs =>
      rw [ih (List.cons_ne_nil d cs) hcs, Option.getD_some, List.append_assoc,
        List.singleton_append]
      rfl

/-- A comment ends at the line feed and nowhere before. -/
theorem scan_inComment {cs : List Char} (hnul : '\x00' ∉ cs) (hfeed : '\n' ∉ cs)
    (w : Option Word) (ts : List Token) :
    scan cs ⟨.comment, w, ts⟩ = some ⟨.comment, w, ts⟩ := by
  induction cs with
  | nil => rfl
  | cons c cs ih =>
    rw [List.mem_cons, not_or] at hnul hfeed
    rw [scan_cons, step_inComment _ _ (Ne.symm hnul.1) (Ne.symm hfeed.1), Option.bind_some,
      ih hnul.2 hfeed.2]

/-! ### Commands -/

/-- Whether a letter may take part in an expansion: of a parameter, a command, a file
name or a home directory. -/
def Letter.isActive (l : Letter) : Bool := !l.quoted && "$\x60*?[~".toList.contains l.char

/-- The characters of a word. -/
def text (w : Word) : String := String.ofList (w.map Letter.char)

/-- The text of a word that no expansion changes. -/
def literal? (w : Word) : Option String := if w.any Letter.isActive then none else some (text w)

theorem literal?_eq_some_iff {w : Word} {s : String} :
    literal? w = some s ↔ w.any Letter.isActive = false ∧ text w = s := by
  rw [literal?, Option.ite_none_left_eq_some, Bool.not_eq_true, Option.some.injEq]

/-- The words that start something else than a simple command. -/
def reservedWords : List String :=
  ["!", "\x7b", "\x7d", "case", "do", "done", "elif", "else", "esac", "fi", "for", "if", "in",
   "then", "until", "while"]

/-- Whether a character may start a name. -/
def isNameStart (c : Char) : Bool := c.isAlpha || c == '_'

/-- Whether a character may stand in a name. -/
def isNameChar (c : Char) : Bool := Text.isAsciiAlphanumeric c || c == '_'

/-- Whether a text is the name of a variable. -/
def isName : List Char → Bool
  | [] => false
  | c :: cs => isNameStart c && cs.all isNameChar

/-- Whether a word is reserved. -/
def isReserved (w : Word) : Bool := w.all (!·.quoted) && reservedWords.contains (text w)

/-- Whether a word in front of a command assigns to a variable. -/
def isAssignment (w : Word) : Bool :=
  let name := w.takeWhile (·.char != '=')
  name.all (!·.quoted) && isName (name.map Letter.char)
    && (w.drop name.length).head? == some ⟨'=', false⟩

/-- The words among the tokens of a line, if there is no operator. -/
def words? : List Token → Option (List Word)
  | [] => some []
  | .word w :: ts => (words? ts).map (w :: ·)
  | .comment :: ts => words? ts
  | _ :: _ => none

/-- The simple command that the tokens of a line make, without words if it is a line
without a command. -/
def command? (line : List Token) : Option (List String) :=
  (words? line).bind fun words =>
    if words.head?.any fun w => isReserved w || isAssignment w then none
    else words.mapM literal?

/-- The simple commands that tokens make. -/
def commandsOf? (ts : List Token) : Option (List (List String)) :=
  ((ts.splitOn .newline).mapM command?).map (·.filter (!·.isEmpty))

/-- The simple commands of a text. -/
def commands? (cs : List Char) : Option (List (List String)) := (tokens? cs).bind commandsOf?

theorem commandsOf?_nil : commandsOf? [] = some [] := rfl

/-- A line is one command, and then come those of the next lines. -/
theorem commandsOf?_line {line : List Token} (h : .newline ∉ line) {c : List String}
    (hc : command? line = some c) (rest : List Token) :
    commandsOf? (line ++ .newline :: rest) =
      (commandsOf? rest).map ([c].filter (!·.isEmpty) ++ ·) := by
  rw [commandsOf?, List.splitOn_append_cons_self_of_not_mem h, List.mapM_cons, hc, commandsOf?]
  cases (rest.splitOn .newline).mapM command? with
  | none => rfl
  | some cs =>
    show some ((c :: cs).filter _) = some ([c].filter _ ++ cs.filter _)
    rw [← List.filter_append, List.singleton_append]

theorem words?_map_word (ws : List Word) : words? (ws.map .word) = some ws := by
  induction ws with
  | nil => rfl
  | cons w ws ih => rw [List.map_cons, words?, ih, Option.map_some]

/-! ### Variables -/

/-- The variables that one operand of `export` sets; it may also name a variable
without setting it. -/
def operand? (operand : String) : Option (List (String × String)) :=
  let cut := CommandLine.cutAtEquals operand.toList
  if isName cut.1.toList then some (cut.2.toList.map (cut.1, ·)) else none

/-- The variables that a command sets, if all it does is to export variables. -/
def exported? (command : List String) : Option (List (String × String)) :=
  if command.head? = some "export" then (command.tail.mapM operand?).map List.flatten else none

/-- The variables that a text sets, in order, if that is all it does. -/
def settings? (cs : List Char) : Option (List (String × String)) :=
  ((commands? cs).bind (·.mapM exported?)).map List.flatten

theorem isName_of_mem_operand? {operand : String} {settings : List (String × String)}
    (h : operand? operand = some settings) {p : String × String} (hp : p ∈ settings) :
    isName p.1.toList = true := by
  simp only [operand?] at h
  split at h
  · next hname =>
    obtain rfl := Option.some.inj h
    obtain ⟨value, -, rfl⟩ := List.mem_map.mp hp
    exact hname
  · exact nomatch h

/-- Nothing but a name is ever set. -/
theorem isName_of_mem_settings? {cs : List Char} {settings : List (String × String)}
    (h : settings? cs = some settings) {p : String × String} (hp : p ∈ settings) :
    isName p.1.toList = true := by
  obtain ⟨found, hfound, rfl⟩ := Option.map_eq_some_iff.mp h
  obtain ⟨commands, -, hcommands⟩ := Option.bind_eq_some_iff.mp hfound
  obtain ⟨command, -, sets, hsets, hp⟩ := exists_mem_of_mapM hcommands hp
  rw [exported?] at hsets
  split at hsets
  · obtain ⟨operands, hoperands, rfl⟩ := Option.map_eq_some_iff.mp hsets
    obtain ⟨operand, -, given, hgiven, hp⟩ := exists_mem_of_mapM hoperands hp
    exact isName_of_mem_operand? hgiven hp
  · exact nomatch hsets

/-! ### Whole lines -/

/-- Whatever texts one after another give one after another, lines do. -/
theorem unlines_of_append {R : List Char → List α → Prop} (hnil : R [] [])
    (happend : ∀ {cs ds as bs}, R cs as → R ds bs → R (cs ++ ds) (as ++ bs))
    {line : β → List Char} {f : β → List α} {bs : List β}
    (h : ∀ b ∈ bs, R (line b ++ ['\n']) (f b)) : R (Text.unlines (bs.map line)) (bs.flatMap f) := by
  induction bs with
  | nil => exact hnil
  | cons b bs ih =>
    have hb : R (line b ++ ['\n']) (f b) := h b List.mem_cons_self
    have hbs : R (Text.unlines (bs.map line)) (bs.flatMap f) :=
      ih fun a ha => h a (List.mem_cons_of_mem b ha)
    have both := happend hb hbs
    rwa [List.append_assoc, List.singleton_append, ← Text.unlines_cons, ← List.map_cons] at both

/-- That a text, read from the start of a line, ends a line and has the given
tokens. -/
def Reads (cs : List Char) (ts : List Token) : Prop :=
  ∀ before, scan cs ⟨.bare, none, before⟩ = some ⟨.bare, none, before ++ ts⟩

namespace Reads

theorem nil : Reads [] [] := fun before => by rw [scan_nil, List.append_nil]

theorem append {cs ds : List Char} {ts us : List Token} (h : Reads cs ts) (h' : Reads ds us) :
    Reads (cs ++ ds) (ts ++ us) := by
  intro before
  rw [scan_append, h, Option.bind_some, h', List.append_assoc]

theorem tokens?_eq {cs : List Char} {ts : List Token} (h : Reads cs ts) :
    tokens? cs = some ts := by
  rw [tokens?, h []]
  show some (ts ++ []) = some ts
  rw [List.append_nil]

/-- A line that starts with a number sign is a comment. -/
theorem comment {cs : List Char} (hnul : '\x00' ∉ cs) (hfeed : '\n' ∉ cs) :
    Reads ('#' :: cs ++ ['\n']) [.comment, .newline] := by
  intro before
  rw [List.cons_append, scan_cons, step_comment, Option.bind_some, scan_append,
    scan_inComment hnul hfeed, Option.bind_some, scan_cons, step_comment_newline,
    Option.bind_some, scan_nil, List.append_assoc]
  rfl

end Reads

/-- That a text, read from the start of a line, ends a line and has the given simple
commands, whatever stands before and behind. -/
def Runs (cs : List Char) (commands : List (List String)) : Prop :=
  ∃ ts, Reads cs ts ∧
    ∀ rest, commandsOf? (ts ++ rest) = (commandsOf? rest).map (commands ++ ·)

namespace Runs

theorem nil : Runs [] [] := by
  refine ⟨[], Reads.nil, ?_⟩
  intro rest
  simp only [List.nil_append, Option.map_id']

theorem append {cs ds : List Char} {as bs : List (List String)} (h : Runs cs as)
    (h' : Runs ds bs) : Runs (cs ++ ds) (as ++ bs) := by
  obtain ⟨ts, hts, has⟩ := h
  obtain ⟨us, hus, hbs⟩ := h'
  refine ⟨ts ++ us, hts.append hus, ?_⟩
  intro rest
  rw [List.append_assoc, has, hbs, Option.map_map]
  simp only [Function.comp_def, List.append_assoc]

theorem commands?_eq {cs : List Char} {commands : List (List String)} (h : Runs cs commands) :
    commands? cs = some commands := by
  obtain ⟨ts, hts, hcommands⟩ := h
  have hall := hcommands []
  rw [List.append_nil, commandsOf?_nil, Option.map_some, List.append_nil] at hall
  rw [commands?, hts.tokens?_eq, Option.bind_some, hall]

/-- A comment is no command. -/
theorem comment {cs : List Char} (hnul : '\x00' ∉ cs) (hfeed : '\n' ∉ cs) :
    Runs ('#' :: cs ++ ['\n']) [] := by
  have hline : .newline ∉ [Token.comment] := by decide
  have hcommand : command? [.comment] = some [] := rfl
  exact ⟨_, Reads.comment hnul hfeed, commandsOf?_line hline hcommand⟩

/-- A line of words is a command. -/
theorem words {cs : List Char} {ws : List Word}
    (hread : Reads cs (ws.map .word ++ [.newline])) {c : List String}
    (hhead : (ws.head?.any fun w => isReserved w || isAssignment w) = false)
    (hliteral : ws.mapM literal? = some c) (hne : c ≠ []) : Runs cs [c] := by
  refine ⟨_, hread, ?_⟩
  intro rest
  have hline : .newline ∉ ws.map Token.word := by
    intro hmem
    obtain ⟨w, -, hw⟩ := List.mem_map.mp hmem
    exact nomatch hw
  have hcommand : command? (ws.map .word) = some c := by
    rw [command?, words?_map_word, Option.bind_some, hhead, if_neg Bool.false_ne_true, hliteral]
  rw [List.append_assoc, List.singleton_append, commandsOf?_line hline hcommand]
  cases c with
  | nil => exact absurd rfl hne
  | cons s c => rfl

theorem unlines {line : α → List Char} {f : α → List (List String)} {as : List α}
    (h : ∀ a ∈ as, Runs (line a ++ ['\n']) (f a)) :
    Runs (Text.unlines (as.map line)) (as.flatMap f) :=
  unlines_of_append nil append h

end Runs

end RemoteBatch.Shell
