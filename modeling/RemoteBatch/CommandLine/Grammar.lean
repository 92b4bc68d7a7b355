/-!
# Words of a command line

A command line is read word by word.  A word is an option with or without a
value, or an operand.  Which is which depends on the options that are known and
on how many operands came before: where the next operand may start with a hyphen,
a word that looks like an unknown option is one.

## Main definitions

* `Grammar` — the options and operands of one command.
* `Item` — what a word, or two, say.
* `Grammar.scan` — the items of a command line.
-/

namespace RemoteBatch.CommandLine

/-- What a command accepts. -/
structure Grammar where
  /-- The options that take a value and may come once. -/
  valued : List String := []
  /-- The options that take a value and may come several times. -/
  repeated : List String := []
  /-- The options without a value, which may come once. -/
  flags : List String := []
  /-- Whether the items end at the first operand. -/
  stopsAtOperand : Bool := false
  /-- The number of operands after which all words are operands, if there is one. -/
  trailingFrom : Option Nat := none
  deriving Repr, Inhabited

/-- What a word, or two, say. -/
inductive Item
  | valued (name value : String)
  | flag (name : String)
  | operand (word : String)
  deriving DecidableEq, Repr, Inhabited

/-- How a word looks on its own. -/
inductive Look
  /-- Two hyphens, which end the options. -/
  | closing
  /-- An option name behind two hyphens, perhaps with a value behind `=`. -/
  | long (name : String) (value : Option String)
  /-- Letters behind one hyphen. -/
  | short (letters : List Char)
  | plain
  deriving DecidableEq, Repr

/-- Cuts a text at its first equals sign. -/
def cutAtEquals (cs : List Char) : String × Option String :=
  let name := cs.takeWhile (· != '=')
  match cs.dropWhile (· != '=') with
  | [] => (String.ofList name, none)
  | _ :: value => (String.ofList name, some (String.ofList value))

/-- A text is cut behind a name without equals signs. -/
theorem cutAtEquals_append {name : List Char} (h : '=' ∉ name) (value : List Char) :
    cutAtEquals (name ++ '=' :: value) = (String.ofList name, some (String.ofList value)) := by
  have hname : ∀ c ∈ name, (c != '=') = true := by
    intro c hc
    rw [bne_iff_ne]
    rintro rfl
    exact h hc
  rw [cutAtEquals, List.takeWhile_append_of_pos hname, List.dropWhile_append_of_pos hname,
    List.takeWhile_cons_of_neg (by decide), List.dropWhile_cons_of_neg (by decide),
    List.append_nil]

theorem notMem_cutAtEquals (cs : List Char) : '=' ∉ (cutAtEquals cs).1.toList := by
  have hname : '=' ∉ cs.takeWhile (· != '=') := by
    intro hmem
    have hall := List.all_eq_true.mp (List.all_takeWhile (p := (· != '=')) (l := cs))
    exact absurd (hall '=' hmem) (by decide)
  rw [cutAtEquals]
  split
  · rwa [String.toList_ofList]
  · rwa [String.toList_ofList]

/-- How a word looks. -/
def lookOf (word : String) : Look :=
  match word.toList with
  | ['-', '-'] => .closing
  | '-' :: '-' :: rest => let (name, value) := cutAtEquals rest; .long name value
  | '-' :: c :: cs => .short (c :: cs)
  | _ => .plain

namespace Grammar

/-- The options that a command knows, with the one that every command has. -/
def known (g : Grammar) : List String := "help" :: g.valued ++ g.repeated ++ g.flags

/-- Whether a word that looks like an option is none that the command knows. -/
def isUnknown (g : Grammar) : Look → Bool
  | .long name _ => name ∉ g.known
  | .short letters => letters.any (· != 'h')
  | _ => false

/-- Whether the next operand may start with a hyphen, after `given` operands. -/
def hyphenNext (g : Grammar) (given : Nat) : Bool := g.trailingFrom.any (· ≤ given)

/-- Whether all further words are operands, after `given` operands. -/
def trailing (g : Grammar) (given : Nat) : Bool := g.trailingFrom.any (· < given)

/-- Whether a word can be the value of the option before it. -/
def isValue (g : Grammar) (given : Nat) (word : String) : Bool :=
  lookOf word == .plain || (g.hyphenNext given && g.isUnknown (lookOf word))

/-- Puts an item in front of those of the words behind it. -/
def follow (item : Item) (rest : Option (List Item × List String)) :
    Option (List Item × List String) :=
  rest.map fun (items, words) => (item :: items, words)

/-- The items of some words after `given` operands, and the words left behind the
last item; `none` if a word has no place. -/
def scan (g : Grammar) (given : Nat) : List String → Option (List Item × List String)
  | [] => some ([], [])
  | word :: words =>
    if g.trailing given then some ((word :: words).map .operand, [])
    else
      let operand :=
        if g.stopsAtOperand then some ([], word :: words)
        else follow (.operand word) (g.scan (given + 1) words)
      match lookOf word with
      | .plain => operand
      | .closing => if g.stopsAtOperand then none else some (words.map .operand, [])
      | .short letters =>
        if g.hyphenNext given && g.isUnknown (.short letters) then operand else none
      | .long name value =>
        if name ∈ g.flags then
          if value.isNone then follow (.flag name) (g.scan given words) else none
        else if name ∈ g.valued ++ g.repeated then
          match value, words with
          | some value, words => follow (.valued name value) (g.scan given words)
          | none, value :: words =>
            if g.isValue given value then follow (.valued name value) (g.scan given words)
            else none
          | none, [] => none
        else if g.hyphenNext given && g.isUnknown (.long name value) then operand
        else none

end Grammar

/-! ### Items by name -/

/-- The values of an option, in the order given. -/
def valuesOf (name : String) (items : List Item) : List String :=
  items.filterMap fun
    | .valued n value => if n = name then some value else none
    | _ => none

/-- How often a flag was given. -/
def countOf (name : String) (items : List Item) : Nat := items.count (.flag name)

/-- The operands, in the order given. -/
def operandsOf (items : List Item) : List String :=
  items.filterMap fun
    | .operand word => some word
    | _ => none

/-- The value of an option that may come once. -/
def atMostOne (name : String) (items : List Item) : Option (Option String) :=
  match valuesOf name items with
  | [] => some none
  | [value] => some (some value)
  | _ => none

/-- The value of an option that may come once, read by `f`. -/
def atMostOneAs (f : String → Option α) (name : String) (items : List Item) :
    Option (Option α) :=
  match atMostOne name items with
  | some (some value) => (f value).map some
  | some none => some none
  | none => none

/-- Whether a flag that may come once was given. -/
def givenFlag (name : String) (items : List Item) : Option Bool :=
  match countOf name items with
  | 0 => some false
  | 1 => some true
  | _ => none

end RemoteBatch.CommandLine
