import RemoteBatch.Job.State

/-!
# Styled text

Text for a terminal, in colours if the terminal is to show them.  A styled text
is closed by a reset; a reset inside of it is followed by the style again.

## Main definitions

* `Style` — the styles.
* `Palette` — whether styles are shown.
* `Palette.paint` — a text in a style.
* `Palette.state` — the name of a state in its colour.
-/

namespace RemoteBatch.CommandLine

/-- A style. -/
inductive Style
  | bold
  | dimmed
  | red
  | green
  | yellow
  | cyan
  deriving DecidableEq, Repr, Inhabited

/-- The number of a style in control sequences. -/
def Style.code : Style → String
  | bold => "1"
  | dimmed => "2"
  | red => "31"
  | green => "32"
  | yellow => "33"
  | cyan => "36"

/-- The sequence that starts a style. -/
def Style.start (s : Style) : List Char := '\x1b' :: '[' :: s.code.toList ++ ['m']

/-- The sequence that ends all styles. -/
def reset : List Char := ['\x1b', '[', '0', 'm']

/-- A text with a sequence put behind every reset in it. -/
def afterResets (inserted : List Char) : List Char → List Char
  | '\x1b' :: '[' :: '0' :: 'm' :: cs => reset ++ inserted ++ afterResets inserted cs
  | c :: cs => c :: afterResets inserted cs
  | [] => []

/-- Whether styles are shown. -/
structure Palette where
  colors : Bool
  deriving DecidableEq, Repr, Inhabited

namespace Palette

/-- A text in a style. -/
def paint (p : Palette) (style : Style) (text : String) : String :=
  if p.colors then
    String.ofList (style.start ++ afterResets style.start text.toList ++ reset)
  else text

/-- The colour of a state. -/
def styleOf : JobState → Style
  | .new => .dimmed
  | .queued => .yellow
  | .active => .cyan
  | .completed => .green
  | .canceled => .dimmed
  | .failed => .red

/-- The name of a state in its colour. -/
def state (p : Palette) (s : JobState) : String := p.paint (styleOf s) s.name

end Palette

/-- A text filled with spaces to at least `width` characters. -/
def padTo (width : Nat) (text : String) : String :=
  text ++ String.ofList (List.replicate (width - text.length) ' ')

end RemoteBatch.CommandLine
