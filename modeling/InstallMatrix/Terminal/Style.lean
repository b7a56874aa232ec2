import InstallMatrix.Text.Basic

/-!
# `InstallMatrix.Terminal.Style`: emphasis in printed text

On a terminal that shows colours, a text is emphasised by an escape sequence
before it and one that resets everything after it. Where there is no colour the
text stays as it is.

Definitions: `Emphasis`, `painted`.
-/

set_option autoImplicit false

namespace InstallMatrix.Terminal

/-- Ways to make a text stand out. -/
inductive Emphasis
  | bold
  | dimmed
  | underlined
  | red
  | green
  | yellow
  | blue
  | cyan
  deriving DecidableEq

/-- The parameter of the escape sequence. -/
def Emphasis.code : Emphasis → String
  | .bold => "1"
  | .dimmed => "2"
  | .underlined => "4"
  | .red => "31"
  | .green => "32"
  | .yellow => "33"
  | .blue => "34"
  | .cyan => "36"

/-- The sequence that ends every emphasis. -/
def reset : String := "\x1b[0m"

/-- The sequence that begins an emphasis. -/
def beginning (marks : List Emphasis) : String :=
  "\x1b[" ++ Text.joined ";" (marks.map Emphasis.code) ++ "m"

/-- A text with `start` once more after every reset in it, so that the emphasis
of a part does not end the emphasis of the whole. -/
def restarted (start : List Char) : List Char → List Char
  | '\x1b' :: '[' :: '0' :: 'm' :: s => reset.toList ++ start ++ restarted start s
  | c :: s => c :: restarted start s
  | [] => []

/-- A text with emphasis, if colours are shown. -/
def painted (colour : Bool) (marks : List Emphasis) (s : String) : String :=
  if colour then
    let start := beginning marks
    start ++ String.ofList (restarted start.toList s.toList) ++ reset
  else s

end InstallMatrix.Terminal
