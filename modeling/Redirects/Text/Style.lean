/-!
# Terminal styling

A colour or an attribute is an escape sequence before the text, and one reset
stands behind it.
-/

namespace Redirects.Text

/-- A colour or an attribute of terminal text. -/
inductive Ink where
  | red
  | green
  | yellow
  | magenta
  | cyan
  | bold
  | dim
deriving DecidableEq, Repr

/-- The number of the ink in its escape sequence. -/
def Ink.code : Ink → Nat
  | .bold => 1
  | .dim => 2
  | .red => 31
  | .green => 32
  | .yellow => 33
  | .magenta => 35
  | .cyan => 36

/-- Whether styling is written at all. -/
inductive Palette where
  | plain
  | ansi
deriving DecidableEq, Repr

/-- The text in the given inks, in their order. -/
def Palette.paint (palette : Palette) (inks : List Ink) (text : String) : String :=
  match palette with
  | .plain => text
  | .ansi =>
    let escape := "\x1b["
    String.join (inks.map fun ink => s!"{escape}{ink.code}m") ++ text ++ escape ++ "0m"

end Redirects.Text
