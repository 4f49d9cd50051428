import Redirects.Regex.Escape
import Redirects.Regex.Search

/-!
# Filter patterns

The shapes of pattern that rules are turned into, and the text of each as a pattern.
-/

namespace Redirects

/-- A pattern before it is written. -/
inductive Pattern where
  /-- A text that stands for itself. -/
  | literal (text : String)
  /-- A pattern in the user's words. -/
  | raw (text : String)
  /-- All that follows a stem and a slash, as the first group. -/
  | captureTail (stem : String)
  /-- The pattern where the text at its start does not begin with the excluded one. -/
  | excludeLeading (excluded : String) (pattern : Pattern)
  /-- The pattern where it is not followed by the excluded text. -/
  | excludeTrailing (excluded : String) (pattern : Pattern)
deriving DecidableEq, Repr

namespace Pattern

/-- The text of a pattern. -/
def render : Pattern → String
  | .literal text => Regex.escape text
  | .raw text => text
  | .captureTail stem => stem ++ "/(.*)"
  | .excludeLeading excluded pattern => "(?!" ++ Regex.escape excluded ++ ")" ++ pattern.render
  | .excludeTrailing excluded pattern => pattern.render ++ "(?!" ++ Regex.escape excluded ++ ")"

/-- The pattern occurs in the text; one with a fault occurs nowhere. -/
def occursIn (pattern : Pattern) (text : String) : Bool := Regex.matchesIn pattern.render text

end Pattern

end Redirects
