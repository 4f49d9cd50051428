/-!
# Escaping

The pattern that matches a given text and nothing else.
-/

namespace Redirects.Regex

/-- Characters with a meaning of their own outside brackets. -/
def isSpecial (c : Char) : Bool :=
  ['.', '*', '+', '?', '^', '$', '\x7b', '\x7d', '(', ')', '|', '[', ']', '\\'].contains c

/-- A character as it is written in a pattern. -/
def escapeChar (c : Char) : List Char := if isSpecial c then ['\\', c] else [c]

/-- Writes a backslash before each special character. -/
def escape (text : String) : String := String.ofList (text.toList.flatMap escapeChar)

end Redirects.Regex
