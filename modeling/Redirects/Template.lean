/-!
# Templates

A destination can hold places for the groups of the pattern: a backslash and one decimal digit. A
backslash before anything else is a backslash.
-/

namespace Redirects.Template

/-- The value of a decimal digit. -/
def digit? (c : Char) : Option Nat := if c.isDigit then some (c.toNat - '0'.toNat) else none

/-- The text has a place for a group. -/
def hasPlace : List Char → Bool
  | [] => false
  | c :: rest => (c == '\\' && (rest.head?.bind digit?).isSome) || hasPlace rest

/-- The text with each place filled by the text of its group. -/
def fill (group : Nat → List Char) : List Char → List Char
  | [] => []
  | ['\\'] => ['\\']
  | c :: d :: rest =>
    match c, digit? d with
    | '\\', some number => group number ++ fill group rest
    | _, _ => c :: fill group (d :: rest)
  | [c] => [c]

end Redirects.Template
