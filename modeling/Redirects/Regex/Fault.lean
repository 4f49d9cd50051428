/-!
# Faults of patterns

What can be wrong with a pattern: a fault of its writing, found at a byte position, or a fault of
its meaning, found when the pattern is prepared for matching.
-/

namespace Redirects.Regex

/-- A fault of a pattern's writing. -/
inductive Reason where
  /-- A group is not closed. -/
  | unclosedGroup
  /-- A closing parenthesis stands where no group is open. -/
  | leftover
  /-- Something other than a closing parenthesis stands where a group must close. -/
  | expectedClose
  /-- A conditional has neither a reference nor a branch. -/
  | expectedBranch
  /-- A bracket is not closed, or holds what no bracket can. -/
  | badBracket
  /-- A quantifier stands behind nothing that can be repeated. -/
  | badRepeat
  /-- The pattern ends in a backslash. -/
  | loneBackslash
  /-- The escape, backslash included, has no meaning. -/
  | badEscape (escape : String)
  /-- The digits of a hexadecimal escape are missing. -/
  | badHex
  /-- A hexadecimal escape names no character. -/
  | badCodepoint
  /-- The flags up to the first that is unknown. -/
  | unknownFlag (flags : String)
  /-- Unicode matching cannot be switched off. -/
  | alwaysUnicode
  /-- A group name is empty or not closed. -/
  | badGroupName
  /-- A reference names no group. -/
  | unknownGroup (name : String)
  /-- The number of a reference is out of all proportion. -/
  | badReference
  /-- The name of a character property is not closed. -/
  | unclosedProperty
  /-- Groups are nested too deeply. -/
  | tooDeep
deriving DecidableEq, Repr

/-- What the user is told. -/
def Reason.message : Reason → String
  | .unclosedGroup => "Opening parenthesis without closing parenthesis"
  | .leftover => "General parsing error: end of string not reached"
  | .expectedClose => "General parsing error: expected close paren"
  | .expectedBranch =>
    "General parsing error: expected conditional to be a backreference or at least an " ++
      "expression for when the condition is true"
  | .badBracket => "Invalid character class"
  | .badRepeat => "Target of repeat operator is invalid"
  | .loneBackslash => "Backslash without following character"
  | .badEscape escape => "Invalid escape: " ++ escape
  | .badHex => "Invalid hex escape"
  | .badCodepoint => "Invalid codepoint for hex or unicode escape"
  | .unknownFlag flags => "Unknown group flag: " ++ flags
  | .alwaysUnicode => "Disabling Unicode not supported"
  | .badGroupName => "Could not parse group name"
  | .unknownGroup name => "Invalid group name in back reference: " ++ name
  | .badReference => "Invalid back reference"
  | .unclosedProperty => "Unicode escape not closed"
  | .tooDeep => "Pattern too deeply nested"

/-- A fault of a pattern. -/
inductive Fault where
  /-- The writing is wrong at a byte position. -/
  | writing (position : Nat) (reason : Reason)
  /-- A reference points past the last group. -/
  | badReference
  /-- What is looked for backwards has no constant size. -/
  | lookbehindSize
  /-- A bracket, a property or a repetition count cannot be meant. -/
  | badPiece
  /-- A classical part is too large. -/
  | tooLarge
  /-- Groups are referred to by number in a pattern that names groups. -/
  | numberedAmongNamed
deriving DecidableEq, Repr

/-- What the user is told. -/
def Fault.message : Fault → String
  | .writing position reason => s!"Parsing error at position {position}: " ++ reason.message
  | .badReference => "Error compiling regex: Invalid back reference"
  | .lookbehindSize => "Error compiling regex: Look-behind assertion without constant size"
  | .badPiece => "Error compiling regex: Regex error: error parsing pattern 0"
  | .tooLarge => "Error compiling regex: Regex error: error building NFA"
  | .numberedAmongNamed =>
    "Error compiling regex: Numbered backref/call not allowed because named group was used, " ++
      "use a named backref instead"

end Redirects.Regex
