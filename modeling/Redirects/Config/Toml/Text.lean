import Redirects.Text.Hex

/-!
# Strings, comments and keys

The pieces of a line: the blanks and the comment at its end, the strings in their four forms, and
keys.
-/

namespace Redirects.Toml

/-- The text without the blanks at its front. -/
def skipBlanks (text : List Char) : List Char := text.dropWhile fun c => c == ' ' || c == '\t'

/-- A character that a comment or a string may hold as it is. -/
def isPlainChar (c : Char) : Bool := c == '\t' || (32 ≤ c.toNat && c.toNat != 127)

/-- What follows the end of a line. The end of the text ends a line. -/
def lineBreak? : List Char → Option (List Char)
  | [] => some []
  | '\n' :: rest => some rest
  | '\r' :: '\n' :: rest => some rest
  | _ => none

/-- The end of a line, after blanks and a comment: what follows it. -/
def lineEnd? (text : List Char) : Option (List Char) :=
  match skipBlanks text with
  | '#' :: comment => lineBreak? (comment.dropWhile isPlainChar)
  | text => lineBreak? text

/-- The text without blanks, line ends and comments at its front. A comment with a character that it
may not hold stays. -/
def skipLines : Nat → List Char → List Char
  | 0, text => text
  | fuel + 1, text =>
    match skipBlanks text, lineEnd? text with
    | [], _ => []
    | _, some rest => skipLines fuel rest
    | text, none => text

/-- The text without blanks and line ends at its front. -/
def skipBlankLines : List Char → List Char
  | ' ' :: rest => skipBlankLines rest
  | '\t' :: rest => skipBlankLines rest
  | '\n' :: rest => skipBlankLines rest
  | '\r' :: '\n' :: rest => skipBlankLines rest
  | text => text

/-- A letter of a bare key. -/
def isBareKeyChar (c : Char) : Bool := c.isAlphanum || c == '_' || c == '-'

/-- The character of a number of hexadecimal digits, and what follows. -/
def codepoint? (count : Nat) (text : List Char) : Option (Char × List Char) :=
  let digits := text.take count
  if digits.length != count then none
  else
    (Text.ofHex? digits).bind fun value =>
      if value.isValidChar then some (Char.ofNat value, text.drop count) else none

/-- The character that an escape stands for, behind its backslash, and what follows. -/
def escaped? : List Char → Option (Char × List Char)
  | 'b' :: rest => some ('\x08', rest)
  | 't' :: rest => some ('\t', rest)
  | 'n' :: rest => some ('\n', rest)
  | 'f' :: rest => some ('\x0c', rest)
  | 'r' :: rest => some ('\r', rest)
  | 'e' :: rest => some ('\x1b', rest)
  | '"' :: rest => some ('"', rest)
  | '\\' :: rest => some ('\\', rest)
  | 'x' :: rest => codepoint? 2 rest
  | 'u' :: rest => codepoint? 4 rest
  | 'U' :: rest => codepoint? 8 rest
  | _ => none

/-- The rest of a string with escapes, and what follows its closing mark. -/
def basicString? : Nat → List Char → Option (List Char × List Char)
  | 0, _ => none
  | fuel + 1, text =>
    match text with
    | [] => none
    | '"' :: rest => some ([], rest)
    | '\\' :: rest => do
      let (c, rest) ← escaped? rest
      let (text, rest) ← basicString? fuel rest
      return (c :: text, rest)
    | c :: rest =>
      if isPlainChar c then (basicString? fuel rest).map fun (text, rest) => (c :: text, rest)
      else none

/-- The rest of a string over several lines, and what follows its three closing marks. Up to two
more marks before them belong to the text. -/
def longString? (mark : Char) : Nat → List Char → Option (List Char × List Char)
  | 0, _ => none
  | fuel + 1, text =>
    let marks := (text.takeWhile (· == mark)).length
    if 3 ≤ marks then
      if 5 < marks then none
      else some (List.replicate (marks - 3) mark, text.drop marks)
    else
      match text with
      | [] => none
      | '\\' :: rest =>
        if mark == '"' then
          match lineBreak? (skipBlanks rest) with
          | some behind => longString? mark fuel (skipBlankLines behind)
          | none => do
            let (c, rest) ← escaped? rest
            let (text, rest) ← longString? mark fuel rest
            return (c :: text, rest)
        else (longString? mark fuel rest).map fun (text, rest) => ('\\' :: text, rest)
      | '\r' :: '\n' :: rest =>
        (longString? mark fuel rest).map fun (text, rest) => ('\r' :: '\n' :: text, rest)
      | c :: rest =>
        if isPlainChar c || c == '\n' then
          (longString? mark fuel rest).map fun (text, rest) => (c :: text, rest)
        else none

/-- The text behind three opening marks, without a line end at its front. -/
def dropFirstLineEnd : List Char → List Char
  | '\n' :: rest => rest
  | '\r' :: '\n' :: rest => rest
  | text => text

/-- A string without escapes behind its opening mark, and what follows. -/
def literalString? (text : List Char) : Option (List Char × List Char) :=
  let inside := text.takeWhile (· != '\'')
  if inside.length = text.length || !inside.all isPlainChar then none
  else some (inside, text.drop (inside.length + 1))

/-- The string at the front, on one line, and what follows. -/
def shortString? (text : List Char) : Option (List Char × List Char) :=
  match text with
  | '"' :: rest => basicString? (rest.length + 1) rest
  | '\'' :: rest => literalString? rest
  | _ => none

/-- The string at the front, and what follows. -/
def string? (text : List Char) : Option (List Char × List Char) :=
  match text with
  | '"' :: '"' :: '"' :: rest => longString? '"' (rest.length + 1) (dropFirstLineEnd rest)
  | '\'' :: '\'' :: '\'' :: rest => longString? '\'' (rest.length + 1) (dropFirstLineEnd rest)
  | _ => shortString? text

/-- The key at the front, and what follows. -/
def simpleKey? (text : List Char) : Option (String × List Char) :=
  let bare := text.takeWhile isBareKeyChar
  if bare.isEmpty then (shortString? text).map fun (key, rest) => (String.ofList key, rest)
  else some (String.ofList bare, text.drop bare.length)

/-- How many arrays and tables may stand inside each other, and how many keys between dots. -/
def maxNesting : Nat := 80

/-- The keys between dots at the front, at most so many, and what follows. -/
def keysWithin? : Nat → List Char → Option (List String × List Char)
  | 0, _ => none
  | count + 1, text => do
    let (key, rest) ← simpleKey? (skipBlanks text)
    match skipBlanks rest with
    | '.' :: rest =>
      let (keys, rest) ← keysWithin? count rest
      return (key :: keys, rest)
    | rest => return ([key], rest)

/-- The keys between dots at the front, and what follows. -/
def keys? (text : List Char) : Option (List String × List Char) := keysWithin? maxNesting text

end Redirects.Toml
