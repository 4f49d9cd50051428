import Redirects.Json.Value
import Redirects.Text.Hex

/-!
# Writing JSON

Each entry and each item has a line of its own, two blanks further in than what holds it; empty
objects and arrays stay on their line. In strings the quotation mark, the backslash and the control
characters are escaped, and nothing else is.
-/

namespace Redirects.Json

/-- A character inside a string. -/
def escapeChar (c : Char) : List Char :=
  if c = '"' then ['\\', '"']
  else if c = '\\' then ['\\', '\\']
  else if c = '\n' then ['\\', 'n']
  else if c = '\r' then ['\\', 'r']
  else if c = '\t' then ['\\', 't']
  else if c = '\x08' then ['\\', 'b']
  else if c = '\x0c' then ['\\', 'f']
  else if c.toNat < 32 then
    ['\\', 'u', '0', '0', Text.hexDigit (c.toNat / 16), Text.hexDigit (c.toNat % 16)]
  else [c]

/-- A string with its quotation marks. -/
def quote (text : String) : List Char := '"' :: text.toList.flatMap escapeChar ++ ['"']

/-- A digit below ten. -/
def digitChar (digit : Nat) : Char := Char.ofNat ('0'.toNat + digit)

/-- A number. -/
def printNumeral (numeral : Numeral) : List Char :=
  let sign := if numeral.negative then ['-'] else []
  let fraction :=
    if numeral.fraction.isEmpty then [] else '.' :: numeral.fraction.map digitChar
  let exponent :=
    match numeral.exponent with
    | none => []
    | some (negative, digits) =>
      'e' :: (if negative then ['-'] else []) ++ digits.map digitChar
  sign ++ numeral.whole.map digitChar ++ fraction ++ exponent

/-- The start of a line at a depth. -/
def newline (depth : Nat) : List Char := '\n' :: List.replicate (2 * depth) ' '

mutual

/-- A value at a depth. -/
def printAt (depth : Nat) : Json → List Char
  | .null => "null".toList
  | .bool value => if value then "true".toList else "false".toList
  | .number numeral => printNumeral numeral
  | .string text => quote (text.getD "")
  | .array [] => ['[', ']']
  | .array (item :: items) =>
    '[' :: newline (depth + 1) ++ printAt (depth + 1) item ++ printItems (depth + 1) items ++
      newline depth ++ [']']
  | .object [] => ['\x7b', '\x7d']
  | .object ((name, value) :: entries) =>
    '\x7b' :: newline (depth + 1) ++ quote (name.getD "") ++ [':', ' '] ++
      printAt (depth + 1) value ++ printEntries (depth + 1) entries ++ newline depth ++ ['\x7d']

/-- The items behind the first. -/
def printItems (depth : Nat) : List Json → List Char
  | [] => []
  | item :: items => ',' :: newline depth ++ printAt depth item ++ printItems depth items

/-- The entries behind the first. -/
def printEntries (depth : Nat) : List (Option String × Json) → List Char
  | [] => []
  | (name, value) :: entries =>
    ',' :: newline depth ++ quote (name.getD "") ++ [':', ' '] ++ printAt depth value ++
      printEntries depth entries

end

/-- The text of a value. -/
def print (value : Json) : String := String.ofList (value.printAt 0)

end Redirects.Json
