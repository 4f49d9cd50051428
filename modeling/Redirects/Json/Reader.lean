import Redirects.Json.Value
import Redirects.Text.Hex

/-!
# Reading JSON

Reads a whole text as one value, with blanks around it. The form of strings and numbers is checked;
how large a number is and how deep a value nests is not. An escaped surrogate without its partner
leaves the string without a text.
-/

namespace Redirects.Json

/-- The text without the blanks at its front. -/
def skipBlanks (text : List Char) : List Char :=
  text.dropWhile fun c => c == ' ' || c == '\n' || c == '\t' || c == '\r'

/-- The value of four hexadecimal digits at the front, and what follows. -/
def hexUnit? : List Char → Option (Nat × List Char)
  | a :: b :: c :: d :: rest => (Text.ofHex? [a, b, c, d]).map (·, rest)
  | _ => none

/-- The first unit of a surrogate pair. -/
def isHighSurrogate (unit : Nat) : Bool := 0xD800 ≤ unit && unit ≤ 0xDBFF

/-- The second unit of a surrogate pair. -/
def isLowSurrogate (unit : Nat) : Bool := 0xDC00 ≤ unit && unit ≤ 0xDFFF

/-- The character that a backslash and a letter write. -/
def shortEscape? : Char → Option Char
  | '"' => some '"'
  | '\\' => some '\\'
  | '/' => some '/'
  | 'b' => some '\x08'
  | 'f' => some '\x0c'
  | 'n' => some '\n'
  | 'r' => some '\r'
  | 't' => some '\t'
  | _ => none

/-- Puts a character before a text, if there is one. -/
def before (c : Option Char) (text : Option (List Char)) : Option (List Char) :=
  match c, text with
  | some c, some text => some (c :: text)
  | _, _ => none

/-- The unit escaped behind a backslash and a `u`: its character, missing for half of a pair, and
what follows. -/
def unitEscape? (text : List Char) : Option (Option Char × List Char) :=
  match hexUnit? text with
  | none => none
  | some (unit, rest) =>
    if isHighSurrogate unit then
      match rest with
      | '\\' :: 'u' :: more =>
        match hexUnit? more with
        | none => none
        | some (second, others) =>
          if isLowSurrogate second then
            some (some (Char.ofNat (0x10000 + (unit - 0xD800) * 1024 + (second - 0xDC00))), others)
          else some (none, rest)
      | _ => some (none, rest)
    else if isLowSurrogate unit then some (none, rest)
    else some (some (Char.ofNat unit), rest)

/-- The rest of a string and what follows it. -/
def readChars : Nat → List Char → Option (Option (List Char) × List Char)
  | 0, _ => none
  | fuel + 1, text =>
    match text with
    | [] => none
    | '"' :: rest => some (some [], rest)
    | '\\' :: 'u' :: rest =>
      match unitEscape? rest with
      | none => none
      | some (c, rest) => (readChars fuel rest).map fun (text, rest) => (before c text, rest)
    | '\\' :: letter :: rest =>
      match shortEscape? letter with
      | none => none
      | some c => (readChars fuel rest).map fun (text, rest) => (before (some c) text, rest)
    | c :: rest =>
      if c.toNat < 32 || c == '\\' then none
      else (readChars fuel rest).map fun (text, rest) => (before (some c) text, rest)

/-- A string behind its opening mark, and what follows. -/
def readString (text : List Char) : Option (Option String × List Char) :=
  (readChars (text.length + 1) text).map fun (text, rest) => (text.map String.ofList, rest)

/-- The digits at the front, and what follows. -/
def readDigits (text : List Char) : List Nat × List Char :=
  let digits := text.takeWhile Char.isDigit
  (digits.map fun c => c.toNat - '0'.toNat, text.drop digits.length)

/-- The exponent at the front, if there is one, and what follows. -/
def readExponent (text : List Char) : Option (Option (Bool × List Nat) × List Char) :=
  match text with
  | [] => some (none, [])
  | c :: rest =>
    if c == 'e' || c == 'E' then
      let sign := rest.head?
      let rest := if sign == some '+' || sign == some '-' then rest.drop 1 else rest
      let (digits, rest) := readDigits rest
      if digits.isEmpty then none else some (some (sign == some '-', digits), rest)
    else some (none, text)

/-- The number at the front, and what follows. -/
def readNumeral (text : List Char) : Option (Numeral × List Char) := do
  let negative := text.head? == some '-'
  let text := if negative then text.drop 1 else text
  let (whole, text) := readDigits text
  if whole.isEmpty || (whole.head? == some 0 && whole.length != 1) then none
  let (fraction, text) ← match text with
    | '.' :: rest =>
      let (fraction, rest) := readDigits rest
      if fraction.isEmpty then none else some (fraction, rest)
    | _ => some ([], text)
  let (exponent, text) ← readExponent text
  return ({ negative, whole, fraction, exponent }, text)

mutual

/-- The value at the front, and what follows. -/
def readValue : Nat → List Char → Option (Json × List Char)
  | 0, _ => none
  | fuel + 1, text =>
    match skipBlanks text with
    | 'n' :: 'u' :: 'l' :: 'l' :: rest => some (.null, rest)
    | 't' :: 'r' :: 'u' :: 'e' :: rest => some (.bool true, rest)
    | 'f' :: 'a' :: 'l' :: 's' :: 'e' :: rest => some (.bool false, rest)
    | '"' :: rest => (readString rest).map fun (text, rest) => (.string text, rest)
    | '[' :: rest =>
      match skipBlanks rest with
      | ']' :: rest => some (.array [], rest)
      | rest => (readItems fuel rest).map fun (items, rest) => (.array items, rest)
    | '\x7b' :: rest =>
      match skipBlanks rest with
      | '\x7d' :: rest => some (.object [], rest)
      | rest => (readEntries fuel rest).map fun (entries, rest) => (.object entries, rest)
    | text => (readNumeral text).map fun (numeral, rest) => (.number numeral, rest)

/-- Items up to the end of their array. -/
def readItems : Nat → List Char → Option (List Json × List Char)
  | 0, _ => none
  | fuel + 1, text =>
    match readValue fuel text with
    | none => none
    | some (item, rest) =>
      match skipBlanks rest with
      | ']' :: rest => some ([item], rest)
      | ',' :: rest => (readItems fuel rest).map fun (items, rest) => (item :: items, rest)
      | _ => none

/-- Entries up to the end of their object. -/
def readEntries : Nat → List Char → Option (List (Option String × Json) × List Char)
  | 0, _ => none
  | fuel + 1, text =>
    match skipBlanks text with
    | '"' :: rest =>
      match readString rest with
      | none => none
      | some (name, rest) =>
        match skipBlanks rest with
        | ':' :: rest =>
          match readValue fuel rest with
          | none => none
          | some (value, rest) =>
            match skipBlanks rest with
            | '\x7d' :: rest => some ([(name, value)], rest)
            | ',' :: rest =>
              (readEntries fuel rest).map fun (entries, rest) => ((name, value) :: entries, rest)
            | _ => none
        | _ => none
    | _ => none

end

/-- The value that a text writes, if it is one. -/
def read? (text : String) : Option Json :=
  let chars := text.toList
  match readValue (2 * chars.length + 2) chars with
  | some (value, rest) => if (skipBlanks rest).isEmpty then some value else none
  | none => none

end Redirects.Json
