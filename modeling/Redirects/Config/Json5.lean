import Redirects.Config.Number
import Redirects.Json.Reader
import Redirects.Unicode.Property

/-!
# JSON5

Reads a JSON5 document as a setting: JSON with comments, names without quotes, either kind of quotes,
commas at the end, and more ways to write a number.
-/

namespace Redirects.Json5

open Unicode (Category CharSet)

/-- The character ends a line. -/
def endsLine (c : Char) : Bool := c == '\n' || c == '\r' || c == '\u2028' || c == '\u2029'

/-- Blanks. -/
def isBlank (c : Char) : Bool :=
  c == '\t' || c == '\x0b' || c == '\x0c' || c == '\ufeff' || endsLine c ||
    Category.spaceSeparator.set.has c

/-- The text behind a comment that ends with a star and a slash. -/
def afterComment? : List Char → Option (List Char)
  | [] => none
  | '*' :: '/' :: rest => some rest
  | _ :: rest => afterComment? rest

/-- The text without blanks and comments at its front. -/
def skip : Nat → List Char → List Char
  | 0, text => text
  | fuel + 1, text =>
    match text.dropWhile isBlank with
    | '/' :: '/' :: rest => skip fuel (rest.dropWhile (!endsLine ·))
    | '/' :: '*' :: rest =>
      match afterComment? rest with
      | some rest => skip fuel rest
      | none => '/' :: '*' :: rest
    | text => text

/-- The text without blanks and comments at its front. -/
def skipAll (text : List Char) : List Char := skip (text.length + 1) text

/-- Letters that may stand at the start of a name. -/
def isNameStart (c : Char) : Bool :=
  c == '$' || c == '_' ||
    [Category.uppercaseLetter, .lowercaseLetter, .titlecaseLetter, .modifierLetter, .otherLetter,
      .letterNumber].any (·.set.has c)

/-- Letters that may stand in a name behind its start. -/
def isNamePart (c : Char) : Bool :=
  isNameStart c || c == '\u200c' || c == '\u200d' ||
    [Category.nonspacingMark, .spacingMark, .decimalNumber, .connectorPunctuation].any
      (·.set.has c)

/-- The rest of a name, and what follows. Letters may be escaped. -/
def nameRest? : Nat → List Char → Option (List Char × List Char)
  | 0, _ => none
  | fuel + 1, text =>
    match text with
    | '\\' :: 'u' :: rest =>
      match Json.unitEscape? rest with
      | some (some c, rest) => (nameRest? fuel rest).map fun (name, rest) => (c :: name, rest)
      | _ => none
    | c :: rest =>
      if isNamePart c then (nameRest? fuel rest).map fun (name, rest) => (c :: name, rest)
      else some ([], c :: rest)
    | [] => some ([], [])

/-- The character that a letter behind a backslash stands for. -/
def shortEscape? (c : Char) : Option Char :=
  match c with
  | 'b' => some '\x08'
  | 'f' => some '\x0c'
  | 'n' => some '\n'
  | 'r' => some '\r'
  | 't' => some '\t'
  | 'v' => some '\x0b'
  | '0' => some '\x00'
  | _ => if c.isDigit || c == 'x' || c == 'u' || endsLine c then none else some c

/-- The rest of a string in the given quotes, and what follows. -/
def stringRest? (quote : Char) : Nat → List Char → Option (List Char × List Char)
  | 0, _ => none
  | fuel + 1, text =>
    match text with
    | [] => none
    | '\\' :: 'u' :: rest =>
      match Json.unitEscape? rest with
      | some (some c, rest) => (stringRest? quote fuel rest).map fun (text, rest) => (c :: text, rest)
      | _ => none
    | '\\' :: 'x' :: a :: b :: rest =>
      (Text.ofHex? [a, b]).bind fun code =>
        (stringRest? quote fuel rest).map fun (text, rest) => (Char.ofNat code :: text, rest)
    | '\\' :: '\r' :: '\n' :: rest => stringRest? quote fuel rest
    | '\\' :: c :: rest =>
      if endsLine c then stringRest? quote fuel rest
      else
        (shortEscape? c).bind fun c =>
          (stringRest? quote fuel rest).map fun (text, rest) => (c :: text, rest)
    | c :: rest =>
      if c == quote then some ([], rest)
      else if c == '\\' || endsLine c then none
      else (stringRest? quote fuel rest).map fun (text, rest) => (c :: text, rest)

/-- The key at the front, and what follows. -/
def key? (text : List Char) : Option (String × List Char) :=
  match text with
  | [] => none
  | c :: rest =>
    if c == '"' || c == '\'' then
      (stringRest? c (rest.length + 1) rest).map fun (key, rest) => (String.ofList key, rest)
    else if c == '\\' || isNameStart c then
      (nameRest? (text.length + 1) text).map fun (key, rest) => (String.ofList key, rest)
    else none

/-- The number that a word writes. An integer has 64 bits, one in hexadecimal digits 32 and no
sign. -/
def ofNumberWord? (word : List Char) : Option Setting :=
  let (negative, digits) := Setting.splitSign word
  match digits with
  | 'I' :: _ =>
    if digits == "Infinity".toList && word.head? != some '+' then
      some (.float (.infinite negative))
    else none
  | 'N' :: _ =>
    if digits == "NaN".toList && word.head? != some '+' then some (.float .notANumber) else none
  | _ =>
    match word with
    | '0' :: mark :: hex =>
      if mark == 'x' || mark == 'X' then
        if hex.isEmpty then none
        else (Text.ofHex? hex).bind fun value =>
          if value < UInt32.size then some (.integer value) else none
      else decimal? word
    | _ => decimal? word
where
  decimal? (word : List Char) : Option Setting :=
    let digits := (Setting.splitSign word).2
    let whole := digits.takeWhile Char.isDigit
    if whole.head? == some '0' && whole.length != 1 then none
    else if digits.all Char.isDigit then (Setting.integerOf? word).map .integer
    else
      match Setting.floatOf? word with
      | some (.finite negative value) => some (.float (.finite negative value))
      | _ => none

/-- A character of a number or of a word that is a value. -/
def isWordChar (c : Char) : Bool := c.isAlphanum || c == '+' || c == '-' || c == '.'

/-- The value that a word is. -/
def ofWord? (word : List Char) : Option Setting :=
  if word == "null".toList then some .nothing
  else if word == "true".toList then some (.bool true)
  else if word == "false".toList then some (.bool false)
  else ofNumberWord? word

mutual

/-- The value at the front, and what follows. -/
def value? : Nat → List Char → Option (Setting × List Char)
  | 0, _ => none
  | fuel + 1, text =>
    match text with
    | [] => none
    | '[' :: rest => (items? fuel rest).map fun (items, rest) => (.list items, rest)
    | '\x7b' :: rest => (entries? fuel [] rest).map fun (entries, rest) => (.table entries, rest)
    | c :: rest =>
      if c == '"' || c == '\'' then
        (stringRest? c (rest.length + 1) rest).map fun (text, rest) =>
          (.text (String.ofList text), rest)
      else
        let word := text.takeWhile isWordChar
        (ofWord? word).map fun setting => (setting, text.drop word.length)

/-- Items up to the end of their list. -/
def items? : Nat → List Char → Option (List Setting × List Char)
  | 0, _ => none
  | fuel + 1, text =>
    match skipAll text with
    | ']' :: rest => some ([], rest)
    | text => do
      let (item, rest) ← value? fuel text
      match skipAll rest with
      | ']' :: rest => return ([item], rest)
      | ',' :: rest =>
        let (items, rest) ← items? fuel rest
        return (item :: items, rest)
      | _ => none

/-- Entries up to the end of their table, the last under a key counting. -/
def entries? : Nat → List (String × Setting) → List Char →
    Option (List (String × Setting) × List Char)
  | 0, _, _ => none
  | fuel + 1, entries, text =>
    match skipAll text with
    | '\x7d' :: rest => some (entries, rest)
    | text => do
      let (key, rest) ← key? text
      match skipAll rest with
      | ':' :: rest =>
        let (value, rest) ← value? fuel (skipAll rest)
        let entries := Setting.put key value entries
        match skipAll rest with
        | '\x7d' :: rest => return (entries, rest)
        | ',' :: rest => entries? fuel entries rest
        | _ => none
      | _ => none

end

/-- The setting that a document gives. -/
def read? (text : String) : Option Setting :=
  let chars := text.toList
  match value? (2 * chars.length + 2) (skipAll chars) with
  | some (setting, rest) => if (skipAll rest).isEmpty then some setting else none
  | none => none

end Redirects.Json5
