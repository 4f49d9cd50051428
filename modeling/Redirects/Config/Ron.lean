import Redirects.Config.Number
import Redirects.Text.Hex
import Redirects.Unicode.Property

/-!
# RON

Reads a RON document as a setting. A structure with names is a table and one without is a list,
whatever it is called; a name alone and a pair of brackets with nothing between are nothing.
-/

namespace Redirects.Ron

/-- Blanks. -/
def isBlank (c : Char) : Bool :=
  [' ', '\n', '\t', '\r', '\x0b', '\x0c', '\u0085', '\u200e', '\u200f', '\u2028', '\u2029'].contains c

/-- The text behind the end of so many comments inside each other. -/
def afterComments? : Nat → List Char → Option (List Char)
  | 0, text => some text
  | _ + 1, [] => none
  | depth + 1, '*' :: '/' :: rest => afterComments? depth rest
  | depth + 1, '/' :: '*' :: rest => afterComments? (depth + 2) rest
  | depth + 1, _ :: rest => afterComments? (depth + 1) rest
termination_by _ text => text.length

/-- The text without blanks and comments at its front. -/
def skip : Nat → List Char → List Char
  | 0, text => text
  | fuel + 1, text =>
    match text.dropWhile isBlank with
    | '/' :: '/' :: rest => skip fuel (rest.dropWhile (· != '\n'))
    | '/' :: '*' :: rest =>
      match afterComments? 1 rest with
      | some rest => skip fuel rest
      | none => '/' :: '*' :: rest
    | text => text

/-- The text without blanks and comments at its front. -/
def skipAll (text : List Char) : List Char := skip (text.length + 1) text

/-- The name at the front, and what follows. -/
def name? (text : List Char) : Option (List Char × List Char) :=
  let isStart (c : Char) : Bool := c == '_' || Unicode.xidStart.has c
  let plain (text : List Char) : Option (List Char × List Char) :=
    match text with
    | [] => none
    | c :: rest =>
      if isStart c then
        let name := c :: rest.takeWhile Unicode.xidContinue.has
        some (name, text.drop name.length)
      else none
  match text with
  | 'r' :: '"' :: _ => none
  | 'r' :: '#' :: '"' :: _ => none
  | 'r' :: '#' :: '#' :: _ => none
  | 'r' :: '#' :: rest => plain rest
  | text => plain text

/-- The digits of a character in braces, and what follows the closing brace. -/
def braced? : List Char → Option (Char × List Char)
  | '\x7b' :: rest =>
    let digits := rest.takeWhile (· != '\x7d')
    if digits.isEmpty || 6 < digits.length then none
    else
      (Text.ofHex? digits).bind fun code =>
        match rest.drop digits.length with
        | _ :: rest => if code.isValidChar then some (Char.ofNat code, rest) else none
        | [] => none
  | _ => none

/-- The character that an escape stands for, behind its backslash, and what follows. -/
def escaped? : List Char → Option (Char × List Char)
  | 'n' :: rest => some ('\n', rest)
  | 't' :: rest => some ('\t', rest)
  | 'r' :: rest => some ('\r', rest)
  | '0' :: rest => some ('\x00', rest)
  | '\\' :: rest => some ('\\', rest)
  | '"' :: rest => some ('"', rest)
  | '\'' :: rest => some ('\'', rest)
  | 'x' :: a :: b :: rest => (Text.ofHex? [a, b]).map fun code => (Char.ofNat code, rest)
  | 'u' :: rest => braced? rest
  | _ => none

/-- The rest of a string, and what follows its closing mark. -/
def stringRest? : Nat → List Char → Option (List Char × List Char)
  | 0, _ => none
  | fuel + 1, text =>
    match text with
    | [] => none
    | '"' :: rest => some ([], rest)
    | '\\' :: rest => do
      let (c, rest) ← escaped? rest
      let (text, rest) ← stringRest? fuel rest
      return (c :: text, rest)
    | c :: rest => (stringRest? fuel rest).map fun (text, rest) => (c :: text, rest)

/-- The rest of a string without escapes, which ends with a mark and as many signs as stood before
it, and what follows. -/
def rawRest? (signs : Nat) : List Char → Option (List Char × List Char)
  | [] => none
  | c :: rest =>
    if c == '"' && rest.take signs == List.replicate signs '#' then some ([], rest.drop signs)
    else (rawRest? signs rest).map fun (text, rest) => (c :: text, rest)

/-- The character in single marks behind the first, and what follows. -/
def character? : List Char → Option (Char × List Char)
  | '\\' :: rest => do
    let (c, rest) ← escaped? rest
    match rest with
    | '\'' :: rest => return (c, rest)
    | _ => none
  | c :: '\'' :: rest => if c == '\'' then none else some (c, rest)
  | _ => none

/-- The endings that tell the size of an integer. -/
def integerEndings : List String :=
  ["i8", "i16", "i32", "i64", "i128", "u8", "u16", "u32", "u64", "u128"]

/-- The word without one of the endings. -/
def withoutEnding (endings : List String) (word : List Char) : List Char :=
  match endings.find? fun ending => ending.toList.isSuffixOf word with
  | some ending => word.take (word.length - ending.length)
  | none => word

/-- An integer of 64 bits, with a sign or without. -/
def sized? (negative : Bool) (value : Nat) : Option Setting :=
  if negative then (if value ≤ Nat.pow 2 63 then some (.integer (-(value : Int))) else none)
  else if value < UInt64.size then some (.integer value)
  else none

/-- The integer of digits in a base. -/
def inBase? (base : Nat) (digits : List Char) : Option Nat :=
  let kept := digits.filter (· != '_')
  if kept.isEmpty || digits.head? == some '_' then none
  else
    kept.foldlM (fun value c =>
      (Text.hexDigit? c).bind fun digit => if digit < base then some (base * value + digit) else none)
      0

/-- The number that a word writes. -/
def ofNumberWord? (word : List Char) : Option Setting :=
  let (negative, digits) := Setting.splitSign word
  let bare := withoutEnding integerEndings digits
  match bare with
  | '0' :: 'x' :: hex => (inBase? 16 hex).bind (sized? negative)
  | '0' :: 'o' :: octal => (inBase? 8 octal).bind (sized? negative)
  | '0' :: 'b' :: binary => (inBase? 2 binary).bind (sized? negative)
  | _ =>
    if digits == "inf".toList || digits == "inff32".toList || digits == "inff64".toList then
      some (.float (.infinite negative))
    else if digits == "NaN".toList || digits == "NaNf32".toList || digits == "NaNf64".toList then
      some (.float .notANumber)
    else
      match inBase? 10 bare with
      | some value => sized? negative value
      | none =>
        let float := (withoutEnding ["f32", "f64"] digits).filter (· != '_')
        if float.all fun c => c.isDigit || ['.', 'e', 'E', '+', '-'].contains c then
          (Setting.floatOf? ((if negative then ['-'] else []) ++ float)).map .float
        else none

/-- A character of a number. -/
def isNumberChar (c : Char) : Bool := c.isAlphanum || c == '_' || c == '+' || c == '-' || c == '.'

/-- The text behind the list of what is enabled, where it stands at the front. -/
def afterEnabling (text : List Char) : List Char :=
  match skipAll text with
  | '#' :: rest =>
    match skipAll rest with
    | '!' :: rest => skipAll ((rest.dropWhile (· != ']')).drop 1)
    | rest => '#' :: rest
  | text => text

/-- How many values may stand inside each other. -/
def maxDepth : Nat := 128

mutual

/-- The value at the front, and what follows. -/
def value? : Nat → Nat → List Char → Option (Setting × List Char)
  | 0, _, _ | _, 0, _ => none
  | fuel + 1, depth + 1, text =>
    match text with
    | [] => none
    | '[' :: rest => (items? ']' fuel depth rest).map fun (items, rest) => (.list items, rest)
    | '(' :: ')' :: rest => some (.nothing, rest)
    | '(' :: rest => structure? fuel depth rest
    | '\x7b' :: rest => (pairs? fuel depth [] rest).map fun (entries, rest) => (.table entries, rest)
    | '"' :: rest =>
      (stringRest? (rest.length + 1) rest).map fun (text, rest) => (.text (String.ofList text), rest)
    | '\'' :: rest => (character? rest).map fun (c, rest) => (.text (String.singleton c), rest)
    | c :: _ =>
      if c.isDigit || c == '+' || c == '-' || c == '.' then
        let word := text.takeWhile isNumberChar
        (ofNumberWord? word).map fun setting => (setting, text.drop word.length)
      else
        match name? text with
        | some (name, rest) => named? fuel depth name rest
        | none =>
          let signs := ((text.drop 1).takeWhile (· == '#')).length
          match text.drop (signs + 1) with
          | '"' :: rest =>
            if c == 'r' then
              (rawRest? signs rest).map fun (text, rest) => (.text (String.ofList text), rest)
            else none
          | _ => none

/-- The value that a name starts, behind the name. -/
def named? : Nat → Nat → List Char → List Char → Option (Setting × List Char)
  | 0, _, _, _ => none
  | fuel + 1, depth, name, rest =>
    if name == "true".toList then some (.bool true, rest)
    else if name == "false".toList then some (.bool false, rest)
    else if name == "None".toList then some (.nothing, rest)
    else if (ofNumberWord? name).isSome then (ofNumberWord? name).map (·, rest)
    else
      match skipAll rest with
      | '(' :: rest =>
        if name == "Some".toList then do
          let (value, rest) ← value? fuel depth (skipAll rest)
          let rest := skipAll rest
          let rest := if rest.head? == some ',' then skipAll (rest.drop 1) else rest
          match rest with
          | ')' :: rest => return (value, rest)
          | _ => none
        else structure? fuel depth rest
      | _ => if name == "Some".toList then none else some (.nothing, rest)

/-- A structure behind its opening bracket, and what follows. -/
def structure? : Nat → Nat → List Char → Option (Setting × List Char)
  | 0, _, _ => none
  | fuel + 1, depth, text =>
    match skipAll text with
    | ')' :: rest => some (.list [], rest)
    | text =>
      let hasNames := (name? text).any fun (_, rest) => (skipAll rest).head? == some ':'
      if hasNames then
        (fields? fuel depth [] text).map fun (entries, rest) => (.table entries, rest)
      else (items? ')' fuel depth text).map fun (items, rest) => (.list items, rest)

/-- Items up to a closing bracket. -/
def items? (close : Char) : Nat → Nat → List Char → Option (List Setting × List Char)
  | 0, _, _ => none
  | fuel + 1, depth, text =>
    let text := skipAll text
    if text.head? == some close then some ([], text.drop 1)
    else do
      let (item, rest) ← value? fuel depth text
      match skipAll rest with
      | [] => none
      | c :: rest =>
        if c == close then return ([item], rest)
        else if c == ',' then
          let (items, rest) ← items? close fuel depth rest
          return (item :: items, rest)
        else none

/-- Fields with names up to a closing bracket. -/
def fields? : Nat → Nat → List (String × Setting) → List Char →
    Option (List (String × Setting) × List Char)
  | 0, _, _, _ => none
  | fuel + 1, depth, entries, text =>
    match skipAll text with
    | ')' :: rest => some (entries, rest)
    | text => do
      let (name, rest) ← name? text
      match skipAll rest with
      | ':' :: rest =>
        let (value, rest) ← value? fuel depth (skipAll rest)
        let entries := Setting.put (String.ofList name) value entries
        match skipAll rest with
        | ')' :: rest => return (entries, rest)
        | ',' :: rest => fields? fuel depth entries rest
        | _ => none
      | _ => none

/-- Pairs up to a closing brace. Their keys are texts. -/
def pairs? : Nat → Nat → List (String × Setting) → List Char →
    Option (List (String × Setting) × List Char)
  | 0, _, _, _ => none
  | fuel + 1, depth, entries, text =>
    match skipAll text with
    | '\x7d' :: rest => some (entries, rest)
    | text => do
      let (key, rest) ← value? fuel depth text
      match key, skipAll rest with
      | .text key, ':' :: rest =>
        let (value, rest) ← value? fuel depth (skipAll rest)
        let entries := Setting.put key value entries
        match skipAll rest with
        | '\x7d' :: rest => return (entries, rest)
        | ',' :: rest => pairs? fuel depth entries rest
        | _ => none
      | _, _ => none

end

/-- The setting that a document gives. -/
def read? (text : String) : Option Setting :=
  let chars := afterEnabling text.toList
  match value? (3 * chars.length + 3) maxDepth chars with
  | some (setting, rest) => if (skipAll rest).isEmpty then some setting else none
  | none => none

end Redirects.Ron
