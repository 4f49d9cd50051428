import Redirects.Config.Number
import Redirects.Config.Toml.DateTime
import Redirects.Config.Toml.Document
import Redirects.Config.Toml.Text

/-!
# TOML

Reads a TOML document as settings.
-/

namespace Redirects.Toml

/-- The shape of a date: digits stand for digits. -/
def shapeOf (text : List Char) : String :=
  String.ofList (text.map fun c => if c.isDigit then 'd' else c)

/-- The word at the front that is no string and no bracket: a date and a time may have one blank
between them. -/
def word (text : List Char) : List Char :=
  let isWordChar (c : Char) : Bool :=
    c.isAlphanum || c == '_' || c == '-' || c == '+' || c == '.' || c == ':'
  let first := text.takeWhile isWordChar
  match text.drop first.length with
  | ' ' :: c :: rest =>
    if shapeOf first == "dddd-dd-dd" && c.isDigit then
      first ++ ' ' :: (c :: rest).takeWhile isWordChar
    else first
  | _ => first

/-- The value that a word is. -/
def ofWord? (word : List Char) : Option Setting :=
  if word == "true".toList then some (.bool true)
  else if word == "false".toList then some (.bool false)
  else
    match DateTime.read? word with
    | some value => some (.text value.text)
    | none => Setting.ofNumberWord? word

mutual

/-- The value at the front, which holds at most so many brackets inside each other, and what
follows. -/
def value? : Nat → Nat → List Char → Option (Value × List Char)
  | 0, _, _ => none
  | fuel + 1, depth, text =>
    match text, depth with
    | '[' :: _, 0 => none
    | '[' :: rest, depth + 1 =>
      (items? fuel depth rest).map fun (items, rest) => (.array items, rest)
    | '\x7b' :: _, 0 => none
    | '\x7b' :: rest, depth + 1 =>
      (pairs? fuel depth [] rest).map fun (entries, rest) => (.table .braces entries, rest)
    | text, _ =>
      if text.head? == some '"' || text.head? == some '\'' then
        (string? text).map fun (inside, rest) => (.scalar (.text (String.ofList inside)), rest)
      else
        let word := word text
        (ofWord? word).map fun setting => (.scalar setting, text.drop word.length)

/-- Items up to the end of their array. -/
def items? : Nat → Nat → List Char → Option (List Value × List Char)
  | 0, _, _ => none
  | fuel + 1, depth, text =>
    match skipLines (text.length + 1) text with
    | ']' :: rest => some ([], rest)
    | text => do
      let (item, rest) ← value? fuel depth text
      match skipLines (rest.length + 1) rest with
      | ']' :: rest => return ([item], rest)
      | ',' :: rest =>
        let (items, rest) ← items? fuel depth rest
        return (item :: items, rest)
      | _ => none

/-- Pairs up to the end of their braces. Line ends may stand around keys and values. -/
def pairs? : Nat → Nat → Entries → List Char → Option (Entries × List Char)
  | 0, _, _, _ => none
  | fuel + 1, depth, entries, text =>
    match skipLines (text.length + 1) text with
    | '\x7d' :: rest => some (entries, rest)
    | text => do
      let (keys, rest) ← keys? text
      match skipLines (rest.length + 1) rest with
      | '=' :: rest =>
        let (value, rest) ← value? fuel depth (skipLines (rest.length + 1) rest)
        let entries ← define keys value entries
        match skipLines (rest.length + 1) rest with
        | '\x7d' :: rest => return (entries, rest)
        | ',' :: rest => pairs? fuel depth entries rest
        | _ => none
      | _ => none

end

/-- The keys of a header behind its brackets, and what follows its line. -/
def header? (double : Bool) (text : List Char) : Option (List String × List Char) := do
  let (keys, rest) ← keys? text
  match double, rest with
  | false, ']' :: rest => (lineEnd? rest).map (keys, ·)
  | true, ']' :: ']' :: rest => (lineEnd? rest).map (keys, ·)
  | _, _ => none

/-- Reads lines, the keys of the table they belong to given. -/
def lines? : Nat → List String → Entries → List Char → Option Entries
  | 0, _, _, _ => none
  | fuel + 1, current, entries, text =>
    match skipLines (text.length + 1) text with
    | [] => some entries
    | '[' :: '[' :: rest => do
      let (keys, rest) ← header? true rest
      let entries ← openTable true keys entries
      lines? fuel keys entries rest
    | '[' :: rest => do
      let (keys, rest) ← header? false rest
      let entries ← openTable false keys entries
      lines? fuel keys entries rest
    | text => do
      let (keys, rest) ← keys? text
      match rest with
      | '=' :: rest =>
        let rest := skipBlanks rest
        let (value, rest) ← value? (2 * rest.length + 2) maxNesting rest
        let rest ← lineEnd? rest
        let entries ← within (define keys value) current entries
        lines? fuel current entries rest
      | _ => none

/-- The settings that a document gives. A byte order mark at its start says nothing. -/
def read? (text : String) : Option (List (String × Setting)) :=
  let chars := text.toList
  let chars := if chars.head? == some '\ufeff' then chars.drop 1 else chars
  (lines? (chars.length + 2) [] [] chars).map settingsOfEntries

end Redirects.Toml
