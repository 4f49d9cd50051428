import Redirects.Config.Setting
import Redirects.Text.Hex

/-!
# INI files

Reads the lines of an INI file as settings, all of which are texts. Keys before the first section
stand for themselves; a section is a table, and one that comes again takes the place of the earlier
one.
-/

namespace Redirects.Ini

/-- The character that an escape stands for, behind its backslash, and what follows. -/
def escaped? : List Char → Option (Char × List Char)
  | [] => none
  | '0' :: rest => some ('\x00', rest)
  | 'a' :: rest => some ('\x07', rest)
  | 'b' :: rest => some ('\x08', rest)
  | 't' :: rest => some ('\t', rest)
  | 'r' :: rest => some ('\r', rest)
  | 'n' :: rest => some ('\n', rest)
  | 'x' :: a :: b :: c :: d :: rest =>
    (Text.ofHex? [a, b, c, d]).bind fun code =>
      if code.isValidChar then some (Char.ofNat code, rest) else none
  | 'x' :: _ => none
  | c :: rest => some (c, rest)

/-- The text up to a character that ends it, and what follows from there on. A backslash at the end of
a line takes the line end away. -/
def upTo? (ends : Char → Bool) (endsWithText : Bool) : Nat → List Char →
    Option (List Char × List Char)
  | 0, _ => none
  | fuel + 1, text =>
    match text with
    | [] => if endsWithText then some ([], []) else none
    | '\\' :: '\n' :: rest => upTo? ends endsWithText fuel rest
    | '\\' :: rest => do
      let (c, rest) ← escaped? rest
      let (text, rest) ← upTo? ends endsWithText fuel rest
      return (c :: text, rest)
    | c :: rest =>
      if ends c then some ([], c :: rest)
      else (upTo? ends endsWithText fuel rest).map fun (text, rest) => (c :: text, rest)

/-- The text without the blanks at its front and at its end. -/
def trim (text : List Char) : List Char :=
  ((text.dropWhile Unicode.isSpace).reverse.dropWhile Unicode.isSpace).reverse

/-- The value behind its mark, and what follows. Parts in quotes keep their blanks and may run over
several lines; any other ends with its line. -/
def value? : Nat → Bool → List Char → Option (List Char × List Char)
  | 0, _, _ => none
  | fuel + 1, first, text =>
    match text with
    | [] => some ([], [])
    | c :: rest =>
      if c == '"' || c == '\'' then do
        let (quoted, rest) ← upTo? (· == c) false (rest.length + 1) rest
        let (value, rest) ← value? fuel false (rest.drop 1)
        return (quoted ++ value, rest)
      else do
        let (line, rest) ← upTo? (fun c => c == '\n' || c == '\r') true (text.length + 1) text
        let kept := (line.reverse.dropWhile Unicode.isSpace).reverse
        return (if first then kept.dropWhile Unicode.isSpace else kept, rest)

/-- The settings with one more text under a key, at the top or in the section. -/
def define (section_ : Option String) (key value : String) (settings : List (String × Setting)) :
    List (String × Setting) :=
  match section_ with
  | none => Setting.put key (.text value) settings
  | some name =>
    let entries := ((Setting.get? name settings).getD .nothing).entries
    Setting.put name (.table (Setting.put key (.text value) entries)) settings

/-- What follows blanks, and whether it starts a line. It is told whether the text does. -/
def skipBlanks (startsLine : Bool) (text : List Char) : Bool × List Char :=
  let blanks := text.takeWhile Unicode.isSpace
  (if blanks.isEmpty then startsLine else blanks.getLast? == some '\n', text.drop blanks.length)

/-- Reads on in a section, with the key of a value that is to come. A comment takes a whole line. -/
def readOn? : Nat → (startsLine : Bool) → Option String → Option String → List (String × Setting) →
    List Char → Option (List (String × Setting))
  | 0, _, _, _, _, _ => none
  | fuel + 1, startsLine, section_, key, settings, text =>
    match skipBlanks startsLine text with
    | (_, []) => some settings
    | (_, '[' :: rest) => do
      let (name, rest) ← upTo? (· == ']') false (rest.length + 1) rest
      let name := String.ofList (trim name)
      readOn? fuel false (some name) key (Setting.put name (.table []) settings) (rest.drop 1)
    | (startsLine, c :: rest) =>
      if c == ';' || c == '#' then
        if startsLine then
          readOn? fuel true section_ key settings ((rest.dropWhile (· != '\n')).drop 1)
        else none
      else if c == '=' || c == ':' then do
        let key ← key
        let rest := rest.dropWhile fun c => c != '\n' && c != '\r' && Unicode.isSpace c
        let (value, rest) ← value? (rest.length + 1) true rest
        let settings := define section_ key (String.ofList value) settings
        readOn? fuel false section_ none settings rest
      else do
        let (name, rest) ←
          upTo? (fun c => c == '=' || c == ':') false (rest.length + 2) (c :: rest)
        let name := trim name
        let key := if name.isEmpty then none else some (String.ofList name)
        readOn? fuel false section_ key settings rest

/-- The settings that a file gives. -/
def read? (text : String) : Option (List (String × Setting)) :=
  let chars := text.toList
  readOn? (chars.length + 1) true none none [] chars

end Redirects.Ini
