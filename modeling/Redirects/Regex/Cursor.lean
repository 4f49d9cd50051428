import Redirects.Regex.Fault
import Redirects.Text.Utf8

/-!
# The place of reading in a pattern

A reader takes characters from the front of what is left of the pattern and keeps the byte position,
the flags in force, and the groups met so far.
-/

namespace Redirects.Regex

/-- The flags that a pattern can switch. -/
structure Flags where
  /-- `i`: letter case is ignored. -/
  fold : Bool := false
  /-- `m`: line ends count as ends. -/
  multiline : Bool := false
  /-- `s`: the dot takes line feeds too. -/
  dotAll : Bool := false
  /-- `U`: quantifiers are lazy, and a question mark makes them greedy. -/
  swapped : Bool := false
  /-- `x`: blanks and comments between the parts are skipped. -/
  spaced : Bool := false
deriving DecidableEq, Repr

/-- The place of reading. -/
structure Cursor where
  /-- What is left of the pattern. -/
  rest : List Char
  /-- The byte position of what is left. -/
  position : Nat := 0
  flags : Flags := {}
  /-- The number of capturing groups opened so far. -/
  groups : Nat := 0
  /-- Group names, the latest first. -/
  names : List (String × Nat) := []
  /-- A group was referred to by number. -/
  numbered : Bool := false
  /-- The groups referred to by an escape. -/
  referred : List Nat := []
deriving DecidableEq, Repr

/-- Reads a part of a pattern. -/
abbrev Reader := StateT Cursor (Except Fault)

namespace Reader

/-- Fails at a position. -/
def failAt {α : Type} (position : Nat) (reason : Reason) : Reader α :=
  fun _ => .error (.writing position reason)

/-- Fails where reading stands. -/
def fail {α : Type} (reason : Reason) : Reader α :=
  fun cursor => .error (.writing cursor.position reason)

/-- What is left of the pattern. -/
def left : Reader (List Char) := fun cursor => .ok (cursor.rest, cursor)

/-- The byte position. -/
def position : Reader Nat := fun cursor => .ok (cursor.position, cursor)

/-- The flags in force. -/
def flags : Reader Flags := fun cursor => .ok (cursor.flags, cursor)

/-- Passes over some characters. -/
def skip (count : Nat) : Reader Unit := fun cursor =>
  .ok ((), { cursor with
    rest := cursor.rest.drop count
    position := cursor.position + Text.byteLength (cursor.rest.take count) })

/-- Goes to a later place. -/
def moveTo (rest : List Char) (position : Nat) : Reader Unit := fun cursor =>
  .ok ((), { cursor with rest, position })

/-- Passes over a character if it is next. -/
def accept (c : Char) : Reader Bool := do
  match ← left with
  | d :: _ => if c == d then skip 1; return true else return false
  | [] => return false

/-- Opens a capturing group and gives its number. -/
def openGroup : Reader Nat := fun cursor =>
  .ok (cursor.groups + 1, { cursor with groups := cursor.groups + 1 })

/-- Past a comment: what follows and its position, or the position where its end is missed. A
backslash takes the character behind it along. -/
def pastComment : List Char → Nat → Except Nat (List Char × Nat)
  | [], position => .error position
  | ')' :: rest, position => .ok (rest, position + 1)
  | ['\\'], position => .error (position + 2)
  | '\\' :: c :: rest, position => pastComment rest (position + 1 + c.utf8Size)
  | c :: rest, position => pastComment rest (position + c.utf8Size)

/-- Past a comment that runs to the end of its line. -/
def pastLine : List Char → Nat → List Char × Nat
  | [], position => ([], position)
  | c :: rest, position =>
    if c == '\n' then (rest, position + 1) else pastLine rest (position + c.utf8Size)

/-- Past comments and, where they are skipped, blanks. -/
def pastBlanks (spaced : Bool) : Nat → List Char → Nat → Except Nat (List Char × Nat)
  | 0, text, position => .ok (text, position)
  | fuel + 1, text, position =>
    match text with
    | '(' :: '?' :: '#' :: rest => do
      let (rest, position) ← pastComment rest (position + 3)
      pastBlanks spaced fuel rest position
    | '#' :: rest =>
      if spaced then
        let (rest, position) := pastLine rest (position + 1)
        pastBlanks spaced fuel rest position
      else .ok (text, position)
    | c :: rest =>
      if spaced && (c == ' ' || c == '\r' || c == '\n' || c == '\t') then
        pastBlanks spaced fuel rest (position + 1)
      else .ok (text, position)
    | [] => .ok (text, position)

/-- A comment or a blank that is skipped stands at the front. -/
def startsBlank (spaced : Bool) : List Char → Bool
  | '(' :: '?' :: '#' :: _ => true
  | c :: _ => spaced && (c == '#' || c == ' ' || c == '\r' || c == '\n' || c == '\t')
  | [] => false

/-- Passes over comments and, where they are skipped, blanks. -/
def blanks : Reader Unit := fun cursor =>
  if startsBlank cursor.flags.spaced cursor.rest then
    match pastBlanks cursor.flags.spaced (cursor.rest.length + 1) cursor.rest cursor.position with
    | .ok (rest, position) => .ok ((), { cursor with rest, position })
    | .error position => .error (.writing position .unclosedGroup)
  else .ok ((), cursor)

/-- Passes over the parenthesis that closes a group. -/
def closeGroup : Reader Unit := do
  blanks
  match ← left with
  | [] => fail .unclosedGroup
  | c :: _ => if c == ')' then skip 1 else fail .expectedClose

end Reader

end Redirects.Regex
