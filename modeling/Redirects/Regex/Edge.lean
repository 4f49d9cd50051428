import Redirects.Unicode.Property

/-!
# Places between characters

The conditions that a pattern can put on a place in a text without taking any of it.
-/

namespace Redirects.Regex

/-- A place between characters that a pattern can ask for. -/
inductive Edge where
  | textStart
  | textEnd
  | lineStart
  | lineEnd
  | wordEdge
  | noWordEdge
  | wordStart
  | wordEnd
deriving DecidableEq, Repr

/-- The character behind a place is a word character. -/
def wordAt (text : Array Char) (position : Nat) : Bool :=
  match text[position]? with
  | some c => Unicode.isWord c
  | none => false

/-- The character before a place is a word character. -/
def wordBefore (text : Array Char) (position : Nat) : Bool :=
  position != 0 && wordAt text (position - 1)

namespace Edge

/-- The place has the kind that is asked for. -/
def holds (text : Array Char) (position : Nat) : Edge → Bool
  | .textStart => position == 0
  | .textEnd => position == text.size
  | .lineStart => position == 0 || text[position - 1]? == some '\n'
  | .lineEnd => position == text.size || text[position]? == some '\n'
  | .wordEdge => wordBefore text position != wordAt text position
  | .noWordEdge => wordBefore text position == wordAt text position
  | .wordStart => !wordBefore text position && wordAt text position
  | .wordEnd => wordBefore text position && !wordAt text position

/-- The place asks about words. -/
def isWordy : Edge → Bool
  | .wordEdge | .noWordEdge | .wordStart | .wordEnd => true
  | .textStart | .textEnd | .lineStart | .lineEnd => false

end Edge

end Redirects.Regex
