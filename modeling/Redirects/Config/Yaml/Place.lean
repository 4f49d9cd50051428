/-!
# Places in a document

What is left of the text, and where in the document it goes on. Outside of brackets the column of a
place tells what belongs together.
-/

namespace Redirects.Yaml

/-- A space or a tab. -/
def isBlank (c : Char) : Bool := c == ' ' || c == '\t'

/-- The end of a line. -/
def isBreak (c : Char) : Bool := c == '\n' || c == '\r'

/-- A character that has a meaning between brackets. -/
def isFlowMark (c : Char) : Bool := [',', '[', ']', '\x7b', '\x7d'].contains c

/-- There is the end of a line or of the text. -/
def endsLine : List Char → Bool
  | [] => true
  | c :: _ => isBreak c

/-- There is a blank, the end of a line or the end of the text. -/
def endsWord : List Char → Bool
  | [] => true
  | c :: _ => isBlank c || isBreak c

/-- Three hyphens that stand as a word start a document. -/
def startsDocument : List Char → Bool
  | '-' :: '-' :: '-' :: rest => endsWord rest
  | _ => false

/-- Three dots that stand as a word end a document. -/
def endsDocument : List Char → Bool
  | '.' :: '.' :: '.' :: rest => endsWord rest
  | _ => false

/-- A place in a document. -/
structure Place where
  /-- What is left of the text. -/
  rest : List Char
  index : Nat := 0
  line : Nat := 0
  column : Nat := 0
  /-- Only blanks stand before the place on its line. -/
  leading : Bool := true
deriving DecidableEq, Repr

namespace Place

/-- There is a mark between documents. -/
def atDocumentMark (place : Place) : Bool :=
  place.column = 0 && (startsDocument place.rest || endsDocument place.rest)

/-- The place behind so many blanks. -/
def passBlanks (place : Place) (count : Nat) : Place :=
  { place with
    rest := place.rest.drop count
    index := place.index + count
    column := place.column + count }

/-- The place behind so many characters of the line. -/
def pass (place : Place) (count : Nat) : Place :=
  if count = 0 then place else { place.passBlanks count with leading := false }

/-- The place behind the end of the line, where it stands there. -/
def passBreak (place : Place) : Place :=
  let next (rest : List Char) (count : Nat) : Place :=
    ⟨rest, place.index + count, place.line + 1, 0, true⟩
  match place.rest with
  | '\r' :: '\n' :: rest => next rest 2
  | c :: rest => if isBreak c then next rest 1 else place
  | [] => place

/-- The place behind what is left of the line. -/
def passLine (place : Place) : Place := place.pass (place.rest.takeWhile (!isBreak ·)).length

/-- The place behind spaces, tabs if they count as blanks, and a comment, and whether there were
spaces and tabs. A comment needs a blank before it. -/
def passGap? (tabs : Bool) (place : Place) : Option (Place × Bool × Bool) :=
  let blanks := place.rest.takeWhile fun c => c == ' ' || (tabs && c == '\t')
  let behind := place.passBlanks blanks.length
  let found := (blanks.contains ' ', blanks.contains '\t')
  if behind.rest.head? == some '#' then
    if blanks.isEmpty then none else some (behind.passLine, found)
  else some (behind, found)

end Place

end Redirects.Yaml
