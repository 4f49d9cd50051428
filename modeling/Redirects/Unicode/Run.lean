import Redirects.Text.Hex

/-!
# Rows of character tables

A row of a table holds every `step`-th code point from its first to its last; in a mapping the first
is sent to `image` and the others keep their distance.

A table is written as words between blanks: `41-5A` or `AA` for a set, `100-12E/2` with a step, and
`41-5A>61` with an image, all in hexadecimal.
-/

namespace Redirects.Unicode

/-- A row of a character table. -/
structure Run where
  /-- First code point. -/
  first : Nat
  /-- Last code point. -/
  last : Nat
  /-- Distance between neighbours. -/
  step : Nat
  /-- Where a mapping sends the first code point. -/
  image : Nat
deriving DecidableEq, Repr

namespace Run

/-- The leading hexadecimal number of a word and what follows it. -/
def leadingNumber (value : Nat) : List Char → Nat × List Char
  | [] => (value, [])
  | c :: rest =>
    match Text.hexDigit? c with
    | some digit => leadingNumber (16 * value + digit) rest
    | none => (value, c :: rest)

/-- The number behind a mark, or the default where the mark is missing. -/
def marked (mark : Char) (default : Nat) (word : List Char) : Nat × List Char :=
  match word with
  | [] => (default, [])
  | c :: rest => if c == mark then leadingNumber 0 rest else (default, word)

/-- The run that a word writes. -/
def ofWord (word : List Char) : Run :=
  let (first, word) := leadingNumber 0 word
  let (last, word) := marked '-' first word
  let (step, word) := marked '/' 1 word
  let (image, _) := marked '>' first word
  ⟨first, last, step, image⟩

/-- The words of a text between single blanks. -/
def words (text : List Char) : List (List Char) :=
  match text with
  | [] => [[]]
  | c :: rest =>
    match words rest with
    | [] => [[c]]
    | word :: others => if c == ' ' then [] :: word :: others else (c :: word) :: others

/-- The table that a text writes. -/
def ofText (text : String) : List Run := (words text.toList).map ofWord

/-- The table that several lines write one after another. -/
def ofLines (lines : List String) : List Run := lines.flatMap ofText

/-- The code point lies on the run. -/
def holds (run : Run) (code : Nat) : Bool :=
  run.first ≤ code && code ≤ run.last && (code - run.first) % run.step == 0

/-- The code points on the run. -/
def codes (run : Run) : List Nat :=
  (List.range ((run.last - run.first) / run.step + 1)).map fun i => run.first + i * run.step

/-- The code points on the run with their images. -/
def pairs (run : Run) : List (Nat × Nat) :=
  run.codes.map fun code => (code, run.image + (code - run.first))

/-- The image of a character under the mapping that the table writes. -/
def send (runs : List Run) (c : Char) : Char :=
  match runs.find? (·.holds c.toNat) with
  | some run => Char.ofNat (run.image + (c.toNat - run.first))
  | none => c

end Run

end Redirects.Unicode
