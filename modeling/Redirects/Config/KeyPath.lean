/-!
# Key paths

The key of a setting may be written as a path: names behind dots, and positions of lists in square
brackets. A position below zero counts from the end of its list. A key that is no such path is a name
as a whole.
-/

namespace Redirects

/-- A step from a setting to one inside it. -/
inductive KeyStep where
  | key (name : String)
  /-- A position of a list, counted from its end if it is below zero. -/
  | position (number : Int)
deriving DecidableEq, Repr

namespace KeyStep

/-- A letter of a name in a path. -/
def isNameChar (c : Char) : Bool := c.isAlphanum || c == '_' || c == '-'

/-- The number that digits write, a minus before them or not. -/
def number? (text : List Char) : Option Int :=
  let (negative, digits) := match text with
    | '-' :: rest => (true, rest)
    | rest => (false, rest)
  if digits.isEmpty || !digits.all Char.isDigit then none
  else
    let value := digits.foldl (fun value c => 10 * value + (c.toNat - '0'.toNat)) 0
    if negative then (if value ≤ Nat.pow 2 63 then some (-(value : Int)) else none)
    else if value < Nat.pow 2 63 then some value
    else none

/-- The position behind an opening bracket, blanks around it left out, and what follows the closing
bracket. -/
def position? (text : List Char) : Option (KeyStep × List Char) :=
  let inside := text.takeWhile (· != ']')
  let isBlank (c : Char) : Bool := c == ' ' || c == '\t'
  let trimmed := ((inside.dropWhile isBlank).reverse.dropWhile isBlank).reverse
  match text.drop inside.length, number? trimmed with
  | _ :: rest, some number => some (.position number, rest)
  | _, _ => none

/-- The name at the front, and what follows. -/
def name? (text : List Char) : Option (KeyStep × List Char) :=
  let name := text.takeWhile isNameChar
  if name.isEmpty then none else some (.key (String.ofList name), text.drop name.length)

/-- The steps behind a name, at most so many. -/
def steps? : Nat → List Char → Option (List KeyStep)
  | _, [] => some []
  | 0, _ => none
  | fuel + 1, c :: text => do
    let (step, rest) ← if c == '.' then name? text else if c == '[' then position? text else none
    return step :: (← steps? fuel rest)

/-- The steps of a key. -/
def path (key : String) : List KeyStep :=
  let steps := do
    let (first, rest) ← name? key.toList
    return first :: (← steps? rest.length rest)
  steps.getD [.key key]

/-- The items of a list, filled up with an item so that there is one at a position, and the index of
that one. -/
def reach {α : Type} (filler : α) (number : Int) (items : List α) : List α × Nat :=
  let index := if number < 0 then number + items.length else number
  if index < 0 then (List.replicate index.natAbs filler ++ items, 0)
  else (items ++ List.replicate (index.toNat + 1 - items.length) filler, index.toNat)

end KeyStep

end Redirects
