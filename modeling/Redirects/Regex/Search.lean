import Redirects.Regex.Machine
import Redirects.Regex.Reading

/-!
# Searching with a pattern

A search takes the leftmost place at which the pattern can match, and there the way of matching that
the pattern prefers. A pattern of classical operators alone is matched by an automaton, any other by
a plan.
-/

namespace Redirects.Regex

/-- A pattern prepared for matching. -/
inductive Prepared where
  | classical (automaton : Automaton)
  /-- A plan, and the number of slots that it notes positions in; there are so many groups. -/
  | planned (plan : Plan) (slots groups : Nat)
deriving DecidableEq, Repr

/-- Prepares a pattern that was read. -/
def Written.prepare (limits : Limits) (written : Written) : Except Fault Prepared := do
  if written.term.hasDanglingReference then throw .badReference
  if written.term.beyondClassical written.referred then
    let (plan, slots) ←
      (written.term.plan limits written.referred (.alone false)).run (2 * (written.groups + 1))
    return .planned plan slots written.groups
  else return .classical (← Planner.classical limits written.term).automaton

/-- Reads and prepares a pattern. -/
def prepareWithin (limits : Limits) (pattern : String) : Except Fault Prepared := do
  (← readPattern pattern.toList).prepare limits

/-- Reads and prepares a pattern within the usual limits. -/
def prepare (pattern : String) : Except Fault Prepared := prepareWithin {} pattern

/-- The pattern has no fault. -/
def isValid (pattern : String) : Bool := (prepare pattern).isOk

/-- What a pattern matched: the matched text's place and the places of the groups. -/
structure Match where
  start : Nat
  stop : Nat
  /-- The span of each group, the whole match first. -/
  spans : List (Option (Nat × Nat))
deriving DecidableEq, Repr

/-- The span from one noted position to the next. -/
def spanOf? (slots : Slots) (number : Nat) : Option (Nat × Nat) :=
  match (slots[2 * number]?).join, (slots[2 * number + 1]?).join with
  | some start, some stop => some (start, stop)
  | _, _ => none

/-- The match from a place to another, the groups being noted in the slots. A match that is said to
start behind its end starts there. -/
def matchOf (start stop groups : Nat) (slots : Slots) : Match :=
  let start := min start stop
  ⟨start, stop, some (start, stop) :: (List.range groups).map fun i => spanOf? slots (i + 1)⟩

namespace Prepared

/-- The leftmost match. There is none if the search reaches a limit. -/
def findWithin? (limits : Limits) (text : Array Char) : Prepared → Option Match
  | .classical automaton =>
    (automaton.find? text).map fun (start, way) =>
      matchOf start way.position automaton.groups way.slots
  | .planned plan slots groups =>
    (plan.search limits slots text).bind fun final =>
      (spanOf? final.slots 0).map fun (start, stop) => matchOf start stop groups final.slots

/-- The leftmost match within the usual limits. -/
def find? (prepared : Prepared) (text : Array Char) : Option Match := prepared.findWithin? {} text

/-- The pattern occurs in the text. -/
def occursIn (prepared : Prepared) (text : Array Char) : Bool := (prepared.find? text).isSome

end Prepared

/-- The pattern occurs in the text. A pattern with a fault occurs nowhere. -/
def matchesIn (pattern text : String) : Bool :=
  match prepare pattern with
  | .ok prepared => prepared.occursIn text.toList.toArray
  | .error _ => false

end Redirects.Regex
