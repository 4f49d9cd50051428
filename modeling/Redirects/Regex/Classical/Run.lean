import Redirects.Regex.Classical.Automaton
import Std.Data.TreeSet.Basic

/-!
# Running an automaton

An automaton runs by trying the preferred way first and coming back to the others. A fork that was
met at a place before has led nowhere from there and is not tried again, so a run takes a number of
steps that is bounded by the sizes of the automaton and of the text.
-/

namespace Redirects.Regex

/-- Positions in a text, noted under numbers. -/
abbrev Slots := Array (Option Nat)

/-- A way that is left to try: a move, a position and what was noted so far. -/
structure Way where
  move : Nat
  position : Nat
  slots : Slots

/-- The forks that were met, as one number for a move and a position. -/
abbrev Met := Std.TreeSet Nat

namespace Automaton

/-- Tries the ways in order, with at most so many steps; the end of the first that arrives, and the
forks met. -/
def explore (automaton : Automaton) (text : Array Char) : Nat → Met → List Way → Option Way × Met
  | 0, met, _ => (none, met)
  | _ + 1, met, [] => (none, met)
  | fuel + 1, met, way :: ways =>
    match automaton.moves[way.move]? with
    | none => explore automaton text fuel met ways
    | some .accept => (some way, met)
    | some (.take members next) =>
      match text[way.position]? with
      | some c =>
        if members.has c then
          explore automaton text fuel met ({ way with move := next, position := way.position + 1 } :: ways)
        else explore automaton text fuel met ways
      | none => explore automaton text fuel met ways
    | some (.pass place next) =>
      if place.holds text way.position then
        explore automaton text fuel met ({ way with move := next } :: ways)
      else explore automaton text fuel met ways
    | some (.note slot next) =>
      let slots := way.slots.setIfInBounds slot (some way.position)
      explore automaton text fuel met ({ way with move := next, slots } :: ways)
    | some (.fork first second) =>
      let mark := way.position * automaton.moves.size + way.move
      if met.contains mark then explore automaton text fuel met ways
      else
        explore automaton text fuel (met.insert mark)
          ({ way with move := first } :: { way with move := second } :: ways)

/-- A number of steps that no run exceeds. -/
def patience (automaton : Automaton) (text : Array Char) : Nat :=
  let size := automaton.moves.size + 1
  2 * size * size * (text.size + 2) + size

/-- The run from a place. -/
def runFrom (automaton : Automaton) (text : Array Char) (met : Met) (place : Nat) :
    Option Way × Met :=
  let slots := Array.replicate (2 * (automaton.groups + 1)) none
  explore automaton text (automaton.patience text) met [⟨automaton.start, place, slots⟩]

/-- The preferred match from a place: where it ends, and the slots of its groups. -/
def matchAt? (automaton : Automaton) (text : Array Char) (place : Nat) : Option Way :=
  (automaton.runFrom text ∅ place).1

/-- The leftmost match from a place on, so many places being left: where it starts, where it ends and
the slots of its groups. -/
def leftmost? (automaton : Automaton) (text : Array Char) : Nat → Met → Nat → Option (Nat × Way)
  | 0, _, _ => none
  | count + 1, met, place =>
    match automaton.runFrom text met place with
    | (some way, _) => some (place, way)
    | (none, met) => leftmost? automaton text count met (place + 1)

/-- The leftmost match. -/
def find? (automaton : Automaton) (text : Array Char) : Option (Nat × Way) :=
  automaton.leftmost? text (text.size + 1) ∅ 0

end Automaton

end Redirects.Regex
