import Redirects.Regex.Classical

/-!
# Automata

An automaton is a program of moves. Most moves have one successor; a fork has two and prefers the
first. The moves of a pattern are laid out from its end to its start, so that each part knows where
to go on; only a loop needs a move that is filled in after its inner part was laid out.
-/

namespace Redirects.Regex

open Unicode (CharSet)

/-- A move of an automaton, with the numbers of the moves that can follow. -/
inductive Move where
  /-- Takes one character of a set. -/
  | take (members : CharSet) (next : Nat)
  /-- Passes a place. -/
  | pass (place : Edge) (next : Nat)
  /-- Notes the position in a slot. -/
  | note (slot : Nat) (next : Nat)
  /-- Goes either way, preferably the first. -/
  | fork (first second : Nat)
  | accept
deriving DecidableEq, Repr, Inhabited

/-- An automaton. -/
structure Automaton where
  moves : Array Move
  /-- The number of the first move. -/
  start : Nat
  /-- The number of groups. -/
  groups : Nat
deriving DecidableEq, Repr

namespace Classical

/-- A program that is being laid out, and the number of the move with which its last part starts. -/
structure Layout where
  moves : Array Move
  entry : Nat

namespace Layout

/-- Puts a move in front. -/
def before (layout : Layout) (move : Nat → Move) : Layout :=
  let index := layout.moves.size
  ⟨layout.moves.push (move layout.entry), index⟩

/-- A fork between the entry and another move. -/
def fork (layout : Layout) (greedy : Bool) (other : Nat) : Layout :=
  layout.before fun entry => if greedy then .fork entry other else .fork other entry

/-- Fills in a move that was left open. -/
def fill (layout : Layout) (index : Nat) (move : Move) : Layout :=
  { layout with moves := layout.moves.setIfInBounds index move }

end Layout

/-- Lays out a part so many times in a row. -/
def copies (part : Layout → Layout) : Nat → Layout → Layout
  | 0, layout => layout
  | count + 1, layout => part (copies part count layout)

/-- Lays out a part that may be passed at most so many times, each time followed by a way out. -/
def optional (part : Layout → Layout) (greedy : Bool) (out : Nat) : Nat → Layout → Layout
  | 0, layout => layout
  | count + 1, layout => (part (optional part greedy out count layout)).fork greedy out

/-- Lays out a loop around a part, and gives the number of the fork behind the part that goes through
it again or leaves the loop. The layout is entered through the part. -/
def loop (part : Layout → Layout) (greedy : Bool) (layout : Layout) : Layout × Nat :=
  let fork := layout.moves.size
  let body := part ⟨layout.moves.push .accept, fork⟩
  let move := if greedy then Move.fork body.entry layout.entry else .fork layout.entry body.entry
  (body.fill fork move, fork)

/-- Lays out a repetition. A part that always takes a character is entered through the fork of its
loop; one that may take nothing is entered once and then looped over, so that an empty pass ends the
loop. -/
def repetition (part : Layout → Layout) (advances greedy : Bool) (least : Nat) (most : Option Nat)
    (layout : Layout) : Layout :=
  match most, least with
  | some most, least => copies part least (optional part greedy layout.entry (most - least) layout)
  | none, 0 =>
    let (looped, fork) := loop part greedy layout
    if advances then { looped with entry := fork } else looped.fork greedy layout.entry
  | none, least + 1 => copies part least (loop part greedy layout).1

/-- Lays out a pattern whose first group has the given number. -/
def layOut : (number : Nat) → Classical → Layout → Layout
  | _, .empty, layout => layout
  | _, .set members, layout => layout.before (.take members)
  | _, .edge place, layout => layout.before (.pass place)
  | number, .seq first second, layout =>
    first.layOut number (second.layOut (number + first.groups) layout)
  | number, .alt first second, layout =>
    let other := second.layOut (number + first.groups) layout
    (first.layOut number ⟨other.moves, layout.entry⟩).fork true other.entry
  | number, .group inner, layout =>
    let inside := inner.layOut (number + 1) (layout.before (.note (2 * number + 1)))
    inside.before (.note (2 * number))
  | number, .many inner least most greedy, layout =>
    repetition (inner.layOut number) inner.advances greedy least most layout

/-- The automaton of a pattern. -/
def automaton (pattern : Classical) : Automaton :=
  let layout := pattern.layOut 1 ⟨#[.accept], 0⟩
  ⟨layout.moves, layout.entry, pattern.groups⟩

end Classical

end Redirects.Regex
