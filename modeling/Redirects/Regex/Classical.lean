import Redirects.Regex.Edge
import Redirects.Unicode.CharSet

/-!
# Classical patterns

The patterns that an automaton can match: sets of characters, places, sequences, choices, capturing
groups and repetitions. Groups have no numbers of their own; they are counted as they open.
-/

namespace Redirects.Regex

open Unicode (CharSet)

/-- A pattern of the classical operators. -/
inductive Classical where
  | empty
  | set (members : CharSet)
  | edge (place : Edge)
  | seq (first second : Classical)
  | alt (first second : Classical)
  | group (inner : Classical)
  | many (inner : Classical) (least : Nat) (most : Option Nat) (greedy : Bool)
deriving DecidableEq, Repr

namespace Classical

/-- The number of its groups. -/
def groups : Classical → Nat
  | .empty | .set _ | .edge _ => 0
  | .seq first second | .alt first second => first.groups + second.groups
  | .group inner => inner.groups + 1
  | .many inner .. => inner.groups

/-- Every match takes a character. -/
def advances : Classical → Bool
  | .empty | .edge _ => false
  | .set members => !members.spans.isEmpty
  | .seq first second => first.advances || second.advances
  | .alt first second => first.advances && second.advances
  | .group inner => inner.advances
  | .many inner least .. => least != 0 && inner.advances

/-- No match takes a character. -/
def staysPut : Classical → Bool
  | .empty | .edge _ => true
  | .set _ => false
  | .seq first second | .alt first second => first.staysPut && second.staysPut
  | .group inner => inner.staysPut
  | .many inner _ most _ => inner.staysPut || most == some 0

/-- One classical pattern after another. -/
def followedBy : Classical → Classical → Classical
  | .empty, second => second
  | first, .empty => first
  | first, second => .seq first second

/-- Where a part of a pattern stands when it is written out. -/
inductive Frame where
  /-- Alone or in parentheses. -/
  | whole
  /-- In a choice. -/
  | branch
  /-- In a sequence. -/
  | item
  /-- Before a quantifier. -/
  | repeated
  /-- The rest of a choice. -/
  | branches
  /-- The rest of a sequence. -/
  | items
deriving DecidableEq, Repr

/-- How deeply the parts of the written pattern nest, parentheses counted. -/
def nesting : Frame → Classical → Nat
  | _, .empty | _, .set _ | _, .edge _ => 0
  | frame, .seq first second =>
    let inside := max (first.nesting .item) (second.nesting .items)
    match frame with
    | .items => inside
    | .item | .repeated => inside + 2
    | _ => inside + 1
  | frame, .alt first second =>
    let inside := max (first.nesting .branch) (second.nesting .branches)
    match frame with
    | .branches => inside
    | .whole => inside + 1
    | _ => inside + 2
  | _, .group inner => inner.nesting .whole + 1
  | frame, .many inner .. =>
    inner.nesting .repeated + if frame = .repeated then 2 else 1

/-- How deeply the parts of a written pattern may nest. -/
def maxNesting : Nat := 250

end Classical

end Redirects.Regex
