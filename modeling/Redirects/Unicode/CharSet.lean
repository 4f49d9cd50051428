import Redirects.Unicode.Run

/-!
# Sets of characters

A set of characters is a list of spans of code points in ascending order, with a gap between any two.
The Boolean operations work on these lists: a union merges two of them and joins what touches, and
a complement lists the gaps.
-/

namespace Redirects.Unicode

/-- Consecutive code points. -/
structure Span where
  first : Nat
  last : Nat
deriving DecidableEq, Repr

/-- The greatest code point. -/
def lastCode : Nat := 0x10FFFF

/-- A set of characters. -/
structure CharSet where
  /-- Ascending, with gaps between them. -/
  spans : List Span
deriving DecidableEq, Repr

namespace CharSet

/-- No character. -/
def empty : CharSet := ⟨[]⟩

/-- Every character. -/
def all : CharSet := ⟨[⟨0, lastCode⟩]⟩

/-- One character. -/
def one (c : Char) : CharSet := ⟨[⟨c.toNat, c.toNat⟩]⟩

/-- The characters from the first to the last. -/
def range (first last : Char) : CharSet := ⟨[⟨first.toNat, last.toNat⟩]⟩

/-- The code point lies in one of the spans, which ascend. -/
def inSpans (code : Nat) : List Span → Bool
  | [] => false
  | span :: spans =>
    if code < span.first then false else if code ≤ span.last then true else inSpans code spans

/-- The code point is in the set. -/
def holds (set : CharSet) (code : Nat) : Bool := inSpans code set.spans

/-- Membership. -/
def has (set : CharSet) (c : Char) : Bool := set.holds c.toNat

/-- Joins a span with those behind it that it touches. -/
def joined (span : Span) : List Span → List Span
  | [] => [span]
  | next :: spans =>
    if next.first ≤ span.last + 1 then joined ⟨span.first, max span.last next.last⟩ spans
    else span :: joined next spans

/-- The set of ascending spans that may touch or overlap. -/
def ofAscending : List Span → CharSet
  | [] => empty
  | span :: spans => ⟨joined span spans⟩

/-- Two ascending lists of spans as one; the number bounds the lengths of both together. -/
def merged : Nat → List Span → List Span → List Span
  | 0, _, _ => []
  | _ + 1, [], right => right
  | _ + 1, left, [] => left
  | fuel + 1, span :: left, other :: right =>
    if span.first ≤ other.first then span :: merged fuel left (other :: right)
    else other :: merged fuel (span :: left) right

/-- The characters of either set. -/
def union (left right : CharSet) : CharSet :=
  ofAscending (merged (left.spans.length + right.spans.length + 1) left.spans right.spans)

/-- The spans of the code points, from the given one on, that the spans leave out. -/
def gaps (next : Nat) : List Span → List Span
  | [] => if next ≤ lastCode then [⟨next, lastCode⟩] else []
  | span :: spans =>
    if next < span.first then ⟨next, span.first - 1⟩ :: gaps (span.last + 1) spans
    else gaps (span.last + 1) spans

/-- The characters outside the set. -/
def complement (set : CharSet) : CharSet := ⟨gaps 0 set.spans⟩

/-- The characters of both sets. -/
def inter (left right : CharSet) : CharSet := (left.complement.union right.complement).complement

/-- The characters of the first set that are not in the second. -/
def diff (left right : CharSet) : CharSet := (left.complement.union right).complement

/-- The characters of one of the sets, but not of both. -/
def symmDiff (left right : CharSet) : CharSet := (left.diff right).union (right.diff left)

/-- The characters of any of the sets; halves are joined first, `fuel` times over. -/
def joinHalves : Nat → List CharSet → CharSet
  | 0, _ => empty
  | _ + 1, [] => empty
  | _ + 1, [set] => set
  | fuel + 1, sets =>
    let half := sets.length / 2
    (joinHalves fuel (sets.take half)).union (joinHalves fuel (sets.drop half))

/-- The characters of any of the sets. -/
def unionAll (sets : List CharSet) : CharSet := joinHalves sets.length sets

/-- The set of the given code points. -/
def ofCodes (codes : List Nat) : CharSet := unionAll (codes.map fun code => ⟨[⟨code, code⟩]⟩)

/-- The spans of a row of a table. -/
def spansOf (run : Run) : List Span :=
  if run.step == 1 then [⟨run.first, run.last⟩] else run.codes.map fun code => ⟨code, code⟩

/-- The set that the lines of a table write, their rows in ascending order. -/
def ofLines (lines : List String) : CharSet := ofAscending ((Run.ofLines lines).flatMap spansOf)

/-- The set or its complement. -/
def negatedIf (negated : Bool) (set : CharSet) : CharSet := if negated then set.complement else set

end CharSet

end Redirects.Unicode
