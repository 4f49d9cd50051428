import Redirects.Regex.Classical
import Redirects.Text.ByteSpan

/-!
# The size of an automaton

How many bytes the automata take that read the encoded text of a pattern, forwards and backwards. A
state takes a fixed number of bytes, and those with several ways on take some more for each way. A
repetition with bounds counts its inner part as often as it may be passed through, so the size is
found without building anything.
-/

namespace Redirects.Regex

open Unicode (CharSet)
open Text (ByteRange)

/-- Bytes of a state. -/
def stateBytes : Nat := 32

/-- Bytes of a way on, without a condition and with a range of bytes as its condition. -/
def forkBytes : Nat := 4

@[inherit_doc forkBytes]
def rangeBytes : Nat := 8

/-- What can follow in a tree of byte sequences: the rests of the sequences. -/
abbrev Rests := List (List ByteRange)

/-- The rests behind each range that a sequence can go on with. -/
def Rests.behind (rests : Rests) : List Rests :=
  (rests.splitBy fun left right => left.head? == right.head?).map fun group => group.map (·.drop 1)

/-- The different nodes that are met from some, the given ones left out. -/
def metNodes : Nat → List Rests → List Rests → List Rests
  | 0, met, _ => met
  | _ + 1, met, [] => met
  | fuel + 1, met, node :: nodes =>
    if met.contains node then metNodes fuel met nodes
    else metNodes fuel (node :: met) ((Rests.behind node).filter (· != [[]]) ++ nodes)

/-- Bytes of the states that read the sequences forwards, equal rests being shared. -/
def forwardBytes (sequences : Rests) : Nat :=
  let nodes := metNodes (5 * sequences.length + 1) [] [sequences]
  nodes.foldl (fun bytes node => bytes + stateBytes + rangeBytes * (Rests.behind node).length)
    stateBytes

/-- The length of what two sequences have in common at their start. -/
def sharedLength : List ByteRange → List ByteRange → Nat
  | a :: left, b :: right => if a == b then sharedLength left right + 1 else 0
  | _, _ => 0

/-- Bytes of the states that read the sequences backwards, equal starts being shared. -/
def backwardBytes (sequences : Rests) : Nat :=
  let shared := (sequences.zip (sequences.drop 1)).map fun (left, right) => sharedLength left right
  let states := (sequences.map (·.length)).foldl (· + ·) 0 - shared.foldl (· + ·) 0
  2 * stateBytes + forkBytes * sequences.length + stateBytes * states

/-- Bytes of the states that read one character of a set. -/
def setBytes (backward : Bool) (set : CharSet) : Nat :=
  match set.spans with
  | [] => stateBytes
  | [⟨first, last⟩] =>
    if first == last then stateBytes * (Text.encodedBytes first).length
    else if last < 128 then 2 * stateBytes + rangeBytes
    else if backward then backwardBytes (Text.setSequences set)
    else forwardBytes (Text.setSequences set)
  | spans =>
    if spans.all (·.last < 128) then 2 * stateBytes + rangeBytes * spans.length
    else if backward then backwardBytes (Text.setSequences set)
    else forwardBytes (Text.setSequences set)

namespace Classical

/-- The set of a choice between sets. -/
def asSet? : Classical → Option CharSet
  | .set members => some members
  | .alt first second => do return (← first.asSet?).union (← second.asSet?)
  | _ => none

/-- Bytes of a repetition of a part that takes so many bytes. -/
def repeatedBytes (advances : Bool) (inner least : Nat) (most : Option Nat) : Nat :=
  let exactly := if least = 0 then stateBytes else least * inner
  let fork := stateBytes + 2 * forkBytes
  match most with
  | none =>
    if least != 0 then least * inner + fork
    else if advances then inner + fork
    else inner + 2 * fork + stateBytes
  | some most =>
    if most ≤ least then exactly
    else if least = 0 && most = 1 then inner + fork + stateBytes
    else exactly + stateBytes + (most - least) * (fork + inner)

/-- Bytes of the states of a pattern, as the rest of a choice or by itself. -/
def bytes (backward : Bool) : (choice : Bool) → Classical → Nat
  | choice, .empty | choice, .edge _ => stateBytes + if choice then forkBytes else 0
  | choice, .set members => setBytes backward members + if choice then forkBytes else 0
  | choice, .seq first second =>
    first.bytes backward false + second.bytes backward false + if choice then forkBytes else 0
  | choice, .alt first second =>
    let sum := forkBytes + first.bytes backward false + second.bytes backward true
    if choice then sum
    else
      match (Classical.alt first second).asSet? with
      | some members => setBytes backward members
      | none => 2 * stateBytes + sum
  | choice, .group inner =>
    inner.bytes backward false + (if backward then 0 else 2 * stateBytes) +
      if choice then forkBytes else 0
  | choice, .many inner least most _ =>
    let inside := inner.bytes backward false
    (if inner.staysPut then repeatedBytes false inside (min least 1) (some ((most.getD 1).min 1))
      else repeatedBytes inner.advances inside least most) + if choice then forkBytes else 0

/-- Bytes of the states around a pattern: those that look for it everywhere, and its ends. -/
def frameBytes (backward : Bool) : Nat :=
  3 * stateBytes + 2 * forkBytes + rangeBytes + stateBytes + if backward then 0 else 2 * stateBytes

/-- The automata that read the pattern forwards and backwards fit in so many bytes each. -/
def fits (limit : Nat) (pattern : Classical) : Bool :=
  [false, true].all fun backward => pattern.bytes backward false + frameBytes backward ≤ limit

end Classical

end Redirects.Regex
