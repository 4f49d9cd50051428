import Redirects.Unicode.CharSet

/-!
# Spans of characters as spans of bytes

The encodings of the characters of a span, as sequences of byte ranges: a sequence of ranges stands
for every row of bytes that has one byte from each. A span is split until the encodings of a piece
differ from each other in one run of trailing bytes only.
-/

namespace Redirects.Text

open Unicode (CharSet Span)

/-- Bytes from the first to the last. -/
abbrev ByteRange := Nat × Nat

/-- The bytes of a character in the encoding. -/
def encodedBytes (code : Nat) : List Nat :=
  let tail (shift : Nat) : Nat := 0x80 + code / Nat.pow 2 shift % 64
  if code < 0x80 then [code]
  else if code < 0x800 then [0xC0 + code / 64, tail 0]
  else if code < 0x10000 then [0xE0 + code / 4096, tail 6, tail 0]
  else [0xF0 + code / 262144, tail 12, tail 6, tail 0]

/-- Two pieces of a span, cut behind a code point. -/
def cutBehind (span : Span) (code : Nat) : Option (Span × Span) :=
  some (⟨span.first, code⟩, ⟨code + 1, span.last⟩)

/-- Two pieces of a span whose encodings have trailing bytes in common that do not run over their
whole range. -/
def cutTrailing? (span : Span) : Option (Span × Span) :=
  [64, 4096, 262144].findSome? fun size =>
    if span.first / size == span.last / size then none
    else if span.first % size != 0 then cutBehind span (span.first / size * size + (size - 1))
    else if span.last % size != size - 1 then cutBehind span (span.last / size * size - 1)
    else none

/-- Two pieces of a span that one sequence of byte ranges cannot write. -/
def cut? (span : Span) : Option (Span × Span) :=
  match [0x7F, 0x7FF, 0xFFFF].find? fun code => span.first ≤ code && code < span.last with
  | some code => cutBehind span code
  | none => if span.last ≤ 0x7F then none else cutTrailing? span

/-- The byte sequences of a span, which is cut at most so many times over. -/
def byteSequences : Nat → Span → List (List ByteRange)
  | 0, _ => []
  | fuel + 1, span =>
    match cut? span with
    | some (left, right) => byteSequences fuel left ++ byteSequences fuel right
    | none => [(encodedBytes span.first).zip (encodedBytes span.last)]

/-- The span without the code points that are no characters. -/
def charactersOf (span : Span) : List Span :=
  let before : List Span := if span.first < 0xD800 then [⟨span.first, min span.last 0xD7FF⟩] else []
  let after : List Span := if 0xDFFF < span.last then [⟨max span.first 0xE000, span.last⟩] else []
  before ++ after

/-- The byte sequences of a set of characters, in ascending order. -/
def setSequences (set : CharSet) : List (List ByteRange) :=
  (set.spans.flatMap charactersOf).flatMap (byteSequences 24)

end Redirects.Text
