import Redirects.Config.Yaml.Place
import Redirects.Text.Hex

/-!
# Texts

Texts in quotes, without quotes and in blocks. Where a text runs over several lines its lines are
folded: one end of a line is a space, and of several the first is left out. What a text has on
further lines must not stand further out than what holds it.
-/

namespace Redirects.Yaml

/-- What so many ends of lines between two parts of a text stand for. -/
def foldedBreaks (count : Nat) : List Char :=
  if count = 1 then [' '] else List.replicate (count - 1) '\n'

/-- What stands between two words of a text. -/
structure Gap where
  /-- Blanks on one line, the last first. -/
  blanks : List Char := []
  /-- Ends of lines. -/
  breaks : Nat := 0
  /-- An end of a line that does not count came first. -/
  joined : Bool := false

/-- What a gap stands for. -/
def Gap.text (gap : Gap) : List Char :=
  if gap.joined then List.replicate gap.breaks '\n'
  else if gap.breaks = 0 then gap.blanks.reverse
  else foldedBreaks gap.breaks

/-! ## Texts in quotes -/

/-- The character of so many hexadecimal digits. -/
def codepoint? (count : Nat) (text : List Char) : Option Char :=
  let digits := text.take count
  if digits.length != count then none
  else
    (Text.ofHex? digits).bind fun code =>
      if code.isValidChar then some (Char.ofNat code) else none

/-- The character that an escape stands for, behind its backslash, and its length. -/
def escaped? : List Char → Option (Char × Nat)
  | [] => none
  | c :: rest =>
    match c with
    | '0' => some ('\x00', 1)
    | 'a' => some ('\x07', 1)
    | 'b' => some ('\x08', 1)
    | 't' => some ('\t', 1)
    | '\t' => some ('\t', 1)
    | 'n' => some ('\n', 1)
    | 'v' => some ('\x0b', 1)
    | 'f' => some ('\x0c', 1)
    | 'r' => some ('\r', 1)
    | 'e' => some ('\x1b', 1)
    | 'N' => some ('\u0085', 1)
    | '_' => some ('\u00a0', 1)
    | 'L' => some ('\u2028', 1)
    | 'P' => some ('\u2029', 1)
    | 'x' => (codepoint? 2 rest).map (·, 3)
    | 'u' => (codepoint? 4 rest).map (·, 5)
    | 'U' => (codepoint? 8 rest).map (·, 9)
    | c => if [' ', '"', '/', '\\'].contains c then some (c, 1) else none

/-- The characters up to a blank, the end of a line or the closing quote, and whether a backslash
took the end of the line away behind them. -/
def quotedWord? (quote : Char) : Nat → Place → Option (List Char × Bool × Place)
  | 0, _ => none
  | fuel + 1, place =>
    let on (c : Char) (count : Nat) : Option (List Char × Bool × Place) :=
      (quotedWord? quote fuel (place.pass count)).map fun (word, joined, place) =>
        (c :: word, joined, place)
    match place.rest with
    | [] => some ([], false, place)
    | c :: rest =>
      if isBlank c || isBreak c then some ([], false, place)
      else if c == quote then
        if quote == '\'' && rest.head? == some '\'' then on c 2 else some ([], false, place)
      else if quote == '"' && c == '\\' then
        if rest.head?.any isBreak then some ([], true, (place.pass 1).passBreak)
        else (escaped? rest).bind fun (c, count) => on c (count + 1)
      else on c 1

/-- What stands between two words in quotes. -/
def quotedGap? (indent : Int) : Nat → Gap → Place → Option (Gap × Place)
  | 0, _, _ => none
  | fuel + 1, gap, place =>
    match place.rest with
    | [] => some (gap, place)
    | c :: _ =>
      if isBreak c then quotedGap? indent fuel { gap with breaks := gap.breaks + 1 } place.passBreak
      else if !isBlank c then some (gap, place)
      else if !gap.joined && gap.breaks = 0 then
        quotedGap? indent fuel { gap with blanks := c :: gap.blanks } (place.passBlanks 1)
      else if c == '\t' && (place.column : Int) < indent then none
      else quotedGap? indent fuel gap (place.passBlanks 1)

/-- The rest of a text in quotes. -/
def quotedText? (quote : Char) (indent : Int) : Nat → Place → Option (List Char × Place)
  | 0, _ => none
  | fuel + 1, place =>
    if place.atDocumentMark || place.rest.isEmpty || (place.column : Int) < indent then none
    else do
      let (word, joined, place) ← quotedWord? quote (fuel + 1) place
      if place.rest.head? == some quote then return (word, place.pass 1)
      else
        let (gap, place) ← quotedGap? indent (fuel + 1) { joined } place
        let (text, place) ← quotedText? quote indent fuel place
        return (word ++ gap.text ++ text, place)

/-! ## Texts without quotes -/

/-- A colon at the front marks a value. -/
def marksValue (inFlow : Bool) : List Char → Bool
  | ':' :: rest => endsWord rest || (inFlow && rest.head?.any isFlowMark)
  | _ => false

/-- The characters of a word without quotes at the front. -/
def plainWord (inFlow : Bool) : List Char → List Char
  | [] => []
  | c :: rest =>
    if isBlank c || isBreak c || marksValue inFlow (c :: rest) || (inFlow && isFlowMark c) then []
    else c :: plainWord inFlow rest

/-- What stands between two words without quotes. A tab that is not as far in as the text must be
stands on an empty line. -/
def plainGap? (indent : Int) : Nat → Gap → Place → Option (Gap × Place)
  | 0, _, _ => none
  | fuel + 1, gap, place =>
    match place.rest with
    | [] => some (gap, place)
    | c :: _ =>
      if isBreak c then
        let breaks := if place.leading then gap.breaks + 1 else max gap.breaks 1
        plainGap? indent fuel { breaks } place.passBreak
      else if !isBlank c then some (gap, place)
      else if !place.leading then
        plainGap? indent fuel { gap with blanks := c :: gap.blanks } (place.passBlanks 1)
      else if c == '\t' && (place.column : Int) < indent then do
        let (place, _) ← place.passGap? true
        if endsLine place.rest then plainGap? indent fuel gap place else none
      else plainGap? indent fuel gap (place.passBlanks 1)

/-- The rest of a text without quotes, behind a gap. -/
def plainWords? (inFlow : Bool) (indent : Int) : Nat → Gap → Place → Option (List Char × Place)
  | 0, _, _ => none
  | fuel + 1, gap, place =>
    if place.atDocumentMark || place.rest.head? == some '#' then some ([], place)
    else if inFlow && place.rest.head? == some '-' && place.rest[1]?.any isFlowMark then none
    else do
      let word := plainWord inFlow place.rest
      let (text, gap) := if word.isEmpty then ([], gap) else (gap.text ++ word, {})
      let place := place.pass word.length
      if !place.rest.head?.any fun c => isBlank c || isBreak c then return (text, place)
      else
        let (gap, place) ← plainGap? indent (fuel + 1) gap place
        if !inFlow && (place.column : Int) < indent then return (text, place)
        else
          let (more, place) ← plainWords? inFlow indent fuel gap place
          return (text ++ more, place)

/-- The text without quotes at a place. -/
def plainText? (inFlow : Bool) (indent : Int) (place : Place) : Option (List Char × Place) :=
  plainWords? inFlow indent (place.rest.length + 1) {} place

/-! ## Texts in blocks -/

/-- What becomes of the ends of lines behind a text in a block. -/
inductive Chomping where
  | strip
  | clip
  | keep
deriving DecidableEq, Repr

/-- How the end of a block is treated, as its mark says. -/
def Chomping.ofMark? : Char → Option Chomping
  | '-' => some .strip
  | '+' => some .keep
  | _ => none

/-- How far in a block stands, as its mark says. -/
def indentOfMark? (c : Char) : Option Nat := if c.isDigit then some (c.toNat - '0'.toNat) else none

/-- What the marks of a block say of its indent and its end, and their number. -/
def blockMarks : List Char → Option Nat × Chomping × Nat
  | [] => (none, .clip, 0)
  | c :: rest =>
    match Chomping.ofMark? c, indentOfMark? c, rest.head? with
    | some chomping, _, some next =>
      match indentOfMark? next with
      | some indent => (some indent, chomping, 2)
      | none => (none, chomping, 1)
    | some chomping, _, none => (none, chomping, 1)
    | none, some indent, some next =>
      match Chomping.ofMark? next with
      | some chomping => (some indent, chomping, 2)
      | none => (some indent, .clip, 1)
    | none, some indent, none => (some indent, .clip, 1)
    | none, none, _ => (none, .clip, 0)

/-- The place behind spaces up to a column and empty lines, and how many lines those are. -/
def passIndent (indent : Nat) : Nat → Nat → Place → Nat × Place
  | 0, breaks, place => (breaks, place)
  | fuel + 1, breaks, place =>
    let spaces := (place.rest.takeWhile (· == ' ')).length
    let place := place.passBlanks (min spaces (indent - place.column))
    if place.rest.head?.any isBreak then passIndent indent fuel (breaks + 1) place.passBreak
    else (breaks, place)

/-- The column of the first line that is not empty, or of a longer line of spaces before it; the
number of those lines, and the place behind them and the spaces. -/
def findIndent : Nat → (widest breaks : Nat) → Place → Nat × Nat × Place
  | 0, widest, breaks, place => (widest, breaks, place)
  | fuel + 1, widest, breaks, place =>
    let place := place.passBlanks (place.rest.takeWhile (· == ' ')).length
    let widest := max widest place.column
    if place.rest.head?.any isBreak then findIndent fuel widest (breaks + 1) place.passBreak
    else (widest, breaks, place)

/-- What was read of a block before a line: whether the line before it stands apart, whether there
was one, and how many empty lines there were since. -/
structure BlockLine where
  apart : Bool := false
  ended : Bool := false
  empty : Nat := 0

/-- The lines of a block from a place on, joined, what is left to do at their end, and the place
behind them. Lines that start with a blank keep the ends of lines around them. -/
def blockLines (folded : Bool) (indent : Nat) :
    Nat → BlockLine → Place → List Char × BlockLine × Place
  | 0, before, place => ([], before, place)
  | fuel + 1, before, place =>
    if place.column != indent || place.rest.isEmpty || (indent = 0 && place.atDocumentMark) then
      ([], before, place)
    else
      let apart := place.rest.head?.any isBlank
      let between :=
        if folded && before.ended && !before.apart && !apart then foldedBreaks (before.empty + 1)
        else List.replicate (before.empty + if before.ended then 1 else 0) '\n'
      let line := place.rest.takeWhile (!isBreak ·)
      let place := place.pass line.length
      if place.rest.isEmpty then (between ++ line, { apart }, place)
      else
        let (empty, place) := passIndent indent (fuel + 1) 0 place.passBreak
        let (text, behind, place) := blockLines folded indent fuel ⟨apart, true, empty⟩ place
        (between ++ line ++ text, behind, place)

/-- The text in a block behind its mark, where what holds it stands at a column. -/
def blockText? (folded : Bool) (outer : Int) (start : Place) : Option (List Char × Place) := do
  let (marked, chomping, count) := blockMarks start.rest
  if marked == some 0 then none
  let (place, _) ← (start.pass count).passGap? true
  if !endsLine place.rest then none
  let hasBreak := !place.rest.isEmpty
  let place := place.passBreak
  if place.rest.head? == some '\t' then none
  let fuel := place.rest.length + 1
  let (indent, empty, place) :=
    match marked with
    | some increment =>
      let indent := if 0 ≤ outer then outer.toNat + increment else increment
      let (empty, place) := passIndent indent fuel 0 place
      (indent, empty, place)
    | none =>
      let (widest, empty, place) := findIndent fuel 0 0 place
      (max widest (outer + 1).toNat, empty, place)
  if place.rest.isEmpty then
    let breaks :=
      match chomping with
      | .strip => 0
      | .clip => if hasBreak then 1 else 0
      | .keep => if hasBreak then max empty 1 else 0
    return (List.replicate breaks '\n', place)
  if place.column < indent && outer < (place.column : Int) then none
  let (text, behind, place) := blockLines folded indent fuel { empty } place
  let last := if behind.ended then 1 else 0
  let missing := if place.rest.isEmpty && max outer 1 ≤ (place.column : Int) then 1 else 0
  let breaks :=
    match chomping with
    | .strip => 0
    | .clip => last + missing
    | .keep => last + missing + behind.empty
  return (text ++ List.replicate breaks '\n', place)

end Redirects.Yaml
