import Redirects.Regex.Classical
import Redirects.Unicode.CaseMapping

/-!
# Bracket expressions

The set that a bracket writes. Inside a bracket stand characters, ranges, other brackets, and the
POSIX names; `&&`, `--` and `~~` combine what stands on their left with what stands on their right,
one after another. A hyphen that cannot make a range is itself, and so is a closing bracket that
stands first.

An opening bracket that ends a range opens nothing. Where the bracket closes earlier on this account
than the count of its brackets says, what is left over is matched behind it.
-/

namespace Redirects.Regex

open Unicode (CharSet)

/-- A piece of a bracket expression. -/
inductive Piece where
  /-- A character that may have a meaning of its own. -/
  | bare (c : Char)
  /-- A character that stands for itself. -/
  | quoted (c : Char)
  /-- A set. -/
  | set (members : CharSet)
  /-- A set that cannot be read. -/
  | unreadable
deriving DecidableEq, Repr

namespace Piece

/-- The character that a piece is in a range. -/
def char? : Piece → Option Char
  | .bare c | .quoted c => some c
  | .set _ | .unreadable => none

/-- The set that a piece is by itself. -/
def set? : Piece → Option CharSet
  | .bare c | .quoted c => some (.one c)
  | .set members => some members
  | .unreadable => none

end Piece

/-- Digits and the letters that stand for them in hexadecimal. -/
def hexDigits : CharSet := .unionAll [.range '0' '9', .range 'A' 'F', .range 'a' 'f']

/-- The POSIX classes, which hold ASCII characters only. -/
def posixClass? (name : String) : Option CharSet :=
  let lower := CharSet.range 'a' 'z'
  let upper := CharSet.range 'A' 'Z'
  let digit := CharSet.range '0' '9'
  match name with
  | "alnum" => some (.unionAll [digit, upper, lower])
  | "alpha" => some (upper.union lower)
  | "ascii" => some (.range '\x00' '\x7f')
  | "blank" => some ((CharSet.one '\t').union (.one ' '))
  | "cntrl" => some ((CharSet.range '\x00' '\x1f').union (.one '\x7f'))
  | "digit" => some digit
  | "graph" => some (.range '!' '~')
  | "lower" => some lower
  | "print" => some (.range ' ' '~')
  | "punct" => some ((CharSet.range '!' '~').diff (.unionAll [digit, upper, lower]))
  | "space" => some ((CharSet.range '\t' '\r').union (.one ' '))
  | "upper" => some upper
  | "word" => some (.unionAll [digit, upper, .one '_', lower])
  | "xdigit" => some hexDigits
  | _ => none

/-- An operation between sets. -/
inductive SetOperation where
  | inter
  | diff
  | symmDiff
deriving DecidableEq, Repr

namespace SetOperation

/-- The set that the operation makes. -/
def apply : SetOperation → CharSet → CharSet → CharSet
  | .inter => .inter
  | .diff => .diff
  | .symmDiff => .symmDiff

/-- The operation written by two equal characters. -/
def ofChar? : Char → Option SetOperation
  | '&' => some .inter
  | '-' => some .diff
  | '~' => some .symmDiff
  | _ => none

end SetOperation

/-- What is held by a bracket, or by one side of an operation in it. -/
structure Holding where
  set : CharSet
  /-- How many items it was written as. -/
  items : Nat
  /-- How deeply its items nest. -/
  depth : Nat
deriving DecidableEq, Repr

namespace Holding

/-- Nothing yet. -/
def nothing : Holding := ⟨.empty, 0, 0⟩

/-- One item more. -/
def add (held : Holding) (set : CharSet) (depth : Nat) : Holding :=
  ⟨held.set.union set, held.items + 1, max held.depth depth⟩

/-- How deeply the items nest, several of them making a union. -/
def nesting (held : Holding) : Nat := if held.items ≤ 1 then held.depth else held.depth + 1

end Holding

/-- An open bracket: what it holds so far, and the operation whose right side is being read. -/
structure OpenBracket where
  /-- The bracket stands for the complement of what it holds. -/
  negated : Bool
  /-- The operation, its left side and how deeply that nests. -/
  pending : Option (SetOperation × CharSet × Nat)
  /-- What was read since. -/
  held : Holding
deriving DecidableEq, Repr

namespace OpenBracket

/-- Holds one set more. -/
def hold (bracket : OpenBracket) (set : CharSet) (depth : Nat) : OpenBracket :=
  { bracket with held := bracket.held.add set depth }

/-- What the bracket holds, its operation carried out, and how deeply it nests. -/
def total (fold : Bool) (bracket : OpenBracket) : CharSet × Nat :=
  match bracket.pending with
  | none => (bracket.held.set, bracket.held.nesting)
  | some (operation, left, depth) =>
    (operation.apply (left.foldedIf fold) (bracket.held.set.foldedIf fold),
      max depth bracket.held.nesting + 1)

/-- Turns to the right side of an operation. -/
def operate (fold : Bool) (operation : SetOperation) (bracket : OpenBracket) : OpenBracket :=
  ⟨bracket.negated, some (operation, bracket.total fold), .nothing⟩

/-- The set that the closed bracket stands for, and how deeply it nests. -/
def close (fold : Bool) (bracket : OpenBracket) : CharSet × Nat :=
  let (set, depth) := bracket.total fold
  ((set.foldedIf fold).negatedIf bracket.negated, depth + 1)

end OpenBracket

/-- A POSIX name behind an opening bracket, `:alpha:]` or `:^alpha:]`, and what follows it. -/
def posixName? (fold : Bool) (pieces : List Piece) : Option (CharSet × List Piece) :=
  match pieces with
  | .bare ':' :: rest =>
    let negated := rest.head? == some (.bare '^')
    let rest := if negated then rest.drop 1 else rest
    let name := rest.takeWhile (· != .bare ':')
    match rest.drop name.length with
    | .bare ':' :: .bare ']' :: rest =>
      (posixClass? (String.ofList (name.filterMap Piece.char?))).bind fun set =>
        if name.all fun piece => piece matches .bare _ then
          some ((set.foldedIf fold).negatedIf negated, rest)
        else none
    | _ => none
  | _ => none

/-- A bracket behind its opening character, and what follows its first pieces: a leading `^` negates
it, leading hyphens and a closing bracket before anything else are themselves. -/
def openBracket (pieces : List Piece) : OpenBracket × List Piece :=
  let negated := pieces.head? == some (.bare '^')
  let pieces := if negated then pieces.drop 1 else pieces
  let hyphens := pieces.takeWhile (· == .bare '-')
  let pieces := pieces.drop hyphens.length
  let bracket : OpenBracket := ⟨negated, none, .nothing⟩
  let bracket := hyphens.foldl (fun bracket _ => bracket.hold (.one '-') 0) bracket
  match hyphens, pieces with
  | [], .bare ']' :: rest => (bracket.hold (.one ']') 0, rest)
  | _, _ => (bracket, pieces)

/-- The range between two pieces, or the set of the first, and what follows. -/
def rangeOrSet? (first : Piece) (pieces : List Piece) : Option (CharSet × List Piece) :=
  match pieces with
  | .bare '-' :: second :: rest =>
    if second == .bare ']' || second == .bare '-' then first.set?.map (·, pieces)
    else
      match first.char?, second.char? with
      | some low, some high => if low ≤ high then some (.range low high, rest) else none
      | _, _ => none
  | _ => first.set?.map (·, pieces)

/-- Reads pieces up to the end of the outermost of the open brackets, innermost first. Gives its set,
how deeply it nests, and what follows it. -/
def readBracket (fold : Bool) :
    Nat → OpenBracket → List OpenBracket → List Piece → Option (CharSet × Nat × List Piece)
  | 0, _, _, _ => none
  | fuel + 1, bracket, outer, pieces =>
    match pieces with
    | [] => none
    | .bare '[' :: rest =>
      match posixName? fold rest with
      | some (set, rest) => readBracket fold fuel (bracket.hold set 0) outer rest
      | none =>
        let (inner, rest) := openBracket rest
        readBracket fold fuel inner (bracket :: outer) rest
    | .bare ']' :: rest =>
      let (set, depth) := bracket.close fold
      match outer with
      | [] => some (set, depth, rest)
      | around :: outer => readBracket fold fuel (around.hold set depth) outer rest
    | piece :: rest =>
      let operation := piece.char?.bind SetOperation.ofChar?
      match operation, rest with
      | some operation, next :: others =>
        if piece == next && (piece matches .bare _) then
          readBracket fold fuel (bracket.operate fold operation) outer others
        else (rangeOrSet? piece rest).bind fun (set, rest) =>
          readBracket fold fuel (bracket.hold set 0) outer rest
      | _, _ => (rangeOrSet? piece rest).bind fun (set, rest) =>
          readBracket fold fuel (bracket.hold set 0) outer rest

/-- What a bracket stands for: its last part, to which a quantifier behind it belongs, and what stands
before that. -/
structure Bracket where
  before : Classical
  last : Classical
deriving DecidableEq, Repr

namespace Bracket

/-- The bracket with one part more behind it. -/
def add (bracket : Bracket) (part : Classical) : Bracket :=
  ⟨bracket.before.followedBy bracket.last, part⟩

/-- The bracket with its last part repeated. -/
def repeated (bracket : Bracket) (least : Nat) (most : Option Nat) (greedy : Bool) : Bracket :=
  { bracket with last := .many bracket.last least most greedy }

/-- The whole. -/
def whole (bracket : Bracket) : Classical := bracket.before.followedBy bracket.last

/-- What the pieces behind a bracket that closed early add to it. -/
def addPieces? (fold : Bool) : Nat → Bracket → List Piece → Option Bracket
  | 0, _, _ => none
  | _ + 1, bracket, [] => some bracket
  | fuel + 1, bracket, piece :: rest =>
    let lazily := rest.head? == some (.bare '?')
    let behind := if lazily then rest.drop 1 else rest
    match piece with
    | .bare '*' => addPieces? fold fuel (bracket.repeated 0 none !lazily) behind
    | .bare '+' => addPieces? fold fuel (bracket.repeated 1 none !lazily) behind
    | .bare '?' => addPieces? fold fuel (bracket.repeated 0 (some 1) !lazily) behind
    | .bare '^' => addPieces? fold fuel (bracket.add (.edge .textStart)) rest
    | .bare '$' => addPieces? fold fuel (bracket.add (.edge .textEnd)) rest
    | .bare '.' => addPieces? fold fuel (bracket.add (.set (CharSet.one '\n').complement)) rest
    | .bare '[' =>
      let (inner, others) := openBracket rest
      (readBracket fold (rest.length + 2) inner [] others).bind fun (set, _, rest) =>
        addPieces? fold fuel (bracket.add (.set set)) rest
    | piece =>
      if [.bare '(', .bare ')', .bare '|', .bare '\x7b'].contains piece then none
      else piece.set?.bind fun set =>
        addPieces? fold fuel (bracket.add (.set (set.foldedIf fold))) rest

end Bracket

/-- What a bracket stands for, its opening character left out, if it makes sense. -/
def bracket? (fold : Bool) (pieces : List Piece) : Option Bracket := do
  let (bracket, rest) := openBracket pieces
  let (set, depth, rest) ← readBracket fold (pieces.length + 1) bracket [] rest
  if depth ≤ Classical.maxNesting then
    Bracket.addPieces? fold (rest.length + 1) ⟨.empty, .set set⟩ rest
  else none

end Redirects.Regex
