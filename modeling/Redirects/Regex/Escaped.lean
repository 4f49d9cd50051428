import Redirects.Regex.Bracket
import Redirects.Regex.Cursor
import Redirects.Regex.PropertyName
import Redirects.Regex.Term

/-!
# Escapes and brackets

Reads what a backslash introduces, and a bracket up to its end.
-/

namespace Redirects.Regex

open Unicode (CharSet)

/-- What an escape stands for. -/
inductive Escaped where
  /-- One character, in either case if the flag says so. -/
  | char (fold : Bool) (c : Char)
  | set (members : CharSet)
  /-- A hexadecimal digit, or any other character. -/
  | hexDigit (negated : Bool)
  /-- A property that there is not. -/
  | unreadable
  /-- Something that makes no sense inside a bracket. -/
  | term (term : Term)

namespace Reader

/-- The decimal number at the front of a text, if it fits in a machine word. -/
def decimal? (text : List Char) : Option (Nat × List Char) :=
  let digits := text.takeWhile Char.isDigit
  let value := digits.foldl (fun value c => 10 * value + (c.toNat - '0'.toNat)) 0
  if digits.isEmpty || value ≥ UInt64.size then none else some (value, text.drop digits.length)

/-- A reference to a group by number, which must not exceed half the length of the pattern. -/
def numberedReference : Reader Term := do
  let cursor ← get
  match decimal? cursor.rest with
  | none => fail .badReference
  | some (number, rest) =>
    let digits := cursor.rest.length - rest.length
    if number < (cursor.position + Text.byteLength cursor.rest) / 2 then
      set { cursor with rest, position := cursor.position + digits, numbered := true }
      return .again number
    else fail .badReference

/-- A character of a group name. -/
def isNameChar (c : Char) : Bool := Unicode.isAlphanumeric c || c == '_'

/-- The name between an opening and a closing text, and what follows. A relative name is a hyphen
and digits. -/
def delimitedName? (opening closing : List Char) (relative : Bool) (text : List Char) :
    Option (List Char × List Char) :=
  if !opening.isPrefixOf text then none
  else
    let text := text.drop opening.length
    let name :=
      if relative && text.head? == some '-' then '-' :: (text.drop 1).takeWhile Char.isDigit
      else text.takeWhile isNameChar
    let rest := text.drop name.length
    if name.isEmpty || !closing.isPrefixOf rest then none
    else some (name, rest.drop closing.length)

/-- The group that a reference by name means: the latest of that name, or the group with that
number, counted back from the next group if it is negative. -/
def groupNamed? (cursor : Cursor) (name : List Char) : Option Nat :=
  match cursor.names.find? (·.1 == String.ofList name) with
  | some (_, number) => some number
  | none =>
    match name with
    | '-' :: digits =>
      match decimal? digits with
      | some (back, []) =>
        if back ≤ Nat.pow 2 63 && back ≤ cursor.groups + 1 then
          some (if back = 0 then 0 else cursor.groups + 1 - back)
        else none
      | _ => none
    | digits =>
      match decimal? digits with
      | some (number, []) => if number < Nat.pow 2 63 then some number else none
      | _ => none

/-- A reference to a group by name. -/
def namedReference (opening closing : List Char) (relative : Bool) : Reader Term := do
  let cursor ← get
  match delimitedName? opening closing relative cursor.rest with
  | none => fail .badGroupName
  | some (name, rest) =>
    match groupNamed? cursor name with
    | none => fail (.unknownGroup (String.ofList name))
    | some number =>
      skip (cursor.rest.length - rest.length)
      return .again number

/-- The character of a hexadecimal escape behind its letter: as many digits as the letter asks for,
or up to eight between braces. -/
def hexChar (count : Nat) : Reader Escaped := do
  let text ← left
  let isHex (c : Char) : Bool := (Text.hexDigit? c).isSome
  let plain := text.take count
  let braced := (text.drop 1).takeWhile isHex
  let finish (digits : List Char) (taken : Nat) : Reader Escaped := do
    let value := (Text.ofHex? digits).getD 0
    if value.isValidChar then
      let flags ← flags
      skip taken
      return .char flags.fold (Char.ofNat value)
    else fail .badCodepoint
  if plain.length == count && plain.all isHex then finish plain count
  else if text.head? == some '\x7b' && !braced.isEmpty && braced.length ≤ 8 &&
      text[braced.length + 1]? == some '\x7d' then finish braced (braced.length + 2)
  else fail .badHex

/-- The set of a property escape behind its letter, which stands at the given position. -/
def propertySet (start : Nat) (negated : Bool) : Reader Escaped := do
  let flags ← flags
  let shape (named : Option NamedSet) : Escaped :=
    match named with
    | some named => .set ((named.set.foldedIf flags.fold).negatedIf (named.negated != negated))
    | none => .unreadable
  match ← left with
  | '\x7b' :: rest =>
    let name := rest.takeWhile (· != '\x7d')
    if name.length == rest.length then failAt start .unclosedProperty
    else
      skip (name.length + 2)
      return shape (namedSet? name)
  | letter :: _ =>
    skip 1
    return shape ((bareName? (plainName [letter])).map (⟨·, false⟩))
  | [] => failAt start .unclosedProperty

/-- The character that an escaped letter stands for, where it is a control character. -/
def controlChar? : Char → Option Char
  | 'a' => some '\x07'
  | 'b' => some '\x08'
  | 'f' => some '\x0c'
  | 'n' => some '\n'
  | 'r' => some '\r'
  | 't' => some '\t'
  | 'v' => some '\x0b'
  | 'e' => some '\x1b'
  | _ => none

/-- The place or the deed that an escaped character asks for outside brackets. -/
def placeEscape? : Char → Option Term
  | 'A' => some (.edge .textStart)
  | 'z' => some (.edge .textEnd)
  | 'b' => some (.edge .wordEdge)
  | 'B' => some (.edge .noWordEdge)
  | '<' => some (.edge .wordStart)
  | '>' => some (.edge .wordEnd)
  | 'K' => some .restart
  | 'G' => some .resume
  | _ => none

/-- The set that an escaped letter stands for. -/
def classEscape? : Char → Option Escaped
  | 'd' => some (.set Unicode.Category.decimalNumber.set)
  | 'D' => some (.set Unicode.Category.decimalNumber.set.complement)
  | 's' => some (.set Unicode.whiteSpace)
  | 'S' => some (.set Unicode.whiteSpace.complement)
  | 'w' => some (.set Unicode.word)
  | 'W' => some (.set Unicode.word.complement)
  | 'h' => some (.hexDigit false)
  | 'H' => some (.hexDigit true)
  | _ => none

/-- The escaped letters that are themselves inside brackets. -/
def plainInBracket (c : Char) : Bool := ['k', 'A', 'z', 'B', 'K', 'G'].contains c

/-- Reads an escape from its backslash on. -/
def escape (inBracket : Bool) : Reader Escaped := do
  let start ← position
  let text ← left
  match text.drop 1 with
  | [] => failAt start .loneBackslash
  | c :: rest =>
    if c.isDigit then
      skip 1
      return .term (← numberedReference)
    else if c == 'k' && !inBracket then
      skip 2
      if rest.head? == some '\'' then return .term (← namedReference ['\''] ['\''] true)
      else return .term (← namedReference ['<'] ['>'] true)
    else if (c == 'b' || c == 'B') && !inBracket && rest.head? == some '\x7b' then
      failAt start (.badEscape (String.ofList ['\\', c]))
    else if let (some term, false) := (placeEscape? c, inBracket) then
      skip 2
      return .term term
    else if let some escaped := classEscape? c then
      skip 2
      return escaped
    else if c == 'x' then
      skip 2
      hexChar 2
    else if c == 'u' then
      skip 2
      hexChar 4
    else if c == 'U' then
      skip 2
      hexChar 8
    else if (c == 'p' || c == 'P') && !rest.isEmpty then
      skip 2
      propertySet start (c == 'P')
    else if let some control := controlChar? c then
      skip 2
      return .char false control
    else if c.isAlpha && !(inBracket && plainInBracket c) then
      failAt start (.badEscape (String.ofList ['\\', c]))
    else
      skip 2
      return .char false c

/-- The characters that have a meaning of their own in some place of a pattern. -/
def hasMeaning (c : Char) : Bool :=
  ['\\', '.', '+', '*', '?', '(', ')', '|', '[', ']', '\x7b', '\x7d', '^', '$', '#', '&', '-',
    '~'].contains c

/-- An escaped character as a piece of a bracket. -/
def quotedPiece (c : Char) : Piece := if hasMeaning c then .quoted c else .bare c

/-- The pieces that write a bracket of hexadecimal digits, or of all other characters. -/
def hexPieces (negated : Bool) : List Piece :=
  (if negated then ['[', '^'] else ['[']).map .bare ++
    ['0', '-', '9', 'A', '-', 'F', 'a', '-', 'f', ']'].map .bare

/-- The pieces of a bracket up to the end of the outermost of the open ones. -/
def bracketPieces : Nat → Nat → Reader (List Piece)
  | 0, _ => fail .badBracket
  | fuel + 1, depth => do
    match ← left with
    | [] => fail .badBracket
    | '\\' :: _ =>
      let start ← position
      let pieces ← match ← escape true with
        | .char _ c => pure [quotedPiece c]
        | .set members => pure [Piece.set members]
        | .hexDigit negated => pure (hexPieces negated)
        | .unreadable => pure [Piece.unreadable]
        | .term _ => failAt start .badBracket
      return pieces ++ (← bracketPieces fuel depth)
    | '[' :: _ =>
      skip 1
      return .bare '[' :: (← bracketPieces fuel (depth + 1))
    | ']' :: _ =>
      skip 1
      if depth ≤ 1 then return [.bare ']']
      else return .bare ']' :: (← bracketPieces fuel (depth - 1))
    | c :: _ =>
      skip 1
      return .bare c :: (← bracketPieces fuel depth)

/-- Reads a bracket from its opening character on. A closing bracket that stands first closes
nothing. -/
def bracket : Reader Term := do
  let flags ← flags
  skip 1
  let negation ← if ← accept '^' then pure [Piece.bare '^'] else pure []
  let first ← if ← accept ']' then pure [Piece.bare ']'] else pure []
  let pieces ← bracketPieces ((← left).length + 1) 1
  match bracket? flags.fold (negation ++ first ++ pieces) with
  | some reading => return .bracket reading
  | none => return .unreadable

end Reader

end Redirects.Regex
