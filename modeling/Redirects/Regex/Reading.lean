import Redirects.Regex.Escaped

/-!
# Reading a pattern

A pattern is a choice of branches, a branch is a sequence of parts, and a part is an atom with at
most one quantifier. Groups hold patterns again, down to a fixed depth; `readPattern` is recursive
in the depth that is left.
-/

namespace Redirects.Regex

open Unicode (CharSet)

namespace Reader

/-- How often a quantifier repeats, and what follows it. -/
structure Count where
  least : Nat
  most : Option Nat
  /-- Byte position of the quantifier's last character. -/
  lastPosition : Nat
  rest : List Char

/-- Past blanks inside braces. -/
def braceBlanks? (spaced : Bool) (text : List Char) (position : Nat) : Option (List Char × Nat) :=
  (pastBlanks spaced (text.length + 1) text position).toOption

/-- The greatest number of a count, which sets no bound. -/
def noBound : Nat := UInt64.size - 1

/-- An upper bound as it is written. -/
def bound? (written : Option Nat) : Option Nat := if written == some noBound then none else written

/-- The count written behind an opening brace: `n`, `n,`, `n,m`, `,m` or a comma alone. -/
def braceCount? (spaced : Bool) (text : List Char) (position : Nat) : Option Count := do
  let number? (text : List Char) (position : Nat) : Option Nat × List Char × Nat :=
    match decimal? text with
    | some (value, rest) => (some value, rest, position + (text.length - rest.length))
    | none => (none, text, position)
  let (text, position) ← braceBlanks? spaced text position
  let (low, text, position) := number? text position
  if low.isNone && text.head? != some ',' then none
  let least := low.getD 0
  let (text, position) ← braceBlanks? spaced text position
  match text with
  | '\x7d' :: rest => some ⟨least, bound? least, position, rest⟩
  | ',' :: rest => do
    let (text, position) ← braceBlanks? spaced rest (position + 1)
    let (most, text, position) := number? text position
    let (text, position) ← braceBlanks? spaced text position
    match text with
    | '\x7d' :: rest => some ⟨least, bound? most, position, rest⟩
    | _ => none
  | _ => none

/-- The count of the quantifier at the front, if there is one. -/
def count? (cursor : Cursor) : Option Count :=
  match cursor.rest with
  | '?' :: rest => some ⟨0, some 1, cursor.position, rest⟩
  | '*' :: rest => some ⟨0, none, cursor.position, rest⟩
  | '+' :: rest => some ⟨1, none, cursor.position, rest⟩
  | '\x7b' :: rest => braceCount? cursor.flags.spaced rest (cursor.position + 1)
  | _ => none

/-- A named group behind its opening, whose question mark stands at the given position. -/
def namedGroup (nested : Reader Term) (start : Nat) : Reader Term := do
  let number ← openGroup
  match delimitedName? ['<'] ['>'] false (← left) with
  | none => failAt start .badGroupName
  | some (name, _) =>
    skip (name.length + 2)
    modify fun cursor => { cursor with names := (String.ofList name, number) :: cursor.names }
    let inner ← nested
    closeGroup
    return .group number inner

/-- Sets or clears the flag of a letter; nothing if there is no such flag. -/
def switched? (flags : Flags) (letter : Char) (on : Bool) : Option Flags :=
  match letter with
  | 'i' => some { flags with fold := on }
  | 'm' => some { flags with multiline := on }
  | 's' => some { flags with dotAll := on }
  | 'U' => some { flags with swapped := on }
  | 'x' => some { flags with spaced := on }
  | 'u' => if on then some flags else none
  | _ => none

/-- Flags behind the question mark of a group: up to a closing parenthesis they hold from there on,
and up to a colon for the group alone. `opened` is the text behind the question mark, `start` its
position, and `negated` says that a hyphen was read. -/
def flagGroup (nested : Reader Term) (opened : List Char) (start : Nat) (outside : Flags) :
    Nat → Bool → Reader Term
  | 0, _ => fail .unclosedGroup
  | fuel + 1, negated => do
    blanks
    let cursor ← get
    let here := cursor.position
    let unknown : Reader Term :=
      let shown := opened.take (opened.length - cursor.rest.length + 1)
      failAt start (.unknownFlag (String.ofList ('(' :: '?' :: shown)))
    let hyphenAlone := negated && here == start + 1
    match cursor.rest with
    | [] => fail .unclosedGroup
    | '-' :: _ =>
      if negated then unknown
      else
        skip 1
        flagGroup nested opened start outside fuel true
    | ')' :: _ =>
      if here == start || hyphenAlone then unknown
      else
        skip 1
        return .empty
    | ':' :: _ =>
      if hyphenAlone then unknown
      else
        skip 1
        let inner ← nested
        closeGroup
        modify fun cursor => { cursor with flags := outside }
        return .scope inner
    | letter :: _ =>
      match switched? cursor.flags letter (!negated) with
      | some flags =>
        set { cursor with flags }
        skip 1
        flagGroup nested opened start outside fuel negated
      | none => if letter == 'u' then fail .alwaysUnicode else unknown

/-- A conditional behind its opening: a condition, the branch taken if it holds, and possibly the
branch taken if it does not. -/
def conditional (nested : Reader Term) : Reader Term := do
  let text ← left
  let condition ← match text with
    | [] => fail .unclosedGroup
    | c :: _ =>
      if c.isDigit then numberedReference
      else if c == '\'' then namedReference ['\''] ['\''] true
      else if c == '<' then namedReference ['<'] ['>'] true
      else nested
  closeGroup
  let before ← position
  let branches ← nested
  let test : Term := match condition.bare with
    | .again number => .entered number
    | _ => condition
  if (← position) == before then
    if let .again _ := condition.bare then
      closeGroup
      return test
    else fail .expectedBranch
  else
    closeGroup
    let (yes, no) : Term × Term := match branches.bare with
      | .alt yes no => (yes, no)
      | term => (term, .empty)
    return if yes.isBlank && no.isBlank then test else .choose test yes no

/-- A group from its opening parenthesis on. -/
def group (nested : Reader Term) : Reader Term := do
  skip 1
  blanks
  let start ← position
  let text ← left
  let look (taken : Nat) (ahead wanted : Bool) : Reader Term := do
    skip taken
    let inner ← nested
    closeGroup
    return .look ahead wanted inner
  match text with
  | '?' :: '=' :: _ => look 2 true true
  | '?' :: '!' :: _ => look 2 true false
  | '?' :: '<' :: '=' :: _ => look 3 false true
  | '?' :: '<' :: '!' :: _ => look 3 false false
  | '?' :: '<' :: _ =>
    skip 1
    namedGroup nested start
  | '?' :: 'P' :: '<' :: _ =>
    skip 2
    namedGroup nested start
  | '?' :: 'P' :: '=' :: _ =>
    skip 3
    namedReference [] [')'] false
  | '?' :: '>' :: _ =>
    skip 2
    let inner ← nested
    closeGroup
    return .atomic inner
  | '?' :: '(' :: _ =>
    skip 2
    conditional nested
  | '?' :: opened =>
    skip 1
    flagGroup nested opened (start + 1) (← flags) (opened.length + 1) false
  | _ =>
    let number ← openGroup
    let inner ← nested
    closeGroup
    return .group number inner

/-- One atom. Where a quantifier, a bar or a closing parenthesis stands, nothing is taken. -/
def atom (group : Reader Term) : Reader Term := do
  blanks
  let flags ← flags
  match ← left with
  | [] => return .empty
  | '.' :: _ =>
    skip 1
    return .set (if flags.dotAll then .all else (CharSet.one '\n').complement)
  | '^' :: _ =>
    skip 1
    return .edge (if flags.multiline then .lineStart else .textStart)
  | '$' :: _ =>
    skip 1
    return .edge (if flags.multiline then .lineEnd else .textEnd)
  | '(' :: _ => group
  | '[' :: _ => bracket
  | '\\' :: _ =>
    match ← escape false with
    | .char fold c => return .char fold c
    | .set members => return .set members
    | .hexDigit negated => return .set (hexDigits.negatedIf negated)
    | .unreadable => return .unreadable
    | .term term =>
      if let .again number := term then
        modify fun cursor => { cursor with referred := number :: cursor.referred }
      return term
  | c :: _ =>
    if c == '+' || c == '*' || c == '?' || c == '|' || c == ')' then return .empty
    else
      skip 1
      return .char flags.fold c

/-- One atom with its quantifier. -/
def part (group : Reader Term) : Reader Term := do
  let term ← atom group
  blanks
  match count? (← get) with
  | none => return term
  | some count =>
    if !term.repeatable then failAt count.lastPosition .badRepeat
    moveTo count.rest (count.lastPosition + 1)
    blanks
    let marked ← accept '?'
    let greedy := marked == (← flags).swapped
    let repeated : Term := .many term count.least count.most greedy
    if ← accept '+' then return .atomic repeated else return repeated

/-- The parts of a branch, as long as each takes something. -/
def parts (group : Reader Term) : Nat → Reader (List Term)
  | 0 => return []
  | fuel + 1 => do
    let before ← position
    if (← left).isEmpty then return []
    let term ← part group
    if (← position) == before then return []
    let terms ← parts group fuel
    return if term.isBlank then terms else term :: terms

/-- One branch of at most so many parts. -/
def branch (group : Reader Term) (length : Nat) : Reader Term := do
  return Term.inSequence (← parts group length)

/-- The branches behind bars, each of at most so many parts. -/
def branches (group : Reader Term) (length : Nat) : Nat → Reader (List Term)
  | 0 => return []
  | fuel + 1 => do
    if ← accept '|' then
      let term ← branch group length
      blanks
      return term :: (← branches group length fuel)
    else return []

/-- A choice of branches. -/
def choice (group : Reader Term) : Reader Term := do
  let length := (← left).length + 1
  let first ← branch group length
  blanks
  let others ← branches group length length
  let cursor ← get
  if others.isEmpty && cursor.numbered && !cursor.names.isEmpty then
    throw .numberedAmongNamed
  return Term.inChoice first others

/-- A pattern whose groups nest to at most the given depth. -/
def pattern : Nat → Reader Term
  | 0 => choice (fail .tooDeep)
  | depth + 1 => choice (group (pattern depth))

end Reader

/-- The depth to which groups may nest. -/
def maxDepth : Nat := 63

/-- A pattern that was read: its tree, the number of its groups, and the groups that escapes refer
to. -/
structure Written where
  term : Term
  groups : Nat
  referred : List Nat
deriving DecidableEq, Repr

/-- Reads a whole pattern. -/
def readPattern (text : List Char) : Except Fault Written := do
  let (term, cursor) ← (Reader.pattern maxDepth).run { rest := text }
  if cursor.rest.isEmpty then return ⟨term, cursor.groups, cursor.referred⟩
  else .error (.writing cursor.position .leftover)

end Redirects.Regex
