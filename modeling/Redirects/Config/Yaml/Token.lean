import Redirects.Config.Yaml.Text

/-!
# Tokens

The marks, names, tags and texts of a document. A key on one line shows only behind it, by its colon;
its mark goes before it then. The starts and ends of collections that are told by columns are tokens
of their own.
-/

namespace Redirects.Yaml

/-- A token of a document. -/
inductive Token where
  /-- The version that the document says it has. -/
  | version
  /-- A handle for tags, and what it stands for. -/
  | handle (name expansion : String)
  | documentStart
  | documentEnd
  | listStart
  | tableStart
  /-- The end of a collection that is told by columns. -/
  | blockEnd
  | flowListStart
  | flowListEnd
  | flowTableStart
  | flowTableEnd
  | dash
  | comma
  | key
  | value
  /-- A name for the node behind it. -/
  | name (name : String)
  /-- The node of a name once more. -/
  | again (name : String)
  | tag (handle suffix : String)
  | scalar (plain : Bool) (text : List Char)
deriving DecidableEq, Repr

/-- A column at which a collection stands, and whether its end is marked. -/
structure Indent where
  column : Int
  marked : Bool
deriving DecidableEq, Repr

/-- The last place at which a key on one line can have started. -/
structure KeyStart where
  possible : Bool := false
  /-- Nothing else but a key can stand there. -/
  required : Bool := false
  /-- How many tokens there are before it. -/
  token : Nat := 0
  index : Nat := 0
  line : Nat := 0
  column : Nat := 0
deriving DecidableEq, Repr

/-- A document of which a part was read. -/
structure Scan where
  place : Place
  tokens : Array Token := #[]
  /-- The column of the last name or tag. -/
  markColumn : Nat := 0
  /-- A key on one line may start here. -/
  keyAllowed : Bool := true
  /-- The latest start of a key for every open bracket, innermost first, and outside of brackets. -/
  keys : List KeyStart := [{}]
  /-- The column of the innermost collection. -/
  indent : Int := -1
  /-- The columns around it, innermost first. Each is kept with whether the end of the collection
  inside it is marked. -/
  outer : List Indent := []
  /-- The number of open brackets. -/
  depth : Nat := 0
  /-- A table was opened by its bracket or its mark, and no pair without brackets was closed since. -/
  tableOpened : Bool := false
  /-- For every open list in brackets, whether a pair without brackets is open in it. -/
  pairs : List Bool := []
  /-- The index at which a colon needs no blank behind it. -/
  freeColon : Nat := 0

/-- Reads a document on. -/
abbrev Scanning := StateT Scan Option

namespace Scanning

/-- Changes the place. -/
def onPlace (change : Place → Place) : Scanning Unit :=
  modify fun scan => { scan with place := change scan.place }

/-- Adds a token. -/
def push (token : Token) : Scanning Unit :=
  modify fun scan => { scan with tokens := scan.tokens.push token }

/-- Allows or forbids a key on one line. -/
def allowKey (allowed : Bool) : Scanning Unit := modify fun scan => { scan with keyAllowed := allowed }

/-- The character at the place. -/
def peek : Scanning (Option Char) := return (← get).place.rest.head?

/-- Passes over blanks and a comment. Tells whether there were spaces and tabs. -/
def passGap (tabs : Bool) : Scanning (Bool × Bool) := do
  let (place, found) ← StateT.lift ((← get).place.passGap? tabs)
  modify fun scan => { scan with place }
  return found

/-- The latest start of a key. -/
def lastKey : Scanning KeyStart := return (← get).keys.headD {}

/-- Changes the latest start of a key. -/
def setLastKey (key : KeyStart) : Scanning Unit :=
  modify fun scan => { scan with keys := key :: scan.keys.drop 1 }

/-- Remembers that a key can start here. -/
def saveKey : Scanning Unit := do
  let scan ← get
  if scan.keyAllowed then
    let place := scan.place
    let required := scan.depth = 0 && scan.indent = place.column && scan.outer.head?.any (·.marked)
    setLastKey ⟨true, required, scan.tokens.size, place.index, place.line, place.column⟩

/-- No key started at the place that was remembered last. -/
def dropKey : Scanning Unit := do
  let key ← lastKey
  if key.possible && key.required then failure
  else setLastKey { key with possible := false }

/-- The longest key on one line. -/
def maxKey : Nat := 1024

/-- Forgets the starts of keys that would be too long, or end on another line. -/
def dropOldKeys : Scanning Unit := do
  let scan ← get
  let isOld (key : KeyStart) : Bool :=
    key.possible && scan.depth = 0 &&
      (key.line < scan.place.line || key.index + maxKey < scan.place.index)
  if scan.keys.any fun key => isOld key && key.required then failure
  else
    set { scan with
      keys := scan.keys.map fun key => if isOld key then { key with possible := false } else key }

/-- Leaves the collections that stand further in than a column. -/
def closeBlocks (column : Int) : Scanning Unit :=
  modify fun scan => if 0 < scan.depth then scan else close scan scan.outer
where
  close (scan : Scan) : List Indent → Scan
    | [] => scan
    | around :: outer =>
      if scan.indent ≤ column then scan
      else
        let tokens := if around.marked then scan.tokens.push .blockEnd else scan.tokens
        close { scan with tokens, indent := around.column, outer } outer

/-- Enters a collection at a column, unless it is open already. Its mark goes before the tokens from
the given one on. -/
def openBlock (column token : Nat) (mark : Token) : Scanning Unit :=
  modify fun scan =>
    if 0 < scan.depth then scan
    else
      let scan :=
        match scan.outer with
        | around :: outer =>
          if scan.indent ≤ (column : Int) && !around.marked then
            { scan with indent := around.column, outer }
          else scan
        | [] => scan
      if scan.indent < (column : Int) then
        { scan with
          outer := ⟨scan.indent, true⟩ :: scan.outer
          indent := (column : Int)
          tokens := scan.tokens.insertIdxIfInBounds token mark }
      else scan

/-- What follows stands one column further in than the collection. -/
def indentByOne : Scanning Unit :=
  modify fun scan =>
    if scan.depth = 0 && scan.outer.head?.any (·.marked) then
      { scan with outer := ⟨scan.indent, false⟩ :: scan.outer, indent := scan.indent + 1 }
    else scan

/-- What follows need not stand one column further in. -/
def undoIndents : Scanning Unit :=
  modify fun scan => undo scan scan.outer
where
  undo (scan : Scan) : List Indent → Scan
    | [] => scan
    | around :: outer =>
      if around.marked then scan else undo { scan with indent := around.column, outer } outer

/-- Goes on to the next thing that is no blank, comment or end of a line. A line in a collection whose
start is moved in by a tab must be empty. -/
def goOn : Nat → Scanning Unit
  | 0 => failure
  | fuel + 1 => do
    let scan ← get
    let place := scan.place
    match place.rest with
    | [] => return
    | c :: _ =>
      if c == '\t' && !scan.outer.isEmpty && place.leading && (place.column : Int) < scan.indent then
        let _ ← passGap true
        if endsLine (← get).place.rest then goOn fuel else failure
      else if isBlank c then
        onPlace (·.passBlanks 1)
        goOn fuel
      else if isBreak c then
        onPlace Place.passBreak
        if scan.depth = 0 then allowKey true
        goOn fuel
      else if c == '#' then
        onPlace Place.passLine
        goOn fuel
      else return

/-! ## Documents and directives -/

/-- The end of the text. -/
def atEnd : Scanning Unit := do
  if (← get).keys.any fun key => key.required && key.possible then failure
  modify fun scan => { scan with keys := scan.keys.map ({ · with possible := false }) }
  closeBlocks (-1)

/-- A mark that starts or ends a document. -/
def documentMark (token : Token) : Scanning Unit := do
  closeBlocks (-1)
  dropKey
  allowKey false
  onPlace (·.pass 3)
  push token
  if token == .documentEnd then
    let _ ← passGap true
    if !endsLine (← get).place.rest then failure

/-- A letter of a handle or of the name of a directive. -/
def isWordChar (c : Char) : Bool := c.isAlphanum || c == '_' || c == '-'

/-- Takes the characters at the front that meet a condition. -/
def takeWhile (condition : Char → Bool) : Scanning (List Char) := do
  let taken := (← get).place.rest.takeWhile condition
  onPlace (·.pass taken.length)
  return taken

/-- The value of the octet that two hexadecimal digits behind a percent sign write. -/
def octet? : List Char → Option Nat
  | '%' :: high :: low :: _ => Text.ofHex? [high, low]
  | _ => none

/-- The character whose octets are written behind percent signs, and how many there are. -/
def percentChar? (text : List Char) : Option (Char × Nat) := do
  let first ← octet? text
  let (count, start) ←
    if first < 0x80 then some (1, first)
    else if 0xc0 ≤ first && first < 0xe0 then some (2, first - 0xc0)
    else if 0xe0 ≤ first && first < 0xf0 then some (3, first - 0xe0)
    else if 0xf0 ≤ first && first < 0xf8 then some (4, first - 0xf0)
    else none
  let code ← (List.range (count - 1)).foldlM
    (fun code i => do
      let octet ← octet? (text.drop (3 * (i + 1)))
      if 0x80 ≤ octet && octet < 0xc0 then some (code * 64 + (octet - 0x80)) else none)
    start
  if code.isValidChar then some (Char.ofNat code, count) else none

/-- A character of an address. -/
def isAddressChar (c : Char) : Bool :=
  c.isAlphanum || c == '-' || "#;/?:@&=+$,_.!~*'()[]%".toList.contains c

/-- The characters of an address at the front that meet a condition. -/
def address (condition : Char → Bool) : Nat → Scanning (List Char)
  | 0 => return []
  | fuel + 1 => do
    match (← get).place.rest with
    | [] => return []
    | c :: rest =>
      if !(isAddressChar c && condition c) then return []
      else if c == '%' then
        let (decoded, count) ← StateT.lift (percentChar? (c :: rest))
        onPlace (·.pass (3 * count))
        return decoded :: (← address condition fuel)
      else
        onPlace (·.pass 1)
        return c :: (← address condition fuel)

/-- A handle with its exclamation marks. -/
def tagHandle : Scanning (List Char) := do
  if (← peek) != some '!' then failure
  onPlace (·.pass 1)
  let word ← takeWhile isWordChar
  if (← peek) == some '!' then
    onPlace (·.pass 1)
    return '!' :: word ++ ['!']
  else return '!' :: word

/-- The number of a version. -/
def versionNumber : Scanning Unit := do
  let digits ← takeWhile Char.isDigit
  if digits.isEmpty || 9 < digits.length then failure

/-- What a directive says, behind its name. -/
def directiveValue (name : List Char) : Scanning Token := do
  if name == "YAML".toList then
    let _ ← takeWhile isBlank
    versionNumber
    if (← peek) != some '.' then failure
    onPlace (·.pass 1)
    versionNumber
    return .version
  else if name == "TAG".toList then
    let _ ← takeWhile isBlank
    let handle ← tagHandle
    if handle.getLast? != some '!' then failure
    let _ ← takeWhile isBlank
    let expansion ← address (fun _ => true) (← get).place.rest.length
    if expansion.isEmpty || !endsWord (← get).place.rest then failure
    return .handle (String.ofList handle) (String.ofList expansion)
  else
    onPlace Place.passLine
    return .handle "" ""

/-- A directive. -/
def directive : Scanning Unit := do
  closeBlocks (-1)
  dropKey
  allowKey false
  onPlace (·.pass 1)
  let name ← takeWhile isWordChar
  if name.isEmpty || !endsWord (← get).place.rest then failure
  let token ← directiveValue name
  let _ ← passGap true
  if !endsLine (← get).place.rest then failure
  onPlace Place.passBreak
  push token

/-! ## Names, tags and texts -/

/-- A letter of a name. -/
def isNameChar (c : Char) : Bool := !isBlank c && !isBreak c && !isFlowMark c && c != '\ufeff'

/-- The name of a node, or a node once more. -/
def name (again : Bool) : Scanning Unit := do
  saveKey
  allowKey false
  modify fun scan => { scan with markColumn := scan.place.column }
  onPlace (·.pass 1)
  let word ← takeWhile isNameChar
  if word.isEmpty then failure
  push (if again then .again (String.ofList word) else .name (String.ofList word))

/-- A tag behind nothing but its handle and its suffix. -/
def tagParts : Scanning (List Char × List Char) := do
  let length := (← get).place.rest.length
  let isSuffixChar (c : Char) : Bool := !isFlowMark c && c != '!'
  if (← get).place.rest[1]? == some '<' then
    onPlace (·.pass 2)
    let suffix ← address (fun _ => true) length
    if (← peek) != some '>' then failure
    onPlace (·.pass 1)
    return ([], suffix)
  else
    let handle ← tagHandle
    let suffix ← address isSuffixChar length
    if 2 ≤ handle.length && handle.getLast? == some '!' then
      if suffix.isEmpty then failure else return (handle, suffix)
    else
      let suffix := handle.drop 1 ++ suffix
      return if suffix.isEmpty then ([], ['!']) else (['!'], suffix)

/-- A tag. -/
def tag : Scanning Unit := do
  saveKey
  allowKey false
  modify fun scan => { scan with markColumn := scan.place.column }
  let (handle, suffix) ← tagParts
  let scan ← get
  if endsWord scan.place.rest || (0 < scan.depth && scan.place.rest.head?.any isFlowMark) then
    push (.tag (String.ofList handle) (String.ofList suffix))
  else failure

/-- A text in quotes. On its line only a colon, a comma or a bracket may follow it. -/
def quotedScalar (quote : Char) : Scanning Unit := do
  saveKey
  allowKey false
  let scan ← get
  let start := scan.place
  let (text, place) ← StateT.lift
    (quotedText? quote scan.indent (start.rest.length + 1) (start.pass 1))
  modify fun scan => { scan with place }
  let _ ← passGap true
  let place := (← get).place
  let sound :=
    match place.rest with
    | [] => true
    | c :: _ =>
      isBreak c || (0 < scan.depth && [',', ']', '\x7d', ':'].contains c) ||
        (c == ':' && start.line = place.line)
  if !sound then failure
  goOn (place.rest.length + 1)
  modify fun scan => { scan with freeColon := scan.place.index }
  push (.scalar false text)

/-- A text without quotes. -/
def plainScalar : Scanning Unit := do
  saveKey
  allowKey false
  undoIndents
  let scan ← get
  let indent := scan.indent + 1
  if 0 < scan.depth && (scan.place.column : Int) < indent then failure
  let (text, place) ← StateT.lift (plainText? (0 < scan.depth) indent scan.place)
  if text.isEmpty then failure
  modify fun scan => { scan with place, keyAllowed := place.leading }
  push (.scalar true text)

/-- A text in a block. -/
def blockScalar (folded : Bool) : Scanning Unit := do
  saveKey
  allowKey true
  onPlace (·.pass 1)
  undoIndents
  let scan ← get
  let (text, place) ← StateT.lift (blockText? folded scan.indent scan.place)
  modify fun scan => { scan with place }
  push (.scalar false text)

/-! ## Collections -/

/-- The greatest number of open brackets. -/
def maxDepth : Nat := 255

/-- A bracket that opens a list or a table. -/
def flowStart (token : Token) : Scanning Unit := do
  saveKey
  indentByOne
  if maxDepth ≤ (← get).depth then failure
  modify fun scan => { scan with keys := {} :: scan.keys, depth := scan.depth + 1 }
  allowKey true
  onPlace (·.pass 1)
  modify fun scan =>
    if token == .flowTableStart then { scan with tableOpened := true }
    else { scan with pairs := false :: scan.pairs }
  let _ ← passGap true
  push token

/-- Ends a pair without brackets. -/
def endPair : Scanning Unit := do
  match (← get).pairs with
  | true :: pairs =>
    modify fun scan => { scan with tableOpened := false, pairs := false :: pairs }
    push .flowTableEnd
  | _ => return

/-- A bracket that closes a list or a table. -/
def flowEnd (token : Token) : Scanning Unit := do
  dropKey
  modify fun scan =>
    if 0 < scan.depth then { scan with keys := scan.keys.drop 1, depth := scan.depth - 1 } else scan
  allowKey false
  if token == .flowListEnd then
    endPair
    modify fun scan => { scan with pairs := scan.pairs.drop 1 }
  onPlace (·.pass 1)
  let _ ← passGap true
  modify fun scan => if 0 < scan.depth then { scan with freeColon := scan.place.index } else scan
  push token

/-- A comma between items. -/
def comma : Scanning Unit := do
  dropKey
  allowKey true
  endPair
  onPlace (·.pass 1)
  let _ ← passGap true
  push .comma

/-- The mark of an item of a list. -/
def dash : Scanning Unit := do
  let scan ← get
  if 0 < scan.depth || !scan.keyAllowed then failure
  let behindMark :=
    match scan.tokens.back? with
    | some (.name _) | some (.tag ..) => true
    | _ => false
  if behindMark && scan.place.column = 0 && scan.markColumn = 0 && -1 < scan.indent then failure
  onPlace (·.pass 1)
  openBlock scan.place.column scan.tokens.size .listStart
  let (_, foundTabs) ← passGap true
  let rest := (← get).place.rest
  if foundTabs && rest.head? == some '-' && endsWord (rest.drop 1) then failure
  if rest.head?.any fun c => isBreak c || isFlowMark c then indentByOne
  dropKey
  allowKey true
  push .dash

/-- Passes over spaces, comments and ends of lines behind the mark of a key, of which there is at
least one. -/
def passSpace : Nat → Bool → Scanning Unit
  | 0, _ => failure
  | fuel + 1, found => do
    match ← peek with
    | some ' ' =>
      onPlace (·.passBlanks 1)
      passSpace fuel true
    | some '#' =>
      onPlace Place.passLine
      passSpace fuel found
    | some c =>
      if isBreak c then
        onPlace Place.passBreak
        if (← get).depth = 0 then allowKey true
        passSpace fuel true
      else if found then return
      else failure
    | none => if found then return else failure

/-- The mark of a key. -/
def keyMark : Scanning Unit := do
  let scan ← get
  if scan.depth = 0 then
    if !scan.keyAllowed then failure
    openBlock scan.place.column scan.tokens.size .tableStart
  else set { scan with tableOpened := true }
  dropKey
  allowKey (scan.depth = 0)
  onPlace (·.pass 1)
  passSpace (scan.place.rest.length + 1) false
  if (← peek) == some '\t' then failure
  push .key

/-- Adds a token before those from the given one on. -/
def insert (index : Nat) (token : Token) : Scanning Unit :=
  modify fun scan => { scan with tokens := scan.tokens.insertIdxIfInBounds index token }

/-- The mark of a value. -/
def valueMark : Scanning Unit := do
  let scan ← get
  let key ← lastKey
  let start := scan.place
  let isPair := !scan.pairs.isEmpty && !scan.tableOpened
  if isPair then set { scan with pairs := true :: scan.pairs.drop 1 }
  onPlace (·.pass 1)
  if (← peek) == some '\t' then
    let (foundSpaces, _) ← passGap true
    if !foundSpaces && (← peek).any fun c => isWordChar c then failure
  if key.possible then
    insert key.token .key
    if isPair then
      if key.line < start.line then failure
      insert key.token .flowTableStart
    openBlock key.column key.token .tableStart
    indentByOne
    setLastKey { key with possible := false }
    allowKey false
  else
    if isPair then push .flowTableStart
    if scan.depth = 0 then
      if !scan.keyAllowed then failure
      openBlock start.column (← get).tokens.size .tableStart
    indentByOne
    allowKey (scan.depth = 0)
  push .value

/-- Reads the next token, or finds the end of the text. -/
def next : Scanning Bool := do
  goOn ((← get).place.rest.length + 1)
  dropOldKeys
  let place := (← get).place
  closeBlocks place.column
  let scan ← get
  let inFlow := 0 < scan.depth
  match place.rest with
  | [] =>
    atEnd
    return false
  | c :: rest =>
    let alone := endsWord rest
    let marksValue :=
      alone || (inFlow && (rest.head?.any isFlowMark || place.index = scan.freeColon))
    if place.column = 0 && c == '%' then directive
    else if place.column = 0 && startsDocument place.rest then documentMark .documentStart
    else if place.column = 0 && endsDocument place.rest then documentMark .documentEnd
    else if (place.column : Int) < scan.indent then failure
    else if c == '[' then flowStart .flowListStart
    else if c == '\x7b' then flowStart .flowTableStart
    else if c == ']' then flowEnd .flowListEnd
    else if c == '\x7d' then flowEnd .flowTableEnd
    else if c == ',' then comma
    else if c == '-' && alone then dash
    else if c == '?' && alone then keyMark
    else if c == ':' && marksValue then valueMark
    else if c == '*' then name true
    else if c == '&' then name false
    else if c == '!' then tag
    else if c == '|' && !inFlow then blockScalar false
    else if c == '>' && !inFlow then blockScalar true
    else if c == '\'' || c == '"' then quotedScalar c
    else if c == '%' || c == '@' || c == '\x60' then failure
    else plainScalar
    return true

/-- Reads at most so many tokens, up to the end of the text. -/
def all : Nat → Scanning Unit
  | 0 => failure
  | fuel + 1 => do if ← next then all fuel else return

end Scanning

/-- The tokens of a text. Nothing counts behind a null character. -/
def tokens? (text : List Char) : Option (List Token) :=
  let text := text.takeWhile (· != '\x00')
  ((Scanning.all (text.length + 1)).run { place := { rest := text } }).map (·.2.tokens.toList)

end Redirects.Yaml
