import Redirects.Config.Yaml.Scalar
import Redirects.Config.Yaml.Token

/-!
# Nodes

Reads tokens as nodes: scalars, lists and tables. A node can be given a name, under which it stands
again elsewhere; inside of itself it is unfit.
-/

namespace Redirects.Yaml

/-- A node that was read. -/
inductive Node where
  | scalar (value : Scalar)
  | collection (value : Setting)
deriving Repr

namespace Node

/-- A node that was left out. -/
def nothing : Node := .scalar .nothing

/-- A node that there is not. -/
def unfit : Node := .scalar .unfit

/-- The setting that a node is. -/
def setting? : Node → Option Setting
  | .scalar value => value.setting?
  | .collection value => some value

/-- The entries of a table out of its keys and values in turn, where the given keys are there
already. A key comes once. What is unfit is passed over where a key is due. -/
def entries? (keys : List Scalar) (entries : List (String × Setting)) :
    (key : Option Node) → List Node → Option (List (String × Setting))
  | _, [] => some entries
  | none, .scalar .unfit :: nodes => entries? keys entries none nodes
  | none, key :: nodes => entries? keys entries (some key) nodes
  | some (.collection _), _ :: _ => none
  | some (.scalar key), node :: nodes => do
    if keys.contains key then none
    let name ← key.key?
    let setting ← node.setting?
    entries? (key :: keys) (Setting.put name setting entries) none nodes

/-- The table of keys and values in turn. -/
def table? (nodes : List Node) : Option Node :=
  (entries? [] [] none nodes).map fun entries => .collection (.table entries)

/-- The list of some nodes. -/
def list? (nodes : List Node) : Option Node :=
  (nodes.mapM setting?).map fun items => .collection (.list items)

end Node

/-- The tokens that are left, and what is known of the document. -/
structure Parse where
  tokens : List Token
  /-- What the handles of tags stand for. -/
  handles : List (String × String) := []
  /-- The nodes that names stand for, by number, the latest first. -/
  names : List (String × Nat) := []
  /-- The nodes that are complete, by number. -/
  nodes : List (Nat × Node) := []

/-- Reads tokens. -/
abbrev Parsing := StateT Parse Option

namespace Parsing

/-- The next token. -/
def peek : Parsing (Option Token) := return (← get).tokens.head?

/-- Passes over a token. -/
def skip : Parsing Unit := modify fun parse => { parse with tokens := parse.tokens.drop 1 }

/-- The next token is one of these. -/
def isNext (tokens : List Token) : Parsing Bool := return (← peek).any tokens.contains

/-- Passes over a token if it is next. -/
def accept (token : Token) : Parsing Bool := do
  if ← isNext [token] then
    skip
    return true
  else return false

/-- A number for the node that a name is given to. -/
def register (name : String) : Parsing Nat :=
  modifyGet fun parse =>
    let number := parse.names.length
    (number, { parse with names := (name, number) :: parse.names })

/-- The node that has a name. -/
def named (name : String) : Parsing Node := do
  let parse ← get
  match parse.names.find? (·.1 == name) with
  | some (_, number) => return ((parse.nodes.find? (·.1 == number)).map (·.2)).getD .unfit
  | none => failure

/-- The start of the names of the common tags. -/
def commonTags : String := "tag:yaml.org,2002:"

/-- The tag that a handle and a suffix stand for. -/
def tagOf (handle suffix : String) : Parsing Tag := do
  let handles := (← get).handles
  let known := (handles.find? (·.1 == handle)).map (·.2)
  let isDeclared := handle.length < 2 || handle == "!!" || known.isSome || !handle.endsWith "!"
  if !isDeclared then failure
  let expansion := known.getD (if handle == "!!" then commonTags else handle)
  return if expansion == commonTags then .common suffix else .other

/-- A name and a tag before a node, in either order. -/
def properties : Parsing (Option Nat × Option Tag) := do
  match ← peek with
  | some (.name name) =>
    skip
    let number ← register name
    match ← peek with
    | some (.tag handle suffix) =>
      skip
      return (some number, some (← tagOf handle suffix))
    | _ => return (some number, none)
  | some (.tag handle suffix) =>
    skip
    let tag ← tagOf handle suffix
    match ← peek with
    | some (.name name) =>
      skip
      return (some (← register name), some tag)
    | _ => return (none, some tag)
  | _ => return (none, none)

mutual

/-- A node. In brackets no collection is told by columns; behind a key the items of a list may stand
at the column of the key. -/
def node : Nat → (block atKey : Bool) → Parsing Node
  | 0, _, _ => failure
  | fuel + 1, block, atKey => do
    if let some (.again name) := ← peek then
      skip
      named name
    else
      let (number, tag) ← properties
      let node ←
        match ← peek with
        | some (.scalar plain text) => do
          skip
          let scalar := if plain then Scalar.ofWritten tag text else .text (String.ofList text)
          pure (Node.scalar scalar)
        | some .flowListStart => do
          skip
          StateT.lift (Node.list? (← flowList fuel true))
        | some .flowTableStart => do
          skip
          StateT.lift (Node.table? (← flowTable fuel true))
        | some .listStart => do
          if !block then failure
          skip
          StateT.lift (Node.list? (← blockList fuel))
        | some .tableStart => do
          if !block then failure
          skip
          StateT.lift (Node.table? (← blockTable fuel))
        | some .dash => do
          if atKey then StateT.lift (Node.list? (← bareList fuel))
          else if number.isSome || tag.isSome then pure (Node.scalar (Scalar.ofWritten tag []))
          else failure
        | _ =>
          if number.isSome || tag.isSome then pure (Node.scalar (Scalar.ofWritten tag []))
          else failure
      match number with
      | some number => modify fun parse => { parse with nodes := (number, node) :: parse.nodes }
      | none => pure ()
      return node

/-- The items of a list up to its end. -/
def blockList : Nat → Parsing (List Node)
  | 0 => failure
  | fuel + 1 => do
    if ← accept .blockEnd then return []
    else if ← accept .dash then
      let item ← if ← isNext [.dash, .blockEnd] then pure .nothing else node fuel true false
      return item :: (← blockList fuel)
    else failure

/-- The items of a list at the column of its key, as many as there are. -/
def bareList : Nat → Parsing (List Node)
  | 0 => failure
  | fuel + 1 => do
    if ← accept .dash then
      let item ←
        if ← isNext [.dash, .key, .value, .blockEnd] then pure .nothing else node fuel true false
      return item :: (← bareList fuel)
    else return []

/-- The keys and values of a table up to its end. -/
def blockTable : Nat → Parsing (List Node)
  | 0 => failure
  | fuel + 1 => do
    if ← accept .blockEnd then return []
    else
      let isEmpty := isNext [.key, .value, .blockEnd]
      let key ←
        if ← accept .key then
          if ← isEmpty then pure .nothing else node fuel true true
        else if ← isNext [.value] then pure .nothing
        else failure
      let value ←
        if ← accept .value then
          if ← isEmpty then pure .nothing else node fuel true true
        else pure .nothing
      return key :: value :: (← blockTable fuel)

/-- The items of a list in brackets up to its end, the first or a later one next. -/
def flowList : Nat → (first : Bool) → Parsing (List Node)
  | 0, _ => failure
  | fuel + 1, first => do
    if ← accept .flowListEnd then return []
    else
      if !first then
        if !(← accept .comma) then failure
      if ← accept .flowListEnd then return []
      else if ← accept .key then
        let item ← pair fuel
        return item :: (← flowList fuel false)
      else
        let item ← node fuel false false
        return item :: (← flowList fuel false)

/-- A table of one key behind its mark, in a list in brackets. -/
def pair : Nat → Parsing Node
  | 0 => failure
  | fuel + 1 => do
    let key ←
      if ← isNext [.value, .comma, .flowListEnd] then
        skip
        pure .nothing
      else node fuel false false
    let value ←
      if ← accept .value then
        if ← isNext [.comma, .flowListEnd] then pure .nothing else node fuel false false
      else pure .nothing
    StateT.lift (Node.table? [key, value])

/-- The keys and values of a table in brackets up to its end, the first or a later one next. -/
def flowTable : Nat → (first : Bool) → Parsing (List Node)
  | 0, _ => failure
  | fuel + 1, first => do
    if ← accept .flowTableEnd then return []
    else
      if !first then
        if !(← accept .comma) then failure
      let value : Parsing Node := do
        if ← accept .value then
          if ← isNext [.comma, .flowTableEnd] then pure .nothing else node fuel false false
        else pure .nothing
      if ← accept .flowTableEnd then return []
      else if ← accept .key then
        let key ←
          if ← isNext [.value, .comma, .flowTableEnd] then pure .nothing else node fuel false false
        let value ← value
        return key :: value :: (← flowTable fuel false)
      else if ← isNext [.value] then
        let value ← value
        return .nothing :: value :: (← flowTable fuel false)
      else
        let key ← node fuel false false
        return key :: .nothing :: (← flowTable fuel false)

end

/-- The directives at the front, of which the last tag counts, and how many there are. -/
def directives : Nat → Bool → Parsing Nat
  | 0, _ => failure
  | fuel + 1, versioned => do
    match ← peek with
    | some .version =>
      if versioned then failure
      skip
      modify fun parse => { parse with handles := [] }
      return (← directives fuel true) + 1
    | some (.handle name expansion) =>
      skip
      modify fun parse => { parse with handles := [(name, expansion)] }
      return (← directives fuel versioned) + 1
    | _ => return 0

/-- Passes over the ends of documents. -/
def passEnds : Parsing Unit :=
  modify fun parse => { parse with tokens := parse.tokens.dropWhile (· == .documentEnd) }

/-- The document, if there is one. -/
def document : Parsing (Option Node) := do
  passEnds
  if (← get).tokens.isEmpty then return none
  else
    let length := (← get).tokens.length
    let count ← directives (length + 1) false
    let started ← accept .documentStart
    if count != 0 && !started then failure
    let node ←
      if started && ((← get).tokens.isEmpty || (← isNext [.documentStart, .documentEnd])) then
        pure .nothing
      else node (2 * length + 2) true false
    passEnds
    if (← get).tokens.isEmpty then return some node else failure

end Parsing

end Redirects.Yaml
