import Redirects.Error
import Redirects.Json.Description
import Redirects.Json.Sound
import Redirects.Rule.Document
import Redirects.Rule.Names

/-!
# Exporting and importing rules

Rules are exported as an array of objects. An import reads such an array, every entry with a new
name: sources and destinations must be there, the way to match and the switch may be left out. One
entry that is no rule fails the whole import.
-/

namespace Redirects

/-- The text of a list of rules. -/
def exportRules (rules : List Rule) : String := (Json.array (rules.map Rule.toJson)).print

/-- The reason why an entry is no rule. -/
inductive EntryFault where
  /-- A value has the wrong type. -/
  | mistyped (found : Json) (expected : String)
  /-- There is no such way to match. -/
  | unknownKind (name : String)
  /-- A way to match is written as an object that names not exactly one. -/
  | notOneKind
  | missing (field : String)
  /-- An array is too short. -/
  | short (length : Nat)
  /-- An array is too long. -/
  | long (length : Nat)

/-- What the user is told. -/
def EntryFault.message : EntryFault → String
  | .mistyped found expected => "invalid type: " ++ found.describe ++ ", expected " ++ expected
  | .unknownKind name =>
    "unknown variant `" ++ name ++ "`, expected `contains` or `regex`"
  | .notOneKind => "invalid value: map, expected map with a single key"
  | .missing field => "missing field `" ++ field ++ "`"
  | .short length =>
    s!"invalid length {length}, expected struct ImportedRule with 4 elements"
  | .long length => s!"invalid length {length}, expected fewer elements in array"

namespace Entry

/-- A text. -/
def text : Json → Except EntryFault String
  | .string (some text) => .ok text
  | json => .error (.mistyped json "a string")

/-- A switch. -/
def switch : Json → Except EntryFault Bool
  | .bool value => .ok value
  | json => .error (.mistyped json "a boolean")

/-- The way to match of a name. -/
def kindNamed (name : String) : Except EntryFault MatchKind :=
  match MatchKind.ofName? name with
  | some kind => .ok kind
  | none => .error (.unknownKind name)

/-- A way to match: its name, or an object with the name and nothing under it. -/
def kind : Json → Except EntryFault MatchKind
  | .string (some name) => kindNamed name
  | .object entries =>
    match entries.map (·.1) |>.eraseDups, entries.getLast? with
    | [some name], some (_, value) => do
      let kind ← kindNamed name
      match value with
      | .null => return kind
      | json => .error (.mistyped json "unit")
    | _, _ => .error .notOneKind
  | json => .error (.mistyped json "string or map")

/-- The last value under a name. -/
def last? (entries : List (Option String × Json)) (name : String) : Option Json :=
  (entries.reverse.find? (·.1 == some name)).map (·.2)

/-- A field that is read if it is there. -/
def readIf {α : Type} (read : Json → Except EntryFault α) :
    Option Json → Except EntryFault (Option α)
  | none => .ok none
  | some json => (read json).map some

/-- A field that must be there. -/
def require {α : Type} (name : String) : Option α → Except EntryFault α
  | none => .error (.missing name)
  | some value => .ok value

/-- The draft that an object writes. Values are looked at in the order of their names, and what is
missing afterwards. -/
def ofObject (entries : List (Option String × Json)) : Except EntryFault Draft := do
  let destination ← readIf text (last? entries "destinationUrl")
  let enabled ← readIf switch (last? entries "enabled")
  let kind ← readIf kind (last? entries "matchType")
  let source ← readIf text (last? entries "sourceUrl")
  let source ← require "sourceUrl" source
  let destination ← require "destinationUrl" destination
  return { source, destination, kind := kind.getD .contains, enabled := enabled.getD true }

/-- The draft that an array writes, its fields in order. -/
def ofArray (items : List Json) : Except EntryFault Draft := do
  match items with
  | [] => .error (.short 0)
  | source :: rest =>
    let source ← text source
    match rest with
    | [] => .error (.short 1)
    | destination :: rest =>
      let destination ← text destination
      let kind ← readIf kind rest[0]?
      let enabled ← readIf switch rest[1]?
      if 2 < rest.length then .error (.long items.length)
      return { source, destination, kind := kind.getD .contains, enabled := enabled.getD true }

/-- The draft that an entry of an import writes. -/
def draft : Json → Except EntryFault Draft
  | .object entries => ofObject entries
  | .array items => ofArray items
  | json => .error (.mistyped json "struct ImportedRule")

end Entry

/-- The rules of the entries from a number on, with names from the supply. -/
def importEntries (number : Nat) (names : NameSupply) :
    List Json → Except Error (List Rule × NameSupply)
  | [] => .ok ([], names)
  | entry :: entries =>
    match Entry.draft entry with
    | .error fault => .error (.importing (.entry number fault.message))
    | .ok draft => do
      let (id, names) := names.next
      let (rules, names) ← importEntries (number + 1) names entries
      return (draft.named id :: rules, names)

/-- The rules that a text writes, with names from the supply. -/
def importRules (text : String) (names : NameSupply) : Except Error (List Rule × NameSupply) :=
  match Json.read? text with
  | none => .error (.importing .notJson)
  | some json =>
    if !json.isSound Json.maxDepth then .error (.importing .notJson)
    else
      match json with
      | .array entries => importEntries 1 names entries
      | _ => .error (.importing .notArray)

end Redirects
