import Redirects.Error
import Redirects.Rule.Document

/-!
# The stored state

What is kept between runs: the rules, and whether redirects are switched on at all. A field that a
document does not have takes its value from the first state.
-/

namespace Redirects

/-- Everything that a store keeps. -/
structure StoredState where
  rules : List Rule := []
  /-- Redirects are switched on. -/
  enabled : Bool := true
deriving DecidableEq, Repr

namespace StoredState

/-- The names under which the fields of a state are written. -/
def fieldNames : List String := ["rules", "globalEnabled"]

/-- The state as it is written. -/
def toJson (state : StoredState) : Json :=
  .ofEntries
    [("rules", .array (state.rules.map Rule.toJson)), ("globalEnabled", .bool state.enabled)]

/-- The state that is written. -/
def ofJson? (json : Json) : Option StoredState := do
  match ← json.fields? fieldNames with
  | [rules, enabled] =>
    let rules ← Json.optional? (Json.list? Rule.ofJson?) [] rules
    let enabled ← Json.optional? Json.bool? true enabled
    return { rules, enabled }
  | _ => none

/-- The document of a state. -/
def document (state : StoredState) : String := state.toJson.print

/-- The state of a document. -/
def ofDocument? (text : String) : Option StoredState := (Json.read? text).bind ofJson?

end StoredState

/-- Where a state is kept: how it is read, and how it is written. -/
structure Store (World : Type) where
  load : World → Except Error StoredState
  save : StoredState → World → Except Error Unit × World

end Redirects
