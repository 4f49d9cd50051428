import Redirects.Declarative
import Redirects.Json.Decode
import Redirects.Json.Printer
import Redirects.Timestamp

/-!
# Declarative rules in documents

How declarative rules are written in JSON, and the document of an active rule set, which also tells
when it was written. Texts that are not set are left out.
-/

namespace Redirects

/-- The entry of a text that may be missing. -/
def textEntry (name : String) (text : Option String) : List (String × Json) :=
  match text with
  | some text => [(name, .ofString text)]
  | none => []

namespace Redirection

def fieldNames : List String := ["url", "regexSubstitution"]

def toJson (redirection : Redirection) : Json :=
  .ofEntries
    (textEntry "url" redirection.url ++ textEntry "regexSubstitution" redirection.substitution)

def ofJson? (json : Json) : Option Redirection := do
  match ← json.fields? fieldNames with
  | [url, substitution] =>
    let url ← Json.optional? (Json.nullable? Json.text?) none url
    let substitution ← Json.optional? (Json.nullable? Json.text?) none substitution
    return { url, substitution }
  | _ => none

end Redirection

namespace Condition

def fieldNames : List String := ["urlFilter", "regexFilter", "resourceTypes"]

def toJson (condition : Condition) : Json :=
  .ofEntries
    (textEntry "urlFilter" condition.urlFilter ++ textEntry "regexFilter" condition.regexFilter ++
      [("resourceTypes", .array (condition.resourceTypes.map fun type => .ofString type.name))])

/-- The kind of request that is written. -/
def resourceType? (json : Json) : Option ResourceType :=
  (Json.choice? json).bind ResourceType.ofName?

def ofJson? (json : Json) : Option Condition := do
  match ← json.fields? fieldNames with
  | [urlFilter, regexFilter, resourceTypes] =>
    let urlFilter ← Json.optional? (Json.nullable? Json.text?) none urlFilter
    let regexFilter ← Json.optional? (Json.nullable? Json.text?) none regexFilter
    let resourceTypes ← Json.required? (Json.list? resourceType?) resourceTypes
    return { urlFilter, regexFilter, resourceTypes }
  | _ => none

end Condition

namespace DeclarativeRule

def actionNames : List String := ["type", "redirect"]

def fieldNames : List String := ["id", "priority", "action", "condition"]

/-- The rule as it is written. -/
def toJson (rule : DeclarativeRule) : Json :=
  .ofEntries
    [("id", .ofNat rule.id.toNat), ("priority", .ofNat rule.priority.toNat),
      ("action",
        .ofEntries [("type", .ofString "redirect"), ("redirect", rule.redirection.toJson)]),
      ("condition", rule.condition.toJson)]

/-- What becomes of a request, as the action that is written says. -/
def redirection? (json : Json) : Option Redirection := do
  match ← json.fields? actionNames with
  | [type, redirect] =>
    let type ← Json.required? Json.choice? type
    let redirect ← Json.required? Redirection.ofJson? redirect
    if type = "redirect" then some redirect else none
  | _ => none

/-- The rule that is written. -/
def ofJson? (json : Json) : Option DeclarativeRule := do
  match ← json.fields? fieldNames with
  | [id, priority, action, condition] =>
    let id ← Json.required? Json.word? id
    let priority ← Json.required? Json.word? priority
    let redirection ← Json.required? redirection? action
    let condition ← Json.required? Condition.ofJson? condition
    return { id, priority, redirection, condition }
  | _ => none

end DeclarativeRule

/-- The text of a list of declarative rules. -/
def printRules (rules : List DeclarativeRule) : String :=
  (Json.array (rules.map DeclarativeRule.toJson)).print

/-- The document of an active rule set. -/
structure ActiveRules where
  /-- When the document was written. -/
  updatedAt : String
  rules : List DeclarativeRule
deriving DecidableEq, Repr

namespace ActiveRules

def fieldNames : List String := ["updatedAt", "rules"]

/-- The rule set as it is written. -/
def toJson (active : ActiveRules) : Json :=
  .ofEntries
    [("updatedAt", .ofString active.updatedAt),
      ("rules", .array (active.rules.map DeclarativeRule.toJson))]

/-- The rule set that is written. -/
def ofJson? (json : Json) : Option ActiveRules := do
  match ← json.fields? fieldNames with
  | [updatedAt, rules] =>
    let updatedAt ← Json.required? Json.text? updatedAt
    let rules ← Json.required? (Json.list? DeclarativeRule.ofJson?) rules
    if Timestamp.isValid updatedAt then some { updatedAt, rules } else none
  | _ => none

/-- The text of the document. -/
def document (active : ActiveRules) : String := active.toJson.print

/-- The rule set of a document. -/
def ofDocument? (text : String) : Option ActiveRules := (Json.read? text).bind ofJson?

end ActiveRules

end Redirects
