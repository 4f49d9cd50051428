import Redirects.Json.Decode
import Redirects.Json.Printer
import Redirects.Rule

/-!
# Rules in documents

How a rule is written in JSON.
-/

namespace Redirects.Rule

/-- The names under which the fields of a rule are written. -/
def fieldNames : List String := ["id", "sourceUrl", "destinationUrl", "matchType", "enabled"]

/-- The rule as it is written. -/
def toJson (rule : Rule) : Json :=
  .ofEntries
    [("id", .ofString rule.id), ("sourceUrl", .ofString rule.source),
      ("destinationUrl", .ofString rule.destination), ("matchType", .ofString rule.kind.name),
      ("enabled", .bool rule.enabled)]

/-- The rule that is written. -/
def ofJson? (json : Json) : Option Rule := do
  match ← json.fields? fieldNames with
  | [id, source, destination, kind, enabled] =>
    let id ← Json.required? Json.text? id
    let source ← Json.required? Json.text? source
    let destination ← Json.required? Json.text? destination
    let kind ← (Json.required? Json.choice? kind).bind MatchKind.ofName?
    let enabled ← Json.required? Json.bool? enabled
    return { id, source, destination, kind, enabled }
  | _ => none

end Redirects.Rule
