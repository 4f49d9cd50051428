import Redirects.Config.Yaml.Node

/-!
# YAML

Reads a text of one YAML document as a setting.
-/

namespace Redirects.Yaml

/-- The setting that a text gives. A text without a document is an empty table. -/
def read? (text : String) : Option Setting := do
  let tokens ← tokens? text.toList
  let (node, _) ← Parsing.document.run { tokens }
  match node with
  | some node => node.setting?
  | none => return .table []

end Redirects.Yaml
