import Redirects.Proofs.Json.RoundTrip
import Redirects.Store.State

/-!
# A stored state survives its document

The document of a state is read back as the state, whatever texts its rules hold.
-/

namespace Redirects

namespace Rule

theorem printable_toJson (rule : Rule) : rule.toJson.Printable := by
  refine Json.printable_ofEntries ?_
  simp [Json.Printable.text, Json.Printable.bool]

theorem ofJson?_toJson (rule : Rule) : ofJson? rule.toJson = some rule := by
  simp [ofJson?, toJson, Json.fields?, Json.ofEntries, fieldNames, Json.required?, Json.bool?,
    MatchKind.ofName?_name]

end Rule

namespace StoredState

theorem printable_toJson (state : StoredState) : state.toJson.Printable := by
  refine Json.printable_ofEntries ?_
  simp [Json.printable_array_map Rule.printable_toJson, Json.Printable.bool]

theorem ofJson?_toJson (state : StoredState) : ofJson? state.toJson = some state := by
  simp [ofJson?, toJson, Json.fields?, Json.ofEntries, fieldNames, Json.optional?, Json.bool?,
    Json.list?_map Rule.ofJson?_toJson]

/-- The document of a state is read back as the state. -/
theorem ofDocument?_document (state : StoredState) : ofDocument? state.document = some state := by
  rw [ofDocument?, document, Json.read?_print state.printable_toJson]
  exact state.ofJson?_toJson

end StoredState

end Redirects
