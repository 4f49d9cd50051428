import Redirects.Engine.Document
import Redirects.Proofs.Json.RoundTrip

/-!
# Active rules survive their document

The document of active rules is read back as the rules, if its time is a timestamp.
-/

namespace Redirects

/-- A text that may be missing is printed where it is there. -/
theorem printable_textEntry {name : String} {text : Option String} {entry : String × Json}
    (listed : entry ∈ textEntry name text) : entry.2.Printable := by
  cases text with
  | none => simp [textEntry] at listed
  | some text =>
      obtain rfl := List.mem_singleton.mp listed
      exact .text text

namespace Redirection

theorem printable_toJson (redirection : Redirection) : redirection.toJson.Printable := by
  refine Json.printable_ofEntries fun entry listed => ?_
  rcases List.mem_append.mp listed with listed | listed
  · exact printable_textEntry listed
  · exact printable_textEntry listed

theorem ofJson?_toJson (redirection : Redirection) :
    ofJson? redirection.toJson = some redirection := by
  obtain ⟨url, substitution⟩ := redirection
  cases url <;> cases substitution <;>
    simp [ofJson?, toJson, textEntry, Json.fields?, Json.ofEntries, fieldNames, Json.optional?]

end Redirection

namespace Condition

theorem printable_toJson (condition : Condition) : condition.toJson.Printable := by
  refine Json.printable_ofEntries fun entry listed => ?_
  rcases List.mem_append.mp listed with listed | listed
  · rcases List.mem_append.mp listed with listed | listed
    · exact printable_textEntry listed
    · exact printable_textEntry listed
  · obtain rfl := List.mem_singleton.mp listed
    exact Json.printable_array_map (fun type => .text (ResourceType.name type)) _

theorem resourceType?_ofString (type : ResourceType) :
    resourceType? (.ofString type.name) = some type :=
  ResourceType.ofName?_name type

theorem ofJson?_toJson (condition : Condition) : ofJson? condition.toJson = some condition := by
  obtain ⟨urlFilter, regexFilter, resourceTypes⟩ := condition
  cases urlFilter <;> cases regexFilter <;>
    simp [ofJson?, toJson, textEntry, Json.fields?, Json.ofEntries, fieldNames, Json.optional?,
      Json.required?, Json.list?_map resourceType?_ofString]

end Condition

namespace DeclarativeRule

theorem printable_toJson (rule : DeclarativeRule) : rule.toJson.Printable := by
  refine Json.printable_ofEntries ?_
  simp [Json.Printable.natural, rule.condition.printable_toJson, Json.printable_ofEntries,
    Json.Printable.text, rule.redirection.printable_toJson]

theorem ofJson?_toJson (rule : DeclarativeRule) : ofJson? rule.toJson = some rule := by
  simp [ofJson?, toJson, Json.fields?, Json.ofEntries, fieldNames, Json.required?,
    Json.word?_ofNat, redirection?, actionNames, Redirection.ofJson?_toJson,
    Condition.ofJson?_toJson]

end DeclarativeRule

namespace ActiveRules

theorem printable_toJson (active : ActiveRules) : active.toJson.Printable := by
  refine Json.printable_ofEntries ?_
  simp [Json.printable_array_map DeclarativeRule.printable_toJson, Json.Printable.text]

/-- The document of active rules is read back as the rules. -/
theorem ofDocument?_document (active : ActiveRules)
    (timed : Timestamp.isValid active.updatedAt = true) :
    ofDocument? active.document = some active := by
  rw [ofDocument?, document, Json.read?_print active.printable_toJson]
  simp [ofJson?, toJson, Json.fields?, Json.ofEntries, fieldNames, Json.required?,
    Json.list?_map DeclarativeRule.ofJson?_toJson, timed]

end ActiveRules

end Redirects
