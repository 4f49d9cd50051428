import Redirects.Proofs.Compilation.Content
import Redirects.Proofs.Rule.Names
import Redirects.Proofs.Store.Document

/-!
# What is exported is imported

An import of exported rules reads what each of them says, in their order, and gives each the next
name of the supply.  Names are the only difference, so the imported rules are compiled to the same.
-/

namespace Redirects

theorem NameSupply.length_upcoming (supply : NameSupply) (count : Nat) :
    (supply.upcoming count).length = count := by
  rw [upcoming, List.length_map, List.length_range']

/-- A list is sound if every item of it is. -/
theorem Json.areSound_map {α : Type} {depth : Nat} {write : α → Json}
    (each : ∀ item, isSound depth (write item) = true) (items : List α) :
    areSound depth (items.map write) = true := by
  induction items with
  | nil => rfl
  | cons item items ih => rw [List.map_cons, areSound, each, ih, Bool.and_self]

namespace Rule

theorem isSound_toJson (rule : Rule) (depth : Nat) : rule.toJson.isSound (depth + 1) = true := by
  simp [toJson, Json.ofEntries, Json.isSound, Json.areSoundEntries, Json.ofString]

/-- An entry of an export says what the rule says. -/
theorem draft_toJson (rule : Rule) : Entry.draft rule.toJson = .ok rule.toDraft := by
  obtain ⟨⟨source, destination, kind, enabled⟩, id⟩ := rule
  cases kind <;> rfl

/-- Exported entries are read one by one. -/
theorem importEntries_map (rules : List Rule) (number : Nat) (supply : NameSupply) :
    ∃ imported left, importEntries number supply (rules.map toJson) = .ok (imported, left) ∧
      imported.map (·.toDraft) = rules.map (·.toDraft) := by
  induction rules generalizing number supply with
  | nil => exact ⟨[], supply, rfl, rfl⟩
  | cons rule rules ih =>
      obtain ⟨imported, left, read, drafts_eq⟩ := ih (number + 1) supply.next.2
      refine ⟨rule.toDraft.named supply.next.1 :: imported, left, ?_, ?_⟩
      · rw [List.map_cons, importEntries, draft_toJson]
        dsimp only
        rw [read]
        rfl
      · rw [List.map_cons, drafts_eq]
        rfl

end Rule

theorem importRules_exportRules (rules : List Rule) (supply : NameSupply) :
    ∃ imported left, importRules (exportRules rules) supply = .ok (imported, left) ∧
      imported.map (·.toDraft) = rules.map (·.toDraft) := by
  have read_back : Json.read? (exportRules rules) = some (.array (rules.map Rule.toJson)) :=
    Json.read?_print (Json.printable_array_map Rule.printable_toJson rules)
  have sound : (Json.array (rules.map Rule.toJson)).isSound Json.maxDepth = true := by
    rw [Json.isSound]
    exact Json.areSound_map (fun rule => rule.isSound_toJson 125) rules
  obtain ⟨imported, left, read, drafts_eq⟩ := Rule.importEntries_map rules 1 supply
  refine ⟨imported, left, ?_, drafts_eq⟩
  simp only [importRules, read_back, sound, read]
  rfl

/-- An import of exported rules gives rules that say the same in the same order, each under the next
name of the supply.  Whatever distinct names rules have, what they are compiled to is the same, and
so it is for the imported ones. -/
theorem import_undoes_export (rules : List Rule) (supply : NameSupply) :
    ∃ imported, importRules (exportRules rules) supply =
        .ok (imported, ⟨supply.given + rules.length⟩) ∧
      imported.length = rules.length ∧
      imported.map (·.toDraft) = rules.map (·.toDraft) ∧
      Rule.names imported = supply.upcoming rules.length ∧
      (Rule.names imported).Nodup ∧
      ((Rule.names rules).Nodup → ∀ enabled, compile imported enabled = compile rules enabled) ∧
      ∀ others : List Rule, others.map (·.toDraft) = rules.map (·.toDraft) →
        (Rule.names rules).Nodup → (Rule.names others).Nodup →
          ∀ enabled, compile others enabled = compile rules enabled := by
  obtain ⟨imported, left, read, drafts_eq⟩ := importRules_exportRules rules supply
  have length_eq : imported.length = rules.length := by
    simpa using congrArg List.length drafts_eq
  -- How many names were taken is told by the names, and these by the rules that were read.
  obtain ⟨count, rfl, names_eq⟩ := importRules_eq_ok read
  obtain rfl : count = rules.length := by
    rw [← length_eq, ← supply.length_upcoming count, ← names_eq, Rule.names, List.length_map]
  have fresh : (Rule.names imported).Nodup := names_eq ▸ supply.nodup_upcoming _
  have compiled : ∀ others : List Rule, others.map (·.toDraft) = rules.map (·.toDraft) →
      (Rule.names rules).Nodup → (Rule.names others).Nodup →
        ∀ enabled, compile others enabled = compile rules enabled :=
    fun _ same distinct others_distinct =>
      compile_congr (sameInUse_of_map_toDraft same) others_distinct distinct
  exact ⟨imported, read, length_eq, drafts_eq, names_eq, fresh,
    fun distinct => compiled imported drafts_eq distinct fresh, compiled⟩

/-- Two rules that send round and a pattern that is switched off are imported under new names, and
so they could trade their names. -/
theorem import_undoes_export_circle :
    let there : Draft := { source := "a\"\n", destination := "\\é😀" }
    let back : Draft := { source := "\\é😀", destination := "a\"\n" }
    let pattern : Draft :=
      { source := "(.*)", destination := "\\1", kind := .regex, enabled := false }
    let rules := [there.named "x", back.named "y", pattern.named ""]
    (Rule.names rules).Nodup ∧
      (∃ imported, importRules (exportRules rules) ⟨4⟩ = .ok (imported, ⟨7⟩) ∧
        Rule.names imported = ["#5", "#6", "#7"] ∧
          ∀ enabled, compile imported enabled = compile rules enabled) ∧
      ∀ enabled, compile [there.named "y", back.named "x", pattern.named "z"] enabled =
        compile rules enabled := by
  intro there back pattern rules
  have distinct : (Rule.names rules).Nodup := by decide
  obtain ⟨imported, read, -, -, names_eq, -, compiled, renamed⟩ := import_undoes_export rules ⟨4⟩
  refine ⟨distinct, ⟨imported, read, ?_, compiled distinct⟩, ?_⟩
  · rw [names_eq]
    decide
  · exact renamed [there.named "y", back.named "x", pattern.named "z"] rfl distinct (by decide)

end Redirects
