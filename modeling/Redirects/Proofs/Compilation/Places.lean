import Redirects.Proofs.Compilation.Numbering
import Redirects.Proofs.Synthesis.Acceptance
import Redirects.Report

/-!
# The places of compiled rules

A compiled list follows the rule list place by place: each enabled rule outside the cycles stands in
it under the number of its place, as long as numbers last, and the number leads back to the rule.
Every compiled rule has one filter and one target, so a request is redirected by the first rule
whose filter matches.
-/

namespace Redirects

/-- The filter matches the address. A text filter goes before a pattern. -/
def Condition.holds (condition : Condition) (url : String) : Bool :=
  match condition.urlFilter, condition.regexFilter with
  | some text, _ => Text.occursIn text.toList url.toList
  | none, some pattern => Regex.matchesIn pattern url
  | none, none => false

theorem Synthesis.holds_emit (synthesis : Synthesis) (number : UInt32) (url : String) :
    (synthesis.emit number).condition.holds url = synthesis.filter.accepts url := by
  obtain ⟨filter, target⟩ := synthesis
  cases filter <;> rfl

/-- A declarative rule has one filter and one target, and a text filter comes with an address. -/
structure DeclarativeRule.WellFormed (rule : DeclarativeRule) : Prop where
  one_filter : rule.condition.urlFilter.isSome = !rule.condition.regexFilter.isSome
  one_target : rule.redirection.url.isSome = !rule.redirection.substitution.isSome
  url_of_text : rule.condition.urlFilter.isSome = true → rule.redirection.url.isSome = true

theorem Synthesis.Suited.wellFormed {synthesis : Synthesis} (suited : synthesis.Suited)
    (number : UInt32) : (synthesis.emit number).WellFormed := by
  obtain ⟨filter, target⟩ := synthesis
  refine ⟨by cases filter <;> rfl, by cases target <;> rfl, fun is_text => ?_⟩
  cases filter with
  | substring text =>
      obtain ⟨url, target_eq⟩ := suited text rfl
      cases target_eq
      rfl
  | regex pattern => simp [emit] at is_text

/-- A compiled rule fires exactly when its filter matches. -/
theorem isSome_hit?_of_mem_compile {rules : List Rule} {declarative : DeclarativeRule}
    (compiled : declarative ∈ compile rules true) (url : String) :
    (declarative.hit? url).isSome = declarative.condition.holds url := by
  obtain ⟨index, rule, -, -, -, -, emitted⟩ := mem_compile_iff.mp compiled
  have suited := Synthesis.suited_synthesize rule
  rw [emitted, DeclarativeRule.hit?, Option.isSome_map, Synthesis.isSome_redirect?_emit suited,
    Synthesis.holds_emit]

/-- Numbers last to a place, and the rule there is neither switched off nor left out. -/
def Rule.KeptAt (rules : List Rule) (place : Rule × Nat) : Prop :=
  place.1.enabled = true ∧ Cycle.excludes (Cycle.detect rules) place.1.id = false ∧
    place.2 ≤ UInt32.size - 2

instance (rules : List Rule) : DecidablePred (Rule.KeptAt rules) :=
  fun _ => inferInstanceAs (Decidable (_ ∧ _))

theorem compileAt?_detect_eq (rules : List Rule) (rule : Rule) (index : Nat) :
    compileAt? (Cycle.detect rules) rule index =
      if Rule.KeptAt rules (rule, index) then
        some ((synthesize rule).emit (UInt32.ofNat (index + 1)))
      else none := by
  by_cases numbered : index + 1 < UInt32.size
  · have place_le : index ≤ UInt32.size - 2 := by omega
    simp [compileAt?, numberAt?, Rule.KeptAt, numbered, place_le]
  · have place_gt : ¬index ≤ UInt32.size - 2 := by
      simp only [UInt32.size] at numbered ⊢
      omega
    simp [compileAt?, numberAt?, Rule.KeptAt, numbered, place_gt]

/-- The compiled list is the list of the kept places, each under its number. -/
theorem compile_eq_map (rules : List Rule) :
    compile rules true =
      (rules.zipIdx.filter fun place => decide (Rule.KeptAt rules place)).map fun place =>
        (synthesize place.1).emit (UInt32.ofNat (place.2 + 1)) := by
  rw [compile_true, ← List.filterMap_eq_map, List.filterMap_filter]
  simp only [compileAt?_detect_eq, decide_eq_true_eq]
  rfl

/-- In a compiled list, rules already stand in the order of their numbers. -/
theorem byNumber_compile (rules : List Rule) (enabled : Bool) :
    byNumber (compile rules enabled) = compile rules enabled := by
  apply List.mergeSort_of_pairwise
  apply (compile_pairwise_lt rules enabled).imp
  intro rule other lt
  exact decide_eq_true (UInt32.le_of_lt lt)

theorem findSome?_eq_find?_bind {α β : Type} {f : α → Option β} {holds : α → Bool}
    {elements : List α} (decided : ∀ element ∈ elements, (f element).isSome = holds element) :
    elements.findSome? f = (elements.find? holds).bind f := by
  induction elements with
  | nil => rfl
  | cons element rest ih =>
      have first_decided := decided element List.mem_cons_self
      have rest_eq := ih fun other other_mem => decided other (List.mem_cons_of_mem _ other_mem)
      rw [List.findSome?_cons, List.find?_cons, ← first_decided]
      cases found : f element with
      | none => exact rest_eq
      | some value => exact found.symm

/-- A request is redirected by the first compiled rule whose filter matches. -/
theorem simulate_compile (rules : List Rule) (url : String) :
    simulate (compile rules true) url =
      ((compile rules true).find? (·.condition.holds url)).bind (·.hit? url) := by
  rw [simulate, byNumber_compile]
  exact findSome?_eq_find?_bind fun declarative compiled => isSome_hit?_of_mem_compile compiled url

/-- The number of a compiled rule leads back to the rule that it was compiled from. -/
theorem originOf_of_mem_compile {rules : List Rule} {declarative : DeclarativeRule}
    (compiled : declarative ∈ compile rules true) :
    ∃ index rule, rules[index]? = some rule ∧ declarative.id.toNat = index + 1 ∧
      declarative = (synthesize rule).emit declarative.id ∧
        Report.originOf rules declarative.id = rule.id := by
  obtain ⟨index, rule, indexed, -, -, number_eq, emitted⟩ := mem_compile_iff.mp compiled
  refine ⟨index, rule, indexed, number_eq, emitted, ?_⟩
  simp [Report.originOf, number_eq, indexed]

/-- A compiled list is the rule list place by place.  It consists of the kept places in order, each
as the declarative rule under its number; numbers rise and each leads back to its rule; every
compiled rule has one filter and one target, and fires exactly when its filter matches; and of the
whole list the first rule whose filter matches redirects a request. -/
theorem compile_by_place (rules : List Rule) :
    compile rules true =
        ((rules.zipIdx.filter fun place => decide (Rule.KeptAt rules place)).map fun place =>
          (synthesize place.1).emit (UInt32.ofNat (place.2 + 1))) ∧
      (compile rules true).Pairwise (fun rule other => rule.id < other.id) ∧
      (∀ declarative ∈ compile rules true,
        (∃ index rule, rules[index]? = some rule ∧ declarative.id.toNat = index + 1 ∧
          declarative = (synthesize rule).emit declarative.id ∧
            Report.originOf rules declarative.id = rule.id) ∧
        declarative.WellFormed ∧
        ∀ url, (simulate [declarative] url).isSome = declarative.condition.holds url) ∧
      ∀ url, simulate (compile rules true) url =
        ((compile rules true).find? (·.condition.holds url)).bind (·.hit? url) := by
  refine ⟨compile_eq_map rules, compile_pairwise_lt rules true, ?_, simulate_compile rules⟩
  intro declarative compiled
  refine ⟨originOf_of_mem_compile compiled, ?_, fun url => ?_⟩
  · obtain ⟨_, rule, -, -, -, -, emitted⟩ := mem_compile_iff.mp compiled
    rw [emitted]
    exact (Synthesis.suited_synthesize rule).wellFormed declarative.id
  · rw [simulate_singleton, isSome_hit?_of_mem_compile compiled]

/-- Behind a rule that is switched off and one in a cycle, the number still leads back. -/
theorem compile_by_place_behind_gap :
    let off : Rule := { source := "a", destination := "b", enabled := false, id := "off" }
    let circle : Rule := { source := "x", destination := "x", id := "circle" }
    let kept : Rule := { source := "c", destination := "d", id := "kept" }
    compile [off, circle, kept] true = [(synthesize kept).emit 3] ∧
      Report.originOf [off, circle, kept] 3 = "kept" ∧
      (simulate [(synthesize kept).emit 3] "abc").isSome = true := by
  intro off circle kept
  obtain ⟨places, -, members, -⟩ := compile_by_place [off, circle, kept]
  have compiled : compile [off, circle, kept] true = [(synthesize kept).emit 3] := by
    rw [places]
    decide
  have kept_mem : (synthesize kept).emit 3 ∈ compile [off, circle, kept] true := by
    rw [compiled]
    exact List.mem_cons_self
  obtain ⟨-, -, fires⟩ := members _ kept_mem
  refine ⟨compiled, by decide, ?_⟩
  rw [fires]
  decide

/-- A rule that does not send its source to itself is compiled alone. -/
theorem compile_singleton {rule : Rule} (enabled : rule.enabled = true)
    (differ : rule.source ≠ rule.destination) :
    compile [rule] true = [(synthesize rule).emit 1] := by
  have acyclic : Cycle.excludes (Cycle.detect [rule]) rule.id = false := by
    rw [Bool.eq_false_iff, ne_eq, Cycle.excludes_detect_iff]
    rintro ⟨other, other_mem, -, -, endless⟩
    have sent {url destination : String} (sends : Sends [rule] url destination) :
        rule.source = url ∧ rule.destination = destination := by
      obtain ⟨-, -, sender, ⟨front, back, rules_eq, -⟩, source_eq, destination_eq⟩ := sends
      have sender_mem : sender ∈ [rule] := by simp [rules_eq]
      rw [List.mem_singleton] at sender_mem
      rw [← source_eq, ← destination_eq, sender_mem]
      exact ⟨rfl, rfl⟩
    obtain ⟨there, first, onward⟩ := endless.onward
    obtain ⟨_, second, _⟩ := onward.onward
    exact differ ((sent second).1.trans (sent first).2.symm)
  have kept : Rule.KeptAt [rule] (rule, 0) := ⟨enabled, acyclic, Nat.zero_le _⟩
  rw [compile_eq_map]
  simp [kept]

end Redirects
