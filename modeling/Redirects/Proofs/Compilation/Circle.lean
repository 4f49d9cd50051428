import Mathlib.Data.List.Chain
import Redirects.Proofs.Compilation.Numbering

/-!
# Circles among compiled rules

Rules that send round in a circle never stop, so cycle detection leaves them out, as long as each is
the rule that prevails at its source.  A rule that a later one overrides is compiled nevertheless,
and with it a circle can be compiled whole.
-/

namespace Redirects

/-- Rules that send round: each to the source of the next, the last to that of the first. -/
structure Circle (chain : List Rule) : Prop where
  nonempty : chain ≠ []
  source_ne : ∀ rule ∈ chain, rule.source ≠ ""
  linked : chain.IsChain fun rule next => rule.destination = next.source
  closed : ∀ last ∈ chain.getLast?, ∀ first ∈ chain.head?, last.destination = first.source

theorem Circle.next_mem {chain : List Rule} (circle : Circle chain) {rule : Rule}
    (rule_mem : rule ∈ chain) : ∃ next ∈ chain, rule.destination = next.source := by
  obtain ⟨front, back, rfl⟩ := List.append_of_mem rule_mem
  cases back with
  | nil =>
      obtain ⟨first, first_eq⟩ : ∃ first, first ∈ (front ++ [rule]).head? := by
        cases front <;> simp
      exact ⟨first, List.mem_of_mem_head? first_eq, circle.closed rule (by simp) first first_eq⟩
  | cons next back =>
      exact ⟨next, by simp, (List.isChain_append_cons_cons.mp circle.linked).2.1⟩

/-- The rule is compiled from some place of the list. -/
def Rule.EmittedFrom (rule : Rule) (rules : List Rule) : Prop :=
  ∃ index, rules[index]? = some rule ∧
    ∃ declarative ∈ compile rules true, declarative.id.toNat = index + 1

/-- What is compiled is enabled and outside every cycle. -/
theorem Rule.EmittedFrom.kept {rule : Rule} {rules : List Rule}
    (emitted : rule.EmittedFrom rules) :
    rule ∈ rules ∧ rule.enabled = true ∧
      Cycle.excludes (Cycle.detect rules) rule.id = false := by
  obtain ⟨index, indexed, declarative, compiled, number_eq⟩ := emitted
  obtain ⟨place, found, found_eq, enabled, kept, place_eq, _⟩ := mem_compile_iff.mp compiled
  obtain rfl : place = index := by omega
  obtain rfl : found = rule := Option.some.inj (found_eq.symm.trans indexed)
  exact ⟨List.mem_of_getElem? found_eq, enabled, kept⟩

theorem Rule.EmittedFrom.of_kept {rule : Rule} {rules : List Rule} (index : Nat)
    (indexed : rules[index]? = some rule) (enabled : rule.enabled = true)
    (kept : Cycle.excludes (Cycle.detect rules) rule.id = false)
    (numbered : index + 1 < UInt32.size) : rule.EmittedFrom rules := by
  have number_eq : (UInt32.ofNat (index + 1)).toNat = index + 1 :=
    UInt32.toNat_ofNat_of_lt' numbered
  refine ⟨index, indexed, (synthesize rule).emit (UInt32.ofNat (index + 1)), ?_, number_eq⟩
  exact mem_compile_iff.mpr ⟨index, rule, indexed, enabled, kept, number_eq, rfl⟩

/-- Some rule prevails at the source of every enabled rule. -/
theorem Rule.exists_prevails {rule : Rule} {rules : List Rule} (rule_mem : rule ∈ rules)
    (enabled : rule.enabled = true) :
    ∃ other : Rule, other.PrevailsIn rules ∧ other.source = rule.source := by
  have found :
      ((rules.filter (·.enabled)).reverse.find? (·.source = rule.source)).isSome = true := by
    apply List.find?_isSome.mpr
    exact ⟨rule, by simp [rule_mem, enabled], by simp⟩
  obtain ⟨other, other_eq⟩ := Option.isSome_iff_exists.mp found
  exact ⟨other, Cycle.find?_eq_some_iff_prevails.mp other_eq⟩

/-- In every circle of compiled rules some rule is overridden: at its source another rule prevails,
which sends elsewhere. -/
theorem circle_overridden {rules chain : List Rule} (circle : Circle chain)
    (emitted : ∀ rule ∈ chain, rule.EmittedFrom rules) :
    ∃ rule ∈ chain, ∃ other : Rule, other.PrevailsIn rules ∧ other.source = rule.source ∧
      other.destination ≠ rule.destination := by
  apply Classical.byContradiction
  intro prevailing
  have sends : ∀ rule ∈ chain, Sends rules rule.source rule.destination := by
    intro rule rule_mem
    obtain ⟨rule_mem', enabled, _⟩ := (emitted rule rule_mem).kept
    obtain ⟨other, prevails, same_source⟩ := Rule.exists_prevails rule_mem' enabled
    obtain ⟨next, next_mem, next_eq⟩ := circle.next_mem rule_mem
    have same_destination : other.destination = rule.destination := by
      apply Classical.byContradiction
      intro elsewhere
      exact prevailing ⟨rule, rule_mem, other, prevails, same_source, elsewhere⟩
    exact ⟨circle.source_ne rule rule_mem, next_eq ▸ circle.source_ne next next_mem,
      other, prevails, same_source, same_destination⟩
  obtain ⟨rule, rule_mem⟩ := List.exists_mem_of_ne_nil chain circle.nonempty
  obtain ⟨rule_mem', enabled, kept⟩ := (emitted rule rule_mem).kept
  have endless : Endless (Sends rules) rule.source := by
    apply Endless.of_region (fun url => ∃ rule ∈ chain, rule.source = url)
    · rintro _ ⟨rule, rule_mem, rfl⟩
      obtain ⟨next, next_mem, next_eq⟩ := circle.next_mem rule_mem
      exact ⟨rule.destination, sends rule rule_mem, next, next_mem, next_eq.symm⟩
    · exact ⟨rule, rule_mem, rfl⟩
  have excluded := Cycle.excludes_detect_iff.mpr ⟨rule, rule_mem', enabled, rfl, endless⟩
  rw [kept] at excluded
  cases excluded

/-! ## A circle that is compiled -/

/-- The way from one address to another. -/
def way (source destination id : String) : Rule := { source, destination, id }

/-- Of three rules the last overrides the first, and the first two are compiled as a circle. -/
theorem overridden_circle :
    Circle [way "X" "Y" "a", way "Y" "X" "b"] ∧
      ∀ rule ∈ [way "X" "Y" "a", way "Y" "X" "b"],
        rule.EmittedFrom [way "X" "Y" "a", way "Y" "X" "b", way "X" "Z" "c"] := by
  constructor
  · exact ⟨by simp, by decide, by simp [way], by decide⟩
  · intro rule rule_mem
    rcases List.mem_cons.mp rule_mem with rfl | rule_mem
    · exact .of_kept 0 rfl rfl (by decide) (by decide)
    · obtain rfl := List.mem_singleton.mp rule_mem
      exact .of_kept 1 rfl rfl (by decide) (by decide)

theorem circle_overridden_pair :
    ∃ rule ∈ [way "X" "Y" "a", way "Y" "X" "b"], ∃ other : Rule,
      other.PrevailsIn [way "X" "Y" "a", way "Y" "X" "b", way "X" "Z" "c"] ∧
        other.source = rule.source ∧ other.destination ≠ rule.destination :=
  circle_overridden overridden_circle.1 overridden_circle.2

/-- Distinct names do not keep circles from being compiled. -/
theorem exists_emitted_circle :
    ¬∀ rules : List Rule, (rules.map (·.id)).Nodup →
      ¬∃ chain, Circle chain ∧ ∀ rule ∈ chain, rule.EmittedFrom rules := by
  intro no_circle
  exact no_circle [way "X" "Y" "a", way "Y" "X" "b", way "X" "Z" "c"] (by decide)
    ⟨_, overridden_circle⟩

end Redirects
