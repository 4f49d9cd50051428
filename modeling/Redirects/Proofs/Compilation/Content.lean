import Mathlib.Data.List.Forall2
import Mathlib.Data.List.Nodup
import Mathlib.Data.List.ReduceOption
import Redirects.Proofs.Compilation.Numbering

/-!
# What compiled rules depend on

A compiled list depends on the places of the enabled rules and on what they say.  Names tell rules
apart where a cycle leaves some of them out, so distinct names can be given anew; and what a rule
says while it is not enabled is of no account.
-/

namespace Redirects

/-- Both rules are out of use, or both are in use and say the same. -/
structure Rule.SameInUse (rule other : Rule) : Prop where
  enabled : rule.enabled = other.enabled
  draft : rule.enabled = true → rule.toDraft = other.toDraft

variable {rules others : List Rule}

/-- The rules in use say the same, one after another. -/
theorem map_toDraft_filter_enabled (same : List.Forall₂ Rule.SameInUse rules others) :
    (rules.filter (·.enabled)).map (·.toDraft) = (others.filter (·.enabled)).map (·.toDraft) := by
  induction same with
  | nil => rfl
  | @cons rule other _ _ head _ ih =>
      have other_enabled := head.enabled
      cases rule_enabled : rule.enabled with
      | true =>
          rw [rule_enabled] at other_enabled
          simp [← other_enabled, head.draft rule_enabled, ih]
      | false =>
          rw [rule_enabled] at other_enabled
          simp [rule_enabled, ← other_enabled, ih]

theorem sameInUse_of_map_toDraft (same : rules.map (·.toDraft) = others.map (·.toDraft)) :
    List.Forall₂ Rule.SameInUse rules others := by
  rw [← List.forall₂_eq_eq_eq, List.forall₂_map_left_iff, List.forall₂_map_right_iff] at same
  exact same.imp fun _ _ same => ⟨congrArg Draft.enabled same, fun _ => same⟩

namespace Cycle

/-- Where an address is sent is seen from what the rules say. -/
theorem next?_eq_drafts (rules : List Rule) (url : String) :
    next? rules url =
      ((rules.map (·.toDraft)).reverse.find? (·.source = url)).bind
        fun draft => node? draft.destination := by
  rw [next?, ← List.map_reverse, List.find?_map, Option.bind_map]
  rfl

end Cycle

theorem sends_congr (same : List.Forall₂ Rule.SameInUse rules others) :
    Sends rules = Sends others := by
  funext url destination
  rw [eq_iff_iff, Cycle.sends_iff, Cycle.sends_iff, Cycle.next?_eq_drafts,
    map_toDraft_filter_enabled same, ← Cycle.next?_eq_drafts]

/-- While names are distinct, whether an enabled rule is left out is seen from its source. -/
theorem excludes_detect_of_mem (distinct : (rules.map (·.id)).Nodup) {rule : Rule}
    (rule_mem : rule ∈ rules) (enabled : rule.enabled = true) :
    Cycle.excludes (Cycle.detect rules) rule.id = true ↔ Endless (Sends rules) rule.source := by
  rw [Cycle.excludes_detect_iff]
  constructor
  · rintro ⟨other, other_mem, -, same_id, endless⟩
    obtain rfl := List.inj_on_of_nodup_map distinct other_mem rule_mem same_id
    exact endless
  · intro endless
    exact ⟨rule, rule_mem, enabled, rfl, endless⟩

theorem synthesize_congr {rule other : Rule} (same : rule.toDraft = other.toDraft) :
    synthesize rule = synthesize other := by
  rw [synthesize, synthesize, same]

/-- Rules at one place are left out alike, under whatever names. -/
theorem excludes_detect_congr (same : List.Forall₂ Rule.SameInUse rules others)
    (distinct : (rules.map (·.id)).Nodup) (others_distinct : (others.map (·.id)).Nodup)
    {rule other : Rule} (rule_mem : rule ∈ rules) (other_mem : other ∈ others)
    (alike : rule.SameInUse other) (enabled : rule.enabled = true) :
    Cycle.excludes (Cycle.detect rules) rule.id = Cycle.excludes (Cycle.detect others) other.id := by
  have other_enabled : other.enabled = true := alike.enabled ▸ enabled
  rw [Bool.eq_iff_iff, excludes_detect_of_mem distinct rule_mem enabled,
    excludes_detect_of_mem others_distinct other_mem other_enabled, sends_congr same,
    alike.draft enabled]

/-- Rules at one place are compiled alike. -/
theorem compileAt?_congr (same : List.Forall₂ Rule.SameInUse rules others)
    (distinct : (rules.map (·.id)).Nodup) (others_distinct : (others.map (·.id)).Nodup)
    {rule other : Rule} (rule_mem : rule ∈ rules) (other_mem : other ∈ others)
    (alike : rule.SameInUse other) (index : Nat) :
    compileAt? (Cycle.detect rules) rule index = compileAt? (Cycle.detect others) other index := by
  cases enabled : rule.enabled with
  | false => simp [compileAt?, enabled, ← alike.enabled]
  | true =>
      have other_enabled : other.enabled = true := alike.enabled ▸ enabled
      rw [compileAt?, compileAt?, enabled, other_enabled,
        excludes_detect_congr same distinct others_distinct rule_mem other_mem alike enabled,
        synthesize_congr (alike.draft enabled)]

theorem compile_true_eq_reduceOption (rules : List Rule) :
    compile rules true =
      (rules.mapIdx fun index rule => compileAt? (Cycle.detect rules) rule index).reduceOption := by
  rw [compile_true, List.mapIdx_eq_zipIdx_map, List.reduceOption, List.filterMap_map]
  rfl

/-- Rules that say the same while they are in use are compiled to the same, whatever their distinct
names are. -/
theorem compile_congr (same : List.Forall₂ Rule.SameInUse rules others)
    (distinct : (rules.map (·.id)).Nodup) (others_distinct : (others.map (·.id)).Nodup)
    (enabled : Bool) : compile rules enabled = compile others enabled := by
  cases enabled with
  | false => rfl
  | true =>
      rw [compile_true_eq_reduceOption, compile_true_eq_reduceOption]
      congr 1
      -- The lists are compared before gaps close, while places still tell which rules correspond.
      apply List.ext_getElem
      · simpa using same.length_eq
      · intro index rule_lt other_lt
        rw [List.length_mapIdx] at rule_lt other_lt
        rw [List.getElem_mapIdx, List.getElem_mapIdx]
        exact compileAt?_congr same distinct others_distinct (List.getElem_mem rule_lt)
          (List.getElem_mem other_lt) (same.get rule_lt other_lt) index

end Redirects
