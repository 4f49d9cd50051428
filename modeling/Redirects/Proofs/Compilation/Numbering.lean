import Redirects.Compilation
import Redirects.Proofs.Cycle.Exclusion

/-!
# The numbers of compiled rules

A declarative rule carries the place of the rule that it was compiled from, so numbers rise along
the compiled list and no two are equal.  Each rule of a list is compiled, left out on account of a
cycle, or not enabled; while names are distinct and numbers last, these three classes are counted
by what a compilation reports.
-/

namespace Redirects

theorem numberAt?_eq_some_iff {index : Nat} {number : UInt32} :
    numberAt? index = some number ↔ number.toNat = index + 1 := by
  have number_lt := number.toNat_lt_size
  rw [numberAt?]
  split
  · rename_i fits
    rw [Option.some.injEq, ← UInt32.toNat_inj, UInt32.toNat_ofNat_of_lt' fits]
    exact eq_comm
  · simp only [reduceCtorEq, false_iff]
    omega

theorem compileAt?_eq_some_iff {cycles : List Cycle} {rule : Rule} {index : Nat}
    {declarative : DeclarativeRule} :
    compileAt? cycles rule index = some declarative ↔
      rule.enabled = true ∧ Cycle.excludes cycles rule.id = false ∧
        declarative.id.toNat = index + 1 ∧
          declarative = (synthesize rule).emit declarative.id := by
  rw [compileAt?]
  split
  · rename_i kept
    rw [Bool.and_eq_true, Bool.not_eq_true'] at kept
    simp only [kept, Option.map_eq_some_iff, numberAt?_eq_some_iff, true_and]
    constructor
    · rintro ⟨number, number_eq, rfl⟩
      exact ⟨number_eq, rfl⟩
    · rintro ⟨number_eq, emitted⟩
      exact ⟨declarative.id, number_eq, emitted.symm⟩
  · rename_i dropped
    rw [Bool.and_eq_true, Bool.not_eq_true'] at dropped
    simp only [reduceCtorEq, false_iff]
    rintro ⟨enabled, kept, _⟩
    exact dropped ⟨enabled, kept⟩

theorem compileAt?_isSome {cycles : List Cycle} {rule : Rule} {index : Nat}
    (numbered : index + 1 < UInt32.size) :
    (compileAt? cycles rule index).isSome =
      (rule.enabled && !Cycle.excludes cycles rule.id) := by
  cases kept : rule.enabled && !Cycle.excludes cycles rule.id <;>
    simp [compileAt?, numberAt?, kept, numbered]

@[simp]
theorem compile_false (rules : List Rule) : compile rules false = [] := rfl

theorem compile_true (rules : List Rule) :
    compile rules true =
      rules.zipIdx.filterMap fun (rule, index) => compileAt? (Cycle.detect rules) rule index := rfl

/-- Every declarative rule comes from the rule at the place that its number tells. -/
theorem mem_compile_iff {rules : List Rule} {declarative : DeclarativeRule} :
    declarative ∈ compile rules true ↔
      ∃ index rule, rules[index]? = some rule ∧ rule.enabled = true ∧
        Cycle.excludes (Cycle.detect rules) rule.id = false ∧
          declarative.id.toNat = index + 1 ∧
            declarative = (synthesize rule).emit declarative.id := by
  rw [compile_true, List.mem_filterMap]
  constructor
  · rintro ⟨⟨rule, index⟩, indexed, compiled⟩
    exact ⟨index, rule, List.mem_zipIdx_iff_getElem?.mp indexed,
      compileAt?_eq_some_iff.mp compiled⟩
  · rintro ⟨index, rule, indexed, compiled⟩
    exact ⟨(rule, index), List.mem_zipIdx_iff_getElem?.mpr indexed,
      compileAt?_eq_some_iff.mpr compiled⟩

/-- Numbers rise along a compiled list. -/
theorem compile_pairwise_lt (rules : List Rule) (enabled : Bool) :
    (compile rules enabled).Pairwise fun rule other => rule.id < other.id := by
  cases enabled with
  | false => exact List.Pairwise.nil
  | true =>
      have places : rules.zipIdx.Pairwise fun left right => left.2 < right.2 := by
        apply List.pairwise_map.mp
        rw [List.zipIdx_map_snd]
        exact List.pairwise_lt_range'
      rw [compile_true]
      apply places.filterMap
      rintro ⟨left, i⟩ ⟨right, j⟩ i_lt first first_eq second second_eq
      have first_id := (compileAt?_eq_some_iff.mp first_eq).2.2.1
      have second_id := (compileAt?_eq_some_iff.mp second_eq).2.2.1
      rw [UInt32.lt_iff_toNat_lt]
      omega

theorem compile_ids_nodup (rules : List Rule) (enabled : Bool) :
    ((compile rules enabled).map (·.id)).Nodup := by
  rw [List.Nodup, List.pairwise_map]
  exact (compile_pairwise_lt rules enabled).imp fun lt => UInt32.ne_of_lt lt

/-! ## The three classes of rules -/

/-- While numbers last, every enabled rule outside the cycles is compiled. -/
theorem length_compile {rules : List Rule} (numbered : rules.length < UInt32.size) :
    (compile rules true).length =
      rules.countP fun rule =>
        rule.enabled && !Cycle.excludes (Cycle.detect rules) rule.id := by
  let kept (rule : Rule) : Bool :=
    rule.enabled && !Cycle.excludes (Cycle.detect rules) rule.id
  have kept_place : ∀ place ∈ rules.zipIdx,
      (compileAt? (Cycle.detect rules) place.1 place.2).isSome = true ↔
        (kept ∘ Prod.fst) place = true := by
    intro place place_mem
    have place_lt : place.2 < rules.length := (List.mem_zipIdx' place_mem).1
    rw [compileAt?_isSome (by omega)]
    rfl
  rw [compile_true, List.length_filterMap_eq_countP, List.countP_congr kept_place,
    ← List.countP_map, List.zipIdx_map_fst]

theorem nodup_eraseDups (names : List String) : names.eraseDups.Nodup := by
  cases names with
  | nil => exact List.nodup_nil
  | cons name rest =>
      rw [List.eraseDups_cons]
      refine List.nodup_cons.mpr ⟨?_, nodup_eraseDups _⟩
      simp [List.mem_eraseDups]
termination_by names.length
decreasing_by
  have shorter := List.length_filter_le (fun other => !other == name) rest
  simp only [List.length_cons]
  omega

/-- While names are distinct, a compilation reports as many names as rules are left out. -/
theorem length_excluded {rules : List Rule} (distinct : (rules.map (·.id)).Nodup) :
    (Cycle.excluded (Cycle.detect rules)).length =
      rules.countP fun rule => rule.enabled && Cycle.excludes (Cycle.detect rules) rule.id := by
  let leftOut (rule : Rule) : Bool :=
    rule.enabled && Cycle.excludes (Cycle.detect rules) rule.id
  have names_distinct : ((rules.filter leftOut).map (·.id)).Nodup :=
    (List.filter_sublist.map _).nodup distinct
  have same_names : ∀ id, id ∈ Cycle.excluded (Cycle.detect rules) ↔
      id ∈ (rules.filter leftOut).map (·.id) := by
    intro id
    rw [Cycle.mem_excluded_iff, List.mem_map]
    constructor
    · intro excluded
      obtain ⟨rule, rule_mem, enabled, rfl, _⟩ := Cycle.excludes_detect_iff.mp excluded
      exact ⟨rule, List.mem_filter.mpr ⟨rule_mem, by simp [leftOut, enabled, excluded]⟩, rfl⟩
    · rintro ⟨rule, rule_left_out, rfl⟩
      have left_out := (List.mem_filter.mp rule_left_out).2
      exact (Bool.and_eq_true_iff.mp left_out).2
  have excluded_distinct : (Cycle.excluded (Cycle.detect rules)).Nodup := nodup_eraseDups _
  have same := (List.perm_ext_iff_of_nodup excluded_distinct names_distinct).mpr same_names
  rw [same.length_eq, List.length_map, List.countP_eq_length_filter]

theorem countP_classes {α : Type} (outer inner : α → Bool) (elements : List α) :
    elements.countP (fun element => outer element && !inner element) +
        elements.countP (fun element => outer element && inner element) +
      elements.countP (fun element => !outer element) = elements.length := by
  induction elements with
  | nil => rfl
  | cons element rest ih =>
      cases outer_eq : outer element <;> cases inner_eq : inner element <;>
        simp [outer_eq, inner_eq] <;> omega

/-- Every rule is compiled, left out on account of a cycle, or not enabled. -/
theorem length_partition {rules : List Rule} (distinct : (rules.map (·.id)).Nodup)
    (numbered : rules.length < UInt32.size) :
    (compile rules true).length + (Cycle.excluded (Cycle.detect rules)).length +
      (compileWithReport rules true).disabled = rules.length := by
  have disabled_eq : (compileWithReport rules true).disabled = rules.countP (!·.enabled) := rfl
  rw [length_compile numbered, length_excluded distinct, disabled_eq]
  exact countP_classes (·.enabled) _ rules

end Redirects
