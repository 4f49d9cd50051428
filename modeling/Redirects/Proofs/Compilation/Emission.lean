import Mathlib.Data.List.Nodup
import Redirects.Proofs.Compilation.Numbering

/-!
# What is compiled for a place

A compiled rule is found under the number of the place that it was compiled for.  There is one as
long as numbers last, if the rule at the place is enabled and outside every cycle; but for its
number it depends on that rule alone.
-/

namespace Redirects

/-- The compiled rule under the number of a place. -/
def emission? (rules : List Rule) (index : Nat) : Option DeclarativeRule :=
  (compile rules true).find? fun declarative => declarative.id.toNat = index + 1

variable {rules : List Rule} {index : Nat} {rule : Rule} {declarative : DeclarativeRule}

/-- No two compiled rules have one number. -/
theorem eq_of_mem_compile {other : DeclarativeRule} (compiled : declarative ∈ compile rules true)
    (other_compiled : other ∈ compile rules true) (same : declarative.id.toNat = other.id.toNat) :
    declarative = other :=
  List.inj_on_of_nodup_map (compile_ids_nodup rules true) compiled other_compiled
    (UInt32.toNat_inj.mp same)

theorem emission?_eq_some_iff :
    emission? rules index = some declarative ↔
      declarative ∈ compile rules true ∧ declarative.id.toNat = index + 1 := by
  constructor
  · intro found
    exact ⟨List.mem_of_find?_eq_some found, by simpa using List.find?_some found⟩
  · rintro ⟨compiled, number_eq⟩
    have some_found : (emission? rules index).isSome :=
      List.find?_isSome.mpr ⟨declarative, compiled, by simpa using number_eq⟩
    obtain ⟨other, found⟩ := Option.isSome_iff_exists.mp some_found
    have other_number : other.id.toNat = index + 1 := by simpa using List.find?_some found
    rw [found, eq_of_mem_compile (List.mem_of_find?_eq_some found) compiled
      (other_number.trans number_eq.symm)]

theorem emission?_eq_compileAt? (indexed : rules[index]? = some rule) :
    emission? rules index = compileAt? (Cycle.detect rules) rule index := by
  ext declarative
  rw [emission?_eq_some_iff, mem_compile_iff, compileAt?_eq_some_iff]
  constructor
  · rintro ⟨⟨place, found, found_eq, enabled, kept, place_eq, emitted⟩, number_eq⟩
    obtain rfl : place = index := by omega
    obtain rfl : found = rule := Option.some.inj (found_eq.symm.trans indexed)
    exact ⟨enabled, kept, number_eq, emitted⟩
  · rintro ⟨enabled, kept, number_eq, emitted⟩
    exact ⟨⟨index, rule, indexed, enabled, kept, number_eq, emitted⟩, number_eq⟩

/-- What is compiled for a rule in use, as long as numbers last. -/
theorem emission?_of_kept (indexed : rules[index]? = some rule) (enabled : rule.enabled = true)
    (kept : Cycle.excludes (Cycle.detect rules) rule.id = false) :
    emission? rules index = (numberAt? index).map (synthesize rule).emit := by
  rw [emission?_eq_compileAt? indexed, compileAt?, enabled, kept]
  rfl

theorem emission?_of_dropped (indexed : rules[index]? = some rule)
    (dropped : ¬(rule.enabled = true ∧ Cycle.excludes (Cycle.detect rules) rule.id = false)) :
    emission? rules index = none := by
  rw [emission?_eq_compileAt? indexed, compileAt?, if_neg]
  simpa using dropped

/-- What an emission tells of the rule at its place. -/
theorem kept_of_emission? (indexed : rules[index]? = some rule)
    (emitted : emission? rules index = some declarative) :
    rule.enabled = true ∧ Cycle.excludes (Cycle.detect rules) rule.id = false ∧
      declarative.id.toNat = index + 1 ∧ declarative = (synthesize rule).emit declarative.id := by
  rw [emission?_eq_compileAt? indexed] at emitted
  exact compileAt?_eq_some_iff.mp emitted

end Redirects
