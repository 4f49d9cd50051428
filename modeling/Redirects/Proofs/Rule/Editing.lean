import Mathlib.Data.List.Nodup
import Redirects.Rule.Listing

/-!
# Edits of one rule

While names are distinct a rule stands at one place of its list, and an edit under its name is an
edit of that place: the rules in front of it and those behind it stay as they are.
-/

namespace Redirects.Rule

variable {rules front back : List Rule} {rule other : Rule}

/-- A rule of distinctly named rules, and the rules around it, none of which has its name. -/
theorem exists_split (distinct : (rules.map (·.id)).Nodup) (rule_mem : rule ∈ rules) :
    ∃ front back, rules = front ++ rule :: back ∧ ∀ other ∈ front ++ back, other.id ≠ rule.id := by
  obtain ⟨front, back, rfl⟩ := List.append_of_mem rule_mem
  refine ⟨front, back, rfl, fun other other_mem same => ?_⟩
  rw [List.map_append, List.map_cons, List.nodup_middle, ← List.map_append] at distinct
  exact (List.nodup_cons.mp distinct).1 (same ▸ List.mem_map_of_mem other_mem)

/-- While names are distinct, a name tells the place. -/
theorem index_unique (distinct : (rules.map (·.id)).Nodup) {index place : Nat}
    (indexed : rules[index]? = some rule) (placed : rules[place]? = some other)
    (same : rule.id = other.id) : index = place := by
  have index_lt : index < (rules.map (·.id)).length := by
    rw [List.length_map]
    exact (List.getElem?_eq_some_iff.mp indexed).1
  apply (List.getElem?_inj index_lt distinct).mp
  rw [List.getElem?_map, List.getElem?_map, indexed, placed, Option.map_some, Option.map_some, same]

theorem change_split (edit : Rule → Rule) (alone : ∀ other ∈ front, other.id ≠ rule.id) :
    change rule.id edit (front ++ rule :: back) = .ok (front ++ edit rule :: back) := by
  induction front with
  | nil => exact if_pos rfl
  | cons first front ih =>
      obtain ⟨differs, alone⟩ := List.forall_mem_cons.mp alone
      rw [List.cons_append, change, if_neg differs, ih alone]
      rfl

theorem remove_split (alone : ∀ other ∈ front ++ back, other.id ≠ rule.id) :
    remove (front ++ rule :: back) rule.id = .ok (front ++ back) := by
  have kept : (front ++ rule :: back).filter (·.id ≠ rule.id) = front ++ back := by
    rw [List.filter_append, List.filter_cons_of_neg (by simp), ← List.filter_append,
      List.filter_eq_self]
    simpa using alone
  have shorter : (front ++ back).length ≠ (front ++ rule :: back).length := by
    simp
  simp only [remove, kept, if_neg shorter]

/-- Another rule stands at its place still when the rule is replaced. -/
theorem getElem?_replaced {index : Nat} (replacement : Rule)
    (indexed : (front ++ rule :: back)[index]? = some other) (differ : other ≠ rule) :
    (front ++ replacement :: back)[index]? = some other := by
  rcases Nat.lt_trichotomy index front.length with before | rfl | behind
  · rwa [List.getElem?_append_left before] at indexed ⊢
  · simp [differ.symm] at indexed
  · obtain ⟨gap, rfl⟩ := Nat.exists_eq_add_of_lt behind
    simpa [List.getElem?_append_right, Nat.add_assoc] using indexed

/-- Another rule stands at its place or the one before when the rule is removed. -/
theorem exists_getElem?_removed {index : Nat}
    (indexed : (front ++ rule :: back)[index]? = some other) (differ : other ≠ rule) :
    ∃ place ≤ index, (front ++ back)[place]? = some other := by
  rcases Nat.lt_trichotomy index front.length with before | rfl | behind
  · refine ⟨index, Nat.le_refl _, ?_⟩
    rwa [List.getElem?_append_left before] at indexed ⊢
  · simp [differ.symm] at indexed
  · obtain ⟨gap, rfl⟩ := Nat.exists_eq_add_of_lt behind
    refine ⟨front.length + gap, Nat.le_succ _, ?_⟩
    simpa [List.getElem?_append_right, Nat.add_assoc] using indexed

end Redirects.Rule
