import Redirects.Engine.Basic

/-!
# What an update accepts

An update keeps the active rules whose numbers it does not take out and puts its own behind them.
It is accepted exactly when the numbers that it adds are distinct and none of them is kept.
-/

namespace Redirects

namespace Update

/-- The active rules that an update leaves in. -/
def kept (update : Update) (active : List DeclarativeRule) : List DeclarativeRule :=
  active.filter fun rule => !update.removals.contains rule.id

/-- Nothing is kept exactly when every active number is taken out. -/
theorem kept_replaceAll_eq_nil_iff {seen rules active : List DeclarativeRule} :
    (replaceAll seen rules).kept active = [] ↔
      ∀ rule ∈ active, rule.id ∈ seen.map (·.id) := by
  simp [kept, replaceAll, List.filter_eq_nil_iff]

theorem kept_replaceAll_self (active rules : List DeclarativeRule) :
    (replaceAll active rules).kept active = [] :=
  kept_replaceAll_eq_nil_iff.mpr fun _ => List.mem_map_of_mem

theorem addAll_eq_ok_iff {active additions result : List DeclarativeRule} :
    addAll active additions = .ok result ↔
      result = active ++ additions ∧ (additions.map (·.id)).Nodup ∧
        ∀ old ∈ active, ∀ new ∈ additions, old.id ≠ new.id := by
  induction additions generalizing active with
  | nil => simp [addAll, eq_comm]
  | cons rule additions ih =>
      by_cases taken : ∃ old ∈ active, old.id = rule.id
      · obtain ⟨old, old_mem, same_id⟩ := taken
        have refused : active.any (·.id = rule.id) = true :=
          List.any_eq_true.mpr ⟨old, old_mem, by simpa using same_id⟩
        rw [addAll, if_pos refused]
        simp only [reduceCtorEq, false_iff]
        rintro ⟨_, _, apart⟩
        exact apart old old_mem rule List.mem_cons_self same_id
      · have accepted : ¬active.any (·.id = rule.id) = true := by
          simpa [List.any_eq_true] using taken
        rw [addAll, if_neg accepted, ih, List.append_assoc, List.singleton_append, List.map_cons,
          List.nodup_cons]
        constructor
        · rintro ⟨rfl, distinct, apart⟩
          refine ⟨rfl, ⟨?_, distinct⟩, ?_⟩
          · rintro listed
            obtain ⟨new, new_mem, same_id⟩ := List.mem_map.mp listed
            exact apart rule (by simp) new new_mem same_id.symm
          · intro old old_mem new new_mem
            rcases List.mem_cons.mp new_mem with rfl | new_mem
            · exact fun same_id => taken ⟨old, old_mem, same_id⟩
            · exact apart old (List.mem_append_left _ old_mem) new new_mem
        · rintro ⟨rfl, ⟨unlisted, distinct⟩, apart⟩
          refine ⟨rfl, distinct, ?_⟩
          intro old old_mem new new_mem
          rcases List.mem_append.mp old_mem with old_mem | old_mem
          · exact apart old old_mem new (List.mem_cons_of_mem _ new_mem)
          · obtain rfl := List.mem_singleton.mp old_mem
            exact fun same_id => unlisted (same_id ▸ List.mem_map_of_mem new_mem)

theorem apply_eq_ok_iff {update : Update} {active result : List DeclarativeRule} :
    update.apply active = .ok result ↔
      result = update.kept active ++ update.additions ∧ (update.additions.map (·.id)).Nodup ∧
        ∀ old ∈ update.kept active, ∀ new ∈ update.additions, old.id ≠ new.id :=
  addAll_eq_ok_iff

/-- Replacing all active rules is accepted whenever the new numbers are distinct. -/
theorem apply_replaceAll_self {active rules : List DeclarativeRule}
    (distinct : (rules.map (·.id)).Nodup) : (replaceAll active rules).apply active = .ok rules := by
  apply apply_eq_ok_iff.mpr
  rw [kept_replaceAll_self]
  exact ⟨rfl, distinct, by simp⟩

end Update

end Redirects
