import Redirects.Proofs.Compilation.Emission
import Redirects.Proofs.Cycle.SharedSource

/-!
# Rules in another order

The order of a list decides which of the enabled rules with one source prevails, and under which
numbers rules are compiled.  It decides nothing else: where the rules with one source keep their
order, the same rules are left out on account of cycles, and each rule is compiled to the same
filter and target under the number of its new place.
-/

namespace Redirects

/-- The rules in another order, in which enabled rules that share a source keep theirs. -/
structure Rule.Reordered (others rules : List Rule) : Prop where
  perm : others.Perm rules
  kept_order : ∀ source, Rule.ofSource others source = Rule.ofSource rules source

variable {rules others : List Rule}

/-- What is left out does not depend on the order. -/
theorem Rule.Reordered.excludes_eq (reordered : Rule.Reordered others rules) (id : String) :
    Cycle.excludes (Cycle.detect others) id = Cycle.excludes (Cycle.detect rules) id := by
  rw [Bool.eq_iff_iff, Cycle.excludes_detect_iff, Cycle.excludes_detect_iff,
    sends_eq_of_ofSource reordered.kept_order]
  simp only [reordered.perm.mem_iff]

/-- Another order keeps what is left out and what is compiled, but for the numbers: of each rule
nothing is compiled at either place, or at both what the rule says, under the number of the place as
long as numbers last. -/
theorem reordered_compiled_alike (reordered : Rule.Reordered others rules) :
    (∀ id, id ∈ Cycle.excluded (Cycle.detect others) ↔ id ∈ Cycle.excluded (Cycle.detect rules)) ∧
      ∀ (rule : Rule) (index place : Nat), rules[index]? = some rule → others[place]? = some rule →
        emission? rules index = none ∧ emission? others place = none ∨
          emission? rules index = (numberAt? index).map (synthesize rule).emit ∧
            emission? others place = (numberAt? place).map (synthesize rule).emit := by
  constructor
  · intro id
    rw [Cycle.mem_excluded_iff, Cycle.mem_excluded_iff, reordered.excludes_eq]
  · intro rule index place indexed placed
    by_cases kept : rule.enabled = true ∧ Cycle.excludes (Cycle.detect rules) rule.id = false
    · have placed_kept : Cycle.excludes (Cycle.detect others) rule.id = false :=
        (reordered.excludes_eq rule.id).trans kept.2
      exact .inr ⟨emission?_of_kept indexed kept.1 kept.2,
        emission?_of_kept placed kept.1 placed_kept⟩
    · have placed_dropped :
          ¬(rule.enabled = true ∧ Cycle.excludes (Cycle.detect others) rule.id = false) := by
        rwa [reordered.excludes_eq]
      exact .inl ⟨emission?_of_dropped indexed kept, emission?_of_dropped placed placed_dropped⟩

/-- A rule that sends its source to itself moves behind two that share a source. -/
theorem reordered_compiled_alike_moved :
    let circle : Rule := { source := "X", destination := "X", id := "x" }
    let first : Rule := { source := "S", destination := "X", id := "s" }
    let second : Rule := { source := "S", destination := "T", id := "t" }
    Rule.Reordered [first, second, circle] [circle, first, second] ∧
      emission? [circle, first, second] 1 = some ((synthesize first).emit 2) ∧
        emission? [first, second, circle] 0 = some ((synthesize first).emit 1) := by
  intro circle first second
  have reordered : Rule.Reordered [first, second, circle] [circle, first, second] := by
    refine ⟨by decide, fun source => ?_⟩
    by_cases at_circle : "X" = source
    · subst at_circle
      decide
    · simp [Rule.ofSource, circle, first, second, List.filter_cons, at_circle]
  refine ⟨reordered, ?_⟩
  rcases (reordered_compiled_alike reordered).2 first 1 0 rfl rfl with ⟨none_there, -⟩ | both
  · exact absurd none_there (by decide)
  · exact both

end Redirects
