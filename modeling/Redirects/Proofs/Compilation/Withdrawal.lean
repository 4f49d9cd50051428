import Redirects.Proofs.Compilation.Emission
import Redirects.Proofs.Cycle.SharedSource
import Redirects.Proofs.Rule.Editing

/-!
# A rule is taken out of use

Where no two enabled rules share a source, a rule that is switched off or removed takes one edge out
of the map of redirects and puts none in.  Chains can only get shorter, so no further rule is left
out on account of a cycle, and what was compiled for the other rules is compiled for them still.
-/

namespace Redirects

variable {rules others front back : List Rule} {rule other : Rule} {index place : Nat}
  {declarative : DeclarativeRule}

/-- The rules around one rule are fewer than all. -/
theorem Rule.narrows_removed (front back : List Rule) (rule : Rule) :
    Rule.Narrows (front ++ back) (front ++ rule :: back) :=
  Rule.narrows_of_sublist ((List.sublist_cons_self rule back).append_left front)

/-- A rule that is off counts as little as one that is not there. -/
theorem Rule.narrows_off (front back : List Rule) (rule off : Rule)
    (switched_off : off.enabled = false) :
    Rule.Narrows (front ++ off :: back) (front ++ rule :: back) := by
  intro source
  have same : Rule.ofSource (front ++ off :: back) source =
      Rule.ofSource (front ++ back) source := by
    rw [ofSource, ofSource, List.filter_append, List.filter_cons_of_neg (by simp [switched_off]),
      ← List.filter_append]
  rw [same]
  exact Rule.narrows_removed front back rule source

/-- What was compiled for a rule is compiled for it still where there are fewer rules, under the
number of its place there. -/
theorem emission?_of_narrows (narrows : Rule.Narrows others rules)
    (apart : ((rules.filter (·.enabled)).map (·.source)).Nodup)
    (indexed : rules[index]? = some rule) (placed : others[place]? = some rule)
    (place_le : place ≤ index) (emitted : emission? rules index = some declarative) :
    emission? others place = some { declarative with id := UInt32.ofNat (place + 1) } := by
  obtain ⟨enabled, kept, number_eq, declarative_eq⟩ := kept_of_emission? indexed emitted
  have kept_still : Cycle.excludes (Cycle.detect others) rule.id = false := by
    rw [Bool.eq_false_iff] at kept ⊢
    exact fun excluded => kept (narrows.excludes apart excluded)
  have numbered : place + 1 < UInt32.size := by
    have number_lt := declarative.id.toNat_lt_size
    omega
  rw [emission?_of_kept placed enabled kept_still, numberAt?, if_pos numbered, declarative_eq]
  rfl

/-- Switching a rule off, or removing it, takes no other rule out of service.  No name is left out
on account of a cycle that was not before; and what was compiled for another rule is compiled for it
still, under the same number where the rule is switched off, and under that of its place in the
shorter list where the rule is removed. -/
theorem withdrawal_spares_others {rules : List Rule} (distinct : (rules.map (·.id)).Nodup)
    (apart : ((rules.filter (·.enabled)).map (·.source)).Nodup) {rule : Rule}
    (rule_mem : rule ∈ rules) :
    (rule.enabled = true → ∃ after, Rule.toggle rules rule.id = .ok after ∧
      (∀ id, Cycle.excludes (Cycle.detect after) id = true →
        Cycle.excludes (Cycle.detect rules) id = true) ∧
      ∀ index other declarative, rules[index]? = some other → other ≠ rule →
        emission? rules index = some declarative →
          after[index]? = some other ∧ emission? after index = some declarative) ∧
    ∃ after, Rule.remove rules rule.id = .ok after ∧
      (∀ id, Cycle.excludes (Cycle.detect after) id = true →
        Cycle.excludes (Cycle.detect rules) id = true) ∧
      ∀ index other declarative, rules[index]? = some other → other ≠ rule →
        emission? rules index = some declarative →
          ∃ place ≤ index, after[place]? = some other ∧
            emission? after place =
              some { declarative with id := UInt32.ofNat (place + 1) } := by
  obtain ⟨front, back, rfl, alone⟩ := Rule.exists_split distinct rule_mem
  constructor
  · intro enabled
    have alone_before : ∀ other ∈ front, other.id ≠ rule.id :=
      fun other other_mem => alone other (List.mem_append_left _ other_mem)
    let off : Rule := { rule with enabled := !rule.enabled }
    have narrows := Rule.narrows_off front back rule off (by simp [off, enabled])
    refine ⟨_, Rule.change_split _ alone_before, fun _ => narrows.excludes apart, ?_⟩
    intro index other declarative indexed differ emitted
    have indexed_still := Rule.getElem?_replaced off indexed differ
    have same_number : UInt32.ofNat (index + 1) = declarative.id := by
      rw [← (kept_of_emission? indexed emitted).2.2.1, UInt32.ofNat_toNat]
    refine ⟨indexed_still, ?_⟩
    rw [emission?_of_narrows narrows apart indexed indexed_still (Nat.le_refl _) emitted,
      same_number]
  · have narrows := Rule.narrows_removed front back rule
    refine ⟨_, Rule.remove_split alone, fun _ => narrows.excludes apart, ?_⟩
    intro index other declarative indexed differ emitted
    obtain ⟨place, place_le, placed⟩ := Rule.exists_getElem?_removed indexed differ
    exact ⟨place, place_le, placed,
      emission?_of_narrows narrows apart indexed placed place_le emitted⟩

/-- One rule of a circle is switched off, or removed, in front of a rule outside it. -/
theorem withdrawal_spares_others_circle :
    let there : Rule := { source := "X", destination := "Y", id := "x" }
    let back : Rule := { source := "Y", destination := "X", id := "y" }
    let other : Rule := { source := "S", destination := "T", id := "s" }
    let rules := [there, back, other]
    (rules.map (·.id)).Nodup ∧ ((rules.filter (·.enabled)).map (·.source)).Nodup ∧
      emission? rules 2 = some ((synthesize other).emit 3) ∧
      (∃ after, Rule.toggle rules "x" = .ok after ∧
        emission? after 2 = some ((synthesize other).emit 3)) ∧
      ∃ after, Rule.remove rules "x" = .ok after ∧
        ∃ place ≤ 2, after[place]? = some other ∧
          emission? after place = some ((synthesize other).emit (UInt32.ofNat (place + 1))) := by
  intro there back other rules
  have distinct : (rules.map (·.id)).Nodup := by decide
  have apart : ((rules.filter (·.enabled)).map (·.source)).Nodup := by decide
  have emitted : emission? rules 2 = some ((synthesize other).emit 3) :=
    emission?_of_kept rfl rfl (by decide)
  have there_mem : there ∈ rules := List.mem_cons_self
  obtain ⟨switched, after, removed, -, shorter⟩ :=
    withdrawal_spares_others distinct apart there_mem
  obtain ⟨same, toggled, -, longer⟩ := switched rfl
  exact ⟨distinct, apart, emitted,
    ⟨same, toggled, (longer 2 other _ rfl (by decide) emitted).2⟩,
    after, removed, shorter 2 other _ rfl (by decide) emitted⟩

end Redirects
