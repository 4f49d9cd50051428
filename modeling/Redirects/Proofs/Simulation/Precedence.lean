import Mathlib.Data.List.Nodup
import Redirects.Proofs.Compilation.Places

/-!
# Which rule redirects a request

Of the rules that apply to an address the one with the lowest number redirects it, and of those with
one number the first.  A rule in front of others either keeps the request to itself or leaves it to
them (`simulate_cons`), so the rule that redirects is found by induction on the list, whatever the
order of its numbers.
-/

namespace Redirects

namespace DeclarativeRule

/-- The filter of the rule matches the address, and the rule says where to send it. A rule with a
text filter sends to its address only. -/
def AppliesTo (rule : DeclarativeRule) (url : String) : Prop :=
  rule.condition.holds url = true ∧
    (rule.redirection.url.isSome = true ∨
      rule.condition.urlFilter = none ∧ rule.redirection.substitution.isSome = true)

theorem isSome_redirect?_iff {rule : DeclarativeRule} {url : String} :
    (rule.redirect? url).isSome = true ↔ rule.AppliesTo url := by
  obtain ⟨id, priority, ⟨address, substitution⟩, ⟨urlFilter, regexFilter, types⟩⟩ := rule
  cases urlFilter with
  | some text =>
      cases occurs : Text.occursIn text.toList url.toList <;>
        simp [redirect?, AppliesTo, Condition.holds, occurs]
  | none =>
      cases regexFilter with
      | none => simp [redirect?, AppliesTo, Condition.holds]
      | some pattern =>
          simp only [redirect?, AppliesTo, Condition.holds, Regex.matchesIn]
          cases Regex.prepare pattern with
          | error fault => simp
          | ok prepared =>
              dsimp only [Regex.Prepared.occursIn]
              cases prepared.find? url.toList.toArray <;> cases substitution <;> simp

theorem hit?_eq_some_iff {rule : DeclarativeRule} {url : String} {hit : Hit} :
    rule.hit? url = some hit ↔
      hit.ruleId = rule.id ∧ hit.source = url ∧ rule.redirect? url = some hit.destination := by
  obtain ⟨number, source, destination⟩ := hit
  simp only [hit?, Option.map_eq_some_iff, Hit.mk.injEq]
  constructor
  · rintro ⟨_, redirected, rfl, rfl, rfl⟩
    exact ⟨rfl, rfl, redirected⟩
  · rintro ⟨rfl, rfl, redirected⟩
    exact ⟨destination, redirected, rfl, rfl, rfl⟩

theorem appliesTo_of_hit? {rule : DeclarativeRule} {url : String} {hit : Hit}
    (fired : rule.hit? url = some hit) : rule.AppliesTo url := by
  rw [← isSome_redirect?_iff, (hit?_eq_some_iff.mp fired).2.2]
  rfl

theorem hit?_eq_none_iff {rule : DeclarativeRule} {url : String} :
    rule.hit? url = none ↔ ¬rule.AppliesTo url := by
  rw [← isSome_redirect?_iff, hit?, Option.map_eq_none_iff, Bool.not_eq_true,
    Option.isSome_eq_false_iff, Option.isNone_iff_eq_none]

/-- The rule applies to the address, those in front of it that apply have higher numbers, and those
behind it that apply have no lower ones. -/
def PrecedesIn (rules : List DeclarativeRule) (url : String) (rule : DeclarativeRule) : Prop :=
  rule.AppliesTo url ∧ ∃ front back, rules = front ++ rule :: back ∧
    (∀ other ∈ front, other.AppliesTo url → rule.id < other.id) ∧
      ∀ other ∈ back, other.AppliesTo url → rule.id ≤ other.id

variable {rules others : List DeclarativeRule} {rule : DeclarativeRule} {url : String}

theorem PrecedesIn.mem (precedes : rule.PrecedesIn rules url) : rule ∈ rules := by
  obtain ⟨-, front, back, rfl, -⟩ := precedes
  exact List.mem_append_right front List.mem_cons_self

theorem PrecedesIn.id_le (precedes : rule.PrecedesIn rules url) {other : DeclarativeRule}
    (other_mem : other ∈ rules) (applies : other.AppliesTo url) : rule.id ≤ other.id := by
  obtain ⟨-, front, back, rfl, front_gt, back_ge⟩ := precedes
  rcases List.mem_append.mp other_mem with in_front | behind
  · exact UInt32.le_of_lt (front_gt other in_front applies)
  · rcases List.mem_cons.mp behind with rfl | in_back
    · exact UInt32.le_refl _
    · exact back_ge other in_back applies

/-- While numbers are distinct, the order of the rules does not matter. -/
theorem precedesIn_iff_of_nodup (distinct : (rules.map (·.id)).Nodup) :
    rule.PrecedesIn rules url ↔
      rule ∈ rules ∧ rule.AppliesTo url ∧
        ∀ other ∈ rules, other.AppliesTo url → rule.id ≤ other.id := by
  constructor
  · intro precedes
    exact ⟨precedes.mem, precedes.1, fun other => precedes.id_le⟩
  · rintro ⟨rule_mem, applies, lowest⟩
    obtain ⟨front, back, rfl⟩ := List.append_of_mem rule_mem
    refine ⟨applies, front, back, rfl, fun other other_mem other_applies => ?_,
      fun other other_mem => lowest other (by simp [other_mem])⟩
    have differ : rule.id ≠ other.id := by
      rw [List.map_append, List.map_cons, List.nodup_middle] at distinct
      intro same
      exact (List.nodup_cons.mp distinct).1 (List.mem_append_left _
        (same ▸ List.mem_map_of_mem other_mem))
    exact UInt32.lt_of_le_of_ne (lowest other (List.mem_append_left _ other_mem) other_applies)
      differ

end DeclarativeRule

open DeclarativeRule

variable {rules : List DeclarativeRule} {url : String}

theorem id_le_trans (rule other third : DeclarativeRule) (first_le : decide (rule.id ≤ other.id))
    (second_le : decide (other.id ≤ third.id)) : decide (rule.id ≤ third.id) :=
  decide_eq_true (UInt32.le_trans (of_decide_eq_true first_le) (of_decide_eq_true second_le))

theorem id_le_total (rule other : DeclarativeRule) :
    decide (rule.id ≤ other.id) || decide (other.id ≤ rule.id) := by
  simpa using UInt32.le_total rule.id other.id

/-- Numbers do not fall along rules that are ordered by them. -/
theorem byNumber_pairwise (rules : List DeclarativeRule) :
    (byNumber rules).Pairwise fun rule other => rule.id ≤ other.id :=
  (List.pairwise_mergeSort id_le_trans id_le_total rules).imp of_decide_eq_true

/-- A rule is put in front of the first rule whose number is not lower. -/
theorem exists_byNumber_cons (rule : DeclarativeRule) (rules : List DeclarativeRule) :
    ∃ lower higher, byNumber (rule :: rules) = lower ++ rule :: higher ∧
      byNumber rules = lower ++ higher ∧ (∀ other ∈ lower, other.id < rule.id) ∧
        ∀ other ∈ higher, rule.id ≤ other.id := by
  obtain ⟨lower, higher, with_rule, without, below⟩ :=
    List.mergeSort_cons id_le_trans id_le_total rule rules
  refine ⟨lower, higher, with_rule, without, fun other other_mem => ?_, fun other other_mem => ?_⟩
  · simpa using below other other_mem
  · have sorted := byNumber_pairwise (rule :: rules)
    rw [byNumber, with_rule] at sorted
    exact (List.pairwise_cons.mp (List.pairwise_append.mp sorted).2.1).1 other other_mem

/-- The redirect of an address by one of some rules has the number of that rule. -/
theorem exists_of_findSome?_hit? {hit : Hit} (fired : rules.findSome? (·.hit? url) = some hit) :
    ∃ rule ∈ rules, hit.ruleId = rule.id := by
  obtain ⟨rule, rule_mem, rule_fired⟩ := List.exists_of_findSome?_eq_some fired
  exact ⟨rule, rule_mem, (hit?_eq_some_iff.mp rule_fired).1⟩

/-- A rule redirects a request unless it does not apply or one behind it with a lower number does. -/
theorem simulate_cons (rule : DeclarativeRule) (rules : List DeclarativeRule) (url : String) :
    simulate (rule :: rules) url =
      match rule.hit? url, simulate rules url with
      | none, onward => onward
      | some hit, none => some hit
      | some hit, some other => if rule.id ≤ other.ruleId then some hit else some other := by
  obtain ⟨lower, higher, with_rule, without, below, above⟩ := exists_byNumber_cons rule rules
  rw [simulate, simulate, with_rule, without, List.findSome?_append, List.findSome?_append,
    List.findSome?_cons]
  cases first : lower.findSome? (·.hit? url) with
  | some other =>
      -- a rule with a lower number applies
      obtain ⟨lower_rule, lower_mem, number_eq⟩ := exists_of_findSome?_hit? first
      have lower_lt := below lower_rule lower_mem
      rw [← number_eq, ← UInt32.not_le] at lower_lt
      cases rule.hit? url <;> simp [lower_lt]
  | none =>
      cases rule.hit? url with
      | none => simp
      | some hit =>
          cases onward : higher.findSome? (·.hit? url) with
          | none => simp
          | some other =>
              obtain ⟨higher_rule, higher_mem, number_eq⟩ := exists_of_findSome?_hit? onward
              have higher_ge := above higher_rule higher_mem
              rw [← number_eq] at higher_ge
              simp [higher_ge]

/-- A request is redirected by the rule that precedes all others that apply. -/
theorem simulate_of_precedesIn {rule : DeclarativeRule} (precedes : rule.PrecedesIn rules url) :
    simulate rules url = rule.hit? url := by
  obtain ⟨applies, front, back, rfl, front_gt, back_ge⟩ := precedes
  obtain ⟨hit, fired⟩ : ∃ hit, rule.hit? url = some hit :=
    Option.ne_none_iff_exists'.mp fun unfired => hit?_eq_none_iff.mp unfired applies
  have number_eq := (hit?_eq_some_iff.mp fired).1
  induction front with
  | nil =>
      rw [List.nil_append, simulate_cons, fired]
      cases onward : simulate back url with
      | none => rfl
      | some other =>
          obtain ⟨behind, behind_mem, behind_fired⟩ := List.exists_of_findSome?_eq_some onward
          have behind_mem : behind ∈ back := List.mem_mergeSort.mp behind_mem
          have behind_ge := back_ge behind behind_mem (appliesTo_of_hit? behind_fired)
          rw [← (hit?_eq_some_iff.mp behind_fired).1] at behind_ge
          exact if_pos behind_ge
  | cons first front ih =>
      obtain ⟨first_gt, front_gt⟩ := List.forall_mem_cons.mp front_gt
      rw [List.cons_append, simulate_cons, ih front_gt, fired]
      cases first_fired : first.hit? url with
      | none => rfl
      | some other =>
          have lower := first_gt (appliesTo_of_hit? first_fired)
          rw [← number_eq, ← UInt32.not_le] at lower
          exact if_neg lower

/-- If a rule applies, one of them precedes the others. -/
theorem exists_precedesIn {rule : DeclarativeRule} (rule_mem : rule ∈ rules)
    (applies : rule.AppliesTo url) : ∃ first, DeclarativeRule.PrecedesIn rules url first := by
  induction rules generalizing rule with
  | nil => contradiction
  | cons head rules ih =>
      by_cases onward : ∃ other ∈ rules, other.AppliesTo url
      · obtain ⟨other, other_mem, other_applies⟩ := onward
        obtain ⟨first, precedes⟩ := ih other_mem other_applies
        by_cases head_first : head.AppliesTo url ∧ head.id ≤ first.id
        · refine ⟨head, head_first.1, [], rules, rfl, by simp, fun other other_mem applies => ?_⟩
          exact UInt32.le_trans head_first.2 (precedes.id_le other_mem applies)
        · obtain ⟨first_applies, front, back, rfl, front_gt, back_ge⟩ := precedes
          refine ⟨first, first_applies, head :: front, back, rfl, ?_, back_ge⟩
          refine List.forall_mem_cons.mpr ⟨fun head_applies => ?_, front_gt⟩
          exact UInt32.not_le.mp fun le => head_first ⟨head_applies, le⟩
      · obtain rfl : rule = head := by
          rcases List.mem_cons.mp rule_mem with same | behind
          · exact same
          · exact absurd ⟨rule, behind, applies⟩ onward
        exact ⟨rule, applies, [], rules, rfl, by simp, fun other other_mem other_applies =>
          absurd ⟨other, other_mem, other_applies⟩ onward⟩

theorem simulate_eq_none_iff :
    simulate rules url = none ↔ ∀ rule ∈ rules, ¬rule.AppliesTo url := by
  simp only [simulate, List.findSome?_eq_none_iff, byNumber, List.mem_mergeSort, hit?_eq_none_iff]

theorem simulate_eq_some_iff {hit : Hit} :
    simulate rules url = some hit ↔
      ∃ rule, DeclarativeRule.PrecedesIn rules url rule ∧ rule.hit? url = some hit := by
  constructor
  · intro redirected
    obtain ⟨rule, rule_mem, fired⟩ := List.exists_of_findSome?_eq_some redirected
    obtain ⟨first, precedes⟩ :=
      exists_precedesIn (List.mem_mergeSort.mp rule_mem) (appliesTo_of_hit? fired)
    exact ⟨first, precedes, simulate_of_precedesIn precedes ▸ redirected⟩
  · rintro ⟨rule, precedes, fired⟩
    rw [simulate_of_precedesIn precedes, fired]

/-- While numbers are distinct, a request goes the same way whatever the order of the rules. -/
theorem simulate_perm {others : List DeclarativeRule} (distinct : (rules.map (·.id)).Nodup)
    (same : others.Perm rules) (url : String) : simulate others url = simulate rules url := by
  have others_distinct : (others.map (·.id)).Nodup := (same.map _).nodup_iff.mpr distinct
  ext hit
  simp only [simulate_eq_some_iff, precedesIn_iff_of_nodup distinct,
    precedesIn_iff_of_nodup others_distinct, same.mem_iff]

/-- A request is redirected by the first kept rule of a list whose filter matches. -/
theorem simulate_compile_eq_find? (rules : List Rule) (url : String) :
    simulate (compile rules true) url =
      (rules.zipIdx.find? fun place =>
        decide (Rule.KeptAt rules place) && (synthesize place.1).filter.accepts url).bind fun place =>
          ((synthesize place.1).emit (UInt32.ofNat (place.2 + 1))).hit? url := by
  rw [simulate_compile, compile_eq_map, List.find?_map, List.find?_filter]
  simp only [Function.comp_def, Synthesis.holds_emit, Option.bind_map, Bool.decide_and,
    Bool.decide_eq_true]

/-- The rule with the lowest number among those that apply redirects a request, and of several such
rules the first one in the list; a rule applies if its filter matches and it says where to send the
request.  Nothing redirects a request exactly if no rule applies.  While numbers are distinct the
order of the rules does not matter, and of a compiled list it is the first kept rule whose filter
matches. -/
theorem lowest_number_redirects (rules : List DeclarativeRule) (url : String) :
    (∀ hit, simulate rules url = some hit ↔
        ∃ rule, DeclarativeRule.PrecedesIn rules url rule ∧ hit.ruleId = rule.id ∧
          hit.source = url ∧ rule.redirect? url = some hit.destination) ∧
      (simulate rules url = none ↔ ∀ rule ∈ rules, ¬rule.AppliesTo url) ∧
      ((rules.map (·.id)).Nodup → ∀ others, others.Perm rules →
        simulate others url = simulate rules url) ∧
      ∀ users : List Rule, simulate (compile users true) url =
        (users.zipIdx.find? fun place =>
          decide (Rule.KeptAt users place) && (synthesize place.1).filter.accepts url).bind
            fun place => ((synthesize place.1).emit (UInt32.ofNat (place.2 + 1))).hit? url := by
  refine ⟨fun hit => ?_, simulate_eq_none_iff, fun distinct others same =>
    simulate_perm distinct same url, fun users => simulate_compile_eq_find? users url⟩
  rw [simulate_eq_some_iff]
  simp only [hit?_eq_some_iff]

/-- A rule that matches and says nothing is passed over, and it does not matter where it stands. -/
theorem lowest_number_redirects_past_silent :
    let silent : DeclarativeRule := ⟨1, 1, {}, { urlFilter := some "a", resourceTypes := [] }⟩
    let late : DeclarativeRule :=
      ⟨3, 1, { url := some "late" }, { urlFilter := some "a", resourceTypes := [] }⟩
    let early : DeclarativeRule :=
      ⟨2, 1, { url := some "early" }, { urlFilter := some "ab", resourceTypes := [] }⟩
    ([late, silent, early].map (·.id)).Nodup ∧
      simulate [late, silent, early] "abc" = some ⟨2, "abc", "early"⟩ ∧
      simulate [silent, early, late] "abc" = simulate [late, silent, early] "abc" := by
  intro silent late early
  obtain ⟨found, -, reordered, -⟩ := lowest_number_redirects [late, silent, early] "abc"
  have distinct : ([late, silent, early].map (·.id)).Nodup := by decide
  have silent_not : ¬silent.AppliesTo "abc" := by simp [AppliesTo, silent]
  have first : early.PrecedesIn [late, silent, early] "abc" := by
    refine ⟨⟨by decide, .inl rfl⟩, [late, silent], [], rfl, ?_, by simp⟩
    simp only [List.forall_mem_cons, silent_not, false_implies, List.not_mem_nil, implies_true,
      and_true]
    exact fun _ => by decide
  have turned : ([silent, early] ++ [late]).Perm ([late] ++ [silent, early]) :=
    List.perm_append_comm
  exact ⟨distinct, (found _).mpr ⟨early, first, rfl, rfl, by decide⟩, reordered distinct _ turned⟩

end Redirects
