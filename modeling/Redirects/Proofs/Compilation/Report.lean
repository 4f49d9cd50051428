import Redirects.Proofs.Compilation.Content

/-!
# What a compilation reports

Beside the compiled rules a compilation reports how many rules are not enabled and which are left
out on account of cycles.  Names tell the latter apart, so another choice of distinct names changes
which names are reported, but neither of the two numbers, nor anything that is compiled.
-/

namespace Redirects

variable {rules others : List Rule}

/-- As many rules count in one list as in another where they count place by place. -/
theorem countP_eq_of_places {counts others_count : Rule → Bool}
    (length_eq : rules.length = others.length)
    (alike : ∀ index (rule_lt : index < rules.length) (other_lt : index < others.length),
      counts rules[index] = others_count others[index]) :
    rules.countP counts = others.countP others_count := by
  have same : rules.map counts = others.map others_count := by
    apply List.ext_getElem
    · simpa using length_eq
    · intro index rule_lt other_lt
      rw [List.length_map] at rule_lt other_lt
      rw [List.getElem_map, List.getElem_map]
      exact alike index rule_lt other_lt
  calc
    rules.countP counts = (rules.map counts).countP id := by rw [List.countP_map]; rfl
    _ = (others.map others_count).countP id := by rw [same]
    _ = others.countP others_count := by rw [List.countP_map]; rfl

theorem countP_disabled_congr (same : List.Forall₂ Rule.SameInUse rules others) :
    rules.countP (!·.enabled) = others.countP (!·.enabled) := by
  refine countP_eq_of_places same.length_eq fun index rule_lt other_lt => ?_
  have alike : rules[index].SameInUse others[index] := same.get rule_lt other_lt
  rw [alike.enabled]

/-- As many rules are left out, whatever their distinct names are. -/
theorem length_excluded_congr (same : List.Forall₂ Rule.SameInUse rules others)
    (distinct : (rules.map (·.id)).Nodup) (others_distinct : (others.map (·.id)).Nodup) :
    (Cycle.excluded (Cycle.detect rules)).length =
      (Cycle.excluded (Cycle.detect others)).length := by
  rw [length_excluded distinct, length_excluded others_distinct]
  refine countP_eq_of_places same.length_eq fun index rule_lt other_lt => ?_
  have alike : rules[index].SameInUse others[index] := same.get rule_lt other_lt
  rw [← alike.enabled]
  cases enabled : rules[index].enabled with
  | false => rfl
  | true =>
      rw [Bool.true_and, Bool.true_and]
      exact excludes_detect_congr same distinct others_distinct (List.getElem_mem rule_lt)
        (List.getElem_mem other_lt) alike enabled

/-- Two lists of distinctly named rules that say the same, place by place, while they are in use are
compiled to the same, and as many rules of each are reported as not enabled and as left out on
account of cycles. -/
theorem compiled_by_content (same : List.Forall₂ Rule.SameInUse rules others)
    (distinct : (rules.map (·.id)).Nodup) (others_distinct : (others.map (·.id)).Nodup)
    (enabled : Bool) :
    compile rules enabled = compile others enabled ∧
      (compileWithReport rules enabled).disabled = (compileWithReport others enabled).disabled ∧
        (Cycle.excluded (compileWithReport rules enabled).cycles).length =
          (Cycle.excluded (compileWithReport others enabled).cycles).length := by
  refine ⟨compile_congr same distinct others_distinct enabled, ?_⟩
  cases enabled with
  | false => exact ⟨rfl, rfl⟩
  | true =>
      exact ⟨countP_disabled_congr same, length_excluded_congr same distinct others_distinct⟩

/-- Names pass from one rule to another, so that those of a circle come to be those of a rule
outside it and of one that is off. -/
theorem compiled_by_content_renamed :
    let rules : List Rule :=
      [{ source := "X", destination := "Y", id := "a" },
        { source := "", destination := "(", kind := .regex, enabled := false, id := "b" },
        { source := "Y", destination := "X", id := "c" },
        { source := "S", destination := "T", id := "d" }]
    let others : List Rule :=
      [{ source := "X", destination := "Y", id := "d" },
        { source := "S", destination := "X", enabled := false, id := "a" },
        { source := "Y", destination := "X", id := "b" },
        { source := "S", destination := "T", id := "c" }]
    List.Forall₂ Rule.SameInUse rules others ∧ (rules.map (·.id)).Nodup ∧
      (others.map (·.id)).Nodup ∧ compile rules true = compile others true ∧
        (Cycle.excluded (compileWithReport rules true).cycles).length = 2 ∧
          (Cycle.excluded (compileWithReport others true).cycles).length = 2 := by
  intro rules others
  have same : List.Forall₂ Rule.SameInUse rules others :=
    .cons ⟨rfl, fun _ => rfl⟩ (.cons ⟨rfl, nofun⟩
      (.cons ⟨rfl, fun _ => rfl⟩ (.cons ⟨rfl, fun _ => rfl⟩ .nil)))
  have distinct : (rules.map (·.id)).Nodup := by decide
  have others_distinct : (others.map (·.id)).Nodup := by decide
  have left_out : (Cycle.excluded (compileWithReport rules true).cycles).length = 2 := by decide
  obtain ⟨compiled_eq, -, excluded_eq⟩ := compiled_by_content same distinct others_distinct true
  exact ⟨same, distinct, others_distinct, compiled_eq, left_out, excluded_eq ▸ left_out⟩

end Redirects
