import Redirects.Proofs.Rule.Diagnosis

/-!
# The cycles that are reported

A reported cycle is the walk from the source of some rule: it follows the map of redirects address
by address, and from its last address the map leads back onto it.  Walks of the same rules are
reported once, by the first of them, so what is left out on account of a walk is left out on account
of a reported cycle, too, and that cycle explains it: the source of every rule left out lies on the
path that the diagnosis shows for the rule.
-/

namespace Redirects

namespace Cycle

/-- The cycle follows the redirects of a list of rules. -/
structure Genuine (rules : List Rule) (cycle : Cycle) : Prop where
  /-- The path starts at the source of a rule. -/
  starts : ∃ rule ∈ rules, rule.enabled = true ∧ cycle.path.head? = some rule.source
  distinct : cycle.path.Nodup
  /-- Each address of the path is sent to the next one, and the last of them to one of the path. -/
  onward : ∀ index url, cycle.path[index]? = some url →
    ∃ there ∈ cycle.path, Sends rules url there ∧
      (index + 1 < cycle.path.length → cycle.path[index + 1]? = some there)
  /-- The rules are those whose sources lie on the path. -/
  ruleIds_eq : cycle.ruleIds =
    ((rules.filter (·.enabled)).filter fun rule => rule.source ∈ cycle.path).map (·.id)

variable {rules : List Rule} {rule : Rule} {cycle : Cycle} {id : String}

/-! ## The walk that a cycle shows -/

theorem exists_trail_of_ofRule? (shown : ofRule? (rules.filter (·.enabled)) rule = some cycle) :
    rule.source ≠ "" ∧ ∃ met last,
      Trail (next? (rules.filter (·.enabled))) rule.source met (some last) ∧ last ∈ met ∧
        cycle.path = met.reverse := by
  obtain ⟨closed, rfl⟩ := ofRule?_eq_some_iff.mp shown
  by_cases source_eq : rule.source = ""
  · rw [walkFrom_eq_of_empty source_eq] at closed
    contradiction
  · rw [walkFrom_eq source_eq] at closed ⊢
    obtain ⟨met, _, trail, ⟨⟨last, came_back, rfl⟩, walk_eq⟩ | ⟨-, walk_eq⟩⟩ :=
      walk_start (fun _ => next?_isSome_mem) (length_sources_le (rules.filter (·.enabled)))
        rule.source
    · exact ⟨source_eq, met, last, trail, came_back, by rw [walk_eq]⟩
    · rw [walk_eq] at closed
      contradiction

theorem genuine_of_ofRule? (rule_mem : rule ∈ rules) (enabled : rule.enabled = true)
    (shown : ofRule? (rules.filter (·.enabled)) rule = some cycle) : cycle.Genuine rules := by
  obtain ⟨source_ne, met, last, trail, came_back, path_eq⟩ := exists_trail_of_ofRule? shown
  have met_ne : met.reverse ≠ [] := by
    simpa using List.ne_nil_of_mem came_back
  refine ⟨⟨rule, rule_mem, enabled, ?_⟩, ?_, fun index url indexed => ?_, ?_⟩
  · have head_eq := trail.head?_eq
    rwa [List.head?_append_of_ne_nil _ met_ne, ← path_eq] at head_eq
  · rw [path_eq]
    exact List.nodup_reverse.mpr trail.nodup
  · rw [path_eq] at indexed ⊢
    have url_ne : url ≠ "" :=
      (trail.inside (· ≠ "") source_ne fun _ _ sent => (next?_eq_some_iff.mp sent).1).1 url
        (List.mem_reverse.mp (List.mem_of_getElem? indexed))
    have next_eq := trail.next_at indexed
    have index_lt := (List.getElem?_eq_some_iff.mp indexed).1
    by_cases more : index + 1 < met.reverse.length
    · rw [List.getElem?_append_left more] at next_eq
      have there_eq := List.getElem?_eq_getElem more
      exact ⟨_, List.getElem_mem more, sends_iff.mpr ⟨url_ne, next_eq.trans there_eq⟩,
        fun _ => there_eq⟩
    · have at_end : index + 1 = met.reverse.length := by omega
      rw [at_end, List.getElem?_append_right (Nat.le_refl _), Nat.sub_self] at next_eq
      exact ⟨last, List.mem_reverse.mpr came_back, sends_iff.mpr ⟨url_ne, next_eq⟩,
        fun less => absurd less more⟩
  · obtain ⟨-, rfl⟩ := ofRule?_eq_some_iff.mp shown
    simp only [List.contains_eq_mem]

/-! ## Walks that are reported once -/

theorem eraseDupsBy_subset {α : Type} (same : α → α → Bool) (elements : List α) :
    elements.eraseDupsBy same ⊆ elements := by
  cases elements with
  | nil => exact List.Subset.refl []
  | cons first rest =>
      rw [List.eraseDupsBy_cons]
      refine List.cons_subset_cons first (List.Subset.trans (eraseDupsBy_subset same _) ?_)
      exact List.filter_sublist.subset
termination_by elements.length
decreasing_by
  have shorter := List.length_filter_le (fun other => decide (same other first = false)) rest
  simp only [List.length_cons]
  omega

/-- No element is the same as one that is kept in front of it. -/
theorem pairwise_eraseDupsBy {α : Type} (same : α → α → Bool) (elements : List α) :
    (elements.eraseDupsBy same).Pairwise fun first second => same second first = false := by
  cases elements with
  | nil => exact List.Pairwise.nil
  | cons first rest =>
      rw [List.eraseDupsBy_cons]
      refine List.pairwise_cons.mpr ⟨fun later kept => ?_, pairwise_eraseDupsBy same _⟩
      exact of_decide_eq_true (List.mem_filter.mp (eraseDupsBy_subset same _ kept)).2
termination_by elements.length
decreasing_by
  have shorter := List.length_filter_le (fun other => decide (same other first = false)) rest
  simp only [List.length_cons]
  omega

theorem genuine_of_mem_detect (reported : cycle ∈ detect rules) : cycle.Genuine rules := by
  obtain ⟨rule, rule_mem, shown⟩ := List.mem_filterMap.mp (eraseDupsBy_subset _ _ reported)
  obtain ⟨rule_mem, enabled⟩ := List.mem_filter.mp rule_mem
  exact genuine_of_ofRule? rule_mem enabled shown

theorem pairwise_detect (rules : List Rule) :
    (detect rules).Pairwise fun cycle other => cycle.ruleIds ≠ other.ruleIds := by
  apply (pairwise_eraseDupsBy (fun cycle other : Cycle => cycle.ruleIds == other.ruleIds) _).imp
  intro cycle other differ same
  simp [same] at differ

/-- What is left out on account of any walk is left out on account of a reported one. -/
theorem exists_reported_iff :
    (∃ cycle ∈ detect rules, id ∈ cycle.ruleIds) ↔
      ∃ rule ∈ rules, rule.enabled = true ∧
        ∃ cycle, ofRule? (rules.filter (·.enabled)) rule = some cycle ∧ id ∈ cycle.ruleIds := by
  have kept_once := any_eraseDupsBy (fun cycle other : Cycle => cycle.ruleIds == other.ruleIds)
    (fun cycle => cycle.ruleIds.contains id)
    (fun cycle other same => congrArg (·.contains id) (eq_of_beq same))
    ((rules.filter (·.enabled)).filterMap (ofRule? (rules.filter (·.enabled))))
  have reported_iff := Bool.eq_iff_iff.mp kept_once
  simp only [List.any_eq_true, List.contains_iff_mem, List.mem_filterMap, List.mem_filter]
    at reported_iff
  rw [detect, reported_iff]
  constructor
  · rintro ⟨cycle, ⟨rule, ⟨rule_mem, enabled⟩, shown⟩, listed⟩
    exact ⟨rule, rule_mem, enabled, cycle, shown, listed⟩
  · rintro ⟨rule, rule_mem, enabled, cycle, shown, listed⟩
    exact ⟨cycle, ⟨rule, ⟨rule_mem, enabled⟩, shown⟩, listed⟩

/-! ## The path that is shown for a rule -/

/-- While names are distinct, the source of a rule that a cycle leaves out lies on its path. -/
theorem Genuine.source_mem (genuine : cycle.Genuine rules) (distinct : (rules.map (·.id)).Nodup)
    (rule_mem : rule ∈ rules) (listed : rule.id ∈ cycle.ruleIds) : rule.source ∈ cycle.path := by
  rw [genuine.ruleIds_eq] at listed
  obtain ⟨other, other_mem, same_name⟩ := List.mem_map.mp listed
  obtain ⟨other_mem, on_path⟩ := List.mem_filter.mp other_mem
  obtain rfl := List.inj_on_of_nodup_map distinct (List.mem_filter.mp other_mem).1 rule_mem same_name
  exact of_decide_eq_true on_path

theorem exists_of_cycleConcern? {cycles : List Cycle} {path : List String}
    (doubted : cycleConcern? cycles rule = some (.cycle path)) :
    ∃ cycle ∈ cycles, rule.id ∈ cycle.ruleIds ∧ cycle.path = path := by
  obtain ⟨cycle, found, path_eq⟩ := Option.map_eq_some_iff.mp doubted
  exact ⟨cycle, List.mem_of_find?_eq_some found, by simpa using List.find?_some found,
    Concern.cycle.inj path_eq⟩

/-- A path that the diagnosis shows for a rule holds the source of the rule. -/
theorem source_mem_of_diagnosed (distinct : (rules.map (·.id)).Nodup) (rule_mem : rule ∈ rules)
    {path : List String} (warned : ⟨rule.id, .cycle path⟩ ∈ diagnose rules) :
    rule.source ∈ path := by
  obtain ⟨other, other_mem, -, same_name, doubted | doubted⟩ := mem_diagnose_iff.mp warned
  · obtain rfl := List.inj_on_of_nodup_map distinct rule_mem other_mem same_name
    obtain ⟨cycle, reported, listed, rfl⟩ := exists_of_cycleConcern? doubted
    exact (genuine_of_mem_detect reported).source_mem distinct rule_mem listed
  · exact absurd rfl (kind_ne_cycle_of_ownConcern? doubted)

/-- A path is shown for every enabled rule that is left out. -/
theorem exists_diagnosed (rule_mem : rule ∈ rules) (enabled : rule.enabled = true)
    (excluded : excludes (detect rules) rule.id = true) :
    ∃ path, ⟨rule.id, .cycle path⟩ ∈ diagnose rules := by
  obtain ⟨_ | path | _ | _, doubted, kind_eq⟩ :=
    exists_cycleConcern?_iff.mpr ⟨rfl, excluded⟩
  · exact ⟨_, mem_diagnose_iff.mpr ⟨rule, rule_mem, enabled, rfl, .inl doubted⟩⟩
  all_goals simp [Concern.kind] at kind_eq

/-- Every reported cycle follows the map of redirects from the source of an enabled rule round to an
address on its path, and its rules are those whose sources lie there, in list order.  No two reported
cycles have the same rules.  What they leave out together is what any walk that comes back leaves
out, that of a rule with no report of its own included.  And for every enabled rule that is left out
the diagnosis shows a path, on which the source of the rule lies while names are distinct. -/
theorem reported_cycles_genuine (rules : List Rule) :
    (∀ cycle ∈ detect rules, cycle.Genuine rules) ∧
      (detect rules).Pairwise (fun cycle other => cycle.ruleIds ≠ other.ruleIds) ∧
      (∀ id, (id ∈ excluded (detect rules) ↔ ∃ cycle ∈ detect rules, id ∈ cycle.ruleIds) ∧
        (id ∈ excluded (detect rules) ↔ ∃ rule ∈ rules, rule.enabled = true ∧
          ∃ cycle, ofRule? (rules.filter (·.enabled)) rule = some cycle ∧ id ∈ cycle.ruleIds)) ∧
      ∀ rule ∈ rules, rule.enabled = true → excludes (detect rules) rule.id = true →
        (∃ path, ⟨rule.id, .cycle path⟩ ∈ diagnose rules) ∧
          ((rules.map (·.id)).Nodup → ∀ path, ⟨rule.id, .cycle path⟩ ∈ diagnose rules →
            rule.source ∈ path) := by
  have union (id : String) :
      id ∈ excluded (detect rules) ↔ ∃ cycle ∈ detect rules, id ∈ cycle.ruleIds := by
    simp [excluded, List.mem_eraseDups, List.mem_flatMap]
  refine ⟨fun cycle => genuine_of_mem_detect, pairwise_detect rules, fun id => ⟨union id, ?_⟩,
    fun rule rule_mem enabled excluded => ⟨exists_diagnosed rule_mem enabled excluded,
      fun distinct path => source_mem_of_diagnosed distinct rule_mem⟩⟩
  exact (union id).trans exists_reported_iff

/-- A rule that leads into a circle of two shows a path of its own, and the circle is reported once. -/
theorem reported_cycles_genuine_lead_in :
    let entry : Rule := { source := "W", destination := "X", id := "w" }
    let there : Rule := { source := "X", destination := "Y", id := "a" }
    let back : Rule := { source := "Y", destination := "X", id := "b" }
    let rules := [entry, there, back]
    detect rules = [⟨["W", "X", "Y"], ["w", "a", "b"]⟩, ⟨["X", "Y"], ["a", "b"]⟩] ∧
      Genuine rules ⟨["X", "Y"], ["a", "b"]⟩ ∧ (rules.map (·.id)).Nodup ∧
        (∀ path, ⟨"b", .cycle path⟩ ∈ diagnose rules → "Y" ∈ path) := by
  intro entry there back rules
  have detected : detect rules = [⟨["W", "X", "Y"], ["w", "a", "b"]⟩, ⟨["X", "Y"], ["a", "b"]⟩] := by
    decide
  have distinct : (rules.map (·.id)).Nodup := by decide
  obtain ⟨genuine, -, -, shown⟩ := reported_cycles_genuine rules
  refine ⟨detected, genuine _ (by simp [detected]), distinct, ?_⟩
  exact (shown back (by simp [rules]) rfl (by decide)).2 distinct

end Cycle

end Redirects
