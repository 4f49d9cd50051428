import Redirects.Proofs.Cycle.Walk

/-!
# Which rules cycles leave out

The enabled rules give a partial map from addresses to addresses: of the rules with one source the
last prevails, and no redirect starts or ends at the empty address.  A rule is left out exactly when
the chain of that map from its source never stops.
-/

namespace Redirects

/-- The last enabled rule of its source. -/
def Rule.PrevailsIn (rule : Rule) (rules : List Rule) : Prop :=
  ∃ front back, rules = front ++ rule :: back ∧ rule.enabled = true ∧
    ∀ other ∈ back, other.enabled = true → other.source ≠ rule.source

/-- The prevailing rule of an address sends it on. -/
def Sends (rules : List Rule) (url destination : String) : Prop :=
  url ≠ "" ∧ destination ≠ "" ∧
    ∃ rule : Rule, rule.PrevailsIn rules ∧ rule.source = url ∧ rule.destination = destination

namespace Cycle

/-! ## The map of redirects -/

theorem node?_eq_some_iff {url node : String} : node? url = some node ↔ url ≠ "" ∧ url = node := by
  simp [node?, String.isEmpty_iff]

theorem find?_eq_some_iff_prevails {rules : List Rule} {url : String} {rule : Rule} :
    (rules.filter (·.enabled)).reverse.find? (·.source = url) = some rule ↔
      rule.PrevailsIn rules ∧ rule.source = url := by
  rw [← List.filter_reverse, List.find?_filter, List.find?_eq_some_iff_append]
  simp only [decide_eq_true_eq, Rule.PrevailsIn]
  constructor
  · rintro ⟨⟨enabled, rfl⟩, back, front, split, passed⟩
    refine ⟨⟨front.reverse, back.reverse, ?_, enabled, ?_⟩, rfl⟩
    · simpa using congrArg List.reverse split
    · intro other other_back other_enabled same_source
      simpa [other_enabled, same_source] using passed other (List.mem_reverse.mp other_back)
  · rintro ⟨⟨front, back, rfl, enabled, overridden⟩, rfl⟩
    refine ⟨⟨enabled, rfl⟩, back.reverse, front.reverse, by simp, ?_⟩
    intro other other_back
    have other_source := overridden other (List.mem_reverse.mp other_back)
    by_cases other_enabled : other.enabled = true
    · simpa [other_enabled] using other_source other_enabled
    · simp [other_enabled]

theorem next?_eq_some_iff {rules : List Rule} {url destination : String} :
    next? (rules.filter (·.enabled)) url = some destination ↔
      destination ≠ "" ∧
        ∃ rule : Rule, rule.PrevailsIn rules ∧ rule.source = url ∧
          rule.destination = destination := by
  simp only [next?, Option.bind_eq_some_iff, find?_eq_some_iff_prevails, node?_eq_some_iff]
  constructor
  · rintro ⟨rule, ⟨prevails, source_eq⟩, destination_ne, rfl⟩
    exact ⟨destination_ne, rule, prevails, source_eq, rfl⟩
  · rintro ⟨destination_ne, rule, prevails, source_eq, rfl⟩
    exact ⟨rule, ⟨prevails, source_eq⟩, destination_ne, rfl⟩

theorem sends_iff {rules : List Rule} {url destination : String} :
    Sends rules url destination ↔
      url ≠ "" ∧ next? (rules.filter (·.enabled)) url = some destination := by
  rw [next?_eq_some_iff, Sends]

theorem endless_sends_iff {rules : List Rule} {url : String} :
    Endless (Sends rules) url ↔
      url ≠ "" ∧
        Endless (fun here there => next? (rules.filter (·.enabled)) here = some there) url := by
  constructor
  · intro endless
    obtain ⟨_, sends, _⟩ := endless.onward
    exact ⟨sends.1, endless.mono fun _ _ sends => (sends_iff.mp sends).2⟩
  · rintro ⟨url_ne, endless⟩
    let inside (here : String) : Prop :=
      here ≠ "" ∧
        Endless (fun here there => next? (rules.filter (·.enabled)) here = some there) here
    apply Endless.of_region inside _ ⟨url_ne, endless⟩
    rintro here ⟨here_ne, endless⟩
    obtain ⟨there, next_there, onward⟩ := endless.onward
    exact ⟨there, sends_iff.mpr ⟨here_ne, next_there⟩, (next?_eq_some_iff.mp next_there).1, onward⟩

/-! ## The walk of one rule -/

theorem next?_isSome_mem {rules : List Rule} {url : String} (some_next : (next? rules url).isSome) :
    url ∈ rules.map (·.source) := by
  obtain ⟨destination, next_eq⟩ := Option.isSome_iff_exists.mp some_next
  obtain ⟨rule, found, _⟩ := Option.bind_eq_some_iff.mp next_eq
  have rule_mem := List.mem_reverse.mp (List.mem_of_find?_eq_some found)
  have source_eq : rule.source = url := by simpa using List.find?_some found
  exact source_eq ▸ List.mem_map_of_mem rule_mem

theorem walkFrom_eq {rules : List Rule} {rule : Rule} (source_ne : rule.source ≠ "") :
    walkFrom rules rule = walk (next? rules) (rules.length + 2) [] (some rule.source) := by
  rw [walkFrom, node?_eq_some_iff.mpr ⟨source_ne, rfl⟩]

theorem walkFrom_eq_of_empty {rules : List Rule} {rule : Rule} (source_eq : rule.source = "") :
    walkFrom rules rule = ([], false) := by
  simp [walkFrom, node?, walk, source_eq]

theorem length_sources_le (rules : List Rule) :
    (rules.map (·.source)).length + 2 ≤ rules.length + 2 := by
  simp

/-- The walk of a rule comes back exactly when the chain from its source never stops. -/
theorem walkFrom_closed_iff {rules : List Rule} {rule : Rule} :
    (walkFrom (rules.filter (·.enabled)) rule).2 = true ↔ Endless (Sends rules) rule.source := by
  rw [endless_sends_iff]
  by_cases source_eq : rule.source = ""
  · simp [walkFrom_eq_of_empty source_eq, source_eq]
  · rw [walkFrom_eq source_eq,
      walk_closed_iff (fun _ => next?_isSome_mem) (length_sources_le _)]
    exact (and_iff_right source_eq).symm

/-- The source of a rule lies on its walk. -/
theorem source_mem_walkFrom {rules : List Rule} {rule : Rule} (source_ne : rule.source ≠ "") :
    rule.source ∈ (walkFrom rules rule).1 := by
  rw [walkFrom_eq source_ne]
  exact start_mem_walk (fun _ => next?_isSome_mem) (length_sources_le _)

/-- A walk that comes back shows only addresses from which the chain never stops. -/
theorem endless_of_mem_walkFrom {rules : List Rule} {rule : Rule} {url : String}
    (closed : (walkFrom (rules.filter (·.enabled)) rule).2 = true)
    (on_walk : url ∈ (walkFrom (rules.filter (·.enabled)) rule).1) :
    Endless (Sends rules) url := by
  have source_ne : rule.source ≠ "" := (endless_sends_iff.mp (walkFrom_closed_iff.mp closed)).1
  rw [walkFrom_eq source_ne] at closed on_walk
  have url_ne : url ≠ "" :=
    mem_walk_of_region (fun _ => next?_isSome_mem) (length_sources_le _) (· ≠ "") source_ne
      (fun _ _ next_eq => (next?_eq_some_iff.mp next_eq).1) on_walk
  exact endless_sends_iff.mpr
    ⟨url_ne, endless_of_mem_walk (fun _ => next?_isSome_mem) (length_sources_le _) closed on_walk⟩

/-! ## What is left out -/

/-- What holds of equal elements alike holds of some element still once one of them is kept. -/
theorem any_eraseDupsBy {α : Type} (same : α → α → Bool) (holds : α → Bool)
    (respected : ∀ left right, same left right = true → holds left = holds right)
    (elements : List α) : (elements.eraseDupsBy same).any holds = elements.any holds := by
  cases elements with
  | nil => rfl
  | cons first rest =>
      rw [List.eraseDupsBy_cons, List.any_cons, List.any_cons,
        any_eraseDupsBy same holds respected, List.any_filter]
      cases first_holds : holds first with
      | true => rfl
      | false =>
          have dropped : ∀ other,
              (decide (same other first = false) && holds other) = holds other := by
            intro other
            cases other_same : same other first with
            | true => simp [respected other first other_same, first_holds]
            | false => simp
          simp only [dropped]
termination_by elements.length
decreasing_by
  have shorter := List.length_filter_le (fun other => decide (same other first = false)) rest
  simp only [List.length_cons]
  omega

theorem mem_excluded_iff {cycles : List Cycle} {id : String} :
    id ∈ excluded cycles ↔ excludes cycles id = true := by
  simp [excluded, excludes, List.mem_eraseDups, List.mem_flatMap]

theorem ofRule?_eq_some_iff {rules : List Rule} {rule : Rule} {cycle : Cycle} :
    ofRule? rules rule = some cycle ↔
      (walkFrom rules rule).2 = true ∧
        cycle = ⟨(walkFrom rules rule).1,
          (rules.filter fun other => (walkFrom rules rule).1.contains other.source).map (·.id)⟩ := by
  cases closed : (walkFrom rules rule).2 with
  | true => simp [ofRule?, closed, eq_comm]
  | false => simp [ofRule?, closed]

/-- The walks that come back decide what is left out. -/
theorem excludes_detect {rules : List Rule} {id : String} :
    excludes (detect rules) id = true ↔
      ∃ rule ∈ rules, rule.enabled = true ∧
        (walkFrom (rules.filter (·.enabled)) rule).2 = true ∧
          ∃ other ∈ rules, other.enabled = true ∧
            other.source ∈ (walkFrom (rules.filter (·.enabled)) rule).1 ∧ other.id = id := by
  have kept_once : ∀ left right : Cycle, (left.ruleIds == right.ruleIds) = true →
      left.ruleIds.contains id = right.ruleIds.contains id := by
    intro left right same
    rw [eq_of_beq same]
  rw [excludes, detect, any_eraseDupsBy _ _ kept_once]
  simp only [List.any_eq_true, List.mem_filterMap, ofRule?_eq_some_iff, List.mem_filter,
    List.contains_eq_mem, decide_eq_true_eq]
  constructor
  · rintro ⟨_, ⟨rule, ⟨rule_mem, enabled⟩, closed, rfl⟩, listed⟩
    obtain ⟨other, other_mem, rfl⟩ := List.mem_map.mp listed
    obtain ⟨other_mem, on_walk⟩ := List.mem_filter.mp other_mem
    obtain ⟨other_mem, other_enabled⟩ := List.mem_filter.mp other_mem
    exact ⟨rule, rule_mem, enabled, closed, other, other_mem, other_enabled, by simpa using on_walk,
      rfl⟩
  · rintro ⟨rule, rule_mem, enabled, closed, other, other_mem, other_enabled, on_walk, rfl⟩
    refine ⟨_, ⟨rule, ⟨rule_mem, enabled⟩, closed, rfl⟩, List.mem_map_of_mem ?_⟩
    apply List.mem_filter.mpr
    exact ⟨List.mem_filter.mpr ⟨other_mem, other_enabled⟩, by simpa using on_walk⟩

/-- A rule is left out exactly when an enabled rule of its name starts an endless chain. -/
theorem excludes_detect_iff {rules : List Rule} {id : String} :
    excludes (detect rules) id = true ↔
      ∃ rule ∈ rules, rule.enabled = true ∧ rule.id = id ∧ Endless (Sends rules) rule.source := by
  rw [excludes_detect]
  constructor
  · rintro ⟨rule, _, _, closed, other, other_mem, enabled, on_walk, rfl⟩
    exact ⟨other, other_mem, enabled, rfl, endless_of_mem_walkFrom closed on_walk⟩
  · rintro ⟨rule, rule_mem, enabled, rfl, endless⟩
    refine ⟨rule, rule_mem, enabled, walkFrom_closed_iff.mpr endless,
      rule, rule_mem, enabled, ?_, rfl⟩
    exact source_mem_walkFrom (endless_sends_iff.mp endless).1

/-- Detection is exact.  The names left out are those of the enabled rules from whose source the
chain of redirects never stops; a rule that shares its name with no other is left out exactly when
its own chain never stops, whether it lies on a cycle or only leads into one; and no order of the
rules that keeps the map of redirects changes what is left out, whichever walk finds a cycle
first. -/
theorem exclusion_exact (rules : List Rule) :
    (∀ id, excludes (detect rules) id = true ↔
        ∃ rule ∈ rules, rule.enabled = true ∧ rule.id = id ∧
          Endless (Sends rules) rule.source) ∧
      (∀ rule ∈ rules, rule.enabled = true →
        (∀ other ∈ rules, other.id = rule.id → other = rule) →
          (excludes (detect rules) rule.id = true ↔ Endless (Sends rules) rule.source)) ∧
      ∀ others : List Rule, (∀ rule, rule ∈ others ↔ rule ∈ rules) →
        (∀ url destination, Sends others url destination ↔ Sends rules url destination) →
          ∀ id, excludes (detect others) id = excludes (detect rules) id := by
  refine ⟨fun id => excludes_detect_iff, ?_, ?_⟩
  · intro rule rule_mem enabled alone
    rw [excludes_detect_iff]
    constructor
    · rintro ⟨other, other_mem, _, same_id, endless⟩
      exact alone other other_mem same_id ▸ endless
    · intro endless
      exact ⟨rule, rule_mem, enabled, rfl, endless⟩
  · intro others same_rules same_map id
    have same_sends : Sends others = Sends rules := by
      funext url destination
      exact propext (same_map url destination)
    rw [Bool.eq_iff_iff, excludes_detect_iff, excludes_detect_iff, same_sends]
    simp only [same_rules]

/-- A lead-in to a cycle of two is left out, and so it is with the rules in another order. -/
theorem exclusion_exact_lead_in :
    let entry : Rule := { source := "W", destination := "X", id := "w" }
    let there : Rule := { source := "X", destination := "Y", id := "a" }
    let back : Rule := { source := "Y", destination := "X", id := "b" }
    Endless (Sends [entry, there, back]) "W" ∧
      excludes (detect [there, back, entry]) "w" = excludes (detect [entry, there, back]) "w" := by
  intro entry there back
  obtain ⟨_, alone_iff, reordered⟩ := exclusion_exact [entry, there, back]
  constructor
  · exact (alone_iff entry (by decide) rfl (by decide)).mp (by decide)
  · apply reordered [there, back, entry]
    · intro rule
      simp only [List.mem_cons, List.not_mem_nil, or_false]
      grind
    · intro url destination
      have next_eq : next? ([there, back, entry].filter (·.enabled)) url =
          next? ([entry, there, back].filter (·.enabled)) url := by
        by_cases at_entry : "W" = url
        · subst at_entry
          decide
        · simp [next?, entry, there, back, at_entry, List.find?_cons]
      rw [sends_iff, sends_iff, next_eq]

end Cycle

end Redirects
