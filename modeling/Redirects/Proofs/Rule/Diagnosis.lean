import Redirects.Proofs.Compilation.Content
import Redirects.Proofs.Compilation.Emission
import Redirects.Proofs.Rule.Editing
import Redirects.Proofs.Simulation.Settling
import Redirects.Rule.Diagnosis

/-!
# Warnings and what is compiled

The diagnosis of a list looks at cycles, overlaps and patterns on its own, and what it says agrees
with what becomes of the rules.  A rule is warned about for a cycle exactly if nothing is compiled
for it; one that looks for a text, for an overlap exactly if its filter is a pattern; and a pattern
rule, for redirecting itself exactly if the compiled rule redirects its own destination.
-/

namespace Redirects

/-- The diagnosis of a list has a warning of a kind about one of the rules. -/
def Warns (rules : List Rule) (rule : Rule) (kind : String) : Prop :=
  ∃ warning ∈ diagnose rules, warning.ruleId = rule.id ∧ warning.concern.kind = kind

variable {rules : List Rule} {rule : Rule} {kind : String}

/-! ## What there is to say about a rule -/

theorem exists_cycleConcern?_iff {cycles : List Cycle} :
    (∃ concern, cycleConcern? cycles rule = some concern ∧ concern.kind = kind) ↔
      kind = "cycle" ∧ Cycle.excludes cycles rule.id = true := by
  rw [Cycle.excludes, List.any_eq_true, ← List.find?_isSome, cycleConcern?]
  cases cycles.find? (·.ruleIds.contains rule.id) with
  | none => simp
  | some cycle => simp [Concern.kind, eq_comm (b := kind)]

/-- The doubts about a rule's own texts: an overlap, a source that is no pattern, and a filter that
accepts the destination. -/
theorem exists_ownConcern?_iff :
    (∃ concern, ownConcern? rule = some concern ∧ concern.kind = kind) ↔
      kind = "substring-overlap" ∧ rule.kind = .contains ∧
          overlaps rule.source rule.destination = true ∨
        kind = "invalid-regex" ∧ rule.kind = .regex ∧ Regex.isValid rule.source = false ∨
          kind = "self-redirect" ∧ rule.kind = .regex ∧ Regex.isValid rule.source = true ∧
            (synthesize rule).filter.accepts rule.destination = true := by
  cases kind_eq : rule.kind with
  | contains =>
      cases overlap : overlaps rule.source rule.destination <;>
        simp [ownConcern?, kind_eq, overlap, Concern.kind, eq_comm (b := kind)]
  | regex =>
      obtain ⟨pattern, filter_eq⟩ := exists_filter_eq_regex kind_eq
      cases source_eq : Regex.prepare rule.source with
      | error fault =>
          simp [ownConcern?, kind_eq, source_eq, Regex.isValid, Except.isOk, Except.toBool,
            Concern.kind, eq_comm (b := kind)]
      | ok prepared =>
          cases occurs : pattern.occursIn rule.destination <;>
            simp [ownConcern?, kind_eq, source_eq, filter_eq, Filter.accepts, occurs,
              Regex.isValid, Except.isOk, Except.toBool, Concern.kind, eq_comm (b := kind)]

theorem mem_diagnose_iff {warning : Warning} :
    warning ∈ diagnose rules ↔
      ∃ rule ∈ rules, rule.enabled = true ∧ warning.ruleId = rule.id ∧
        (cycleConcern? (Cycle.detect rules) rule = some warning.concern ∨
          ownConcern? rule = some warning.concern) := by
  obtain ⟨name, concern⟩ := warning
  simp only [diagnose, List.mem_flatMap, List.mem_filter, List.mem_map, List.mem_append,
    Option.mem_toList, Warning.mk.injEq]
  constructor
  · rintro ⟨rule, ⟨rule_mem, enabled⟩, concern, doubted, rfl, rfl⟩
    exact ⟨rule, rule_mem, enabled, rfl, doubted⟩
  · rintro ⟨rule, rule_mem, enabled, rfl, doubted⟩
    exact ⟨rule, ⟨rule_mem, enabled⟩, concern, doubted, rfl, rfl⟩

/-- What a rule is warned about, while names are distinct. -/
theorem warns_iff (distinct : (rules.map (·.id)).Nodup) (rule_mem : rule ∈ rules) :
    Warns rules rule kind ↔
      rule.enabled = true ∧
        ((∃ concern, cycleConcern? (Cycle.detect rules) rule = some concern ∧
            concern.kind = kind) ∨
          ∃ concern, ownConcern? rule = some concern ∧ concern.kind = kind) := by
  constructor
  · rintro ⟨⟨name, concern⟩, listed, name_eq, rfl⟩
    obtain ⟨other, other_mem, enabled, other_name, doubted⟩ := mem_diagnose_iff.mp listed
    obtain rfl := List.inj_on_of_nodup_map distinct other_mem rule_mem (other_name.symm.trans name_eq)
    exact ⟨enabled, doubted.imp (⟨concern, ·, rfl⟩) (⟨concern, ·, rfl⟩)⟩
  · rintro ⟨enabled, ⟨concern, doubted, rfl⟩ | ⟨concern, doubted, rfl⟩⟩
    · exact ⟨⟨rule.id, concern⟩, mem_diagnose_iff.mpr ⟨rule, rule_mem, enabled, rfl, .inl doubted⟩,
        rfl, rfl⟩
    · exact ⟨⟨rule.id, concern⟩, mem_diagnose_iff.mpr ⟨rule, rule_mem, enabled, rfl, .inr doubted⟩,
        rfl, rfl⟩

theorem warns_cycle_iff (distinct : (rules.map (·.id)).Nodup) (rule_mem : rule ∈ rules)
    (enabled : rule.enabled = true) :
    Warns rules rule "cycle" ↔ Cycle.excludes (Cycle.detect rules) rule.id = true := by
  rw [warns_iff distinct rule_mem, exists_cycleConcern?_iff, exists_ownConcern?_iff]
  simp [enabled]

theorem warns_own_iff (distinct : (rules.map (·.id)).Nodup) (rule_mem : rule ∈ rules)
    (enabled : rule.enabled = true) (other_kind : kind ≠ "cycle") :
    Warns rules rule kind ↔ ∃ concern, ownConcern? rule = some concern ∧ concern.kind = kind := by
  rw [warns_iff distinct rule_mem, exists_cycleConcern?_iff]
  simp [enabled, other_kind]

/-! ## The order of warnings -/

theorem pairwise_toList {α : Type} (related : α → α → Prop) (value : Option α) :
    value.toList.Pairwise related := by
  cases value <;> simp

theorem kind_ne_cycle_of_ownConcern? {concern : Concern} (doubted : ownConcern? rule = some concern) :
    concern.kind ≠ "cycle" := by
  intro is_cycle
  have own := exists_ownConcern?_iff.mp ⟨concern, doubted, is_cycle⟩
  simp at own

/-- One warning may stand in front of another: it is about an earlier rule, or about the same rule
and the other is not for a cycle. -/
def Warning.Precedes (rules : List Rule) (first second : Warning) : Prop :=
  ∀ (index place : Nat) (rule other : Rule), rules[index]? = some rule →
    rules[place]? = some other → first.ruleId = rule.id → second.ruleId = other.id →
      index < place ∨ index = place ∧ second.concern.kind ≠ "cycle"

/-- A warning about an earlier rule stands in front of one about a later rule. -/
theorem Warning.precedes_of_lt (distinct : (rules.map (·.id)).Nodup) {index place : Nat}
    {other : Rule} {first second : Warning} (lt : index < place)
    (indexed : rules[index]? = some rule) (placed : rules[place]? = some other)
    (first_name : first.ruleId = rule.id) (second_name : second.ruleId = other.id) :
    Warning.Precedes rules first second := by
  intro first_index second_index _ _ first_indexed second_indexed first_of second_of
  rw [Rule.index_unique distinct first_indexed indexed (first_of.symm.trans first_name),
    Rule.index_unique distinct second_indexed placed (second_of.symm.trans second_name)]
  exact .inl lt

theorem diagnose_pairwise (distinct : (rules.map (·.id)).Nodup) :
    (diagnose rules).Pairwise (Warning.Precedes rules) := by
  have in_order : rules.Pairwise fun rule other =>
      ∃ index place : Nat, index < place ∧ rules[index]? = some rule ∧
        rules[place]? = some other := by
    rw [List.pairwise_iff_getElem]
    intro index place index_lt place_lt lt
    exact ⟨index, place, lt, List.getElem?_eq_getElem index_lt, List.getElem?_eq_getElem place_lt⟩
  refine List.pairwise_flatMap.mpr ⟨fun rule _ => ?_, ?_⟩
  · -- The doubts about one rule: a cycle first, then what is said of its own texts.
    rw [List.pairwise_map, List.pairwise_append]
    refine ⟨pairwise_toList _ _, pairwise_toList _ _, fun _ _ concern doubted => ?_⟩
    intro index place first second indexed placed first_name second_name
    exact .inr ⟨Rule.index_unique distinct indexed placed (first_name.symm.trans second_name),
      kind_ne_cycle_of_ownConcern? (Option.mem_toList.mp doubted)⟩
  · apply (in_order.filter _).imp
    rintro rule other ⟨index, place, lt, indexed, placed⟩ first first_mem second second_mem
    obtain ⟨_, -, rfl⟩ := List.mem_map.mp first_mem
    obtain ⟨_, -, rfl⟩ := List.mem_map.mp second_mem
    exact Warning.precedes_of_lt distinct lt indexed placed rfl rfl

/-! ## Agreement -/

/-- Nothing is compiled for an enabled rule exactly if a cycle leaves it out, while numbers last. -/
theorem emission?_eq_none_iff {index : Nat} (indexed : rules[index]? = some rule)
    (enabled : rule.enabled = true) (numbered : index + 1 < UInt32.size) :
    emission? rules index = none ↔ Cycle.excludes (Cycle.detect rules) rule.id = true := by
  rw [emission?_eq_compileAt? indexed, ← Option.isNone_iff_eq_none, ← Option.isSome_eq_false_iff,
    compileAt?_isSome numbered, enabled]
  simp

/-- A rule that looks for a text is compiled to a pattern exactly if its destination contains it. -/
theorem isSome_regexFilter_emit (kind_eq : rule.kind = .contains) (number : UInt32) :
    ((synthesize rule).emit number).condition.regexFilter.isSome =
      overlaps rule.source rule.destination := by
  rw [synthesize, kind_eq]
  cases overlap : overlaps rule.source rule.destination <;>
    simp [synthesizeContains, overlap, Synthesis.emit]

/-- A compiled rule alone redirects exactly what the filter of the rule accepts. -/
theorem isSome_simulate_emit (rule : Rule) (number : UInt32) (url : String) :
    (simulate [(synthesize rule).emit number] url).isSome =
      (synthesize rule).filter.accepts url := by
  rw [simulate_singleton, DeclarativeRule.hit?, Option.isSome_map,
    Synthesis.isSome_redirect?_emit (Synthesis.suited_synthesize rule)]

/-- The diagnosis of a list agrees with what the list is compiled to.  An enabled rule is warned
about for a cycle exactly if nothing is compiled for it.  A compiled rule that looks for a text is
warned about for an overlap exactly if its filter is a pattern; one with a pattern, for the pattern
exactly if it has a fault, and for redirecting itself exactly if it has none and what is compiled
redirects its destination.  A rule that is switched off is never warned about, and warnings come in
the order of the rules, that for a cycle first. -/
theorem diagnosis_agrees {rules : List Rule} (distinct : (rules.map (·.id)).Nodup)
    (numbered : rules.length < UInt32.size) :
    (∀ index rule, rules[index]? = some rule → rule.enabled = true →
      (Warns rules rule "cycle" ↔ emission? rules index = none) ∧
      ∀ declarative, emission? rules index = some declarative →
        (rule.kind = .contains →
          (Warns rules rule "substring-overlap" ↔
            declarative.condition.regexFilter.isSome = true)) ∧
        (rule.kind = .regex →
          (Warns rules rule "invalid-regex" ↔ Regex.isValid rule.source = false) ∧
          (Warns rules rule "self-redirect" ↔
            Regex.isValid rule.source = true ∧
              (simulate [declarative] rule.destination).isSome = true))) ∧
    (∀ rule ∈ rules, rule.enabled = false → ∀ kind, ¬Warns rules rule kind) ∧
    (∀ warning ∈ diagnose rules, ∃ rule ∈ rules, warning.ruleId = rule.id) ∧
    (diagnose rules).Pairwise (Warning.Precedes rules) := by
  refine ⟨fun index rule indexed enabled => ?_, fun rule rule_mem off kind warns => ?_,
    fun warning listed => ?_, diagnose_pairwise distinct⟩
  · have rule_mem := List.mem_of_getElem? indexed
    have index_lt := (List.getElem?_eq_some_iff.mp indexed).1
    refine ⟨?_, fun declarative emitted => ?_⟩
    · rw [warns_cycle_iff distinct rule_mem enabled,
        emission?_eq_none_iff indexed enabled (by omega)]
    · obtain ⟨-, -, -, declarative_eq⟩ := kept_of_emission? indexed emitted
      rw [declarative_eq]
      refine ⟨fun kind_eq => ?_, fun kind_eq => ⟨?_, ?_⟩⟩
      · rw [warns_own_iff distinct rule_mem enabled (by decide), exists_ownConcern?_iff,
          isSome_regexFilter_emit kind_eq]
        simp [kind_eq]
      · rw [warns_own_iff distinct rule_mem enabled (by decide), exists_ownConcern?_iff]
        simp [kind_eq]
      · rw [warns_own_iff distinct rule_mem enabled (by decide), exists_ownConcern?_iff,
          isSome_simulate_emit]
        simp [kind_eq]
  · have on := ((warns_iff distinct rule_mem).mp warns).1
    rw [off] at on
    exact Bool.false_ne_true on
  · obtain ⟨rule, rule_mem, -, name_eq, -⟩ := mem_diagnose_iff.mp listed
    exact ⟨rule, rule_mem, name_eq⟩

/-- A rule on a cycle whose destination contains its source, the same switched off, and a pattern
that occurs in its own destination behind the start. -/
theorem diagnosis_agrees_loose :
    let both : Rule := { source := "X", destination := "X", id := "both" }
    let off : Rule := { both with enabled := false, id := "off" }
    let loose : Rule :=
      { source := "abc", destination := "https://abc.com/", kind := .regex, id := "loose" }
    let rules := [both, off, loose]
    (rules.map (·.id)).Nodup ∧ rules.length < UInt32.size ∧
      Warns rules both "cycle" ∧ emission? rules 0 = none ∧ ¬Warns rules off "cycle" ∧
        Warns rules loose "self-redirect" ∧
          emission? rules 2 = some ((synthesize loose).emit 3) ∧
            (simulate [(synthesize loose).emit 3] "https://abc.com/").isSome = true := by
  intro both off loose rules
  have distinct : (rules.map (·.id)).Nodup := by decide
  have numbered : rules.length < UInt32.size := by decide
  have nothing : emission? rules 0 = none :=
    emission?_of_dropped (show rules[0]? = some both from rfl) (by decide)
  have emitted : emission? rules 2 = some ((synthesize loose).emit 3) :=
    emission?_of_kept rfl rfl (by decide)
  have redirected : (simulate [(synthesize loose).emit 3] "https://abc.com/").isSome = true := by
    decide +kernel
  obtain ⟨of_enabled, of_off, -, -⟩ := diagnosis_agrees distinct numbered
  have cycled := (of_enabled 0 both rfl rfl).1.mpr nothing
  have loose_warned := (((of_enabled 2 loose rfl rfl).2 _ emitted).2 rfl).2.mpr
    ⟨by decide +kernel, redirected⟩
  exact ⟨distinct, numbered, cycled, nothing, of_off off (by simp [rules]) rfl "cycle",
    loose_warned, emitted, redirected⟩

end Redirects
