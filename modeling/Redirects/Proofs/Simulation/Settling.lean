import Redirects.Proofs.Synthesis.Contains
import Redirects.Proofs.Synthesis.SelfCapture

/-!
# Rules that settle

A rule that sends requests to a fixed address redirects a request at most once if its filter does
not accept that address.  This is what the diagnosis of a rule asks, about the very filter that is
compiled: a source that the destination does not contain, slashes at the ends aside, is not
contained in it with them, and a pattern is searched for in the destination itself.
-/

namespace Redirects

/-- The target of a rule is an address if the rule looks for a text, or if its destination has no
place and its source no wildcard to capture; the address is its destination. -/
theorem target_eq_url_iff {rule : Rule} {address : String} :
    (synthesize rule).target = .url address ↔
      address = rule.destination ∧
        (rule.kind = .contains ∨
          Template.hasPlace rule.destination.toList = false ∧
            pathCapture? rule.source rule.destination = none) := by
  rw [eq_comm (a := address)]
  cases kind_eq : rule.kind with
  | contains => simp [synthesize, kind_eq, Synthesis.target_synthesizeContains]
  | regex =>
      have target_eq : (synthesize rule).target =
          (baseSynthesis rule.source rule.destination).2 := by
        simp only [synthesize, kind_eq, target_synthesizeRegex]
      rw [target_eq, baseSynthesis]
      cases captured : pathCapture? rule.source rule.destination with
      | some capture =>
          obtain ⟨-, _, _, -, -, rfl⟩ := pathCapture?_eq_some_iff.mp captured
          simp [Redirects.capture]
      | none => cases Template.hasPlace rule.destination.toList <;> simp

/-- The filter of a pattern rule is a pattern. -/
theorem exists_filter_eq_regex {rule : Rule} (kind_eq : rule.kind = .regex) :
    ∃ pattern, (synthesize rule).filter = .regex pattern := by
  simp only [synthesize, kind_eq, synthesizeRegex]
  split <;> exact ⟨_, rfl⟩

/-- The filter of an enabled rule without a warning does not accept the rule's destination. -/
theorem accepts_destination_of_clean {rule : Rule} (enabled : rule.enabled = true)
    (clean : diagnose [rule] = []) : (synthesize rule).filter.accepts rule.destination = false := by
  have no_concern : ownConcern? rule = none := by
    simp [diagnose, enabled] at clean
    exact clean.2
  rw [ownConcern?] at no_concern
  cases kind_eq : rule.kind with
  | contains =>
      have apart : ¬withoutSlashes rule.source <:+: withoutSlashes rule.destination := by
        rw [← overlaps_iff]
        simpa [kind_eq] using no_concern
      rw [Bool.eq_false_iff, ne_eq, synthesize, kind_eq, accepts_contains_apart apart]
      exact fun occurs => apart (Text.isInfix_dropTrailing '/' occurs)
  | regex =>
      obtain ⟨pattern, filter_eq⟩ := exists_filter_eq_regex kind_eq
      simp only [kind_eq, filter_eq] at no_concern
      rw [filter_eq, Filter.accepts]
      cases source_eq : Regex.prepare rule.source with
      | error fault => simp [source_eq] at no_concern
      | ok prepared => simpa [source_eq] using no_concern

/-- A fixed address that the filter does not accept is the end of every trace. -/
theorem trace_emit_url {filter : Filter} {destination : String}
    (left_alone : filter.accepts destination = false) (number : UInt32) (url : String)
    (more : Nat) :
    trace [Synthesis.emit ⟨filter, .url destination⟩ number] url (more + 2) =
      ⟨if filter.accepts url then [⟨number, url, destination⟩] else [], .settled⟩ := by
  have redirected (address : String) :
      simulate [Synthesis.emit ⟨filter, .url destination⟩ number] address =
        if filter.accepts address then some ⟨number, address, destination⟩ else none := by
    rw [simulate_singleton, DeclarativeRule.hit?, Synthesis.redirect?_emit_url]
    split <;> rfl
  rw [trace, traceFrom, redirected]
  cases accepted : filter.accepts url with
  | false => rfl
  | true =>
      -- the address differs from the destination, which the filter does not accept
      have moved : destination ≠ url := by
        rintro rfl
        rw [left_alone] at accepted
        contradiction
      simp [moved, traceFrom, redirected, left_alone]

/-- Where the target of an enabled rule is an address and the rule is not warned about, every
request settles after at most one redirect, at its own address or at the rule's destination. -/
theorem literal_rule_settles {rule : Rule} (enabled : rule.enabled = true)
    (literal : ∃ address, (synthesize rule).target = .url address) (clean : diagnose [rule] = [])
    (url : String) {maxHops : Nat} (enough : 2 ≤ maxHops) :
    let result := trace (compile [rule] true) url maxHops
    result.outcome = .settled ∧ result.hops.length ≤ 1 ∧
      (result.finalUrl url = url ∨ result.finalUrl url = rule.destination) := by
  intro result
  obtain ⟨address, target_eq⟩ := literal
  obtain ⟨rfl, -⟩ := target_eq_url_iff.mp target_eq
  obtain ⟨more, rfl⟩ := Nat.exists_eq_add_of_le' enough
  have result_eq : result =
      ⟨if (synthesize rule).filter.accepts url then [⟨1, url, rule.destination⟩] else [],
        .settled⟩ := by
    have left_alone := accepts_destination_of_clean enabled clean
    rw [← trace_emit_url left_alone 1 url more, ← target_eq]
    change trace (compile [rule] true) url (more + 2) = _
    rw [compile_of_clean enabled clean]
  rw [result_eq]
  split
  · exact ⟨rfl, Nat.le_refl 1, .inr rfl⟩
  · exact ⟨rfl, Nat.zero_le 1, .inl rfl⟩

/-- A pattern rule whose source would match its destination further on, but for the anchor. -/
theorem literal_rule_settles_anchored :
    let rule : Rule :=
      { source := "^http://a", destination := "https://b/?http://a", kind := .regex, id := "r" }
    diagnose [rule] = [] ∧
      (trace (compile [rule] true) "http://a/x" 2).outcome = .settled := by
  intro rule
  have clean : diagnose [rule] = [] := by decide +kernel
  have literal : ∃ address, (synthesize rule).target = .url address :=
    ⟨rule.destination, target_eq_url_iff.mpr ⟨rfl, .inr ⟨by decide, by decide⟩⟩⟩
  exact ⟨clean, (literal_rule_settles rfl literal clean "http://a/x" (by decide)).1⟩

end Redirects
