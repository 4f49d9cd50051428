import Redirects.Engine.Simulation

/-!
# What a filter accepts

A rule that is made from a filter and a target redirects exactly the addresses that the filter
accepts, provided that a text filter comes with an address to send to.  A target that is an address
is where the request goes, whatever the filter matched.
-/

namespace Redirects

/-- The filter accepts the address. -/
def Filter.accepts : Filter → String → Bool
  | .substring text, url => Text.occursIn text.toList url.toList
  | .regex pattern, url => pattern.occursIn url

/-- Where a request goes whose address a pattern matched. -/
def Target.destination (target : Target) (url : Array Char) (found : Regex.Match) : String :=
  match target with
  | .url destination => destination
  | .substitution template => substitute url found template

namespace Synthesis

/-- A text filter comes with an address to send to. -/
def Suited (synthesis : Synthesis) : Prop :=
  ∀ text, synthesis.filter = .substring text → ∃ url, synthesis.target = .url url

theorem target_synthesizeContains (source destination : String) :
    (synthesizeContains source destination).target = .url destination := by
  rw [synthesizeContains]
  split <;> rfl

theorem suited_synthesize (rule : Rule) : (synthesize rule).Suited := by
  intro text filter_eq
  cases kind_eq : rule.kind with
  | contains =>
      rw [synthesize, kind_eq]
      exact ⟨rule.destination, target_synthesizeContains _ _⟩
  | regex =>
      -- a pattern rule never has a text filter
      simp only [synthesize, kind_eq, synthesizeRegex] at filter_eq
      split at filter_eq <;> contradiction

theorem redirect?_emit_regex (pattern : Pattern) (target : Target) (number : UInt32)
    (url : String) :
    (emit ⟨.regex pattern, target⟩ number).redirect? url =
      match Regex.prepare pattern.render with
      | .error _ => none
      | .ok prepared =>
        (prepared.find? url.toList.toArray).map (target.destination url.toList.toArray) := by
  cases target with
  | url destination =>
      simp only [emit, DeclarativeRule.redirect?, Option.map_eq_bind]
      rfl
  | substitution template =>
      simp only [emit, DeclarativeRule.redirect?, Option.map_eq_bind]
      rfl

/-- A target that is an address is where every accepted request goes. -/
theorem redirect?_emit_url (filter : Filter) (destination : String) (number : UInt32)
    (url : String) :
    (emit ⟨filter, .url destination⟩ number).redirect? url =
      if filter.accepts url then some destination else none := by
  cases filter with
  | substring text => rfl
  | regex pattern =>
      rw [redirect?_emit_regex, Filter.accepts, Pattern.occursIn, Regex.matchesIn]
      cases Regex.prepare pattern.render with
      | error fault => rfl
      | ok prepared =>
          change (prepared.find? url.toList.toArray).map _ =
            if (prepared.find? url.toList.toArray).isSome then some destination else none
          cases prepared.find? url.toList.toArray <;> rfl

/-- A rule redirects exactly the addresses that its filter accepts. -/
theorem isSome_redirect?_emit {synthesis : Synthesis} (suited : synthesis.Suited)
    (number : UInt32) (url : String) :
    ((synthesis.emit number).redirect? url).isSome = synthesis.filter.accepts url := by
  obtain ⟨filter, target⟩ := synthesis
  cases filter with
  | substring text =>
      obtain ⟨destination, target_eq⟩ := suited text rfl
      cases target_eq
      rw [redirect?_emit_url]
      cases (Filter.substring text).accepts url <;> rfl
  | regex pattern =>
      rw [redirect?_emit_regex, Filter.accepts, Pattern.occursIn, Regex.matchesIn]
      cases Regex.prepare pattern.render with
      | error fault => rfl
      | ok prepared => exact Option.isSome_map

end Synthesis

/-- A single rule redirects what it applies to. -/
theorem simulate_singleton (rule : DeclarativeRule) (url : String) :
    simulate [rule] url = rule.hit? url := by
  simp [simulate, byNumber]

end Redirects
