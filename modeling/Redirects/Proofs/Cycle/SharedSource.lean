import Redirects.Proofs.Cycle.Exclusion

/-!
# Rules that share a source

Where an address is sent is told by the last of the enabled rules with that source, so a list of
rules is taken apart into the rules of each source.  Lists that agree on these send alike, whatever
order the sources come in; and where no two enabled rules share a source, a list that lacks some of
the rules sends no address that the whole list does not send.
-/

namespace Redirects

/-- The enabled rules with a source, in their order. -/
def Rule.ofSource (rules : List Rule) (source : String) : List Rule :=
  (rules.filter (·.enabled)).filter (·.source = source)

variable {rules others : List Rule} {rule : Rule} {url destination : String}

theorem Rule.mem_ofSource :
    rule ∈ Rule.ofSource rules url ↔ rule ∈ rules ∧ rule.enabled = true ∧ rule.source = url := by
  simp only [Rule.ofSource, List.mem_filter, decide_eq_true_eq, and_assoc]

/-- The last of the rules with a source is the one that prevails. -/
theorem Rule.getLast?_ofSource :
    (Rule.ofSource rules url).getLast? = some rule ↔ rule.PrevailsIn rules ∧ rule.source = url := by
  rw [← Cycle.find?_eq_some_iff_prevails, ← List.head?_filter, List.filter_reverse,
    List.head?_reverse, Rule.ofSource]

theorem sends_iff_getLast? :
    Sends rules url destination ↔
      url ≠ "" ∧ destination ≠ "" ∧
        ∃ rule, (Rule.ofSource rules url).getLast? = some rule ∧
          rule.destination = destination := by
  simp only [Sends, Rule.getLast?_ofSource, and_assoc]

theorem sends_eq_of_ofSource (same : ∀ url, Rule.ofSource others url = Rule.ofSource rules url) :
    Sends others = Sends rules := by
  funext url destination
  rw [eq_iff_iff, sends_iff_getLast?, sends_iff_getLast?, same]

/-- For each source the enabled rules of a list are some of those of another list. -/
def Rule.Narrows (others rules : List Rule) : Prop :=
  ∀ source, (Rule.ofSource others source).Sublist (Rule.ofSource rules source)

theorem Rule.narrows_of_sublist (fewer : others.Sublist rules) : Rule.Narrows others rules :=
  fun _ => (fewer.filter _).filter _

theorem Rule.length_ofSource_le (apart : ((rules.filter (·.enabled)).map (·.source)).Nodup)
    (source : String) : (Rule.ofSource rules source).length ≤ 1 := by
  have one_source : (Rule.ofSource rules source).map (·.source) =
      List.replicate (Rule.ofSource rules source).length source :=
    List.map_eq_replicate_iff.mpr fun _ rule_mem => (Rule.mem_ofSource.mp rule_mem).2.2
  have distinct : ((Rule.ofSource rules source).map (·.source)).Nodup :=
    (List.filter_sublist.map _).nodup apart
  rwa [one_source, List.nodup_replicate] at distinct

/-- Where no two rules share a source, fewer rules send fewer addresses. -/
theorem Rule.Narrows.sends (narrows : Rule.Narrows others rules)
    (apart : ((rules.filter (·.enabled)).map (·.source)).Nodup)
    (sends : Sends others url destination) : Sends rules url destination := by
  obtain ⟨url_ne, destination_ne, rule, last, rfl⟩ := sends_iff_getLast?.mp sends
  have nonempty : (Rule.ofSource others url).length ≠ 0 := by
    rw [Ne, List.length_eq_zero_iff, ← List.getLast?_eq_none_iff, last]
    simp
  have all_kept : Rule.ofSource others url = Rule.ofSource rules url := by
    apply (narrows url).eq_of_length_le
    have at_most_one := Rule.length_ofSource_le apart url
    omega
  exact sends_iff_getLast?.mpr ⟨url_ne, destination_ne, rule, all_kept ▸ last, rfl⟩

/-- Where no two rules share a source, fewer rules leave out fewer names. -/
theorem Rule.Narrows.excludes (narrows : Rule.Narrows others rules)
    (apart : ((rules.filter (·.enabled)).map (·.source)).Nodup) {id : String}
    (excluded : Cycle.excludes (Cycle.detect others) id = true) :
    Cycle.excludes (Cycle.detect rules) id = true := by
  obtain ⟨rule, rule_mem, enabled, rfl, endless⟩ := Cycle.excludes_detect_iff.mp excluded
  have among : rule ∈ Rule.ofSource rules rule.source :=
    (narrows rule.source).subset (Rule.mem_ofSource.mpr ⟨rule_mem, enabled, rfl⟩)
  exact Cycle.excludes_detect_iff.mpr ⟨rule, (Rule.mem_ofSource.mp among).1, enabled, rfl,
    endless.mono fun _ _ sends => narrows.sends apart sends⟩

end Redirects
