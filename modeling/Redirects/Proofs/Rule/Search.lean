import Redirects.Proofs.Text.Lowercase
import Redirects.Rule.Listing

/-!
# What a search finds

A search compares lower case with lower case.  The rules that it gives are some of those listed, in
their order, and a rule in which the query occurs is among them wherever the query has its own lower
case in the rule.
-/

namespace Redirects

open Text

/-- The text occurs in the source of the rule or in its destination. -/
def Rule.Holds (rule : Rule) (text : List Char) : Prop :=
  text <:+: rule.source.toList ∨ text <:+: rule.destination.toList

namespace Rule

variable {rules : List Rule} {rule : Rule} {query : String}

theorem mentions_iff :
    mentions query rule = true ↔
      lowercaseChars query.toList <:+: lowercaseChars rule.source.toList ∨
        lowercaseChars query.toList <:+: lowercaseChars rule.destination.toList := by
  rw [mentions, Bool.or_eq_true, occursIn_iff_isInfix, occursIn_iff_isInfix]

/-- Every rule mentions the empty text, so the empty query is no exception. -/
theorem search_eq_filter (rules : List Rule) (query : String) :
    search rules query = rules.filter (mentions query) := by
  rw [search]
  split_ifs with empty
  · rw [String.isEmpty_iff] at empty
    refine (List.filter_eq_self.mpr fun rule _ => ?_).symm
    rw [mentions_iff, empty]
    exact .inl List.nil_infix
  · rfl

theorem mem_search_iff :
    rule ∈ search rules query ↔ rule ∈ rules ∧
      (lowercaseChars query.toList <:+: lowercaseChars rule.source.toList ∨
        lowercaseChars query.toList <:+: lowercaseChars rule.destination.toList) := by
  rw [search_eq_filter, List.mem_filter, mentions_iff]

/-- A rule is found where the query occurs in it and is steady. -/
theorem mem_search_of_steady (listed : rule ∈ rules) {before variant after : List Char}
    (same : SameLetters variant query.toList)
    (split : rule.source.toList = before ++ variant ++ after ∨
      rule.destination.toList = before ++ variant ++ after)
    (steady : Steady before.reverse query.toList after) : rule ∈ search rules query := by
  refine mem_search_iff.mpr ⟨listed, ?_⟩
  have occurs := steady.occurs same
  rcases split with in_source | in_destination
  · exact .inl (in_source ▸ occurs)
  · exact .inr (in_destination ▸ occurs)

theorem mem_search_of_not_looseSigma (settled : ¬LooseSigma query.toList) (listed : rule ∈ rules)
    {variant : List Char} (same : SameLetters variant query.toList) (holds : rule.Holds variant) :
    rule ∈ search rules query := by
  rcases holds with ⟨before, after, split⟩ | ⟨before, after, split⟩
  · exact mem_search_of_steady listed same (.inl split.symm)
      (steady_of_not_looseSigma settled before.reverse after)
  · exact mem_search_of_steady listed same (.inr split.symm)
      (steady_of_not_looseSigma settled before.reverse after)

/-- A query with a loose sigma occurs in a rule that is not found. -/
theorem exists_not_mem_search (loose : LooseSigma query.toList) :
    ∃ rule : Rule, rule.Holds query.toList ∧ rule ∉ search [rule] query := by
  obtain ⟨whole, occurs, missed⟩ := loose.exists_missed
  have visible := lowercaseChars_ne_nil (List.ne_nil_of_mem loose.mem)
  refine ⟨{ source := .ofList whole, destination := "", id := "" }, .inl ?_, ?_⟩
  · rwa [String.toList_ofList]
  · rw [mem_search_iff, String.toList_ofList]
    rintro ⟨-, in_source | in_destination⟩
    · exact missed in_source
    · exact visible (List.infix_nil.mp in_destination)

/-- A query without the capital sigma is found wherever it occurs. -/
theorem mem_search_of_sigma_not_mem (absent : 'Σ' ∉ query.toList) (listed : rule ∈ rules)
    (holds : rule.Holds query.toList) : rule ∈ search rules query :=
  mem_search_of_not_looseSigma (mt LooseSigma.mem absent) listed rfl holds

end Rule

/-- A search gives some of the rules in their order.  It gives every rule that the query occurs in,
and every rule that a text occurs in that is the query but for letter case in ASCII, exactly if the
query has no loose sigma; and whatever the query, it gives a rule that has such a text where it is
steady. -/
theorem search_finds_iff (query : String) :
    (∀ rules, (Rule.search rules query).Sublist rules) ∧
      ((∀ rules, ∀ rule ∈ rules, rule.Holds query.toList → rule ∈ Rule.search rules query) ↔
        ¬LooseSigma query.toList) ∧
      ((∀ rules, ∀ rule ∈ rules, ∀ variant, SameLetters variant query.toList →
        rule.Holds variant → rule ∈ Rule.search rules query) ↔ ¬LooseSigma query.toList) ∧
      ∀ rules, ∀ rule ∈ rules, ∀ before variant after, SameLetters variant query.toList →
        (rule.source.toList = before ++ variant ++ after ∨
          rule.destination.toList = before ++ variant ++ after) →
        Steady before.reverse query.toList after → rule ∈ Rule.search rules query := by
  refine ⟨fun rules => ?_, ⟨fun all_found loose => ?_, fun settled rules rule listed holds => ?_⟩,
    ⟨fun all_found loose => ?_, fun settled rules rule listed variant same holds => ?_⟩,
    fun rules rule listed before variant after same split steady => ?_⟩
  · rw [Rule.search_eq_filter]
    exact List.filter_sublist
  · obtain ⟨rule, holds, missed⟩ := Rule.exists_not_mem_search loose
    exact missed (all_found [rule] rule (by simp) holds)
  · exact Rule.mem_search_of_not_looseSigma settled listed rfl holds
  · obtain ⟨rule, holds, missed⟩ := Rule.exists_not_mem_search loose
    exact missed (all_found [rule] rule (by simp) query.toList rfl holds)
  · exact Rule.mem_search_of_not_looseSigma settled listed same holds
  · exact Rule.mem_search_of_steady listed same split steady

/-- The sigma alone is a loose one, so a search for it misses a rule that has it. -/
theorem search_finds_iff_sigma :
    LooseSigma "Σ".toList ∧
      ∃ rules, ∃ rule ∈ rules, rule.Holds "Σ".toList ∧ rule ∉ Rule.search rules "Σ" := by
  have loose : LooseSigma "Σ".toList :=
    ⟨[], [], rfl, .inl ⟨fun _ listed => absurd listed List.not_mem_nil, rfl⟩⟩
  obtain ⟨-, found_iff, -, -⟩ := search_finds_iff "Σ"
  have not_all := mt found_iff.mp (not_not.mpr loose)
  push Not at not_all
  exact ⟨loose, not_all⟩

end Redirects
