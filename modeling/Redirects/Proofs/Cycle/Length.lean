import Mathlib.Data.Finset.Card
import Mathlib.Data.Finset.Dedup
import Redirects.Proofs.Cycle.Exclusion

/-!
# How long a walk is

A walk needs no bound on its steps: it goes on only from addresses that it has not met, and only
sources lead on, so it ends (`Walks`), and the bounded walk that is computed is this one.  It meets
no address twice.  A walk that comes back has met sources only; one that has nowhere to go on may
have met one address more, its last.
-/

namespace Redirects.Cycle

/-- The addresses other than the empty one that an enabled rule redirects. -/
def sources (rules : List Rule) : Finset String :=
  (((rules.filter (·.enabled)).map (·.source)).filter (· ≠ "")).toFinset

/-- A walk to its end, however long, the addresses met so far given latest first: the whole path,
and whether the walk came back to it. -/
inductive Walks (next? : String → Option String) :
    List String → Option String → List String → Bool → Prop where
  | stopped (met : List String) : Walks next? met none met.reverse false
  | cameBack {met : List String} {url : String} :
      url ∈ met → Walks next? met (some url) met.reverse true
  | onward {met : List String} {url : String} {path : List String} {closed : Bool} :
      url ∉ met → Walks next? (url :: met) (next? url) path closed →
        Walks next? met (some url) path closed

variable {next? : String → Option String} {rules : List Rule} {rule : Rule} {start url : String}
  {met path other : List String} {current : Option String} {closed otherClosed : Bool}

/-- A walk ends in one way only. -/
theorem Walks.unique (walks : Walks next? met current path closed)
    (others : Walks next? met current other otherClosed) : other = path ∧ otherClosed = closed := by
  induction walks with
  | stopped =>
      cases others
      exact ⟨rfl, rfl⟩
  | cameBack back =>
      cases others with
      | cameBack => exact ⟨rfl, rfl⟩
      | onward fresh => exact absurd back fresh
  | onward fresh _ ih =>
      cases others with
      | cameBack back => exact absurd back fresh
      | onward _ others => exact ih others

/-- What a walk does from where it has come to, it does from its start. -/
theorem Trail.walks (trail : Trail next? start met current)
    (walks : Walks next? met current path closed) : Walks next? [] (some start) path closed := by
  induction trail with
  | start => exact walks
  | step _ fresh ih => exact ih (walks.onward fresh)

theorem mem_sources : url ∈ sources rules ↔
    url ≠ "" ∧ ∃ rule ∈ rules, rule.enabled = true ∧ rule.source = url := by
  simp [sources, and_comm, and_assoc, and_left_comm]

/-- Only sources lead on. -/
theorem mem_sources_of_next? (url_ne : url ≠ "")
    (leads : (Cycle.next? (rules.filter (·.enabled)) url).isSome) : url ∈ sources rules := by
  obtain ⟨rule, rule_mem, rfl⟩ := List.mem_map.mp (next?_isSome_mem leads)
  obtain ⟨rule_mem, enabled⟩ := List.mem_filter.mp rule_mem
  exact mem_sources.mpr ⟨url_ne, rule, rule_mem, enabled, rfl⟩

theorem Trail.mem_sources (start_ne : start ≠ "")
    (trail : Trail (Cycle.next? (rules.filter (·.enabled))) start met current) :
    ∀ here ∈ met, (Cycle.next? (rules.filter (·.enabled)) here).isSome →
      here ∈ (sources rules).toList := by
  have met_ne := (trail.inside (· ≠ "") start_ne fun _ _ sent => (next?_eq_some_iff.mp sent).1).1
  exact fun here here_met leads =>
    Finset.mem_toList.mpr (mem_sources_of_next? (met_ne here here_met) leads)

/-- The walk from a rule, the one that is computed within a bound, is the walk to its end, and it is
short. -/
theorem walks_walkFrom (rules : List Rule) (rule : Rule) :
    ∃ path closed, walkFrom (rules.filter (·.enabled)) rule = (path, closed) ∧
      Walks (Cycle.next? (rules.filter (·.enabled))) [] (node? rule.source) path closed ∧
      path.Nodup ∧ path.length ≤ (sources rules).card + if closed then 0 else 1 := by
  by_cases source_eq : rule.source = ""
  · have node_eq : node? rule.source = none := by simp [node?, source_eq]
    refine ⟨[], false, walkFrom_eq_of_empty source_eq, ?_, List.nodup_nil, Nat.zero_le _⟩
    rw [node_eq]
    exact .stopped []
  · have node_eq : node? rule.source = some rule.source := node?_eq_some_iff.mpr ⟨source_eq, rfl⟩
    rw [walkFrom_eq source_eq, node_eq]
    obtain ⟨met, current, trail, ⟨⟨last, came_back, rfl⟩, walk_eq⟩ | ⟨rfl, walk_eq⟩⟩ :=
      walk_start (fun _ => next?_isSome_mem) (length_sources_le (rules.filter (·.enabled)))
        rule.source
    · refine ⟨met.reverse, true, walk_eq, trail.walks (.cameBack came_back),
        List.nodup_reverse.mpr trail.nodup, ?_⟩
      simpa using trail.length_le_of_some (trail.mem_sources source_eq)
    · refine ⟨met.reverse, false, walk_eq, trail.walks (.stopped met),
        List.nodup_reverse.mpr trail.nodup, ?_⟩
      simpa using trail.length_le (trail.mem_sources source_eq)

/-- Every walk is short.  From every rule the walk ends, in one way, and the walk that is computed
within a bound on its steps is the walk to its end.  It meets no address twice, and at most as many
addresses as there are sources of enabled rules, if it came back, or else one more. -/
theorem walk_ends_within_sources (rules : List Rule) (rule : Rule) :
    ∃ path closed, walkFrom (rules.filter (·.enabled)) rule = (path, closed) ∧
      (∀ other otherClosed,
        Walks (Cycle.next? (rules.filter (·.enabled))) [] (node? rule.source) other otherClosed ↔
          other = path ∧ otherClosed = closed) ∧
      path.Nodup ∧ path.length ≤ (sources rules).card + if closed then 0 else 1 := by
  obtain ⟨path, closed, computed, walks, distinct, short⟩ := walks_walkFrom rules rule
  refine ⟨path, closed, computed, fun other otherClosed => ⟨walks.unique, ?_⟩, distinct, short⟩
  rintro ⟨rfl, rfl⟩
  exact walks

/-- Both bounds are reached: of two sources, a circle meets both, and a chain its end as well. -/
example :
    let there : Rule := { source := "X", destination := "Y", id := "a" }
    let back : Rule := { source := "Y", destination := "X", id := "b" }
    let onward : Rule := { source := "Y", destination := "Z", id := "c" }
    (sources [there, back]).card = 2 ∧ walkFrom [there, back] there = (["X", "Y"], true) ∧
      (sources [there, onward]).card = 2 ∧
      walkFrom [there, onward] there = (["X", "Y", "Z"], false) := by
  decide

end Redirects.Cycle
