import Redirects.Proofs.Compilation.Content
import Redirects.Proofs.Cycle.SharedSource

/-!
# What is left without the cycles

The enabled rules outside every cycle are a list without cycles.  Whether a rule is left out is told
by its source, so rules that share a source stay or go together: where a surviving source leads is
what it was, a source on an endless chain is gone, and no chain of the survivors is endless.  They
are compiled to what the whole list is compiled to, with the numbers given anew.
-/

namespace Redirects

/-- The rule is enabled, and none of the cycles leaves it out. -/
def Rule.inUse (cycles : List Cycle) (rule : Rule) : Bool :=
  rule.enabled && !Cycle.excludes cycles rule.id

/-- The enabled rules that no cycle leaves out, in their order. -/
def Rule.survivors (rules : List Rule) : List Rule := rules.filter (inUse (Cycle.detect rules))

/-- The rules in their order, numbered one after another. -/
def renumberedFrom : Nat → List DeclarativeRule → List DeclarativeRule
  | _, [] => []
  | start, rule :: rules =>
    { rule with id := UInt32.ofNat (start + 1) } :: renumberedFrom (start + 1) rules

variable {rules : List Rule} {rule : Rule} {url destination : String}

theorem Rule.mem_survivors :
    rule ∈ Rule.survivors rules ↔
      rule ∈ rules ∧ rule.enabled = true ∧
        Cycle.excludes (Cycle.detect rules) rule.id = false := by
  simp [Rule.survivors, Rule.inUse]

/-! ## Where survivors are sent -/

/-- Rules that share a source survive together, if the chain from it stops. -/
theorem Rule.ofSource_survivors_of_stops (distinct : (rules.map (·.id)).Nodup)
    (stops : ¬Endless (Sends rules) url) :
    Rule.ofSource (Rule.survivors rules) url = Rule.ofSource rules url := by
  rw [ofSource, ofSource, survivors, List.filter_filter, List.filter_filter, List.filter_filter]
  apply List.filter_congr
  intro rule rule_mem
  by_cases at_url : rule.source = url
  · cases enabled : rule.enabled with
    | false => simp
    | true =>
        have kept : Cycle.excludes (Cycle.detect rules) rule.id = false := by
          rw [Bool.eq_false_iff, ne_eq, excludes_detect_of_mem distinct rule_mem enabled, at_url]
          exact stops
        simp [inUse, enabled, kept]
  · simp [at_url]

/-- No rule survives whose source starts an endless chain. -/
theorem Rule.stops_of_mem_survivors (distinct : (rules.map (·.id)).Nodup)
    (survives : rule ∈ Rule.survivors rules) : ¬Endless (Sends rules) rule.source := by
  obtain ⟨rule_mem, enabled, kept⟩ := Rule.mem_survivors.mp survives
  rw [← excludes_detect_of_mem distinct rule_mem enabled, kept]
  exact Bool.false_ne_true

/-- The survivors send the addresses from which no endless chain starts, as all rules do. -/
theorem sends_survivors_iff (distinct : (rules.map (·.id)).Nodup) :
    Sends (Rule.survivors rules) url destination ↔
      Sends rules url destination ∧ ¬Endless (Sends rules) url := by
  by_cases stops : ¬Endless (Sends rules) url
  · rw [sends_iff_getLast?, sends_iff_getLast?, Rule.ofSource_survivors_of_stops distinct stops,
      and_iff_left stops]
  · refine iff_of_false (fun sends => stops ?_) (fun both => stops both.2)
    obtain ⟨-, -, rule, last, -⟩ := sends_iff_getLast?.mp sends
    obtain ⟨survives, -, rfl⟩ := Rule.mem_ofSource.mp (List.mem_of_getLast? last)
    exact Rule.stops_of_mem_survivors distinct survives

/-- No chain of the survivors is endless. -/
theorem not_endless_survivors (distinct : (rules.map (·.id)).Nodup) :
    ¬Endless (Sends (Rule.survivors rules)) url := by
  intro endless
  obtain ⟨_, sends, -⟩ := endless.onward
  have stops := ((sends_survivors_iff distinct).mp sends).2
  exact stops (endless.mono fun _ _ sends => ((sends_survivors_iff distinct).mp sends).1)

/-- Where no chain from an enabled rule is endless, no cycle is reported. -/
theorem Cycle.detect_eq_nil
    (stops : ∀ rule ∈ rules, rule.enabled = true → ¬Endless (Sends rules) rule.source) :
    Cycle.detect rules = [] := by
  have none_shown : (rules.filter (·.enabled)).filterMap
      (Cycle.ofRule? (rules.filter (·.enabled))) = [] := by
    rw [List.filterMap_eq_nil_iff]
    intro rule rule_mem
    obtain ⟨rule_mem, enabled⟩ := List.mem_filter.mp rule_mem
    rw [Option.eq_none_iff_forall_ne_some]
    intro cycle shown
    exact stops rule rule_mem enabled
      (Cycle.walkFrom_closed_iff.mp (Cycle.ofRule?_eq_some_iff.mp shown).1)
  simp only [Cycle.detect, none_shown]
  rfl

theorem detect_survivors (distinct : (rules.map (·.id)).Nodup) :
    Cycle.detect (Rule.survivors rules) = [] :=
  Cycle.detect_eq_nil fun _ _ _ => not_endless_survivors distinct

/-! ## What survivors are compiled to -/

/-- What rules are compiled to whose places begin behind a number of others. -/
def compiledFrom (cycles : List Cycle) (start : Nat) (rules : List Rule) :
    List DeclarativeRule :=
  (rules.zipIdx start).filterMap fun (rule, index) => compileAt? cycles rule index

theorem Rule.inUse_nil (enabled : rule.enabled = true) : Rule.inUse [] rule = true := by
  rw [inUse, enabled]
  rfl

theorem compileAt?_of_inUse {cycles : List Cycle} (in_use : Rule.inUse cycles rule = true)
    (index : Nat) :
    compileAt? cycles rule index = (numberAt? index).map (synthesize rule).emit :=
  if_pos in_use

theorem compileAt?_of_not_inUse {cycles : List Cycle} (unused : ¬Rule.inUse cycles rule = true)
    (index : Nat) : compileAt? cycles rule index = none :=
  if_neg unused

theorem compiledFrom_cons (cycles : List Cycle) (start : Nat) (rule : Rule) (rules : List Rule) :
    compiledFrom cycles start (rule :: rules) =
      (compileAt? cycles rule start).toList ++ compiledFrom cycles (start + 1) rules := by
  simp only [compiledFrom, List.zipIdx_cons, List.filterMap_cons]
  cases compileAt? cycles rule start <;> rfl

theorem exists_of_mem_compiledFrom {cycles : List Cycle} {start : Nat}
    {declarative : DeclarativeRule} (compiled : declarative ∈ compiledFrom cycles start rules) :
    ∃ rule ∈ rules, declarative = (synthesize rule).emit declarative.id := by
  obtain ⟨⟨rule, index⟩, placed, emitted⟩ := List.mem_filterMap.mp compiled
  exact ⟨rule, (List.mem_zipIdx_iff_le_and_getElem?_sub.mp placed).2 |> List.mem_of_getElem?,
    (compileAt?_eq_some_iff.mp emitted).2.2.2⟩

/-- Where numbers have run out, nothing is compiled any more. -/
theorem compiledFrom_eq_nil (cycles : List Cycle) {start : Nat} (spent : UInt32.size ≤ start + 1)
    (rules : List Rule) : compiledFrom cycles start rules = [] := by
  induction rules generalizing start with
  | nil => rfl
  | cons rule rules ih =>
      have unnumbered : numberAt? start = none := if_neg (Nat.not_lt.mpr spent)
      rw [compiledFrom_cons, ih (Nat.le_succ_of_le spent), compileAt?, unnumbered]
      split <;> rfl

/-- The declarative rule is made from one of the rules for whose place there is no number, the
places beginning behind a number of others. -/
def PastNumbers (start : Nat) (rules : List Rule) (declarative : DeclarativeRule) : Prop :=
  ∃ index rule, rules[index]? = some rule ∧ UInt32.size ≤ start + index + 1 ∧
    declarative = (synthesize rule).emit declarative.id

theorem PastNumbers.cons {start : Nat} {declarative : DeclarativeRule} (rule : Rule)
    (past : PastNumbers (start + 1) rules declarative) :
    PastNumbers start (rule :: rules) declarative := by
  obtain ⟨index, found, indexed, spent, emitted⟩ := past
  exact ⟨index + 1, found, indexed, by omega, emitted⟩

/-- The rules in use, compiled by themselves under earlier places, come out as they do among all
rules, under the numbers of these places; behind them there can only be rules for which there was no
number among all. -/
theorem compiledFrom_filter (cycles : List Cycle) (rules : List Rule) {start place : Nat}
    (earlier : place ≤ start) :
    ∃ late,
      compiledFrom [] place (rules.filter (Rule.inUse cycles)) =
        renumberedFrom place (compiledFrom cycles start rules) ++ late ∧
      ∀ declarative ∈ late, PastNumbers start rules declarative := by
  induction rules generalizing start place with
  | nil => exact ⟨[], rfl, by simp⟩
  | cons rule rules ih =>
      by_cases in_use : Rule.inUse cycles rule = true
      · by_cases numbered : start + 1 < UInt32.size
        · obtain ⟨late, compiled, past⟩ := ih (Nat.succ_le_succ earlier)
          refine ⟨late, ?_, fun declarative late_mem => (past declarative late_mem).cons rule⟩
          have place_numbered : place + 1 < UInt32.size := by omega
          have enabled : rule.enabled = true := (Bool.and_eq_true_iff.mp in_use).1
          rw [List.filter_cons_of_pos in_use, compiledFrom_cons, compiledFrom_cons, compiled,
            compileAt?_of_inUse in_use, numberAt?, if_pos numbered,
            compileAt?_of_inUse (Rule.inUse_nil enabled), numberAt?, if_pos place_numbered]
          rfl
        · -- No number is left for any of the rules, so among all rules none is compiled.
          refine ⟨_, by rw [compiledFrom_eq_nil cycles (by omega)]; rfl, ?_⟩
          intro declarative late_mem
          obtain ⟨found, found_mem, emitted⟩ := exists_of_mem_compiledFrom late_mem
          obtain ⟨index, indexed⟩ := List.getElem?_of_mem (List.mem_of_mem_filter found_mem)
          exact ⟨index, found, indexed, by omega, emitted⟩
      · obtain ⟨late, compiled, past⟩ := ih (Nat.le_succ_of_le earlier)
        refine ⟨late, ?_, fun declarative late_mem => (past declarative late_mem).cons rule⟩
        rw [List.filter_cons_of_neg in_use, compiledFrom_cons, compiled,
          compileAt?_of_not_inUse in_use]
        rfl

/-- Without the rules that cycles leave out there is nothing to leave out.  The survivors have no
cycle, and where numbers last they are compiled to what the whole list is compiled to, with the
numbers given anew.  If the whole list has more places than there are numbers, survivors can be
compiled behind that which had none. -/
theorem survivors_are_all_kept {rules : List Rule} (distinct : (rules.map (·.id)).Nodup) :
    Cycle.detect (Rule.survivors rules) = [] ∧
      Cycle.excluded (Cycle.detect (Rule.survivors rules)) = [] ∧
      (rules.length < UInt32.size →
        compile (Rule.survivors rules) true = renumberedFrom 0 (compile rules true)) ∧
      ∃ late,
        compile (Rule.survivors rules) true = renumberedFrom 0 (compile rules true) ++ late ∧
          ∀ declarative ∈ late, PastNumbers 0 rules declarative := by
  have no_cycle := detect_survivors distinct
  have compiled_eq : compile (Rule.survivors rules) true =
      compiledFrom [] 0 (rules.filter (Rule.inUse (Cycle.detect rules))) := by
    rw [compile_true, no_cycle]
    rfl
  obtain ⟨late, compiled, past⟩ :=
    compiledFrom_filter (Cycle.detect rules) rules (Nat.le_refl 0)
  have split : compile (Rule.survivors rules) true =
      renumberedFrom 0 (compile rules true) ++ late := compiled_eq.trans compiled
  refine ⟨no_cycle, by rw [no_cycle]; rfl, fun numbered => ?_, late, split, past⟩
  have none_late : late = [] := by
    rw [List.eq_nil_iff_forall_not_mem]
    intro declarative late_mem
    obtain ⟨index, rule, indexed, spent, -⟩ := past declarative late_mem
    have index_lt := (List.getElem?_eq_some_iff.mp indexed).1
    omega
  rw [split, none_late, List.append_nil]

/-- A cycle of two and a lead-in are dropped with a rule that is switched off; of two rules with one
source both survive. -/
theorem survivors_are_all_kept_shadowed :
    let circle : List Rule :=
      [{ source := "W", destination := "X", id := "w" },
        { source := "X", destination := "Y", id := "x" },
        { source := "Y", destination := "X", id := "y" }]
    let off : Rule := { source := "Z", destination := "S", enabled := false, id := "z" }
    let kept : List Rule :=
      [{ source := "S", destination := "T", id := "s" },
        { source := "S", destination := "Z", id := "t" }]
    let rules := circle ++ off :: kept
    (rules.map (·.id)).Nodup ∧ Rule.survivors rules = kept ∧ Cycle.detect kept = [] ∧
      (compile rules true).map (·.id) = [5, 6] ∧
        compile kept true = renumberedFrom 0 (compile rules true) := by
  intro circle off kept rules
  have distinct : (rules.map (·.id)).Nodup := by decide
  have survivors_eq : Rule.survivors rules = kept := by decide
  obtain ⟨no_cycle, -, renumbered, -⟩ := survivors_are_all_kept distinct
  rw [survivors_eq] at no_cycle renumbered
  exact ⟨distinct, survivors_eq, no_cycle, by decide, renumbered (by decide)⟩

end Redirects
