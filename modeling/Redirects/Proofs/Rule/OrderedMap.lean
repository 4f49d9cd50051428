import Mathlib.Logic.Function.Basic
import Redirects.Proofs.Rule.Editing
import Redirects.Proofs.Rule.Names

/-!
# Rules under their names

A list of rules under distinct names is a map from names to rules with an order of the names.  A
change of the first rule with a name and a removal of all rules with one then concern the same rule,
and what is done to the list is done to the map.  No operation gives a name twice, so this is how
the list stays, whatever is asked of it.
-/

namespace Redirects

/-- What can be asked of a list of rules. -/
inductive Operation where
  | add (draft : Draft)
  | update (rule : Rule)
  | remove (id : String)
  | toggle (id : String)
  /-- Adds the rules that a text writes. -/
  | extend (text : String)
deriving DecidableEq, Repr

/-- The name of the rule that an operation is for. -/
def Operation.target? : Operation → Option String
  | .update rule => some rule.id
  | .remove id | .toggle id => some id
  | .add _ | .extend _ => none

/-- Rules, and the names for new ones. -/
structure Register where
  rules : List Rule
  supply : NameSupply
deriving DecidableEq, Repr

namespace Register

/-- What an operation makes of the rules. -/
def apply (register : Register) : Operation → Except Error Register
  | .add draft =>
      .ok ⟨(Rule.add register.rules draft register.supply.next.1).1, register.supply.next.2⟩
  | .update rule => (Rule.update register.rules rule).map ({ register with rules := · })
  | .remove id => (Rule.remove register.rules id).map ({ register with rules := · })
  | .toggle id => (Rule.toggle register.rules id).map ({ register with rules := · })
  | .extend text => (importRules text register.supply).map fun (imported, left) =>
      ⟨register.rules ++ imported, left⟩

/-- An operation that fails leaves the rules as they are. -/
def step (register : Register) (operation : Operation) : Register :=
  (register.apply operation).toOption.getD register

/-- The rules after operations, one after another. -/
def run (register : Register) (operations : List Operation) : Register :=
  operations.foldl step register

/-- The names of the rules and those that are still to be given are distinct. -/
def Keyed (register : Register) : Prop :=
  ∀ count, (Rule.names register.rules ++ register.supply.upcoming count).Nodup

end Register

/-! ## Maps from names to rules -/

/-- Names in an order, and what was last written under each. -/
structure RuleMap where
  names : List String
  rule? : String → Option Rule
  supply : NameSupply

namespace RuleMap

/-- Writes rules under new names. -/
def append (map : RuleMap) (rules : List Rule) (left : NameSupply) : RuleMap where
  names := map.names ++ Rule.names rules
  rule? id := (Rule.find? rules id).or (map.rule? id)
  supply := left

/-- Writes a rule under its name. -/
def put (map : RuleMap) (rule : Rule) : RuleMap :=
  { map with rule? := Function.update map.rule? rule.id (some rule) }

/-- Takes a name out. -/
def erase (map : RuleMap) (id : String) : RuleMap :=
  { map with names := map.names.erase id, rule? := Function.update map.rule? id none }

/-- What is done with the rule under a name, if there is one. -/
def withRule (map : RuleMap) (id : String) (edit : Rule → RuleMap) : Except Error RuleMap :=
  match map.rule? id with
  | none => .error (.unknownRule id)
  | some rule => .ok (edit rule)

/-- What an operation makes of the map. -/
def apply (map : RuleMap) : Operation → Except Error RuleMap
  | .add draft => .ok (map.append [draft.named map.supply.next.1] map.supply.next.2)
  | .update rule => map.withRule rule.id fun _ => map.put rule
  | .remove id => map.withRule id fun _ => map.erase id
  | .toggle id => map.withRule id fun rule => map.put { rule with enabled := !rule.enabled }
  | .extend text =>
      (importRules text map.supply).map fun (imported, left) => map.append imported left

/-- The map after operations, one after another; one that fails leaves it as it is. -/
def run (map : RuleMap) (operations : List Operation) : RuleMap :=
  operations.foldl (fun map operation => (map.apply operation).toOption.getD map) map

end RuleMap

/-- The map that a list of rules stands for. -/
def Register.toMap (register : Register) : RuleMap where
  names := Rule.names register.rules
  rule? := Rule.find? register.rules
  supply := register.supply

namespace NameSupply

theorem upcoming_add (supply : NameSupply) (count more : Nat) :
    supply.upcoming (count + more) =
      supply.upcoming count ++ (NameSupply.mk (supply.given + count)).upcoming more := by
  simp only [upcoming, ← List.map_append]
  rw [Nat.add_right_comm, List.range'_append_1]

end NameSupply

/-! ## Finding a rule -/

namespace Rule

variable {rules front back added : List Rule} {rule : Rule} {id : String}

theorem find?_eq_none_iff : find? rules id = none ↔ id ∉ names rules := by
  simp [find?, names, List.find?_eq_none]

theorem find?_split (alone : ∀ other ∈ front, other.id ≠ rule.id) :
    find? (front ++ rule :: back) rule.id = some rule := by
  have not_before : front.find? (·.id = rule.id) = none := by
    simpa [List.find?_eq_none] using alone
  rw [find?, List.find?_append, not_before, Option.none_or, List.find?_cons_of_pos (by simp)]

theorem find?_split_of_ne (differs : rule.id ≠ id) :
    find? (front ++ rule :: back) id = find? (front ++ back) id := by
  rw [find?, find?, List.find?_append, List.find?_append,
    List.find?_cons_of_neg (by simpa using differs)]

/-- Another rule in the place of one with its name is what is found under the name. -/
theorem find?_replaced {replacement : Rule} (alone : ∀ other ∈ front, other.id ≠ rule.id)
    (same : replacement.id = rule.id) :
    find? (front ++ replacement :: back) =
      Function.update (find? (front ++ rule :: back)) replacement.id (some replacement) := by
  funext id
  by_cases found : id = replacement.id
  · subst found
    rw [Function.update_self]
    exact find?_split (same ▸ alone)
  · rw [Function.update_of_ne found, find?_split_of_ne (Ne.symm found),
      find?_split_of_ne (same ▸ Ne.symm found)]

theorem find?_removed (alone : ∀ other ∈ front ++ back, other.id ≠ rule.id) :
    find? (front ++ back) = Function.update (find? (front ++ rule :: back)) rule.id none := by
  funext id
  by_cases found : id = rule.id
  · subst found
    rw [Function.update_self, find?_eq_none_iff]
    simpa [names, or_imp, forall_and] using alone
  · rw [Function.update_of_ne found, find?_split_of_ne (Ne.symm found)]

/-- Rules under new names can be looked at first or last. -/
theorem find?_append (new : (names rules).Disjoint (names added)) :
    find? (rules ++ added) = fun id => (find? added id).or (find? rules id) := by
  funext id
  rw [find?, List.find?_append, ← find?, ← find?]
  by_cases listed : id ∈ names rules
  · rw [find?_eq_none_iff.mpr (new listed), Option.none_or, Option.or_none]
  · rw [find?_eq_none_iff.mpr listed, Option.none_or, Option.or_none]

theorem names_removed (alone : ∀ other ∈ front ++ back, other.id ≠ rule.id) :
    names (front ++ back) = (names (front ++ rule :: back)).erase rule.id := by
  have not_before : rule.id ∉ front.map (·.id) := by
    rintro listed
    obtain ⟨other, other_mem, same⟩ := List.mem_map.mp listed
    exact alone other (List.mem_append_left _ other_mem) same
  rw [names, names, List.map_append, List.map_append, List.map_cons,
    List.erase_append_right _ not_before, List.erase_cons_head]

/-- A list of rules under distinct names is read off its map. -/
theorem filterMap_find? (distinct : (names rules).Nodup) :
    (names rules).filterMap (find? rules) = rules := by
  have each : ∀ rule ∈ rules, (find? rules ∘ (·.id)) rule = some rule := by
    intro rule rule_mem
    obtain ⟨front, back, rfl, alone⟩ := exists_split distinct rule_mem
    exact find?_split fun other other_mem => alone other (List.mem_append_left _ other_mem)
  rw [names, List.filterMap_map, List.filterMap_congr each, List.filterMap_some]

theorem change_of_absent {edit : Rule → Rule} (absent : id ∉ names rules) :
    change id edit rules = .error (.unknownRule id) := by
  induction rules with
  | nil => rfl
  | cons rule rules ih =>
      simp only [names, List.map_cons, List.mem_cons, not_or] at absent
      rw [change, if_neg (Ne.symm absent.1), ih absent.2]
      rfl

theorem remove_of_absent (absent : id ∉ names rules) :
    remove rules id = .error (.unknownRule id) := by
  have all_kept : rules.filter (·.id ≠ id) = rules := by
    rw [List.filter_eq_self]
    intro rule rule_mem
    exact decide_eq_true fun same => absent (List.mem_map.mpr ⟨rule, rule_mem, same⟩)
  rw [remove, all_kept]
  exact if_pos rfl

end Rule

namespace Register

variable {register after : Register} {operation : Operation} {front back : List Rule} {rule : Rule}

/-! ## Names stay distinct -/

theorem keyed_of_wellNamed {rules : List Rule} {supply : NameSupply}
    (well_named : WellNamed rules supply) : Keyed ⟨rules, supply⟩ :=
  fun count => List.Nodup.append well_named.distinct (supply.nodup_upcoming count)
    fun name listed upcoming =>
      NameSupply.not_gave_of_mem_upcoming upcoming (well_named.given name listed)

theorem Keyed.distinct (keyed : register.Keyed) : (Rule.names register.rules).Nodup :=
  (keyed 0).of_append_left

theorem Keyed.new (keyed : register.Keyed) (count : Nat) :
    (Rule.names register.rules).Disjoint (register.supply.upcoming count) :=
  List.disjoint_of_nodup_append (keyed count)

theorem edits_of_apply (applied : register.apply operation = .ok after) :
    Edits register.rules register.supply after.rules after.supply := by
  cases operation with
  | add draft =>
      cases applied
      exact edits_add register.rules draft register.supply
  | update rule =>
      obtain ⟨rules, updated, rfl⟩ := exists_of_map_ok applied
      exact edits_update updated
  | remove id =>
      obtain ⟨rules, removed, rfl⟩ := exists_of_map_ok applied
      exact edits_remove removed
  | toggle id =>
      obtain ⟨rules, toggled, rfl⟩ := exists_of_map_ok applied
      exact edits_toggle toggled
  | extend text =>
      obtain ⟨⟨imported, left⟩, read, rfl⟩ := exists_of_map_ok applied
      exact edits_import register.rules read

/-- The names of the rules and those to come are kept in order, or left out. -/
theorem Keyed.after_apply (keyed : register.Keyed)
    (applied : register.apply operation = .ok after) : after.Keyed := by
  obtain ⟨count, left_eq, kept⟩ := edits_of_apply applied
  intro more
  have all_distinct := keyed (count + more)
  rw [NameSupply.upcoming_add, ← left_eq, ← List.append_assoc] at all_distinct
  exact (kept.append_right _).nodup all_distinct

theorem Keyed.after_step (keyed : register.Keyed) (operation : Operation) :
    (register.step operation).Keyed := by
  rw [Register.step]
  cases applied : register.apply operation with
  | error error => exact keyed
  | ok after => exact keyed.after_apply applied

theorem Keyed.after_run (keyed : register.Keyed) (operations : List Operation) :
    (register.run operations).Keyed := by
  induction operations generalizing register with
  | nil => exact keyed
  | cons operation operations ih => exact ih (keyed.after_step operation)

/-! ## What is asked of one rule -/

/-- A rule stands between others that do not have its name, and what is asked of the name is done
at its place. -/
structure Place (register : Register) (front : List Rule) (rule : Rule) (back : List Rule) :
    Prop where
  rules_eq : register.rules = front ++ rule :: back
  alone : ∀ other ∈ front ++ back, other.id ≠ rule.id
  update : ∀ replacement : Rule, replacement.id = rule.id →
    register.apply (.update replacement) =
      .ok { register with rules := front ++ replacement :: back }
  toggle : register.apply (.toggle rule.id) =
    .ok { register with rules := front ++ { rule with enabled := !rule.enabled } :: back }
  toggle_twice : register.run [.toggle rule.id, .toggle rule.id] = register
  remove : register.apply (.remove rule.id) = .ok { register with rules := front ++ back }

theorem apply_toggle (rule : Rule) (rules_eq : register.rules = front ++ rule :: back)
    (alone : ∀ other ∈ front, other.id ≠ rule.id) :
    register.apply (.toggle rule.id) =
      .ok { register with rules := front ++ { rule with enabled := !rule.enabled } :: back } := by
  rw [apply, Rule.toggle, rules_eq, Rule.change_split _ alone]
  rfl

theorem place_of_split (rules_eq : register.rules = front ++ rule :: back)
    (alone : ∀ other ∈ front ++ back, other.id ≠ rule.id) : register.Place front rule back := by
  have before : ∀ other ∈ front, other.id ≠ rule.id :=
    fun other other_mem => alone other (List.mem_append_left _ other_mem)
  have toggled := apply_toggle rule rules_eq before
  refine ⟨rules_eq, alone, fun replacement same => ?_, toggled, ?_, ?_⟩
  · rw [apply, Rule.update, rules_eq, same, Rule.change_split _ before]
    rfl
  · have again : apply { register with
          rules := front ++ { rule with enabled := !rule.enabled } :: back } (.toggle rule.id) =
        .ok { register with rules := front ++ { rule with enabled := !!rule.enabled } :: back } :=
      apply_toggle { rule with enabled := !rule.enabled } rfl before
    simp only [run, List.foldl_cons, List.foldl_nil, step, toggled, again, Except.toOption,
      Option.getD_some, Bool.not_not]
    cases register
    cases rules_eq
    rfl
  · rw [apply, rules_eq, Rule.remove_split alone]
    rfl

theorem Keyed.exists_place (keyed : register.Keyed) (rule_mem : rule ∈ register.rules) :
    ∃ front back, register.Place front rule back := by
  obtain ⟨front, back, rules_eq, alone⟩ := Rule.exists_split keyed.distinct rule_mem
  exact ⟨front, back, place_of_split rules_eq alone⟩

theorem apply_of_absent {id : String} (absent : id ∉ Rule.names register.rules)
    (aimed : operation.target? = some id) :
    register.apply operation = .error (.unknownRule id) := by
  cases operation with
  | add => cases aimed
  | extend => cases aimed
  | update rule =>
      cases aimed
      rw [apply, Rule.update, Rule.change_of_absent absent]
      rfl
  | remove =>
      cases aimed
      rw [apply, Rule.remove_of_absent absent]
      rfl
  | toggle =>
      cases aimed
      rw [apply, Rule.toggle, Rule.change_of_absent absent]
      rfl

/-! ## What is done to the map -/

theorem Place.rule?_eq (place : register.Place front rule back) :
    register.toMap.rule? rule.id = some rule := by
  rw [toMap, place.rules_eq]
  exact Rule.find?_split fun other other_mem => place.alone other (List.mem_append_left _ other_mem)

theorem Place.toMap_put (place : register.Place front rule back) {replacement : Rule}
    (same : replacement.id = rule.id) :
    toMap { register with rules := front ++ replacement :: back } =
      register.toMap.put replacement := by
  have names_eq : Rule.names (front ++ replacement :: back) = Rule.names register.rules := by
    simp [Rule.names, place.rules_eq, same]
  have found : Rule.find? (front ++ replacement :: back) = Function.update
      (Rule.find? (front ++ rule :: back)) replacement.id (some replacement) :=
    Rule.find?_replaced
      (fun other other_mem => place.alone other (List.mem_append_left _ other_mem)) same
  rw [RuleMap.put, toMap, names_eq, found, ← place.rules_eq, toMap]

theorem Place.toMap_erase (place : register.Place front rule back) :
    toMap { register with rules := front ++ back } = register.toMap.erase rule.id := by
  rw [RuleMap.erase, toMap, Rule.names_removed place.alone, Rule.find?_removed place.alone,
    ← place.rules_eq, toMap]

theorem toMap_append {added : List Rule} {left : NameSupply}
    (new : (Rule.names register.rules).Disjoint (Rule.names added)) :
    toMap ⟨register.rules ++ added, left⟩ = register.toMap.append added left := by
  rw [RuleMap.append, toMap, Rule.find?_append new, toMap]
  simp only [Rule.names, List.map_append]

theorem Place.withRule (place : register.Place front rule back) (edit : Rule → RuleMap) :
    register.toMap.withRule rule.id edit = .ok (edit rule) := by
  rw [RuleMap.withRule, place.rule?_eq]

theorem withRule_of_absent {id : String} (absent : id ∉ Rule.names register.rules)
    (edit : Rule → RuleMap) : register.toMap.withRule id edit = .error (.unknownRule id) := by
  have missing : register.toMap.rule? id = none := Rule.find?_eq_none_iff.mpr absent
  rw [RuleMap.withRule, missing]

/-- A name under which there is no rule, or the place of the rule. -/
theorem Keyed.absent_or_place (keyed : register.Keyed) (id : String) :
    id ∉ Rule.names register.rules ∨
      ∃ front rule back, register.Place front rule back ∧ rule.id = id := by
  by_cases listed : id ∈ Rule.names register.rules
  · obtain ⟨rule, rule_mem, same⟩ := List.mem_map.mp listed
    obtain ⟨front, back, place⟩ := keyed.exists_place rule_mem
    exact .inr ⟨front, rule, back, place, same⟩
  · exact .inl listed

/-- What an operation makes of rules it makes of their map. -/
theorem Keyed.toMap_apply (keyed : register.Keyed) (operation : Operation) :
    (register.apply operation).map toMap = register.toMap.apply operation := by
  cases operation with
  | add draft =>
      have new : (Rule.names register.rules).Disjoint
          (Rule.names [draft.named register.supply.next.1]) := keyed.new 1
      exact congrArg Except.ok (toMap_append new)
  | update rule =>
      obtain absent | ⟨front, old, back, place, same⟩ := keyed.absent_or_place rule.id
      · rw [apply_of_absent absent rfl, RuleMap.apply, withRule_of_absent absent]
        rfl
      · rw [place.update rule same.symm, RuleMap.apply, ← same, place.withRule,
          ← place.toMap_put same.symm]
        rfl
  | remove id =>
      obtain absent | ⟨front, rule, back, place, rfl⟩ := keyed.absent_or_place id
      · rw [apply_of_absent absent rfl, RuleMap.apply, withRule_of_absent absent]
        rfl
      · rw [place.remove, RuleMap.apply, place.withRule, ← place.toMap_erase]
        rfl
  | toggle id =>
      obtain absent | ⟨front, rule, back, place, rfl⟩ := keyed.absent_or_place id
      · rw [apply_of_absent absent rfl, RuleMap.apply, withRule_of_absent absent]
        rfl
      · rw [place.toggle, RuleMap.apply, place.withRule]
        exact congrArg Except.ok (place.toMap_put rfl)
  | extend text =>
      rw [apply, RuleMap.apply]
      change _ = (importRules text register.supply).map _
      cases read : importRules text register.supply with
      | error error => rfl
      | ok found =>
          obtain ⟨imported, left⟩ := found
          obtain ⟨count, -, names_eq⟩ := importRules_eq_ok read
          exact congrArg Except.ok (toMap_append (names_eq ▸ keyed.new count))

theorem Keyed.toMap_run (keyed : register.Keyed) (operations : List Operation) :
    (register.run operations).toMap = register.toMap.run operations := by
  induction operations generalizing register with
  | nil => rfl
  | cons operation operations ih =>
      have stepped : (register.step operation).toMap =
          (register.toMap.apply operation).toOption.getD register.toMap := by
        rw [step, ← keyed.toMap_apply operation]
        cases register.apply operation <;> rfl
      rw [run, List.foldl_cons, ← run, ih (keyed.after_step operation), stepped]
      rfl

/-- Rules that are not asked for by name are put behind the others. -/
theorem appends_of_apply (untargeted : operation.target? = none)
    (applied : register.apply operation = .ok after) :
    ∃ added count, after = ⟨register.rules ++ added, ⟨register.supply.given + count⟩⟩ ∧
      Rule.names added = register.supply.upcoming count := by
  cases operation with
  | add draft =>
      cases applied
      exact ⟨[draft.named register.supply.next.1], 1, rfl, rfl⟩
  | extend text =>
      obtain ⟨⟨imported, left⟩, read, rfl⟩ := exists_of_map_ok applied
      obtain ⟨count, rfl, names_eq⟩ := importRules_eq_ok read
      exact ⟨imported, count, rfl, names_eq⟩
  | _ => cases untargeted

/-- From rules under distinct names, none of which the supply will give, names stay distinct
whatever is asked for, and the rules are the ordered map of what was last written under each name.
What is asked of a name that no rule has fails, and changes nothing; of a name that a rule has it is
done to that rule alone, at its place.  Everything else puts rules behind the others, under new
names. -/
theorem rules_are_ordered_map {register : Register} (keyed : register.Keyed)
    (operations : List Operation) :
    let reached := register.run operations
    (reached.Keyed ∧ (Rule.names reached.rules).Nodup) ∧
      (reached.toMap = register.toMap.run operations ∧
        reached.rules = reached.toMap.names.filterMap (Rule.find? reached.rules)) ∧
      (∀ id ∉ Rule.names reached.rules, ∀ operation : Operation, operation.target? = some id →
        reached.apply operation = .error (.unknownRule id) ∧ reached.step operation = reached) ∧
      (∀ rule ∈ reached.rules, ∃ front back, reached.Place front rule back) ∧
      (∀ draft, (reached.apply (.add draft)).map (·.rules) =
        .ok (reached.rules ++ [draft.named reached.supply.next.1])) ∧
      ∀ operation : Operation, operation.target? = none →
        ∀ after, reached.apply operation = .ok after →
          ∃ added count, after = ⟨reached.rules ++ added, ⟨reached.supply.given + count⟩⟩ ∧
            Rule.names added = reached.supply.upcoming count := by
  intro reached
  have still_keyed : reached.Keyed := keyed.after_run operations
  refine ⟨⟨still_keyed, still_keyed.distinct⟩,
    ⟨keyed.toMap_run operations, (Rule.filterMap_find? still_keyed.distinct).symm⟩,
    fun id absent operation aimed => ?_, fun rule => still_keyed.exists_place,
    fun draft => rfl, fun operation untargeted after => appends_of_apply untargeted⟩
  have failed := apply_of_absent absent aimed
  exact ⟨failed, by rw [step, failed]; rfl⟩

/-- One of two rules is replaced and then switched off, the other is removed, and one is added. -/
theorem rules_are_ordered_map_of_two :
    let removed : Rule := { source := "a", destination := "b", id := "#2" }
    let changed : Rule := { source := "b", destination := "c", id := "#1" }
    let register : Register := ⟨[removed, changed], ⟨2⟩⟩
    let reached := register.run [.update { changed with destination := "x" }, .remove "#2",
      .add { source := "c", destination := "d" }, .toggle "#1"]
    let left : Rule := { source := "b", destination := "x", enabled := false, id := "#1" }
    register.Keyed ∧ Rule.names reached.rules = ["#1", "#3"] ∧
      Rule.find? reached.rules "#1" = some left ∧
      reached.apply (.toggle "#2") = .error (.unknownRule "#2") ∧
      ∃ front back, reached.Place front left back := by
  intro removed changed register reached left
  have keyed : register.Keyed := by
    refine keyed_of_wellNamed ⟨by decide, ?_⟩
    exact List.forall_mem_cons.mpr
      ⟨⟨2, by decide, rfl⟩, List.forall_mem_singleton.mpr ⟨1, by decide, rfl⟩⟩
  have names_eq : Rule.names reached.rules = ["#1", "#3"] := by decide +kernel
  have found : Rule.find? reached.rules "#1" = some left := by decide +kernel
  obtain ⟨-, -, absent, placed, -⟩ := rules_are_ordered_map keyed _
  exact ⟨keyed, names_eq, found, (absent "#2" (by rw [names_eq]; decide) (.toggle "#2") rfl).1,
    placed left (List.mem_of_find?_eq_some found)⟩

end Register

end Redirects
