import Mathlib.Data.List.Basic
import Mathlib.Data.List.Nodup
import Redirects.Rule.Listing
import Redirects.Rule.Transfer
import Redirects.Store.State

/-!
# The names of edited rules

An edit keeps names of rules in their order and puts new ones, taken from the supply, behind them.
So names stay distinct, and none that is still to be given is in use.
-/

namespace Redirects

theorem exists_of_map_ok {ε α β : Type} {result : Except ε α} {build : α → β} {value : β}
    (mapped : result.map build = .ok value) : ∃ found, result = .ok found ∧ value = build found := by
  cases result with
  | error error => cases mapped
  | ok found => exact ⟨found, rfl, (Except.ok.inj mapped).symm⟩

/-- The names of rules, in their order. -/
def Rule.names (rules : List Rule) : List String := rules.map (·.id)

namespace NameSupply

theorem name_injective : Function.Injective name := by
  intro number other same
  have texts : (toString number).toList = (toString other).toList := by
    simpa [name, String.toList_append] using congrArg String.toList same
  have digits : Nat.toDigits 10 number = Nat.toDigits 10 other := by
    simpa [Nat.toString_eq_ofList_toDigits] using texts
  rw [← Nat.ofDigitChars_ten_toDigits (n := number), digits, Nat.ofDigitChars_ten_toDigits]

/-- The next names of the supply. -/
def upcoming (supply : NameSupply) (count : Nat) : List String :=
  (List.range' (supply.given + 1) count).map name

/-- The supply has given the name. -/
def Gave (supply : NameSupply) (name : String) : Prop :=
  ∃ number ≤ supply.given, name = NameSupply.name number

theorem nodup_upcoming (supply : NameSupply) (count : Nat) : (supply.upcoming count).Nodup :=
  List.Nodup.map name_injective List.nodup_range'

theorem not_gave_of_mem_upcoming {supply : NameSupply} {count : Nat} {name : String}
    (listed : name ∈ supply.upcoming count) : ¬supply.Gave name := by
  obtain ⟨number, in_range, rfl⟩ := List.mem_map.mp listed
  rintro ⟨other, other_le, same⟩
  have number_eq := name_injective same
  have number_ge := (List.mem_range'_1.mp in_range).1
  omega

theorem gave_of_mem_upcoming {supply : NameSupply} {count : Nat} {name : String}
    (listed : name ∈ supply.upcoming count) : (NameSupply.mk (supply.given + count)).Gave name := by
  obtain ⟨number, in_range, rfl⟩ := List.mem_map.mp listed
  have number_lt := (List.mem_range'_1.mp in_range).2
  exact ⟨number, by dsimp only; omega, rfl⟩

end NameSupply

/-- An edit keeps some names in their order, and puts new ones behind them. -/
def Edits (before : List Rule) (supply : NameSupply) (after : List Rule) (left : NameSupply) :
    Prop :=
  ∃ count, left = ⟨supply.given + count⟩ ∧
    (Rule.names after).Sublist (Rule.names before ++ supply.upcoming count)

/-- The names of rules are distinct, and the supply gave them. -/
structure WellNamed (rules : List Rule) (supply : NameSupply) : Prop where
  distinct : (Rule.names rules).Nodup
  given : ∀ name ∈ Rule.names rules, supply.Gave name

theorem WellNamed.edits {before after : List Rule} {supply left : NameSupply}
    (well_named : WellNamed before supply) (edits : Edits before supply after left) :
    WellNamed after left := by
  obtain ⟨count, rfl, kept⟩ := edits
  have disjoint : (Rule.names before).Disjoint (supply.upcoming count) :=
    fun name listed upcoming => NameSupply.not_gave_of_mem_upcoming upcoming (well_named.given name listed)
  refine ⟨kept.nodup (List.Nodup.append well_named.distinct (supply.nodup_upcoming count) disjoint),
    fun name listed => ?_⟩
  rcases List.mem_append.mp (kept.subset listed) with old | new
  · obtain ⟨number, number_le, rfl⟩ := well_named.given name old
    exact ⟨number, Nat.le_add_right_of_le number_le, rfl⟩
  · exact NameSupply.gave_of_mem_upcoming new

section Edits

variable {rules after : List Rule} {supply left : NameSupply}

theorem edits_of_sublist (kept : (Rule.names after).Sublist (Rule.names rules)) :
    Edits rules supply after supply :=
  ⟨0, rfl, by simpa [NameSupply.upcoming] using kept⟩

theorem edits_of_names_eq (same : Rule.names after = Rule.names rules) :
    Edits rules supply after supply :=
  edits_of_sublist (same ▸ List.Sublist.refl _)

theorem edits_add (rules : List Rule) (draft : Draft) (supply : NameSupply) :
    Edits rules supply (Rule.add rules draft supply.next.1).1 supply.next.2 :=
  ⟨1, rfl, by simp [Rule.add, Rule.names, NameSupply.upcoming, NameSupply.next, Draft.named]⟩

theorem names_change {id : String} {edit : Rule → Rule}
    (keeps : ∀ rule, rule.id = id → (edit rule).id = id)
    (changed : Rule.change id edit rules = .ok after) : Rule.names after = Rule.names rules := by
  induction rules generalizing after with
  | nil => simp [Rule.change] at changed
  | cons rule rules ih =>
      rw [Rule.change] at changed
      split at changed
      · next found =>
          cases changed
          simp [Rule.names, keeps rule found, found]
      · cases rest : Rule.change id edit rules with
        | error error => simp [rest, Except.map] at changed
        | ok others =>
            simp only [rest, Except.map, Except.ok.injEq] at changed
            rw [← changed, Rule.names, List.map_cons, ← Rule.names, ih rest]
            rfl

theorem edits_toggle {id : String} (toggled : Rule.toggle rules id = .ok after) :
    Edits rules supply after supply := by
  refine edits_of_names_eq (names_change ?_ toggled)
  exact fun _ found => found

theorem edits_update {rule : Rule} (updated : Rule.update rules rule = .ok after) :
    Edits rules supply after supply := by
  refine edits_of_names_eq (names_change ?_ updated)
  exact fun _ _ => rfl

theorem edits_remove {id : String} (removed : Rule.remove rules id = .ok after) :
    Edits rules supply after supply := by
  simp only [Rule.remove] at removed
  split at removed
  · contradiction
  · cases removed
    exact edits_of_sublist (List.filter_sublist.map _)

theorem importEntries_eq_ok {number : Nat} {entries : List Json} {imported : List Rule}
    (read : importEntries number supply entries = .ok (imported, left)) :
    ∃ count, left = ⟨supply.given + count⟩ ∧ Rule.names imported = supply.upcoming count := by
  induction entries generalizing number supply imported with
  | nil =>
      cases read
      exact ⟨0, rfl, rfl⟩
  | cons entry entries ih =>
      rw [importEntries] at read
      split at read
      · contradiction
      · next draft _ =>
          cases rest : importEntries (number + 1) supply.next.2 entries with
          | error error => simp [rest, bind, Except.bind] at read
          | ok found =>
              simp only [rest, bind, Except.bind, pure, Except.pure, Except.ok.injEq,
                Prod.mk.injEq] at read
              obtain ⟨rfl, rfl⟩ := read
              obtain ⟨count, left_eq, names_eq⟩ := ih rest
              refine ⟨count + 1, ?_, ?_⟩
              · rw [left_eq, NameSupply.next, Nat.add_right_comm, Nat.add_assoc]
              · rw [Rule.names, List.map_cons, ← Rule.names, names_eq]
                simp [NameSupply.upcoming, NameSupply.next, Draft.named, List.range'_succ]

theorem importRules_eq_ok {text : String} {imported : List Rule}
    (read : importRules text supply = .ok (imported, left)) :
    ∃ count, left = ⟨supply.given + count⟩ ∧ Rule.names imported = supply.upcoming count := by
  rw [importRules] at read
  split at read
  · contradiction
  · split at read
    · contradiction
    · split at read
      · exact importEntries_eq_ok read
      · contradiction

theorem edits_import {text : String} {imported : List Rule} (rules : List Rule)
    (read : importRules text supply = .ok (imported, left)) :
    Edits rules supply (rules ++ imported) left := by
  obtain ⟨count, rfl, names_eq⟩ := importRules_eq_ok read
  refine ⟨count, rfl, ?_⟩
  rw [← names_eq, Rule.names, Rule.names, Rule.names, List.map_append]

end Edits

end Redirects
