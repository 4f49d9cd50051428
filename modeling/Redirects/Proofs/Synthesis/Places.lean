import Redirects.Proofs.Synthesis.PathCapture

/-!
# Destinations as templates

A pattern rule takes its destination for a template where a place is found in it, and for a plain
text elsewhere.  Main statement: this is the right choice for every match, since filling and finding
places agree (`places_found_are_filled`).
-/

namespace Redirects

open Regex

variable {destination : String}

/-- A destination with a place is the template as it is. -/
theorem target_of_hasPlace (source : String)
    (placed : Template.hasPlace destination.toList = true) :
    (synthesizeRegex source destination).target = .substitution destination := by
  have uncaptured : pathCapture? source destination = none := by
    rw [pathCapture?, if_pos placed]
  rw [target_synthesizeRegex, baseSynthesis, uncaptured]
  exact if_pos placed

/-- A destination without a place is the address, or stands in front of the captured path. -/
theorem target_of_placeless (source : String)
    (placeless : Template.hasPlace destination.toList = false) :
    (synthesizeRegex source destination).target = .url destination ∨
      (synthesizeRegex source destination).target =
        .substitution (String.ofList (withSlash destination ++ ['\\', '1'])) := by
  rw [target_synthesizeRegex, baseSynthesis]
  cases captured : pathCapture? source destination with
  | none => exact .inl (if_neg (by simp [placeless]))
  | some _ =>
      obtain ⟨-, stem, -, -, -, rfl⟩ := pathCapture?_eq_some_iff.mp captured
      exact .inr rfl

/-- Finding places and filling them agree.  A template is filled with the groups of a match, in
place of what was matched.  For every match and whatever the text around a place, a run of
backslashes in front of it included, a place is filled with what its group matched, or nothing, and
the text on either side as if it stood alone.  Places are found exactly where a backslash has a
digit behind it, and a text without one is filled to itself, as no other text is for all matches.
So pattern rules do right to take a destination with a place, and no other, for a template: any
other is the address, or stands unchanged in front of a captured path. -/
theorem places_found_are_filled :
    (∀ (text : Array Char) (found : Match) (template : String),
      substitute text found template =
        String.ofList (text.toList.take found.start ++
          Template.fill (found.group text.toList) template.toList ++
            text.toList.drop found.stop)) ∧
      (∀ (found : Match) (text front back : List Char) (digit : Char), digit.isDigit = true →
        Template.fill (found.group text) (front ++ '\\' :: digit :: back) =
          Template.fill (found.group text) front ++
            (found.spans[digit.toNat - '0'.toNat]?.join.elim [] fun (start, stop) =>
              (text.take stop).drop start) ++
            Template.fill (found.group text) back) ∧
      (∀ template, Template.hasPlace template = true ↔
        ∃ front digit back, digit.isDigit = true ∧ template = front ++ '\\' :: digit :: back) ∧
      (∀ template, Template.hasPlace template = false ↔
        ∀ (found : Match) (text : List Char),
          Template.fill (found.group text) template = template) ∧
      ∀ source destination : String,
        (Template.hasPlace destination.toList = true →
          (synthesizeRegex source destination).target = .substitution destination) ∧
        (Template.hasPlace destination.toList = false →
          (synthesizeRegex source destination).target = .url destination ∨
            (synthesizeRegex source destination).target =
                .substitution (String.ofList (withSlash destination ++ ['\\', '1'])) ∧
              ∀ (found : Match) (text : List Char),
                Template.fill (found.group text) (withSlash destination ++ ['\\', '1']) =
                  withSlash destination ++ found.group text 1) := by
  refine ⟨substitute_eq, fun found text front back digit is_digit => ?_,
    fun _ => Template.hasPlace_iff,
    fun template => ⟨fun placeless found text => Template.fill_of_placeless _ placeless, ?_⟩,
    fun source destination => ⟨target_of_hasPlace source, fun placeless => ?_⟩⟩
  · have group_eq (number : Nat) : found.group text number =
        found.spans[number]?.join.elim [] fun (start, stop) => (text.take stop).drop start := by
      rw [Match.group]
      cases found.spans[number]?.join <;> rfl
    rw [Template.fill_append_place _ front back is_digit, group_eq]
  · intro unchanged
    refine Bool.eq_false_iff.mpr fun placed => Template.fill_ne_of_hasPlace placed ?_
    rw [← group_matchOf_nothing []]
    exact unchanged _ _
  · exact (target_of_placeless source placeless).imp_right fun target_eq =>
      ⟨target_eq, fun found text => fill_captured _ placeless⟩

/-- Of two backslashes and two digits, the inner two are a place. -/
theorem places_found_are_filled_behind_backslash :
    let found : Match := ⟨0, 2, [some (0, 2), some (1, 2), none]⟩
    Template.fill (found.group ['a', 'b']) ['\\', '\\', '1', '0'] = ['\\', 'b', '0'] ∧
      Template.fill (found.group ['a', 'b']) ['\\', '2', '\\', '3', '\\'] = ['\\'] := by
  intro found
  obtain ⟨-, filled, -⟩ := places_found_are_filled
  constructor
  · exact (filled found ['a', 'b'] ['\\'] ['0'] '1' (by decide)).trans (by decide)
  · exact (filled found ['a', 'b'] [] ['\\', '3', '\\'] '2' (by decide)).trans (by decide)

end Redirects
