import Redirects.Proofs.Regex.GuardedTail
import Redirects.Proofs.Simulation.Filling
import Redirects.Proofs.Synthesis.Acceptance
import Redirects.Synthesis

/-!
# Keeping the rest of a path

When a source ends in a wildcard, what stands before it is the prefix of a filter that captures the
rest of the path, and the destination becomes a template that puts the first group behind it.  Main
statement: what such a rule redirects an address to (`simulate_captured`).
-/

namespace Redirects

open Regex

/-! ## Templates -/

/-- The text has a slash at its end. -/
theorem endsWith_slash_iff (text : String) : text.endsWith "/" = true ↔ ['/'] <:+ text.toList := by
  rw [String.endsWith_eq_endsWith_toSlice, String.Slice.endsWith_string_iff]
  simp

/-- The address with a slash at its end. -/
def withSlash (url : String) : List Char :=
  if ['/'] <:+ url.toList then url.toList else url.toList ++ ['/']

/-- The template of a captured path puts the text of the first group behind the destination. -/
theorem fill_captured (group : Nat → List Char) {destination : String}
    (placeless : Template.hasPlace destination.toList = false) :
    Template.fill group (withSlash destination ++ ['\\', '1']) =
      withSlash destination ++ group 1 := by
  have still_placeless : Template.hasPlace (withSlash destination) = false := by
    rw [withSlash]
    split
    · exact placeless
    · rw [Template.hasPlace_append_slash, placeless]
  have uncut : ['\\', '1'].head?.bind Template.digit? = none := rfl
  rw [Template.fill_append group fun _ => uncut, Template.fill_of_placeless group still_placeless,
    Template.fill_place group rfl]
  simp [Template.fill]

/-! ## What is captured -/

/-- The pattern that keeps the rest of a path, and where it is put. -/
def capture (stem : List Char) (destination : String) : Pattern × Target :=
  (.captureTail (String.ofList stem),
    .substitution (String.ofList (withSlash destination ++ ['\\', '1'])))

theorem dropEnding?_eq_some_iff {ending text stem : List Char} :
    Text.dropEnding? ending text = some stem ↔ text = stem ++ ending := by
  rw [Text.dropEnding?]
  constructor
  · intro dropped
    split at dropped
    · next ends =>
        obtain ⟨front, rfl⟩ := List.isSuffixOf_iff_suffix.mp ends
        simp at dropped
        rw [dropped]
    · contradiction
  · rintro rfl
    have ends : ending.isSuffixOf (stem ++ ending) = true :=
      List.isSuffixOf_iff_suffix.mpr (List.suffix_append _ _)
    simp [ends]

/-- No text ends in two of the wildcards. -/
theorem eq_of_wildcardEndings {ending other : String} (listed : ending ∈ wildcardEndings)
    (other_listed : other ∈ wildcardEndings) {text : List Char} (ends : ending.toList <:+ text)
    (other_ends : other.toList <:+ text) : ending = other := by
  have apart : ∀ first ∈ wildcardEndings, ∀ second ∈ wildcardEndings,
      first.toList <:+ second.toList → first = second := by decide
  rcases Nat.le_total ending.toList.length other.toList.length with shorter | longer
  · exact apart _ listed _ other_listed (List.suffix_of_suffix_length_le ends other_ends shorter)
  · exact (apart _ other_listed _ listed
      (List.suffix_of_suffix_length_le other_ends ends longer)).symm

/-- A path is kept exactly if the destination has no place and the source ends in a wildcard. -/
theorem pathCapture?_eq_some_iff {source destination : String} {captured : Pattern × Target} :
    pathCapture? source destination = some captured ↔
      Template.hasPlace destination.toList = false ∧
        ∃ stem, ∃ ending ∈ wildcardEndings, source.toList = stem ++ ending.toList ∧
          captured = capture stem destination := by
  have target_eq : destination ++ (if destination.endsWith "/" then "" else "/") ++ "\\1" =
      String.ofList (withSlash destination ++ ['\\', '1']) := by
    apply String.toList_inj.mp
    rw [withSlash]
    by_cases ends : ['/'] <:+ destination.toList
    · simp [ends, (endsWith_slash_iff destination).mpr ends]
    · simp [ends, mt (endsWith_slash_iff destination).mp ends]
  rw [pathCapture?]
  cases Template.hasPlace destination.toList with
  | true => simp
  | false =>
      simp only [Bool.false_eq_true, if_false, true_and, Option.map_eq_some_iff, target_eq]
      constructor
      · rintro ⟨stem, found, rfl⟩
        obtain ⟨ending, listed, dropped⟩ := List.exists_of_findSome?_eq_some found
        exact ⟨stem, ending, listed, dropEnding?_eq_some_iff.mp dropped, rfl⟩
      · rintro ⟨stem, ending, listed, source_eq, rfl⟩
        have dropped := dropEnding?_eq_some_iff.mpr source_eq
        cases found : wildcardEndings.findSome? fun ending =>
            Text.dropEnding? ending.toList source.toList with
        | none => exact absurd (List.findSome?_eq_none_iff.mp found ending listed) (by simp [dropped])
        | some other =>
            -- the ending that was found is the given one
            obtain ⟨first, first_listed, first_dropped⟩ := List.exists_of_findSome?_eq_some found
            have first_eq := dropEnding?_eq_some_iff.mp first_dropped
            have same := eq_of_wildcardEndings first_listed listed ⟨other, first_eq.symm⟩
              ⟨stem, source_eq.symm⟩
            rw [same, dropped] at first_dropped
            cases first_dropped
            exact ⟨_, rfl, rfl⟩

/-! ## Where a captured path goes -/

/-- The filter of a rule that keeps the rest of a path. -/
def captureFilter (stem : List Char) (destination : String) : Pattern :=
  let pattern := Pattern.captureTail (String.ofList stem)
  if pattern.occursIn destination then .excludeLeading destination pattern else pattern

theorem target_synthesizeRegex (source destination : String) :
    (synthesizeRegex source destination).target = (baseSynthesis source destination).2 := by
  simp only [synthesizeRegex]
  split <;> rfl

theorem synthesizeRegex_captured {source destination : String} {stem : List Char}
    (captured : pathCapture? source destination = some (capture stem destination)) :
    synthesizeRegex source destination =
      ⟨.regex (captureFilter stem destination), (capture stem destination).2⟩ := by
  simp only [synthesizeRegex, baseSynthesis, captured, captureFilter, capture]
  split <;> rfl

/-- What a captured path is redirected to: the destination and the text of the first group stand in
the place of what the filter matched. -/
theorem simulate_captured {rule : Rule} (kind_eq : rule.kind = .regex) {stem : List Char}
    (captured : pathCapture? rule.source rule.destination = some (capture stem rule.destination))
    (placeless : Template.hasPlace rule.destination.toList = false)
    (number : UInt32) (url : String) :
    simulate [(synthesize rule).emit number] url =
      (firstMatch? (captureFilter stem rule.destination).render url).map fun found =>
        ⟨number, url, String.ofList (url.toList.take found.start ++
          (withSlash rule.destination ++ found.group url.toList 1) ++
            url.toList.drop found.stop)⟩ := by
  have redirected : (Synthesis.emit ⟨.regex (captureFilter stem rule.destination),
      (capture stem rule.destination).2⟩ number).redirect? url =
        (firstMatch? (captureFilter stem rule.destination).render url).map
          ((capture stem rule.destination).2.destination url.toList.toArray) := by
    rw [Synthesis.redirect?_emit_regex, firstMatch?]
    cases prepare (captureFilter stem rule.destination).render <;> rfl
  have number_eq (synthesis : Synthesis) : (synthesis.emit number).id = number := rfl
  rw [simulate_singleton, synthesize, kind_eq]
  simp only [synthesizeRegex_captured captured, DeclarativeRule.hit?, redirected, Option.map_map,
    number_eq]
  refine congrArg (Option.map · _) (funext fun found => ?_)
  rw [Function.comp_apply, capture, Target.destination, substitute_eq, String.toList_ofList,
    fill_captured _ placeless]

end Redirects
