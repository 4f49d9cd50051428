import Redirects.Proofs.Regex.Choice
import Redirects.Proofs.Synthesis.CaptureGroup

/-!
# What keeps a pattern from its own destination

A pattern that occurs in its own destination is written with a guard against the destination in front
of it.  Main statement: the guard stands in front of the first branch of the pattern only, and where
the pattern begins with a count no pattern results at all.  So a rule whose branches are plain texts
applies wherever a later branch stands, even where the destination begins.
-/

namespace Redirects

open Regex

/-- A pattern rule that keeps no path and whose pattern occurs in the destination. -/
theorem filter_excluding {rule : Rule} (kind_eq : rule.kind = .regex)
    (uncaptured : pathCapture? rule.source rule.destination = none)
    (occurs : (Pattern.raw rule.source).occursIn rule.destination = true) :
    (synthesize rule).filter = .regex (.excludeLeading rule.destination (.raw rule.source)) := by
  rw [synthesize, kind_eq]
  simp only [synthesizeRegex, baseSynthesis, uncaptured]
  rw [if_pos occurs]

/-- A rule whose filter cannot be read redirects nothing. -/
theorem simulate_of_unreadable {synthesis : Synthesis} {pattern : Pattern}
    (filter_eq : synthesis.filter = .regex pattern) {fault : Fault}
    (faulty : readPattern pattern.render.toList = .error fault) (number : UInt32) (url : String) :
    simulate [synthesis.emit number] url = none := by
  obtain ⟨filter, target⟩ := synthesis
  cases filter_eq
  have unprepared : prepare pattern.render = .error fault := by
    rw [prepare, prepareWithin, faulty]
    rfl
  rw [simulate_singleton, DeclarativeRule.hit?, Synthesis.redirect?_emit_regex, unprepared]
  rfl

/-- Plain texts with bars between them are written as a choice between them. -/
theorem toList_intercalate_escape (first : String) (others : List String) :
    ("|".intercalate ((first :: others).map escape)).toList =
      writtenChoice (first.toList.map .plain)
        ((others.map String.toList).map (·.map .plain)) := by
  have escaped (text : String) :
      (escape text).toList = (text.toList.map Sign.plain).flatMap Sign.written := by
    rw [escape, String.toList_ofList, List.flatMap_map]
    rfl
  have bar_eq : "|".toList = ['|'] := rfl
  rw [String.toList_intercalate, bar_eq]
  induction others generalizing first with
  | nil => simp [writtenChoice, escaped]
  | cons other others ih =>
      have back := ih other
      rw [List.map_cons, List.map_cons] at back
      rw [List.map_cons, List.map_cons, List.map_cons, List.map_cons,
        List.intercalate_cons_cons, back, escaped]
      simp [writtenChoice]

theorem isSome_simulate (rule : Rule) (number : UInt32) (url : String) :
    (simulate [(synthesize rule).emit number] url).isSome =
      (synthesize rule).filter.accepts url := by
  rw [simulate_singleton, DeclarativeRule.hit?, Option.isSome_map,
    Synthesis.isSome_redirect?_emit (Synthesis.suited_synthesize rule)]

/-- A rule whose branches are plain texts applies to the addresses in which the guarded choice
between them is found. -/
theorem isSome_simulate_choice {rule : Rule} {first : String} {others : List String}
    (source_eq : rule.source = "|".intercalate ((first :: others).map escape))
    (filter_eq : (synthesize rule).filter =
      .regex (.excludeLeading rule.destination (.raw rule.source))) (number : UInt32)
    (url : String) :
    (simulate [(synthesize rule).emit number] url).isSome =
      matchesIn (writtenGuarded rule.destination.toList first.toList (others.map String.toList))
        url := by
  have render_eq : (Pattern.excludeLeading rule.destination (.raw rule.source)).render =
      writtenGuarded rule.destination.toList first.toList (others.map String.toList) := by
    rw [← String.toList_inj, toList_render_excludeLeading, Pattern.render, source_eq,
      toList_intercalate_escape, writtenGuarded, String.toList_ofList, writtenChoice_cons]
  rw [isSome_simulate, filter_eq, Filter.accepts, Pattern.occursIn, render_eq]

/-- The guard against the destination stands in front of the first branch of a pattern only: the
filter reads as the branches of the pattern, the first of which begins with the guard.  A pattern
that begins with a count would repeat the guard, so that its rule redirects nothing.  A rule whose
branches are plain texts applies to an address only if the first branch stands in it somewhere where
the destination does not begin, or a later one anywhere; and it does so, unless that place is too far
from the front. -/
theorem guard_leads_first_branch {rule : Rule} (kind_eq : rule.kind = .regex)
    (uncaptured : pathCapture? rule.source rule.destination = none)
    (occurs : (Pattern.raw rule.source).occursIn rule.destination = true) {written : Written}
    (read : readPattern rule.source.toList = .ok written) :
    ∃ pattern, (synthesize rule).filter = .regex pattern ∧
      (if (leadingCount? rule.source.toList).isSome then
        ∀ number url, simulate [(synthesize rule).emit number] url = none
      else
        ∃ terms others, written.term = Term.inChoice (Term.inSequence terms) others ∧
          readPattern pattern.render.toList = .ok { written with
            term := Term.inChoice
              (Term.inSequence ((Sign.barred rule.destination.toList).term :: terms)) others }) ∧
      ∀ (first : String) (others : List String),
        rule.source = "|".intercalate ((first :: others).map escape) →
          ∀ (number : UInt32) (url : String),
            let stands := StandsAmong url.toList rule.destination.toList first.toList
              (others.map String.toList)
            ((simulate [(synthesize rule).emit number] url).isSome = true →
                ∃ place ≤ url.toList.length, stands place) ∧
              ∀ place ≤ url.toList.length, stands place →
                (place + 1) * (others.length + 2) ≤ Limits.usualPlaces →
                  (simulate [(synthesize rule).emit number] url).isSome = true := by
  have filter_eq := filter_excluding kind_eq uncaptured occurs
  have rendered : (Pattern.excludeLeading rule.destination (.raw rule.source)).render.toList =
      (Sign.barred rule.destination.toList).written ++ rule.source.toList :=
    toList_render_excludeLeading _ _
  refine ⟨_, filter_eq, ?_, fun first others source_eq number url => ⟨?_, ?_⟩⟩
  · rcases readPattern_guarded read rule.destination.toList with
      ⟨count, counted, faulty⟩ | ⟨uncounted, terms, others, term_eq, guarded⟩
    · rw [counted, Option.isSome_some, if_pos rfl]
      rw [← rendered] at faulty
      exact simulate_of_unreadable filter_eq faulty
    · rw [uncounted, Option.isSome_none, if_neg Bool.false_ne_true]
      refine ⟨terms, others, term_eq, ?_⟩
      rw [rendered]
      exact guarded
  · rw [isSome_simulate_choice source_eq filter_eq]
    exact exists_standsAmong_of_matchesIn
  · intro place inside stands near
    rw [isSome_simulate_choice source_eq filter_eq]
    exact matchesIn_of_standsAmong inside stands (by simpa using near)

/-- Behind the first branch the destination is not kept out: the rule applies to its own
destination. -/
theorem guard_leads_first_branch_of_two :
    let rule : Rule := { source := "x|abc", destination := "abc", kind := .regex, id := "r" }
    let written : Written :=
      ⟨.alt (.char false 'x') (.inSequence ("abc".toList.map (.char false))), 0, []⟩
    pathCapture? rule.source rule.destination = none ∧
      (Pattern.raw rule.source).occursIn rule.destination = true ∧
      readPattern rule.source.toList = .ok written ∧
      (∃ pattern, (synthesize rule).filter = .regex pattern ∧
        ∃ terms others, written.term = Term.inChoice (Term.inSequence terms) others ∧
          readPattern pattern.render.toList = .ok { written with
            term := Term.inChoice
              (Term.inSequence ((Sign.barred rule.destination.toList).term :: terms)) others }) ∧
      (simulate [(synthesize rule).emit 1] "abc").isSome = true := by
  intro rule written
  have kind_eq : rule.kind = .regex := rfl
  have uncaptured : pathCapture? rule.source rule.destination = none := by decide +kernel
  have occurs : (Pattern.raw rule.source).occursIn rule.destination = true := by decide +kernel
  have read : readPattern rule.source.toList = .ok written :=
    eq_ok_of_toOption (by decide +kernel)
  obtain ⟨pattern, filter_eq, guarded, applies⟩ :=
    guard_leads_first_branch kind_eq uncaptured occurs read
  have uncounted : (leadingCount? rule.source.toList).isSome = false := by decide +kernel
  rw [uncounted, if_neg Bool.false_ne_true] at guarded
  have source_eq : rule.source = "|".intercalate (["x", "abc"].map escape) := by decide +kernel
  have stands : StandsAmong "abc".toList rule.destination.toList "x".toList ["abc".toList] 0 :=
    .inr ⟨_, List.mem_cons_self, by decide⟩
  exact ⟨uncaptured, occurs, read, ⟨pattern, filter_eq, guarded⟩,
    (applies "x" ["abc"] source_eq 1 "abc").2 0 (Nat.zero_le _) stands (by decide)⟩

end Redirects
