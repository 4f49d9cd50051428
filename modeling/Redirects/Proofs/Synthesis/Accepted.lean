import Redirects.Proofs.Regex.Exchange.Ending
import Redirects.Proofs.Synthesis.LeadingGuard

/-!
# Filters of accepted patterns

The filter of a pattern rule is the pattern of the rule with a path captured and a guard put in
front of it.  Main statement: if the pattern of the rule is accepted, so is the filter, except that
no guard can stand in front of a count and no path can be captured where groups are referred to by
number among groups with names (`accepted_filter`).
-/

namespace Redirects

open Regex

section Unbounded

variable {limits : Limits} (unbounded : limits.Unbounded)
include unbounded

/-- A pattern that is accepted is accepted behind a guard, too, unless it begins with a count. -/
theorem isOk_prepare_excludeLeading {pattern : Pattern}
    (accepted : (prepareWithin limits pattern.render).isOk = true) (excluded : String) :
    let guarded := Pattern.excludeLeading excluded pattern
    (prepareWithin limits guarded.render).isOk = true ∨
      (leadingCount? pattern.render.toList).isSome = true ∧
        ∃ position, readPattern guarded.render.toList = .error (.writing position .badRepeat) := by
  intro guarded
  rw [prepareWithin] at accepted ⊢
  rw [toList_render_excludeLeading]
  cases read : readPattern pattern.render.toList with
  | error fault =>
      rw [read] at accepted
      cases accepted
  | ok written =>
      rw [read] at accepted
      rcases readPattern_guarded read excluded.toList with
        ⟨count, counted, faulty⟩ | ⟨-, terms, others, term_eq, guarded_read⟩
      · rw [counted]
        exact .inr ⟨rfl, _, faulty⟩
      · rw [guarded_read]
        obtain ⟨term, groups, referred⟩ := written
        subst term_eq
        exact .inl (isOk_prepare_guarded unbounded accepted excluded.toList)

/-- A pattern that is accepted is accepted with its path captured, too, unless it refers to groups
by number and has groups with names. -/
theorem isOk_prepare_captureTail {source : String} {stem : List Char} {ending : String}
    (listed : ending ∈ wildcardEndings) (source_eq : source.toList = stem ++ ending.toList)
    (accepted : (prepareWithin limits source).isOk = true) :
    let captured := Pattern.captureTail (String.ofList stem)
    (prepareWithin limits captured.render).isOk = true ∨
      mixes source.toList = true ∧
        readPattern captured.render.toList = .error .numberedAmongNamed := by
  intro captured
  have path_eq := toList_render_captureTail stem
  by_cases path : ending.toList = writtenPath
  · left
    rw [path] at source_eq
    rwa [prepareWithin, path_eq, ← source_eq]
  · have wild : ∀ ending ∈ wildcardEndings, ending.toList ≠ writtenPath →
        ∃ wild ∈ wildTails, ending.toList = '/' :: wild := by decide
    obtain ⟨wild, wild_listed, ending_eq⟩ := wild ending listed path
    rw [ending_eq] at source_eq
    exact isOk_prepare_path unbounded wild_listed source_eq path_eq accepted

/-- Before its own destination is excluded, the pattern of a rule is accepted, unless a path would
be captured among names. -/
theorem isOk_prepare_baseSynthesis {source : String} (destination : String)
    (accepted : (prepareWithin limits source).isOk = true) :
    let pattern := (baseSynthesis source destination).1
    (prepareWithin limits pattern.render).isOk = true ∨
      (∃ stem, pattern = .captureTail stem) ∧ mixes source.toList = true ∧
        readPattern pattern.render.toList = .error .numberedAmongNamed := by
  rw [baseSynthesis]
  cases captured : pathCapture? source destination with
  | none => exact .inl accepted
  | some found =>
      obtain ⟨-, stem, ending, listed, source_eq, rfl⟩ := pathCapture?_eq_some_iff.mp captured
      exact (isOk_prepare_captureTail unbounded listed source_eq accepted).imp_right
        fun refused => ⟨⟨_, rfl⟩, refused⟩

/-- If the pattern of a rule is accepted, the filter of the rule is accepted, too, with two
exceptions: the destination is excluded from a pattern that begins with a count, or a path is
captured in a pattern that refers to groups by number and has groups with names.  In these the rule
redirects nothing. -/
theorem accepted_filter {rule : Rule} (kind_eq : rule.kind = .regex)
    (accepted : (prepareWithin limits rule.source).isOk = true) :
    ∃ pattern, (synthesize rule).filter = .regex pattern ∧
      ((prepareWithin limits pattern.render).isOk = true ∨
        ((∃ base, pattern = .excludeLeading rule.destination base ∧
            (leadingCount? base.render.toList).isSome = true) ∨
          (∃ stem, pattern = .captureTail stem ∧ mixes rule.source.toList = true)) ∧
        ∀ number url, simulate [(synthesize rule).emit number] url = none) := by
  let base := (baseSynthesis rule.source rule.destination).1
  have filter_eq : (synthesize rule).filter = .regex
      (if base.occursIn rule.destination then .excludeLeading rule.destination base else base) := by
    rw [synthesize, kind_eq]
    dsimp only [synthesizeRegex, base]
    split <;> rfl
  refine ⟨_, filter_eq, ?_⟩
  rcases isOk_prepare_baseSynthesis unbounded rule.destination accepted with
    base_accepted | ⟨⟨stem, stem_eq⟩, mixed, faulty⟩
  · cases occurs : base.occursIn rule.destination with
    | false => exact .inl base_accepted
    | true =>
        rw [if_pos rfl]
        refine (isOk_prepare_excludeLeading unbounded base_accepted rule.destination).imp_right ?_
        rintro ⟨counted, position, faulty⟩
        refine ⟨.inl ⟨base, rfl, counted⟩, simulate_of_unreadable ?_ faulty⟩
        rw [filter_eq, occurs, if_pos rfl]
  · -- a pattern that cannot be read occurs nowhere, so that no guard is put in front
    have nowhere : base.occursIn rule.destination = false := by
      rw [Pattern.occursIn, matchesIn, prepare, prepareWithin, faulty]
      rfl
    rw [nowhere, if_neg Bool.false_ne_true] at filter_eq ⊢
    exact .inr ⟨.inr ⟨stem, stem_eq, mixed⟩, simulate_of_unreadable filter_eq faulty⟩

end Unbounded

theorem accepted_filter_of_guarded_path :
    let limits : Limits := { size := none, vast := true }
    let rule : Rule := { source := "a/.*", destination := "a/b", kind := .regex, id := "r" }
    limits.Unbounded ∧ rule.kind = .regex ∧ (prepareWithin limits rule.source).isOk = true ∧
      ∃ pattern, (synthesize rule).filter = .regex pattern ∧
        pattern = .excludeLeading "a/b" (.captureTail "a") ∧
        (prepareWithin limits pattern.render).isOk = true := by
  intro limits rule
  have unbounded : limits.Unbounded := ⟨rfl, rfl⟩
  have accepted : (prepareWithin limits rule.source).isOk = true := by decide +kernel
  have uncounted : (leadingCount? (Pattern.captureTail "a").render.toList).isSome = false := by
    decide +kernel
  have guarded : (synthesize rule).filter =
      .regex (.excludeLeading "a/b" (.captureTail "a")) := by decide +kernel
  obtain ⟨pattern, filter_eq, verdict⟩ := accepted_filter unbounded rfl accepted
  obtain rfl : pattern = .excludeLeading "a/b" (.captureTail "a") := by
    rw [guarded] at filter_eq
    cases filter_eq
    rfl
  refine ⟨unbounded, rfl, accepted, _, filter_eq, rfl, verdict.resolve_right ?_⟩
  rintro ⟨⟨base, same, counted⟩ | ⟨stem, same, -⟩, -⟩
  · cases same
    rw [uncounted] at counted
    contradiction
  · contradiction

-- the exceptions: a number and a name in different branches, and a count behind the guard
example : mixes "(?<n>a)\\1|b/*".toList = true := by decide +kernel

example : (leadingCount? "\x7b2\x7d".toList).isSome = true := by decide +kernel

end Redirects
