import Redirects.Proofs.Regex.Inside.Guard
import Redirects.Proofs.Synthesis.PathCapture

/-!
# The group that a captured path is put back from

The filter that keeps the rest of a path ends in a group that takes it, but the template puts back
the first group of the filter.  Main statement: the redirect keeps the rest of the path exactly where
the first group has the text of the last one, as it always has if the prefix has no groups.
-/

namespace Redirects

open Regex

namespace Regex

/-- The group in which a term ends, and what is in it. -/
def Term.finalGroup? : Term → Option (Nat × Term)
  | .group number inner => some (number, inner)
  | .seq _ second | .alt _ second => second.finalGroup?
  | _ => none

theorem Term.finalGroup?_inSequence (terms : List Term) (number : Nat) (inner : Term) :
    (inSequence (terms ++ [.group number inner])).finalGroup? = some (number, inner) := by
  induction terms with
  | nil => rfl
  | cons term terms ih =>
      rw [List.cons_append, inSequence_cons (by simp), finalGroup?, ih]

/-- A choice whose last branch goes on with a path ends in the group of the path. -/
theorem Reader.Extends.finalGroup?_eq {flags : Flags} {groups : Nat}
    {found extended : List Term × List Term}
    (extended_so : Extends (Term.path flags groups) found extended) (lead : List Term) :
    (Term.inChoice (Term.inSequence (lead ++ extended.1)) extended.2).finalGroup? =
      (Term.tailUnder flags groups).finalGroup? := by
  induction extended_so generalizing lead with
  | last terms =>
      have split : lead ++ (terms ++ Term.path flags groups) =
          (lead ++ terms ++ [.char flags.fold '/']) ++ [.tailUnder flags groups] := by
        simp [Term.path]
      rw [split, Term.inChoice, Term.tailUnder, Term.finalGroup?_inSequence]
      rfl
  | behind terms _ ih =>
      rw [Term.inChoice, Term.finalGroup?]
      exact ih []

end Regex

theorem toList_render_captureTail (stem : List Char) :
    (Pattern.captureTail (String.ofList stem)).render.toList = stem ++ writtenPath := by
  rw [Pattern.render, String.toList_append, String.toList_ofList]
  rfl

theorem toList_render_excludeLeading (excluded : String) (pattern : Pattern) :
    (Pattern.excludeLeading excluded pattern).render.toList =
      (Sign.barred excluded.toList).written ++ pattern.render.toList := by
  simp [Pattern.render, escape, Sign.written]

/-- The filter that keeps the rest of a path ends in a group behind those of the prefix. -/
theorem finalGroup?_captureFilter {stem : List Char} {term : Term} {after : Cursor}
    (read : Reader.pattern maxDepth { rest := stem } = .ok (term, after))
    (whole : after.rest = []) (unspaced : after.flags.spaced = false) {destination : String}
    {written : Written}
    (filter_read : readPattern (captureFilter stem destination).render.toList = .ok written) :
    written.term.finalGroup? = (Term.tailUnder after.flags after.groups).finalGroup? ∧
      written.groups = after.groups + 1 := by
  rw [captureFilter] at filter_read
  split at filter_read
  · rw [toList_render_excludeLeading, toList_render_captureTail] at filter_read
    obtain ⟨terms, others, extended, -, extended_so, rfl⟩ :=
      readPattern_guarded_path read whole unspaced filter_read
    exact ⟨extended_so.finalGroup?_eq [_], rfl⟩
  · rw [toList_render_captureTail] at filter_read
    obtain ⟨terms, others, extended, -, extended_so, rfl⟩ :=
      readPattern_path read whole unspaced filter_read
    exact ⟨extended_so.finalGroup?_eq [], rfl⟩

theorem exists_readPattern_of_firstMatch? {pattern text : String} {found : Match}
    (first : firstMatch? pattern text = some found) :
    ∃ written, readPattern pattern.toList = .ok written := by
  rw [firstMatch?, prepare, prepareWithin] at first
  cases read : readPattern pattern.toList with
  | ok written => exact ⟨written, rfl⟩
  | error fault =>
      rw [read] at first
      cases first

/-- What a captured path is redirected to has the text of the first group of the filter in it.  The
filter ends in a group that takes the rest of the path, which is numbered behind the groups of the
prefix; so the rest of the path is kept exactly where both groups have one text, as they have
wherever the prefix has no group. -/
theorem captured_path_kept_iff {rule : Rule} (kind_eq : rule.kind = .regex) {stem : List Char}
    {ending : String} (wild : ending ∈ wildcardEndings)
    (source_eq : rule.source.toList = stem ++ ending.toList)
    (placeless : Template.hasPlace rule.destination.toList = false) {term : Term} {after : Cursor}
    (read : Reader.pattern maxDepth { rest := stem } = .ok (term, after)) (whole : after.rest = [])
    (unspaced : after.flags.spaced = false) {url : String} {found : Match}
    (first : firstMatch? (captureFilter stem rule.destination).render url = some found)
    (number : UInt32) :
    let redirected (tail : List Char) : Hit :=
      ⟨number, url, String.ofList (url.toList.take found.start ++
        (withSlash rule.destination ++ tail) ++ url.toList.drop found.stop)⟩
    simulate [(synthesize rule).emit number] url = some (redirected (found.group url.toList 1)) ∧
      ∃ written, readPattern (captureFilter stem rule.destination).render.toList = .ok written ∧
        written.term.finalGroup? = some (after.groups + 1, .line after.flags) ∧
        (simulate [(synthesize rule).emit number] url =
            some (redirected (found.group url.toList (after.groups + 1))) ↔
          found.group url.toList 1 = found.group url.toList (after.groups + 1)) := by
  intro redirected
  have captured : pathCapture? rule.source rule.destination =
      some (capture stem rule.destination) :=
    pathCapture?_eq_some_iff.mpr ⟨placeless, stem, ending, wild, source_eq, rfl⟩
  have hit := simulate_captured kind_eq captured placeless number url
  rw [first, Option.map_some] at hit
  obtain ⟨written, filter_read⟩ := exists_readPattern_of_firstMatch? first
  have final := (finalGroup?_captureFilter read whole unspaced filter_read).1
  refine ⟨hit, written, filter_read, final, ?_⟩
  rw [hit, Option.some_inj]
  constructor
  · intro same
    have texts := congrArg (fun hit => hit.destination.toList) same
    simp only [redirected, String.toList_ofList] at texts
    exact List.append_cancel_left (List.append_cancel_left (List.append_cancel_right texts))
  · intro same
    rw [same]

theorem eq_ok_of_toOption {ε α : Type} {result : Except ε α} {value : α}
    (found : result.toOption = some value) : result = .ok value := by
  cases result with
  | error fault => contradiction
  | ok other => exact congrArg _ (Option.some.inj found)

/-- A group in the prefix is put back in the place of the path. -/
theorem captured_path_kept_iff_grouped :
    let rule : Rule :=
      { source := "http://(a|b)/*", destination := "http://c/", kind := .regex, id := "r" }
    (∃ term after found,
      Reader.pattern maxDepth { rest := "http://(a|b)".toList } = .ok (term, after) ∧
        after.rest = [] ∧ after.flags.spaced = false ∧
        firstMatch? (captureFilter "http://(a|b)".toList rule.destination).render "http://a/x/y" =
          some found) ∧
      simulate [(synthesize rule).emit 1] "http://a/x/y" =
        some ⟨1, "http://a/x/y", "http://c/a"⟩ ∧
      simulate [(synthesize rule).emit 1] "http://a/x/y" ≠
        some ⟨1, "http://a/x/y", "http://c/x/y"⟩ := by
  intro rule
  let term : Term := .inSequence ("http://".toList.map (.char false) ++
    [.group 1 (.alt (.char false 'a') (.char false 'b'))])
  let after : Cursor := { rest := [], position := 12, groups := 1 }
  let found : Match := ⟨0, 12, [some (0, 12), some (7, 8), some (9, 12)]⟩
  have read : Reader.pattern maxDepth { rest := "http://(a|b)".toList } = .ok (term, after) :=
    eq_ok_of_toOption (by decide +kernel)
  have first : firstMatch? (captureFilter "http://(a|b)".toList rule.destination).render
      "http://a/x/y" = some found := by
    decide +kernel
  have kind_eq : rule.kind = .regex := rfl
  have wild : "/*" ∈ wildcardEndings := by decide
  obtain ⟨hit, -, -, -, kept_iff⟩ := captured_path_kept_iff kind_eq wild (by decide +kernel)
    (by decide +kernel) read rfl rfl first 1
  refine ⟨⟨term, after, found, read, rfl, rfl, first⟩, ?_, ?_⟩
  · exact hit.trans (by decide +kernel)
  · intro kept
    exact absurd (kept_iff.mp (kept.trans (by decide +kernel))) (by decide +kernel)

end Redirects
