import Redirects.Proofs.Compilation.Places
import Redirects.Proofs.Rule.Validity
import Redirects.Proofs.Synthesis.Contains

/-!
# Rules and their own destinations

A rule that looks for a text and whose destination does not contain it never redirects its own
destination.  One whose destination contains the text does so unless the tail of the destination
follows every occurrence of the text: the exclusion is taken at one place, and it does not cover an
occurrence further on.
-/

namespace Redirects

open Regex

/-- A text that the destination contains stands in it with its slashes, too. -/
theorem infix_of_overlap {source destination : String}
    (overlap : withoutSlashes source <:+: withoutSlashes destination) :
    withoutSlashes source <:+: destination.toList :=
  overlap.trans (Text.isPrefix_dropTrailing '/' destination.toList).isInfix

/-- When a rule that looks for a text leaves its own destination alone: while it is switched off;
unless its destination contains the text; if the destination has no tail, only for a text that is
too long; and otherwise if the tail follows each occurrence of the text in the destination that the
search can come to. -/
theorem own_destination_settled_iff {draft saved : Draft} (accepted : draft.validate = .ok saved)
    (kind_eq : saved.kind = .contains) (id : String) :
    let text := withoutSlashes saved.source
    let tail := excludedTail saved.source saved.destination
    simulate (compile [saved.named id] true) saved.destination = none ↔
      saved.enabled = false ∨ ¬text <:+: withoutSlashes saved.destination ∨
        tail = [] ∧ Limits.usualBytes < Text.byteLength text ∨
        tail ≠ [] ∧ ∀ before after, saved.destination.toList = before ++ text ++ after →
          before.length < Limits.usualPlaces → tail <+: after := by
  intro text tail
  obtain ⟨_, valid⟩ := Draft.validate_eq_ok_iff.mp accepted
  cases enabled : saved.enabled with
  | false =>
      have left_out : compile [saved.named id] true = [] := by
        have dropped : ¬Rule.KeptAt [saved.named id] (saved.named id, 0) := by
          rintro ⟨is_enabled, -⟩
          rw [Draft.named, enabled] at is_enabled
          contradiction
        rw [compile_eq_map]
        simp [dropped]
      have settled : simulate [] saved.destination = none := by
        simp [simulate, byNumber]
      rw [left_out]
      exact iff_of_true settled (.inl rfl)
  | true =>
      have compiled : compile [saved.named id] true =
          [(synthesizeContains saved.source saved.destination).emit 1] := by
        have alone : compile [saved.named id] true = [(synthesize (saved.named id)).emit 1] :=
          compile_singleton enabled (Draft.source_ne_destination valid)
        rw [alone, synthesize]
        simp only [Draft.named, kind_eq]
      have settled_iff : simulate (compile [saved.named id] true) saved.destination = none ↔
          ¬(synthesizeContains saved.source saved.destination).filter.accepts saved.destination =
            true := by
        rw [compiled, simulate_contains, ite_eq_right_iff]
        simp
      rw [settled_iff]
      by_cases overlap : text <:+: withoutSlashes saved.destination
      · by_cases no_tail : tail = []
        · have occurs := infix_of_overlap overlap
          rw [accepts_contains_whole overlap no_tail]
          simp [overlap, no_tail, text, occurs]
        · rw [accepts_contains_followed overlap no_tail]
          simp only [Bool.true_eq_false, not_true_eq_false, overlap, no_tail, false_and, false_or,
            not_false_eq_true, true_and, ne_eq]
          constructor
          · intro never before after occurrence near
            exact Decidable.byContradiction fun free =>
              never ⟨before, after, occurrence, free, near⟩
          · rintro followed ⟨before, after, occurrence, free, near⟩
            exact free (followed before after occurrence near)
      · have away : ¬saved.source.toList <:+: saved.destination.toList :=
          fun occurs => overlap (Text.isInfix_dropTrailing '/' occurs)
        rw [accepts_contains_apart overlap]
        simp [overlap, away]

/-- A destination that begins with the source and holds it once more is redirected to itself. -/
theorem own_destination_redirected_twice :
    let draft : Draft := { source := "http://a/", destination := "http://a/?u=http://a/" }
    draft.validate = .ok draft ∧ draft.kind = .contains ∧
      simulate (compile [draft.named "r"] true) draft.destination ≠ none := by
  intro draft
  have accepted : draft.validate = .ok draft :=
    Draft.validate_eq_ok_iff.mpr ⟨by decide, by decide⟩
  refine ⟨accepted, rfl, fun settled => ?_⟩
  rcases (own_destination_settled_iff accepted rfl "r").mp settled with
    off | apart | ⟨no_tail, -⟩ | ⟨-, followed⟩
  · contradiction
  · exact apart (overlaps_iff.mp (by decide))
  · exact absurd no_tail (by decide)
  · have behind := followed "http://a/?u=".toList "/".toList (by decide) (by decide)
    exact absurd behind (by decide)

end Redirects
