import Mathlib.Data.List.DropRight
import Redirects.Rule.Validation

/-!
# What is saved is valid

A draft that is saved has no blanks around its texts, and the conditions are asked of the texts as
they are saved.  So what was saved once is saved again as it stands.
-/

namespace Redirects

namespace Text

theorem trimChars_eq (text : List Char) :
    trimChars text = (text.dropWhile Unicode.isSpace).rdropWhile Unicode.isSpace := rfl

theorem dropWhile_trimChars (text : List Char) :
    (trimChars text).dropWhile Unicode.isSpace = trimChars text := by
  rw [trimChars_eq, List.dropWhile_eq_self_iff]
  intro inner
  -- What stands first once both ends are cut stood first when only the front was.
  rw [(List.rdropWhile_prefix Unicode.isSpace _).getElem inner]
  exact List.dropWhile_get_zero_not _ text _

theorem trimChars_trimChars (text : List Char) : trimChars (trimChars text) = trimChars text := by
  rw [trimChars_eq, dropWhile_trimChars, trimChars_eq, List.rdropWhile_idempotent]

@[simp]
theorem trim_trim (text : String) : trim (trim text) = trim text := by
  rw [trim, trim, String.toList_ofList, trimChars_trimChars]

end Text

namespace Draft

variable {draft saved : Draft}

/-- What every saved draft is. -/
structure Usable (draft : Draft) : Prop where
  source_trimmed : Text.trim draft.source = draft.source
  destination_trimmed : Text.trim draft.destination = draft.destination
  source_ne : draft.source ≠ ""
  destination_ne : draft.destination ≠ ""
  differ : draft.source ≠ draft.destination
  compiles : draft.kind = .regex → ∃ prepared, Regex.prepare draft.source = .ok prepared

theorem invalidity?_eq_none_iff :
    draft.invalidity? = none ↔
      draft.source ≠ "" ∧ draft.destination ≠ "" ∧ draft.source ≠ draft.destination ∧
        (draft.kind = .regex → ∃ prepared, Regex.prepare draft.source = .ok prepared) := by
  rw [invalidity?]
  split_ifs with no_source no_destination same
  · simp [no_source]
  · simp [no_destination]
  · simp [same]
  · simp only [Ne, no_source, no_destination, same, not_false_eq_true, true_and]
    cases kind_eq : draft.kind with
    | contains => simp
    | regex => cases Regex.prepare draft.source <;> simp

theorem source_ne_destination (valid : draft.invalidity? = none) :
    draft.source ≠ draft.destination :=
  (invalidity?_eq_none_iff.mp valid).2.2.1

theorem validate_eq_ok_iff :
    draft.validate = .ok saved ↔ saved = draft.trimmed ∧ saved.invalidity? = none := by
  rw [validate]
  cases invalidity_eq : draft.trimmed.invalidity? with
  | none =>
      simp only [Except.ok.injEq]
      constructor
      · rintro rfl
        exact ⟨rfl, invalidity_eq⟩
      · rintro ⟨rfl, -⟩
        rfl
  | some reason =>
      simp only [reduceCtorEq, false_iff]
      rintro ⟨rfl, valid⟩
      rw [invalidity_eq] at valid
      contradiction

theorem trimmed_eq_self_iff :
    draft.trimmed = draft ↔
      Text.trim draft.source = draft.source ∧ Text.trim draft.destination = draft.destination := by
  cases draft
  simp [trimmed]

@[simp]
theorem trimmed_trimmed (draft : Draft) : draft.trimmed.trimmed = draft.trimmed :=
  trimmed_eq_self_iff.mpr ⟨Text.trim_trim _, Text.trim_trim _⟩

/-- A draft is saved as it stands exactly when it is usable. -/
theorem validate_self_iff : draft.validate = .ok draft ↔ draft.Usable := by
  rw [validate_eq_ok_iff, eq_comm, trimmed_eq_self_iff, invalidity?_eq_none_iff]
  constructor
  · rintro ⟨⟨source, destination⟩, source_ne, destination_ne, differ, compiles⟩
    exact ⟨source, destination, source_ne, destination_ne, differ, compiles⟩
  · rintro ⟨source, destination, source_ne, destination_ne, differ, compiles⟩
    exact ⟨⟨source, destination⟩, source_ne, destination_ne, differ, compiles⟩

/-- What is saved is saved again as it stands. -/
theorem usable_of_validate (accepted : draft.validate = .ok saved) : saved.Usable := by
  obtain ⟨rfl, valid⟩ := validate_eq_ok_iff.mp accepted
  exact validate_self_iff.mp (validate_eq_ok_iff.mpr ⟨(trimmed_trimmed draft).symm, valid⟩)

end Draft

namespace Rule

variable {rule saved : Rule}

/-- A rule is validated as its draft is, and keeps its name. -/
theorem validate_eq_ok_iff :
    rule.validate = .ok saved ↔
      rule.toDraft.validate = .ok saved.toDraft ∧ saved.id = rule.id := by
  rw [validate]
  cases rule.toDraft.validate with
  | error error => simp [Except.map]
  | ok draft =>
      simp only [Except.map, Except.ok.injEq, Draft.named]
      constructor
      · rintro rfl
        exact ⟨rfl, rfl⟩
      · rintro ⟨rfl, id_eq⟩
        rw [← id_eq]

theorem validate_self_iff : rule.validate = .ok rule ↔ rule.toDraft.Usable := by
  rw [validate_eq_ok_iff, Draft.validate_self_iff]
  exact and_iff_left rfl

theorem usable_of_validate (accepted : rule.validate = .ok saved) : saved.toDraft.Usable :=
  Draft.usable_of_validate (validate_eq_ok_iff.mp accepted).1

end Rule

end Redirects
