import Redirects.Proofs.Rule.Validity

/-!
# What is asked of a draft

A draft is judged by the texts that are kept of it: its own, without the blanks around them.  Four
things are asked of these, one after another, and the user is told of the first that is missing.
-/

namespace Redirects

namespace Text

/-- What is kept of a text: all of it but blanks before and behind, and no blank at either end. -/
structure Trims (text kept : List Char) : Prop where
  around : ∃ before after, text = before ++ kept ++ after ∧
    ∀ c ∈ before ++ after, Unicode.isSpace c = true
  starts : ∀ c ∈ kept.head?, Unicode.isSpace c = false
  ends : ∀ c ∈ kept.getLast?, Unicode.isSpace c = false

theorem rdropWhile_blanks {text after : List Char}
    (blank : ∀ c ∈ after, Unicode.isSpace c = true) :
    (text ++ after).rdropWhile Unicode.isSpace = text.rdropWhile Unicode.isSpace := by
  have blank_reversed : ∀ c ∈ after.reverse, Unicode.isSpace c = true :=
    fun c c_mem => blank c (List.mem_reverse.mp c_mem)
  rw [List.rdropWhile, List.rdropWhile, List.reverse_append,
    List.dropWhile_append_of_pos blank_reversed]

theorem trims_trimChars (text : List Char) : Trims text (trimChars text) := by
  let front := text.takeWhile Unicode.isSpace
  let rest := text.dropWhile Unicode.isSpace
  let back := (rest.reverse.takeWhile Unicode.isSpace).reverse
  have rest_eq : rest = trimChars text ++ back := by
    rw [trimChars, ← List.reverse_append, List.takeWhile_append_dropWhile, List.reverse_reverse]
  refine ⟨⟨front, back, ?_, ?_⟩, fun c first => ?_, fun c last => ?_⟩
  · rw [List.append_assoc, ← rest_eq, List.takeWhile_append_dropWhile]
  · intro c c_mem
    rcases List.mem_append.mp c_mem with in_front | in_back
    · exact List.mem_takeWhile_imp in_front
    · exact List.mem_takeWhile_imp (List.mem_reverse.mp in_back)
  · have refused := List.head?_dropWhile_not Unicode.isSpace (trimChars text)
    rw [dropWhile_trimChars] at refused
    rw [Option.mem_def] at first
    rwa [first] at refused
  · have refused := List.head?_dropWhile_not Unicode.isSpace rest.reverse
    rw [Option.mem_def, trimChars, List.getLast?_reverse] at last
    rwa [last] at refused

/-- Nothing else is kept. -/
theorem Trims.eq {text kept : List Char} (trims : Trims text kept) : kept = trimChars text := by
  obtain ⟨⟨before, after, rfl, blank⟩, starts, ends⟩ := trims
  obtain ⟨blank_before, blank_after⟩ := List.forall_mem_append.mp blank
  rw [trimChars_eq, List.append_assoc, List.dropWhile_append_of_pos blank_before]
  cases kept with
  | nil =>
      have none_left : after.dropWhile Unicode.isSpace = [] :=
        List.dropWhile_eq_nil_iff.mpr blank_after
      rw [List.nil_append, none_left, List.rdropWhile_nil]
  | cons c kept =>
      have whole : (c :: kept).rdropWhile Unicode.isSpace = c :: kept := by
        rw [List.rdropWhile_eq_self_iff]
        intro nonempty
        simpa using ends _ (List.getLast?_eq_some_getLast nonempty)
      rw [List.cons_append, List.dropWhile_cons_of_neg (by simp [starts c rfl]), ← List.cons_append,
        rdropWhile_blanks blank_after, whole]

theorem trims_trim (text : String) : Trims text.toList (trim text).toList := by
  rw [trim, String.toList_ofList]
  exact trims_trimChars text.toList

end Text

/-- The draft that is kept of a draft. -/
structure Draft.Keeps (draft kept : Draft) : Prop where
  source : Text.Trims draft.source.toList kept.source.toList
  destination : Text.Trims draft.destination.toList kept.destination.toList
  kind : kept.kind = draft.kind
  enabled : kept.enabled = draft.enabled

theorem Draft.keeps_trimmed (draft : Draft) : draft.Keeps draft.trimmed :=
  ⟨Text.trims_trim draft.source, Text.trims_trim draft.destination, rfl, rfl⟩

/-- There is one draft that is kept. -/
theorem Draft.Keeps.eq {draft kept : Draft} (keeps : draft.Keeps kept) : kept = draft.trimmed := by
  obtain ⟨source, destination, kind, enabled⟩ := keeps
  have source_eq : kept.source = Text.trim draft.source := by
    rw [Text.trim, ← source.eq, String.ofList_toList]
  have destination_eq : kept.destination = Text.trim draft.destination := by
    rw [Text.trim, ← destination.eq, String.ofList_toList]
  cases kept
  simp_all [trimmed]

/-- What is asked of the draft that is kept. -/
inductive Demand where
  /-- There is a source. -/
  | source
  /-- There is a destination. -/
  | destination
  /-- The two are not the same. -/
  | difference
  /-- The source of a pattern rule is a pattern. -/
  | pattern
deriving DecidableEq, Repr

namespace Demand

/-- The demands, in the order in which they are looked at. -/
def all : List Demand := [.source, .destination, .difference, .pattern]

/-- The draft meets the demand. -/
def Met (draft : Draft) : Demand → Prop
  | .source => draft.source ≠ ""
  | .destination => draft.destination ≠ ""
  | .difference => draft.source ≠ draft.destination
  | .pattern => draft.kind = .regex → ∃ prepared, Regex.prepare draft.source = .ok prepared

/-- The user is told the reason where the draft does not meet the demand. -/
def Told (draft : Draft) (reason : Invalidity) : Demand → Prop
  | .source => reason = .emptyField "Source URL"
  | .destination => reason = .emptyField "Destination URL"
  | .difference => reason = .sameSourceAndDestination
  | .pattern => ∃ fault, Regex.prepare draft.source = .error fault ∧
      reason = .badRegex draft.source fault.message

/-- What is said to a demand. -/
def complaint? (draft : Draft) : Demand → Option Invalidity
  | .source => if draft.source = "" then some (.emptyField "Source URL") else none
  | .destination => if draft.destination = "" then some (.emptyField "Destination URL") else none
  | .difference =>
    if draft.source = draft.destination then some .sameSourceAndDestination else none
  | .pattern =>
    match draft.kind, Regex.prepare draft.source with
    | .regex, .error fault => some (.badRegex draft.source fault.message)
    | _, _ => none

variable {draft : Draft} {reason : Invalidity}

theorem complaint?_eq_none_iff (demand : Demand) :
    demand.complaint? draft = none ↔ demand.Met draft := by
  cases demand with
  | source => simp [complaint?, Met]
  | destination => simp [complaint?, Met]
  | difference => simp [complaint?, Met]
  | pattern =>
      rw [complaint?, Met]
      cases draft.kind with
      | contains => simp
      | regex => cases Regex.prepare draft.source <;> simp

theorem complaint?_eq_some_iff (demand : Demand) :
    demand.complaint? draft = some reason ↔ ¬demand.Met draft ∧ demand.Told draft reason := by
  cases demand with
  | source => simp [complaint?, Met, Told, @eq_comm _ reason]
  | destination => simp [complaint?, Met, Told, @eq_comm _ reason]
  | difference => simp [complaint?, Met, Told, @eq_comm _ reason]
  | pattern =>
      rw [complaint?, Met, Told]
      cases draft.kind with
      | contains => simp
      | regex => cases Regex.prepare draft.source <;> simp [@eq_comm _ reason]

/-- The first demand that is not met, and what is told of it. -/
def FirstUnmet (draft : Draft) (reason : Invalidity) : Prop :=
  ∃ front demand back, all = front ++ demand :: back ∧ (∀ earlier ∈ front, earlier.Met draft) ∧
    ¬demand.Met draft ∧ demand.Told draft reason

/-- The reason against a draft is what the first of its demands to complain says. -/
theorem invalidity?_eq_findSome? (draft : Draft) :
    draft.invalidity? = all.findSome? (complaint? draft) := by
  rw [Draft.invalidity?, all]
  by_cases no_source : draft.source = ""
  · simp [complaint?, no_source]
  by_cases no_destination : draft.destination = ""
  · simp [complaint?, no_source, no_destination]
  by_cases same : draft.source = draft.destination
  · simp [complaint?, no_destination, same]
  simp only [complaint?, List.findSome?_cons, List.findSome?_nil, no_source, no_destination, same,
    if_false]
  cases draft.kind with
  | contains => rfl
  | regex => cases Regex.prepare draft.source <;> rfl

theorem invalidity?_eq_some_iff : draft.invalidity? = some reason ↔ FirstUnmet draft reason := by
  rw [invalidity?_eq_findSome?, List.findSome?_eq_some_iff]
  simp only [complaint?_eq_none_iff, complaint?_eq_some_iff]
  constructor
  · rintro ⟨front, demand, back, split, ⟨unmet, told⟩, met⟩
    exact ⟨front, demand, back, split, met, unmet, told⟩
  · rintro ⟨front, demand, back, split, met, unmet, told⟩
    exact ⟨front, demand, back, split, ⟨unmet, told⟩, met⟩

end Demand

/-- A draft is accepted exactly when the texts that are kept of it are there and differ and, in a
pattern rule, the source is a pattern.  What is saved is the draft with these texts and nothing else
changed, which is saved again as it stands.  Otherwise the error tells of the first demand that is
not met. -/
theorem validated_by_what_is_kept (draft : Draft) :
    ∃ kept, draft.Keeps kept ∧
      ((∃ saved, draft.validate = .ok saved) ↔
        kept.source ≠ "" ∧ kept.destination ≠ "" ∧ kept.source ≠ kept.destination ∧
          (kept.kind = .regex → ∃ prepared, Regex.prepare kept.source = .ok prepared)) ∧
      (∀ saved, draft.validate = .ok saved → saved = kept ∧ saved.validate = .ok saved) ∧
      ∀ error, draft.validate = .error error ↔
        ∃ reason, Demand.FirstUnmet kept reason ∧ error = .invalid reason := by
  refine ⟨draft.trimmed, draft.keeps_trimmed, ?_, fun saved accepted => ⟨?_, ?_⟩, fun error => ?_⟩
  · rw [← Draft.invalidity?_eq_none_iff]
    constructor
    · rintro ⟨saved, accepted⟩
      obtain ⟨rfl, valid⟩ := Draft.validate_eq_ok_iff.mp accepted
      exact valid
    · exact fun valid => ⟨draft.trimmed, Draft.validate_eq_ok_iff.mpr ⟨rfl, valid⟩⟩
  · exact (Draft.validate_eq_ok_iff.mp accepted).1
  · exact Draft.validate_self_iff.mpr (Draft.usable_of_validate accepted)
  · simp only [← Demand.invalidity?_eq_some_iff]
    rw [Draft.validate]
    cases draft.trimmed.invalidity? with
    | none => simp
    | some reason => simp [eq_comm]

/-- A pattern ends in a backslash once the blank behind it is gone, which is told only after its
destination is found to be another text; with a character more it is a pattern. -/
theorem validated_by_what_is_kept_escaped :
    let draft : Draft := { source := "\u2003a\\\u00a0", destination := "\ta\\ b", kind := .regex }
    let longer : Draft := { source := " a\\.\n", destination := "\u3000b ", kind := .regex }
    let kept : Draft := { source := "a\\.", destination := "b", kind := .regex }
    draft.validate = .error (.invalid (.badRegex "a\\"
        "Parsing error at position 1: Backslash without following character")) ∧
      longer.validate = .ok kept ∧ kept.validate = .ok kept := by
  intro draft longer kept
  have accepted : longer.validate = .ok kept := by decide +kernel
  obtain ⟨_, -, -, saved, -⟩ := validated_by_what_is_kept longer
  obtain ⟨found, keeps, -, -, told⟩ := validated_by_what_is_kept draft
  obtain rfl := keeps.eq
  have unmet : Demand.FirstUnmet draft.trimmed (.badRegex "a\\"
      "Parsing error at position 1: Backslash without following character") :=
    Demand.invalidity?_eq_some_iff.mp (by decide +kernel)
  exact ⟨(told _).mpr ⟨_, unmet, rfl⟩, accepted, (saved kept accepted).2⟩

end Redirects
