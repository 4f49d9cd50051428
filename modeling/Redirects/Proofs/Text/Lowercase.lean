import Mathlib.Data.List.Infix
import Mathlib.Data.List.TakeWhile
import Redirects.Proofs.Unicode.Letters
import Redirects.Text.Lowercase

/-!
# Lower case inside a text

The lower case of a text is found part by part, and what stands around a part matters to its capital
sigmas only: whether one is final depends on the nearest characters that case does not ignore.  So a
text has its own lower case wherever it stands, unless it has a sigma to which it leaves open
whether it is final.
-/

namespace Redirects.Text

open Unicode

/-! ## Parts of a text -/

/-- A sigma is final between what stands before it, nearest first, and after it. -/
def isFinalBetween (before after : List Char) : Bool := metByCased before && !metByCased after

/-- The lower case of a text between what stands before it, nearest first, and after it. -/
def lowercaseBetween (before : List Char) : List Char → List Char → List Char
  | [], _ => []
  | c :: text, after =>
    lowercaseAt before c (text ++ after) ++ lowercaseBetween (c :: before) text after

theorem lowercaseAfter_append (before front back : List Char) :
    lowercaseAfter before (front ++ back) =
      lowercaseBetween before front back ++ lowercaseAfter (front.reverse ++ before) back := by
  induction front generalizing before with
  | nil => rfl
  | cons c front ih => simp [lowercaseAfter, lowercaseBetween, ih]

theorem lowercaseChars_eq_between (text : List Char) :
    lowercaseChars text = lowercaseBetween [] text [] := by
  have whole := lowercaseAfter_append [] text []
  simpa [lowercaseChars, lowercaseAfter] using whole

theorem lowercaseBetween_append (before front back after : List Char) :
    lowercaseBetween before (front ++ back) after =
      lowercaseBetween before front (back ++ after) ++
        lowercaseBetween (front.reverse ++ before) back after := by
  induction front generalizing before with
  | nil => rfl
  | cons c front ih => simp [lowercaseBetween, ih]

/-- The lower case of a part is a part of the lower case. -/
theorem lowercaseBetween_occurs (before text after : List Char) :
    lowercaseBetween before.reverse text after <:+: lowercaseChars (before ++ text ++ after) := by
  rw [lowercaseChars, List.append_assoc, lowercaseAfter_append, lowercaseAfter_append,
    List.append_nil, ← List.append_assoc]
  exact List.infix_append _ _ _

theorem lowercaseAt_sigma (before after : List Char) :
    lowercaseAt before 'Σ' after = [if isFinalBetween before after then 'ς' else 'σ'] := rfl

theorem lowercaseAt_of_ne {c : Char} (other : c ≠ 'Σ') (before after : List Char) :
    lowercaseAt before c after = lowercaseAt [] c [] := by
  simp [lowercaseAt, other]

theorem length_lowercaseAt (c : Char) (before after : List Char) :
    (lowercaseAt before c after).length = (lowercaseAt [] c []).length := by
  by_cases sigma : c = 'Σ'
  · rw [sigma]
    rfl
  · rw [lowercaseAt_of_ne sigma]

theorem length_lowercaseBetween (before text after : List Char) :
    (lowercaseBetween before text after).length = (lowercaseChars text).length := by
  rw [lowercaseChars_eq_between]
  suffices same : ∀ before' after', (lowercaseBetween before text after).length =
      (lowercaseBetween before' text after').length from same [] []
  induction text generalizing before with
  | nil => simp [lowercaseBetween]
  | cons c text ih =>
      intro before' after'
      rw [lowercaseBetween, lowercaseBetween, List.length_append, List.length_append,
        length_lowercaseAt, length_lowercaseAt c before', ih]

theorem lowercaseChars_ne_nil {text : List Char} (nonempty : text ≠ []) :
    lowercaseChars text ≠ [] := by
  obtain ⟨c, rest, rfl⟩ := List.exists_cons_of_ne_nil nonempty
  rw [lowercaseChars, lowercaseAfter, lowercaseAt]
  split_ifs <;> simp

/-! ## Letter case in ASCII -/

theorem metByCased_map_toLower (text : List Char) :
    metByCased (text.map Char.toLower) = metByCased text := by
  induction text with
  | nil => rfl
  | cons c text ih =>
      simp only [metByCased, List.map_cons, List.dropWhile_cons, isCaseIgnorable_toLower] at ih ⊢
      split_ifs
      · exact ih
      · simp

theorem lowercaseAt_map_toLower (before : List Char) (c : Char) (after : List Char) :
    lowercaseAt (before.map Char.toLower) c.toLower (after.map Char.toLower) =
      lowercaseAt before c after := by
  have sigma := apply_toLower (fun c => c == 'Σ') (by decide) c
  have dotted := apply_toLower (fun c => c == 'İ') (by decide) c
  rw [lowercaseAt, sigma, dotted, metByCased_map_toLower, metByCased_map_toLower, lower_toLower,
    lowercaseAt]

/-- Lower case does not depend on letter case in ASCII. -/
theorem lowercaseBetween_map_toLower (before text after : List Char) :
    lowercaseBetween (before.map Char.toLower) (text.map Char.toLower) (after.map Char.toLower) =
      lowercaseBetween before text after := by
  induction text generalizing before with
  | nil => rfl
  | cons c text ih =>
      rw [List.map_cons, lowercaseBetween, ← List.map_append, lowercaseAt_map_toLower,
        ← List.map_cons, ih, lowercaseBetween]

/-- The texts are the same, letter case in ASCII aside. -/
def SameLetters (text other : List Char) : Prop :=
  text.map Char.toLower = other.map Char.toLower

theorem lowercaseBetween_congr {text variant : List Char} (same : SameLetters variant text)
    (before after : List Char) :
    lowercaseBetween before variant after = lowercaseBetween before text after := by
  rw [← lowercaseBetween_map_toLower, same, lowercaseBetween_map_toLower]

/-! ## Steady texts -/

/-- Every sigma of the text is final between what stands before the text, nearest first, and after
it if it is in the text alone. -/
def Steady (before text after : List Char) : Prop :=
  ∀ front back, text = front ++ 'Σ' :: back →
    isFinalBetween (front.reverse ++ before) (back ++ after) = isFinalBetween front.reverse back

/-- A text has its own lower case exactly where it is steady. -/
theorem steady_iff {before text after : List Char} :
    Steady before text after ↔ lowercaseBetween before text after = lowercaseChars text := by
  rw [lowercaseChars_eq_between]
  constructor
  · intro steady
    suffices rest_same : ∀ front rest, text = front ++ rest →
        lowercaseBetween (front.reverse ++ before) rest after =
          lowercaseBetween front.reverse rest [] from rest_same [] text rfl
    intro front rest
    induction rest generalizing front with
    | nil => simp [lowercaseBetween]
    | cons c rest ih =>
        rintro rfl
        have later := ih (front ++ [c]) (by simp)
        simp only [List.reverse_append, List.reverse_singleton, List.cons_append,
          List.nil_append] at later
        rw [lowercaseBetween, lowercaseBetween, List.append_nil, later]
        by_cases sigma : c = 'Σ'
        · subst sigma
          rw [lowercaseAt_sigma, lowercaseAt_sigma, steady front rest rfl]
        · rw [lowercaseAt_of_ne sigma, lowercaseAt_of_ne sigma front.reverse]
  · rintro same front back rfl
    rw [lowercaseBetween_append, lowercaseBetween_append] at same
    have lengths : (lowercaseBetween before front ('Σ' :: back ++ after)).length =
        (lowercaseBetween [] front ('Σ' :: back ++ [])).length := by
      rw [length_lowercaseBetween, length_lowercaseBetween]
    have at_sigma := (List.append_inj same lengths).2
    simp only [lowercaseBetween, lowercaseAt_sigma, List.append_nil,
      List.singleton_append] at at_sigma
    have letters := (List.cons.inj at_sigma).1
    revert letters
    cases isFinalBetween (front.reverse ++ before) (back ++ after) <;>
      cases isFinalBetween front.reverse back <;> simp

/-- Where a text is steady, its lower case occurs in the lower case of what is around it, and so it
does where another text stands that is the same but for letter case in ASCII. -/
theorem Steady.occurs {before variant after text : List Char}
    (steady : Steady before.reverse text after) (same : SameLetters variant text) :
    lowercaseChars text <:+: lowercaseChars (before ++ variant ++ after) := by
  rw [← steady_iff.mp steady, ← lowercaseBetween_congr same]
  exact lowercaseBetween_occurs before variant after

/-- There is nothing that case does not ignore. -/
def Ignorable (text : List Char) : Prop := ∀ c ∈ text, isCaseIgnorable c = true

theorem metByCased_append_of_ignorable {front : List Char} (ignorable : Ignorable front)
    (back : List Char) : metByCased (front ++ back) = metByCased back := by
  rw [metByCased, List.dropWhile_append_of_pos ignorable, metByCased]

theorem metByCased_of_ignorable {text : List Char} (ignorable : Ignorable text) :
    metByCased text = false := by
  simpa [metByCased] using metByCased_append_of_ignorable ignorable []

theorem metByCased_append_of_visible {front : List Char} (visible : ¬Ignorable front)
    (back : List Char) : metByCased (front ++ back) = metByCased front := by
  have left : front.dropWhile isCaseIgnorable ≠ [] := by
    rwa [Ne, List.dropWhile_eq_nil_iff]
  have not_empty : ¬(front.dropWhile isCaseIgnorable).isEmpty = true := by simpa using left
  rw [metByCased, List.dropWhile_append, if_neg not_empty, List.head?_append_of_ne_nil _ left,
    metByCased]

theorem ignorable_reverse_iff {text : List Char} : Ignorable text.reverse ↔ Ignorable text := by
  simp [Ignorable]

/-- There is a sigma that may be final in a text around it if it is not so alone, or the other way
round: case ignores everything on one side of it, and the other side does not settle it. -/
def LooseSigma (text : List Char) : Prop :=
  ∃ front back, text = front ++ 'Σ' :: back ∧
    (Ignorable front ∧ metByCased back = false ∨ metByCased front.reverse = true ∧ Ignorable back)

theorem LooseSigma.mem {text : List Char} (loose : LooseSigma text) : 'Σ' ∈ text := by
  obtain ⟨front, back, rfl, -⟩ := loose
  simp

/-- A text without a loose sigma is steady wherever it stands. -/
theorem steady_of_not_looseSigma {text : List Char} (settled : ¬LooseSigma text)
    (before after : List Char) : Steady before text after := by
  rintro front back rfl
  have no_loose : ¬(Ignorable front ∧ metByCased back = false) ∧
      ¬(metByCased front.reverse = true ∧ Ignorable back) := by
    rw [← not_or]
    exact fun loose => settled ⟨front, back, rfl, loose⟩
  by_cases ignored : Ignorable front
  · -- The cased character behind the sigma stays the nearest one there.
    have cased : metByCased back = true := by
      simpa using fun uncased => no_loose.1 ⟨ignored, uncased⟩
    have visible : ¬Ignorable back := fun ignored => by
      rw [metByCased_of_ignorable ignored] at cased
      contradiction
    simp [isFinalBetween, metByCased_append_of_visible visible, cased]
  · have front_settled : metByCased (front.reverse ++ before) = metByCased front.reverse :=
      metByCased_append_of_visible (mt ignorable_reverse_iff.mp ignored) before
    by_cases ignored : Ignorable back
    · have uncased : metByCased front.reverse = false := by
        simpa using fun cased => no_loose.2 ⟨cased, ignored⟩
      simp [isFinalBetween, front_settled, uncased]
    · rw [isFinalBetween, isFinalBetween, front_settled, metByCased_append_of_visible ignored]

/-- A letter in front of a text with a loose sigma or behind it makes the text unsteady. -/
theorem LooseSigma.not_steady {text : List Char} (loose : LooseSigma text) :
    (∀ letter, isCaseIgnorable letter = false → isCased letter = true →
      ¬Steady [letter] text []) ∨
    ∀ letter, isCaseIgnorable letter = false → isCased letter = true →
      ¬Steady [] text [letter] := by
  obtain ⟨front, back, rfl, ⟨ignored, uncased⟩ | ⟨cased, ignored⟩⟩ := loose
  · refine .inl fun letter visible letter_cased steady => ?_
    have same := steady front back rfl
    rw [isFinalBetween, isFinalBetween, List.append_nil,
      metByCased_append_of_ignorable (ignorable_reverse_iff.mpr ignored),
      metByCased_of_ignorable (ignorable_reverse_iff.mpr ignored), uncased] at same
    simp [metByCased, visible, letter_cased] at same
  · refine .inr fun letter visible letter_cased steady => ?_
    have same := steady front back rfl
    rw [isFinalBetween, isFinalBetween, List.append_nil, metByCased_append_of_ignorable ignored,
      metByCased_of_ignorable ignored, cased] at same
    simp [metByCased, visible, letter_cased] at same

/-- A letter with case that is its own lower case. -/
structure IsSmallLetter (letter : Char) : Prop where
  visible : isCaseIgnorable letter = false
  cased : isCased letter = true
  lowercase_eq (before after : List Char) : lowercaseAt before letter after = [letter]

theorem exists_smallLetter_ne (avoided : Option Char) :
    ∃ letter, IsSmallLetter letter ∧ avoided ≠ some letter := by
  have small_a : IsSmallLetter 'a' :=
    ⟨isCaseIgnorable_letter (.inr (by decide)), by decide, fun _ _ => rfl⟩
  have small_b : IsSmallLetter 'b' :=
    ⟨isCaseIgnorable_letter (.inr (by decide)), by decide, fun _ _ => rfl⟩
  by_cases taken : avoided = some 'a'
  · exact ⟨'b', small_b, by simp [taken]⟩
  · exact ⟨'a', small_a, taken⟩

/-- A text with a loose sigma occurs in a text whose lower case its own lower case does not occur
in. -/
theorem LooseSigma.exists_missed {text : List Char} (loose : LooseSigma text) :
    ∃ whole, text <:+: whole ∧ ¬lowercaseChars text <:+: lowercaseChars whole := by
  rcases loose.not_steady with unsteady | unsteady
  · obtain ⟨letter, small, first_ne⟩ := exists_smallLetter_ne (lowercaseChars text).head?
    have changed := mt steady_iff.mpr (unsteady letter small.visible small.cased)
    have same_length := length_lowercaseBetween [letter] text []
    have whole_eq : lowercaseChars (letter :: text) =
        letter :: lowercaseBetween [letter] text [] := by
      rw [lowercaseChars_eq_between, lowercaseBetween, small.lowercase_eq, List.singleton_append]
    refine ⟨letter :: text, (List.suffix_cons letter text).isInfix, fun occurs => ?_⟩
    rw [whole_eq, List.infix_cons_iff] at occurs
    rcases occurs with at_front | inside
    · cases lower_eq : lowercaseChars text with
      | nil =>
          rw [lower_eq] at same_length changed
          exact changed (List.length_eq_zero_iff.mp same_length)
      | cons c rest =>
          rw [lower_eq] at at_front first_ne
          exact first_ne (congrArg some (List.cons_prefix_cons.mp at_front).1)
    · exact changed (inside.eq_of_length same_length.symm).symm
  · obtain ⟨letter, small, last_ne⟩ := exists_smallLetter_ne (lowercaseChars text).getLast?
    have changed := mt steady_iff.mpr (unsteady letter small.visible small.cased)
    have same_length := length_lowercaseBetween [] text [letter]
    have whole_eq : lowercaseChars (text ++ [letter]) =
        lowercaseBetween [] text [letter] ++ [letter] := by
      rw [lowercaseChars_eq_between, lowercaseBetween_append, lowercaseBetween,
        small.lowercase_eq]
      simp [lowercaseBetween]
    refine ⟨text ++ [letter], (List.prefix_append text [letter]).isInfix, fun occurs => ?_⟩
    rw [whole_eq, List.infix_concat_iff] at occurs
    rcases occurs with at_end | inside
    · rcases List.suffix_concat_iff.mp at_end with lower_eq | ⟨front, lower_eq, -⟩
      · rw [lower_eq] at same_length changed
        exact changed (List.length_eq_zero_iff.mp same_length)
      · exact last_ne (by rw [lower_eq, List.getLast?_concat])
    · exact changed (inside.eq_of_length same_length.symm).symm

end Redirects.Text
