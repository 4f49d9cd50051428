import Redirects.Proofs.Regex.Planning
import Redirects.Proofs.Regex.Scan
import Redirects.Proofs.Regex.Spelling

/-!
# Finding guarded texts

A guarded text without a text that must not follow is found exactly where its characters occur, as
long as its automaton fits.  Any other guarded text is found exactly if its signs end somewhere and
the search comes to the first such place within the limits.
-/

namespace Redirects.Regex

variable {limits : Limits} {text : Array Char}

/-- The pattern occurs in the text, as far as matching within the limits shows. A pattern with a
fault occurs nowhere. -/
def matchesWithin (limits : Limits) (pattern text : String) : Bool :=
  match prepareWithin limits pattern with
  | .ok prepared => (prepared.findWithin? limits text.toList.toArray).isSome
  | .error _ => false

theorem matchesWithin_default : matchesWithin {} = matchesIn := rfl

/-- The pattern that writes signs. -/
def writtenText (signs : List Sign) : String := String.ofList (signs.flatMap Sign.written)

theorem danglingFrom_signs (signs : List Sign) (opened : Nat) :
    (Term.inSequence (signs.map Sign.term)).danglingFrom opened = (false, opened) := by
  have chars_settled (chars : List Char) (opened : Nat) :
      (Term.inSequence (chars.map (Term.char false))).danglingFrom opened = (false, opened) := by
    induction chars generalizing opened with
    | nil => rfl
    | cons c chars ih =>
        by_cases last : chars = []
        · rw [last]
          rfl
        · rw [List.map_cons, Term.inSequence_cons (by simpa using last), Term.danglingFrom]
          simp only [Term.danglingFrom, ih, Bool.or_self]
  have sign_settled (sign : Sign) (opened : Nat) :
      sign.term.danglingFrom opened = (false, opened) := by
    cases sign with
    | plain c => rfl
    | barred chars => exact chars_settled chars opened
  induction signs generalizing opened with
  | nil => rfl
  | cons sign signs ih =>
      by_cases last : signs = []
      · rw [last]
        exact sign_settled sign opened
      · rw [List.map_cons, Term.inSequence_cons (by simpa using last), Term.danglingFrom]
        simp only [sign_settled, ih, Bool.or_self]

theorem prepareWithin_writtenText (limits : Limits) (signs : List Sign) :
    prepareWithin limits (writtenText signs) =
      if signs.any Sign.isBarred then do
        let (plan, slots) ←
          ((Term.inSequence (signs.map Sign.term)).plan limits [] (.alone false)).run 2
        return .planned plan slots 0
      else do
        return .classical
          (← Planner.classical limits (Term.inSequence (signs.map Sign.term))).automaton := by
  have settled : (Term.inSequence (signs.map Sign.term)).hasDanglingReference = false := by
    rw [Term.hasDanglingReference, danglingFrom_signs]
  rw [prepareWithin, writtenText, String.toList_ofList, readPattern_signs]
  change Written.prepare limits ⟨Term.inSequence (signs.map Sign.term), 0, []⟩ = _
  rw [Written.prepare, settled, if_neg Bool.false_ne_true, Term.beyondClassical_signs]
  rfl

/-! ## Plain characters -/

theorem classical_plain (limits : Limits) (chars : List Char) :
    Planner.classical limits (Term.inSequence (chars.map (Term.char false))) =
      if limits.size.all (Classical.spelling chars).fits then .ok (Classical.spelling chars)
      else .error .tooLarge :=
  Planner.classical_of_shallow (Term.classical?_inSequence limits.vast chars)
    (Nat.le_trans (Classical.nesting_spelling chars) (by decide))

/-- A pattern of plain characters is found exactly where they occur, if its automaton fits. -/
theorem matchesWithin_plain {limits : Limits} {chars : List Char} {text : String} :
    matchesWithin limits (writtenText (chars.map .plain)) text = true ↔
      limits.size.all (Classical.spelling chars).fits = true ∧ chars <:+: text.toList := by
  rw [matchesWithin, prepareWithin_writtenText, Sign.any_isBarred_plain, if_neg Bool.false_ne_true,
    Sign.map_term_plain, classical_plain]
  by_cases fits : limits.size.all (Classical.spelling chars).fits = true
  · have found := Automaton.find?_isSome_of_spells (Classical.spells_automaton chars)
      (length_lt_patience chars text.toList.toArray)
    simp only [fits, true_and]
    rw [← found]
    simp [Prepared.findWithin?, bind, Except.bind, pure, Except.pure]
  · simp [fits, bind, Except.bind]

/-- The most bytes of a text whose automaton fits into the usual limits. -/
def Limits.usualBytes : Nat := 327673

/-- Within the usual limits, a text is found exactly where it occurs, if it is not too long. -/
theorem matchesIn_plain_iff {needle : List Char} {text : String} :
    matchesIn (writtenText (needle.map .plain)) text = true ↔
      Text.byteLength needle ≤ Limits.usualBytes ∧ needle <:+: text.toList := by
  rw [← matchesWithin_default, matchesWithin_plain]
  apply and_congr_left'
  refine Classical.fits_spelling.trans ?_
  simp only [stateBytes, Limits.usualBytes, Nat.pow_eq]
  omega

/-! ## Texts that must not follow -/

theorem prepareWithin_guarded (roomy : limits.size.all Classical.empty.fits = true)
    (chars excluded : List Char) (signs : List Sign) :
    ∃ plan, prepareWithin limits (writtenText (chars.map .plain ++ .barred excluded :: signs)) =
        .ok (.planned plan 2 0) ∧
      plan.Carries (chars.map .plain ++ .barred excluded :: signs) ∧
      plan.duration ≤ 4 * signs.length + 6 := by
  obtain ⟨plan, plan_eq, carries, brief⟩ := plan_guarded roomy chars excluded signs 2
  refine ⟨plan, ?_, carries, brief⟩
  rw [prepareWithin_writtenText, if_pos (by simp [Sign.isBarred]), StateT.run, plan_eq]
  rfl

section Guarded

variable (roomy : limits.size.all Classical.empty.fits = true)
  (wide : exceeds 2 limits.branches = false) {chars excluded : List Char} {signs : List Sign}
  {text : String}
include roomy wide

/-- A guarded text that is found ends at a place within the limit. -/
theorem exists_firstEnd_of_matchesWithin
    (found : matchesWithin limits (writtenText (chars.map .plain ++ .barred excluded :: signs))
      text = true) :
    ∃ place, Plan.FirstEnd limits text.toList.toArray
      (endFrom? text.toList.toArray (chars.map .plain ++ .barred excluded :: signs))
      (missedFrom text.toList.toArray (chars.map .plain ++ .barred excluded :: signs)) place := by
  obtain ⟨plan, plan_eq, carries, -⟩ := prepareWithin_guarded roomy chars excluded signs
  have room := within_of_le (Nat.add_le_add_left carries.height_le 1) wide
  rw [matchesWithin, plan_eq] at found
  exact Prepared.exists_firstEnd_of_isSome (fun place => .single (carries.ends _ place)) room 0 found

/-- A guarded text that ends at a place within the limit is found, if there are steps enough. -/
theorem matchesWithin_of_firstEnd {place : Nat}
    (first : Plan.FirstEnd limits text.toList.toArray
      (endFrom? text.toList.toArray (chars.map .plain ++ .barred excluded :: signs))
      (missedFrom text.toList.toArray (chars.map .plain ++ .barred excluded :: signs)) place)
    (patient : (place + 1) * (4 * signs.length + 10) + 2 ≤ limits.steps) :
    matchesWithin limits (writtenText (chars.map .plain ++ .barred excluded :: signs))
      text = true := by
  obtain ⟨plan, plan_eq, carries, brief⟩ := prepareWithin_guarded roomy chars excluded signs
  have room := within_of_le (Nat.add_le_add_left carries.height_le 1) wide
  have shorter : (place + 1) * (plan.duration + 4) ≤ (place + 1) * (4 * signs.length + 10) :=
    Nat.mul_le_mul_left _ (by omega)
  rw [matchesWithin, plan_eq]
  exact Prepared.isSome_of_firstEnd (fun place => .single (carries.ends _ place)) room first (by omega) 0

end Guarded

/-! ## A text that another must not follow -/

/-- The text stands at the place, and the excluded one does not stand behind it. -/
def StandsFree (text : Array Char) (needle excluded : List Char) (place : Nat) : Prop :=
  standsAt text needle place = true ∧ ¬standsAt text excluded (place + needle.length) = true

instance (needle excluded : List Char) (place : Nat) :
    Decidable (StandsFree text needle excluded place) :=
  inferInstanceAs (Decidable (_ ∧ _))

theorem endFrom?_followed (needle excluded : List Char) (place : Nat) :
    endFrom? text (needle.map .plain ++ [.barred excluded]) place =
      if StandsFree text needle excluded place then some (place + needle.length) else none := by
  rw [endFrom?_append, endFrom?_plain]
  by_cases stands : standsAt text needle place = true
  · by_cases behind : standsAt text excluded (place + needle.length) = true <;>
      simp [StandsFree, stands, endFrom?, behind]
  · simp [StandsFree, stands]

theorem missedFrom_followed (needle excluded : List Char) (place : Nat) :
    missedFrom text (needle.map .plain ++ [.barred excluded]) place =
      if StandsFree text needle excluded place then 1 else 0 := by
  rw [missedFrom_append, missedFrom_plain, endFrom?_plain]
  by_cases stands : standsAt text needle place = true
  · by_cases behind : standsAt text excluded (place + needle.length) = true <;>
      simp [StandsFree, stands, missedFrom, behind]
  · simp [StandsFree, stands]

theorem exists_standsFree_iff {needle excluded text : List Char} {limit : Nat} :
    (∃ place < limit, place ≤ text.length ∧ StandsFree text.toArray needle excluded place) ↔
      ∃ before after, text = before ++ needle ++ after ∧ ¬excluded <+: after ∧
        before.length < limit := by
  simp only [StandsFree, standsAt_iff]
  constructor
  · rintro ⟨place, lt, inside, ⟨after, stands⟩, free⟩
    refine ⟨text.take place, after, ?_, ?_, ?_⟩
    · rw [List.append_assoc, stands, List.take_append_drop]
    · rwa [← List.drop_drop, ← stands, List.drop_left] at free
    · rwa [List.length_take, Nat.min_eq_left inside]
  · rintro ⟨before, after, rfl, free, lt⟩
    refine ⟨before.length, lt, by simp, by simp, ?_⟩
    rwa [← List.length_append, List.drop_left]

/-- Up to the first place where it ends, a search comes back once at each place. -/
theorem spentBefore_followed {needle excluded : List Char} {place : Nat}
    (before : ∀ earlier < place,
      endFrom? text (needle.map .plain ++ [.barred excluded]) earlier = none) :
    spentBefore (missedFrom text (needle.map .plain ++ [.barred excluded])) place = place := by
  apply spentBefore_eq_self
  intro earlier lt
  have away : ¬StandsFree text needle excluded earlier := by
    intro free
    have ends := before earlier lt
    rw [endFrom?_followed, if_pos free] at ends
    contradiction
  rw [missedFrom_followed, if_neg away]

/-- How many places the usual limits let a search try. -/
def Limits.usualPlaces : Nat := 1000000

theorem within_followed_iff {needle excluded : List Char} {place : Nat}
    (before : ∀ earlier < place,
      endFrom? text (needle.map .plain ++ [.barred excluded]) earlier = none)
    (free : StandsFree text needle excluded place) :
    exceeds (spentBefore (missedFrom text (needle.map .plain ++ [.barred excluded])) place +
        missedFrom text (needle.map .plain ++ [.barred excluded]) place) ({} : Limits).retreats =
      false ↔ place < Limits.usualPlaces := by
  rw [spentBefore_followed before, missedFrom_followed, if_pos free]
  simp only [exceeds, decide_eq_false_iff_not, Limits.usualPlaces]
  omega

/-- Within the usual limits, a text that another must not follow is found exactly if it stands
somewhere without the other behind it, and that not too far from the front. -/
theorem matchesIn_followed_iff {needle excluded : List Char} {text : String} :
    matchesIn (writtenText (needle.map .plain ++ [.barred excluded])) text = true ↔
      ∃ before after, text.toList = before ++ needle ++ after ∧ ¬excluded <+: after ∧
        before.length < Limits.usualPlaces := by
  have free_of_end {place : Nat} (ends : (endFrom? text.toList.toArray
      (needle.map .plain ++ [.barred excluded]) place).isSome = true) :
      StandsFree text.toList.toArray needle excluded place := by
    rwa [endFrom?_followed, Option.isSome_ite] at ends
  rw [← matchesWithin_default, ← exists_standsFree_iff]
  constructor
  · intro found
    obtain ⟨place, first⟩ := exists_firstEnd_of_matchesWithin rfl rfl found
    have free := free_of_end first.ends
    exact ⟨place, (within_followed_iff first.before free).mp first.within, first.inside, free⟩
  · rintro ⟨place, lt, inside, free⟩
    have ends : (endFrom? text.toList.toArray (needle.map .plain ++ [.barred excluded])
        place).isSome = true := by
      rwa [endFrom?_followed, Option.isSome_ite]
    have within : ∀ first ≤ place, (∀ earlier < first, endFrom? text.toList.toArray
          (needle.map .plain ++ [.barred excluded]) earlier = none) →
        exceeds (spentBefore (missedFrom text.toList.toArray
            (needle.map .plain ++ [.barred excluded])) first +
          missedFrom text.toList.toArray (needle.map .plain ++ [.barred excluded]) first)
          ({} : Limits).retreats = false := by
      intro first first_le before
      rw [Limits.usualPlaces] at lt
      rw [spentBefore_followed before, missedFrom_followed]
      simp only [exceeds, decide_eq_false_iff_not]
      split <;> omega
    obtain ⟨first, first_end⟩ := Plan.exists_firstEnd within inside ends
    have reached : first < Limits.usualPlaces :=
      (within_followed_iff first_end.before (free_of_end first_end.ends)).mp first_end.within
    apply matchesWithin_of_firstEnd rfl rfl first_end
    rw [Limits.usualPlaces] at reached
    simp only [List.length_nil, Nat.pow_eq]
    omega

/-! ## Limits out of reach -/

theorem exists_endFrom?_plain_iff {chars text : List Char} :
    (∃ place ≤ text.length, (endFrom? text.toArray (chars.map .plain) place).isSome = true) ↔
      chars <:+: text := by
  simp only [endFrom?_plain, Option.isSome_ite, standsAt_iff, Text.infix_iff_exists_drop]

/-- Whatever is found ends somewhere. -/
theorem exists_end_of_matchesWithin (roomy : limits.size.all Classical.empty.fits = true)
    (wide : exceeds 2 limits.branches = false) {signs : List Sign} {text : String}
    (found : matchesWithin limits (writtenText signs) text = true) :
    ∃ place ≤ text.toList.length, (endFrom? text.toList.toArray signs place).isSome = true := by
  cases barred : signs.any Sign.isBarred with
  | false =>
      obtain ⟨chars, rfl⟩ := Sign.exists_chars barred
      exact exists_endFrom?_plain_iff.mpr (matchesWithin_plain.mp found).2
  | true =>
      obtain ⟨chars, excluded, rest, rfl⟩ := Sign.exists_barred barred
      obtain ⟨place, first⟩ := exists_firstEnd_of_matchesWithin roomy wide found
      exact ⟨place, first.inside, first.ends⟩

/-- Limits that a search for signs in a text cannot reach. -/
structure Limits.Ample (limits : Limits) (signs : List Sign) (text : String) : Prop where
  size : ∀ chars : List Char, chars.length ≤ signs.length →
    limits.size.all (Classical.spelling chars).fits = true
  branches : exceeds 2 limits.branches = false
  retreats : exceeds ((text.toList.length + 1) * (signs.length + 1)) limits.retreats = false
  steps : (text.toList.length + 1) * (4 * signs.length + 10) + 2 ≤ limits.steps

/-- No bounds but on the number of steps. -/
def Limits.unbounded (steps : Nat) : Limits :=
  { size := none, retreats := none, branches := none, steps }

theorem Limits.ample_unbounded {signs : List Sign} {text : String} {steps : Nat}
    (enough : (text.toList.length + 1) * (4 * signs.length + 10) + 2 ≤ steps) :
    (unbounded steps).Ample signs text where
  size _ _ := rfl
  branches := rfl
  retreats := rfl
  steps := enough

/-- The usual limits are out of reach for short texts. -/
theorem Limits.ample_default {signs : List Sign} {text : String}
    (short : (text.toList.length + 1) * (signs.length + 1) ≤ 80000) :
    (({} : Limits).Ample signs text) where
  size chars chars_le := by
    have bytes_le := Text.byteLength_le chars
    have few : signs.length + 1 ≤ 80000 :=
      Nat.le_trans (Nat.le_mul_of_pos_left _ (Nat.succ_pos _)) short
    apply Classical.fits_spelling.mpr
    simp only [stateBytes, Nat.pow_eq]
    omega
  branches := rfl
  retreats := by
    simp only [exceeds, decide_eq_false_iff_not]
    omega
  steps := by
    have wider : (text.toList.length + 1) * (4 * signs.length + 10) ≤
        (text.toList.length + 1) * (signs.length + 1) * 10 := by
      rw [Nat.mul_assoc]
      exact Nat.mul_le_mul_left _ (by omega)
    simp only [Nat.pow_eq]
    omega

theorem Limits.Ample.matchesWithin_iff {signs : List Sign} {text : String}
    (ample : limits.Ample signs text) :
    matchesWithin limits (writtenText signs) text = true ↔
      ∃ place ≤ text.toList.length, (endFrom? text.toList.toArray signs place).isSome = true := by
  have roomy := ample.size [] (Nat.zero_le _)
  refine ⟨exists_end_of_matchesWithin roomy ample.branches, ?_⟩
  rintro ⟨place, inside, ends⟩
  cases barred : signs.any Sign.isBarred with
  | false =>
      obtain ⟨chars, rfl⟩ := Sign.exists_chars barred
      exact matchesWithin_plain.mpr
        ⟨ample.size chars (by simp), exists_endFrom?_plain_iff.mp ⟨place, inside, ends⟩⟩
  | true =>
      obtain ⟨chars, excluded, rest, signs_eq⟩ := Sign.exists_barred barred
      have within : ∀ first ≤ place, (∀ earlier < first,
            endFrom? text.toList.toArray signs earlier = none) →
          exceeds (spentBefore (missedFrom text.toList.toArray signs) first +
            missedFrom text.toList.toArray signs first) limits.retreats = false := by
        intro first first_le _
        -- at each place at most one retreat for each sign and one to the next place
        apply within_of_le ?_ ample.retreats
        have missed_le (place : Nat) : missedFrom text.toList.toArray signs place ≤ signs.length :=
          missedFrom_le signs place
        calc spentBefore (missedFrom text.toList.toArray signs) first +
              missedFrom text.toList.toArray signs first
          _ ≤ first * (signs.length + 1) + (signs.length + 1) :=
            Nat.add_le_add (spentBefore_le missed_le first) (Nat.le_succ_of_le (missed_le first))
          _ = (first + 1) * (signs.length + 1) := (Nat.succ_mul _ _).symm
          _ ≤ (text.toList.length + 1) * (signs.length + 1) :=
            Nat.mul_le_mul_right _ (Nat.succ_le_succ (Nat.le_trans first_le inside))
      obtain ⟨first, first_end⟩ := Plan.exists_firstEnd within inside ends
      have reached : first + 1 ≤ text.toList.length + 1 := Nat.succ_le_succ first_end.inside
      have shorter : 4 * rest.length + 10 ≤ 4 * signs.length + 10 := by
        rw [signs_eq, List.length_append, List.length_cons]
        omega
      have patient : (first + 1) * (4 * rest.length + 10) + 2 ≤ limits.steps :=
        Nat.le_trans (Nat.add_le_add_right (Nat.mul_le_mul reached shorter) 2) ample.steps
      rw [signs_eq] at first_end ⊢
      exact matchesWithin_of_firstEnd roomy ample.branches first_end patient

end Redirects.Regex
