import Mathlib.Tactic.Choose
import Redirects.Proofs.Regex.Finding
import Redirects.Proofs.Regex.Inside.Branches

/-!
# Choices between guarded texts

Guarded texts with bars between them are read branch by branch.  If the first is guarded by a text
that must not follow and the others are plain, the pattern is found at the first place where the
first stands without that text or any other stands.
-/

namespace Redirects.Regex

/-- Guarded texts to choose from, as they are written. -/
def writtenChoice (first : List Sign) (others : List (List Sign)) : List Char :=
  first.flatMap Sign.written ++ others.flatMap fun signs => '|' :: signs.flatMap Sign.written

theorem writtenChoice_cons (sign : Sign) (first : List Sign) (others : List (List Sign)) :
    writtenChoice (sign :: first) others = sign.written ++ writtenChoice first others := by
  simp [writtenChoice]

/-- The choice between guarded texts. -/
def Term.ofChoice (first : List Sign) (others : List (List Sign)) : Term :=
  .inChoice (.inSequence (first.map Sign.term))
    (others.map fun signs => .inSequence (signs.map Sign.term))

/-! ## Reading -/

namespace Reader

theorem follows_bar (rest : List Char) : Follows ('|' :: rest) := ⟨rfl, fun _ => rfl⟩

theorem parts_bar (group : Reader Term) (rest : List Char) (fuel position : Nat) :
    parts group fuel (before ('|' :: rest) position) = .ok ([], before ('|' :: rest) position) := by
  cases fuel with
  | zero => rfl
  | succ fuel =>
      have stays : atom group (before ('|' :: rest) position) =
          .ok (.empty, before ('|' :: rest) position) := rfl
      rw [parts, bind_ok (position_before _ _), bind_ok (left_before _ _), List.isEmpty_cons,
        if_neg Bool.false_ne_true, bind_ok (part_of_atom stays (follows_bar rest)),
        bind_ok (position_before _ _), if_pos (beq_self_eq_true position)]
      rfl

/-- A guarded text is read up to the next bar or to the end. -/
theorem parts_signs_before {group : Reader Term} {signs : List Sign}
    (readable : ∀ sign ∈ signs, ReadsSign group sign) {rest : List Char}
    (ends : rest = [] ∨ ∃ more, rest = '|' :: more) {fuel : Nat} (enough : signs.length < fuel)
    (position : Nat) :
    parts group fuel (before (signs.flatMap Sign.written ++ rest) position) =
      .ok (signs.map Sign.term,
        before rest (position + Text.byteLength (signs.flatMap Sign.written))) := by
  obtain ⟨fuel, rfl⟩ : ∃ more, fuel = signs.length + more := ⟨fuel - signs.length, by omega⟩
  rcases ends with rfl | ⟨more, rfl⟩
  · exact parts_signs readable .finish enough position
  · rw [parts_signs_append readable (follows_bar more), bind_ok (parts_bar group more fuel _),
      List.append_nil]
    rfl

/-- Guarded texts with bars between them are read as branches in turn. -/
theorem ways_signs {group : Reader Term} (readable : ∀ sign, ReadsSign group sign)
    {signs : List Sign} {others : List (List Sign)} {first length fuel : Nat}
    (first_fits : signs.length < first) (fits : ∀ other ∈ others, other.length < length)
    (enough : others.length < fuel) (position : Nat) :
    ways group first length fuel (before (writtenChoice signs others) position) =
      .ok ((signs.map Sign.term, others.map fun other => Term.inSequence (other.map Sign.term)),
        before [] (position + Text.byteLength (writtenChoice signs others))) := by
  induction others generalizing signs first fuel position with
  | nil =>
      obtain ⟨fuel, rfl⟩ : ∃ more, fuel = more + 1 := ⟨fuel - 1, by omega⟩
      have read := parts_signs_before (fun sign _ => readable sign) (.inl rfl) first_fits position
      rw [List.append_nil] at read
      rw [writtenChoice, List.flatMap_nil, List.append_nil, ways, bind_ok read]
      rfl
  | cons other others ih =>
      obtain ⟨fuel, rfl⟩ : ∃ more, fuel = more + 1 := ⟨fuel - 1, by omega⟩
      have bar : writtenChoice signs (other :: others) =
          signs.flatMap Sign.written ++ '|' :: writtenChoice other others := by
        simp [writtenChoice]
      have read := parts_signs_before (fun sign _ => readable sign)
        (.inr ⟨writtenChoice other others, rfl⟩) first_fits position
      let stop := position + Text.byteLength (signs.flatMap Sign.written)
      have accepted : accept '|' (before ('|' :: writtenChoice other others) stop) =
          .ok (true, before (writtenChoice other others) (stop + 1)) := rfl
      have back := ih (fits other List.mem_cons_self)
        (fun another listed => fits another (List.mem_cons_of_mem other listed))
        (Nat.lt_of_succ_lt_succ enough) (stop + 1)
      have behind : branches group length (fuel + 1)
          (before ('|' :: writtenChoice other others) stop) =
          .ok ((other :: others).map fun other => Term.inSequence (other.map Sign.term),
            before [] (stop + 1 + Text.byteLength (writtenChoice other others))) := by
        rw [branches_succ, bind_ok accepted, if_pos rfl, bind_ok back]
        rfl
      have bytes_eq : stop + 1 + Text.byteLength (writtenChoice other others) =
          position + Text.byteLength
            (signs.flatMap Sign.written ++ '|' :: writtenChoice other others) := by
        have one_byte : '|'.utf8Size = 1 := by decide
        rw [Text.byteLength_append, Text.byteLength_cons, one_byte]
        omega
      rw [bar, ways, bind_ok read, bind_ok (blanks_before rfl stop), bind_ok behind, bytes_eq]
      rfl

/-- A choice has no fewer characters than any of its branches has signs, and than it has bars. -/
theorem length_le_length_choice (first : List Sign) (others : List (List Sign)) :
    first.length ≤ (writtenChoice first others).length ∧
      (∀ other ∈ others, other.length ≤ (writtenChoice first others).length) ∧
        others.length ≤ (writtenChoice first others).length := by
  have first_le := length_le_length_written first
  have others_le : (∀ other ∈ others, other.length ≤
      (others.flatMap fun signs => '|' :: signs.flatMap Sign.written).length) ∧
        others.length ≤ (others.flatMap fun signs => '|' :: signs.flatMap Sign.written).length := by
    induction others with
    | nil => simp
    | cons other others ih =>
        have other_le := length_le_length_written other
        simp only [List.flatMap_cons, List.length_append, List.length_cons, List.mem_cons]
        refine ⟨?_, by omega⟩
        rintro another (rfl | listed)
        · omega
        · have another_le := ih.1 another listed
          omega
  simp only [writtenChoice, List.length_append]
  exact ⟨by omega, fun other listed => Nat.le_trans (others_le.1 other listed)
    (Nat.le_add_left _ _), by omega⟩

end Reader

/-- Guarded texts with bars between them are read as the choice between them. -/
theorem readPattern_choice (first : List Sign) (others : List (List Sign)) :
    readPattern (writtenChoice first others) = .ok ⟨.ofChoice first others, 0, []⟩ := by
  have readable (sign : Sign) : Reader.ReadsSign (Reader.group (Reader.pattern (maxDepth - 1))) sign :=
    Reader.readsSign_group (Reader.group (Reader.pattern (maxDepth - 2))) sign
  have read : Reader.pattern maxDepth { rest := writtenChoice first others } =
      .ok (.ofChoice first others, Reader.before [] (Text.byteLength (writtenChoice first others))) := by
    obtain ⟨first_le, others_le, count_le⟩ := Reader.length_le_length_choice first others
    have ways_read := Reader.ways_signs readable (Nat.lt_succ_of_le first_le)
      (fun other listed => Nat.lt_succ_of_le (others_le other listed))
      (Nat.lt_succ_of_le count_le) 0
    rw [Nat.zero_add] at ways_read
    change Reader.choice (Reader.group (Reader.pattern (maxDepth - 1)))
      (Reader.before (writtenChoice first others) 0) = _
    rw [Reader.choice_eq, bind_ok (Reader.left_before _ _), Reader.choiceBehind, bind_ok ways_read]
    cases others <;> rfl
  exact readPattern_of_ok read rfl

/-! ## Planning -/

theorem danglingFrom_choice (first : List Sign) (others : List (List Sign)) (opened : Nat) :
    (Term.ofChoice first others).danglingFrom opened = (false, opened) := by
  induction others generalizing first with
  | nil => exact danglingFrom_signs first opened
  | cons other others ih =>
      have back := ih other
      rw [Term.ofChoice] at back ⊢
      rw [List.map_cons, Term.inChoice, Term.danglingFrom, danglingFrom_signs]
      simp only [back, Bool.or_self]

theorem beyondClassical_choice {first : List Sign} (others : List (List Sign))
    (barred : first.any Sign.isBarred = true) :
    (Term.ofChoice first others).beyondClassical [] = true := by
  have beyond := Term.beyondClassical_signs first
  rw [barred] at beyond
  cases others with
  | nil => exact beyond
  | cons other others =>
      rw [Term.ofChoice, List.map_cons, Term.inChoice, Term.beyondClassical, beyond, Bool.true_or]

/-- The plan of a plain text that stands alone. -/
def Plan.ofChars : List Char → Plan
  | [] => .nothing
  | chars => .text chars

/-- A plan, and plain texts to choose from behind it. -/
def Plan.ofChoice (first : Plan) : List (List Char) → Plan
  | [] => first
  | chars :: others => .alt first (.ofChoice (.ofChars chars) others)

variable (limits : Limits)

section Planning

theorem plan_leading_plain (before : List Char) {chars : List Char} (some_char : chars ≠ [])
    (next : Nat) :
    (Term.inSequence (chars.map (Term.char false))).plan limits []
        (.leading false (before.map (.char false))) next =
      .ok (.text (before ++ chars), next) := by
  induction chars generalizing before with
  | nil => contradiction
  | cons c chars ih =>
      have before_eq : before.map (Term.char false) ++ [.char false c] =
          (before ++ [c]).map (Term.char false) := by simp
      cases chars with
      | nil =>
          have nonempty : before ++ [c] ≠ [] := by simp
          rw [← Planner.together_plain limits nonempty next, ← before_eq]
          rfl
      | cons d chars =>
          rw [List.map_cons, Term.inSequence_cons (by simp), Term.plan_leading_onward rfl,
            before_eq, ih (before ++ [c]) (List.cons_ne_nil d chars), List.append_assoc]
          rfl

/-- A plain text that stands alone is matched as one text. -/
theorem plan_plain (chars : List Char) (next : Nat) :
    (Term.inSequence (chars.map (Term.char false))).plan limits [] (.alone false) next =
      .ok (.ofChars chars, next) := by
  rcases chars with _ | ⟨c, _ | ⟨d, chars⟩⟩
  · rfl
  · exact Planner.together_plain limits (List.cons_ne_nil c []) next
  · have planned := plan_leading_plain limits [] (List.cons_ne_nil c (d :: chars)) next
    rw [List.map_cons, Term.inSequence_cons (by simp)] at planned ⊢
    rw [Term.plan_alone_false_seq]
    exact planned

theorem plan_alone_false_alt (first second : Term) :
    (Term.alt first second).plan limits [] (.alone false) = (do
      let left ← first.plan limits [] (.alone false)
      let right ← second.plan limits [] (.alone false)
      return .alt left right) := by
  simp [Term.plan, Setting.plan]

theorem plan_choice {first : Term} {plan : Plan} {next : Nat}
    (planned : first.plan limits [] (.alone false) next = .ok (plan, next))
    (others : List (List Char)) :
    (Term.inChoice first
        (others.map fun chars => Term.inSequence (chars.map (Term.char false)))).plan limits []
          (.alone false) next = .ok (.ofChoice plan others, next) := by
  induction others generalizing first plan with
  | nil => exact planned
  | cons chars others ih =>
      have back := ih (plan_plain limits chars next)
      rw [List.map_cons, Term.inChoice, plan_alone_false_alt, bind_ok planned, bind_ok back]
      rfl

/-- A plain text that another must not begin with is looked for behind the other. -/
theorem plan_barred_plain (roomy : limits.size.all Classical.empty.fits = true)
    (excluded chars : List Char) (next : Nat) :
    ∃ plan, (Term.inSequence ((Sign.barred excluded :: chars.map .plain).map Sign.term)).plan
        limits [] (.alone false) next = .ok (plan, next) ∧
      plan.Carries (.barred excluded :: chars.map .plain) ∧ plan.duration ≤ 5 := by
  obtain ⟨front, front_eq, front_carries, front_brief⟩ := plan_sign roomy (.barred excluded) next
  by_cases some_char : chars = []
  · rw [some_char]
    exact ⟨front, front_eq, front_carries, by omega⟩
  · have trail := Term.canTrail_signs (.barred excluded :: chars.map .plain)
    have back_trail := Term.canTrail_signs (chars.map .plain)
    rw [Sign.any_isBarred_plain] at back_trail
    have back_eq := Planner.together_whole limits some_char next
    rw [Sign.map_term_plain] at back_trail
    rw [← Term.plan_trailing_of_canTrail back_trail] at back_eq
    have nothing : Planner.together limits [] next = .ok (.nothing, next) := rfl
    refine ⟨front.andThen (.text chars), ?_, front_carries.andThen (Plan.carries_text chars), ?_⟩
    · rw [List.map_cons, Sign.map_term_plain, Term.inSequence_cons (by simpa using some_char)]
        at trail ⊢
      have planned : (Term.seq (Sign.barred excluded).term
          (Term.inSequence (chars.map (Term.char false)))).plan limits [] (.trailing false) next =
            .ok (front.andThen (.text chars), next) := by
        rw [Term.plan_trailing_seq trail, bind_ok front_eq, bind_ok back_eq]
        rfl
      rw [Term.plan_alone_false_seq, Term.plan_leading_seq rfl, bind_ok nothing, bind_ok planned]
      rfl
    · have joined := Plan.duration_andThen_le front (.text chars)
      have brief : (Plan.text chars).duration = 1 := rfl
      omega

end Planning

/-! ## Finding -/

namespace Plan

variable {text : Array Char}

/-- Plain texts to choose from are tried in turn. -/
theorem exists_tries_ofChars (chars : List Char) (others : List (List Char)) (place : Nat) :
    ∃ stop? spent, (Plan.ofChoice (.ofChars chars) others).Tries text place stop? spent ∧
      spent ≤ others.length ∧
        (stop?.isSome = true ↔ ∃ other ∈ chars :: others, standsAt text other place = true) := by
  induction others generalizing chars with
  | nil =>
      cases chars with
      | nil => exact ⟨_, _, .nothing place, Nat.le_refl 0, by simp [standsAt]⟩
      | cons c chars =>
          cases stands : standsAt text (c :: chars) place with
          | true => exact ⟨_, _, .single (.stands stands), Nat.le_refl 0, by simp [stands]⟩
          | false => exact ⟨_, _, .single (.differs stands), Nat.le_refl 0, by simp [stands]⟩
  | cons other others ih =>
      cases chars with
      | nil => exact ⟨_, _, .empty _ place, Nat.zero_le _, by simp [standsAt]⟩
      | cons c chars =>
          cases stands : standsAt text (c :: chars) place with
          | true => exact ⟨_, _, .first _ (.stands stands), Nat.zero_le _, by simp [stands]⟩
          | false =>
              obtain ⟨stop?, spent, tries, spent_le, found_iff⟩ := ih other
              refine ⟨stop?, _, .second (.differs stands) tries, ?_, ?_⟩
              · rw [List.length_cons]
                omega
              · exact found_iff.trans (by simp [stands])

/-- A plan, and plain texts to choose from behind it, are tried in turn. -/
theorem Ends.exists_tries {first : Plan} {place front : Nat} {front? : Option Nat}
    (ends : first.Ends text place front? front) (others : List (List Char)) :
    ∃ stop? spent, (Plan.ofChoice first others).Tries text place stop? spent ∧
      spent ≤ front + others.length ∧
        (stop?.isSome = true ↔
          front?.isSome = true ∨ ∃ other ∈ others, standsAt text other place = true) := by
  cases others with
  | nil => exact ⟨front?, front, .single ends, Nat.le_add_right _ _, by simp⟩
  | cons other others =>
      cases front? with
      | some stop => exact ⟨_, _, .first _ ends, Nat.le_add_right _ _, by simp⟩
      | none =>
          obtain ⟨stop?, spent, tries, spent_le, found_iff⟩ :=
            exists_tries_ofChars other others place
          refine ⟨stop?, _, .second ends tries, ?_, by simpa using found_iff⟩
          rw [List.length_cons]
          omega

theorem height_ofChoice_le (first : Plan) (others : List (List Char)) :
    (Plan.ofChoice first others).height ≤ first.height + 1 := by
  induction others generalizing first with
  | nil => exact Nat.le_succ _
  | cons chars others ih =>
      have flat : (Plan.ofChars chars).height = 0 := by cases chars <;> rfl
      have back := ih (.ofChars chars)
      simp only [ofChoice, height]
      omega

theorem duration_ofChoice_le (first : Plan) (others : List (List Char)) :
    (Plan.ofChoice first others).duration ≤ first.duration + 2 * others.length := by
  induction others generalizing first with
  | nil => exact Nat.le_refl _
  | cons chars others ih =>
      have brief : (Plan.ofChars chars).duration = 1 := by cases chars <;> rfl
      have back := ih (.ofChars chars)
      simp only [ofChoice, duration, List.length_cons]
      omega

end Plan

/-- The first text stands at a place without the excluded one, or one of the others stands there. -/
def StandsAmong (text excluded first : List Char) (others : List (List Char)) (place : Nat) :
    Prop :=
  (first <+: text.drop place ∧ ¬excluded <+: text.drop place) ∨
    ∃ other ∈ others, other <+: text.drop place

/-- A choice between plain texts, the first of which must not begin with another text. -/
def writtenGuarded (excluded first : List Char) (others : List (List Char)) : String :=
  String.ofList (writtenChoice (.barred excluded :: first.map .plain) (others.map (·.map .plain)))

variable {limits} in
theorem prepare_of_plan {written : Written} {plan : Plan} {slots : Nat}
    (settled : written.term.hasDanglingReference = false)
    (beyond : written.term.beyondClassical written.referred = true)
    (planned : written.term.plan limits written.referred (.alone false) (2 * (written.groups + 1)) =
      .ok (plan, slots)) :
    written.prepare limits = .ok (.planned plan slots written.groups) := by
  rw [Written.prepare, settled, if_neg Bool.false_ne_true, beyond, if_pos rfl, StateT.run, planned]
  rfl

theorem prepare_guarded (excluded first : List Char) (others : List (List Char)) :
    ∃ plan, prepare (writtenGuarded excluded first others) = .ok (.planned plan 2 0) ∧
      plan.height ≤ 2 ∧ plan.duration ≤ 2 * others.length + 5 ∧
      ∀ (text : String) (place : Nat), ∃ stop? spent,
        plan.Tries text.toList.toArray place stop? spent ∧ spent ≤ others.length + 1 ∧
          (stop?.isSome = true ↔ StandsAmong text.toList excluded first others place) := by
  let signs : List Sign := .barred excluded :: first.map .plain
  obtain ⟨plan, plan_eq, carries, brief⟩ := plan_barred_plain {} rfl excluded first 2
  have branches_eq : Term.ofChoice signs (others.map (·.map .plain)) =
      Term.inChoice (Term.inSequence (signs.map Sign.term))
        (others.map fun chars => Term.inSequence (chars.map (Term.char false))) := by
    have branch_eq : (fun branch : List Sign => Term.inSequence (branch.map Sign.term)) ∘
        (fun chars : List Char => chars.map Sign.plain) =
          fun chars => Term.inSequence (chars.map (Term.char false)) :=
      funext fun chars => congrArg Term.inSequence (Sign.map_term_plain chars)
    rw [Term.ofChoice, List.map_map, branch_eq]
  have choice_eq := plan_choice {} plan_eq others
  rw [← branches_eq] at choice_eq
  refine ⟨.ofChoice plan others, ?_, ?_, ?_, fun text place => ?_⟩
  · have settled : (Term.ofChoice signs (others.map (·.map .plain))).hasDanglingReference =
        false := by
      rw [Term.hasDanglingReference, danglingFrom_choice]
    have beyond : (Term.ofChoice signs (others.map (·.map .plain))).beyondClassical [] = true :=
      beyondClassical_choice _ (by simp [signs, Sign.isBarred])
    rw [prepare, prepareWithin, writtenGuarded, String.toList_ofList, readPattern_choice]
    exact prepare_of_plan settled beyond choice_eq
  · exact Nat.le_trans (plan.height_ofChoice_le others) (Nat.succ_le_succ carries.height_le)
  · exact Nat.le_trans (plan.duration_ofChoice_le others) (by omega)
  · obtain ⟨stop?, spent, tries, spent_le, found_iff⟩ :=
      (carries.ends text.toList.toArray place).exists_tries others
    refine ⟨stop?, spent, tries, ?_, found_iff.trans ?_⟩
    · have missed_le : missedFrom text.toList.toArray (.barred excluded :: first.map .plain) place ≤
          1 := by
        rw [missedFrom, missedFrom_plain]
        split <;> omega
      omega
    · have end_iff : (endFrom? text.toList.toArray (.barred excluded :: first.map .plain)
          place).isSome = true ↔
            first <+: text.toList.drop place ∧ ¬excluded <+: text.toList.drop place := by
        rw [endFrom?, endFrom?_plain]
        simp only [standsAt_iff]
        by_cases begins : excluded <+: text.toList.drop place <;>
          by_cases stands : first <+: text.toList.drop place <;> simp [begins, stands]
      simp only [end_iff, standsAt_iff, StandsAmong]

variable {excluded first : List Char} {others : List (List Char)} {text : String}

/-- A choice that is found stands somewhere in the text. -/
theorem exists_standsAmong_of_matchesIn
    (found : matchesIn (writtenGuarded excluded first others) text = true) :
    ∃ place ≤ text.toList.length, StandsAmong text.toList excluded first others place := by
  obtain ⟨plan, plan_eq, height_le, -, tried⟩ := prepare_guarded excluded first others
  choose stop? spent tries spent_le found_iff using tried text
  rw [matchesIn, plan_eq] at found
  have room : exceeds (1 + plan.height) ({} : Limits).branches = false :=
    within_of_le (Nat.add_le_add_left height_le 1) rfl
  obtain ⟨place, end_first⟩ := Prepared.exists_firstEnd_of_isSome tries room 0 found
  exact ⟨place, end_first.inside, (found_iff place).mp end_first.ends⟩

/-- A choice that stands at a place is found, unless the search spends its retreats before. -/
theorem matchesIn_of_standsAmong {place : Nat} (inside : place ≤ text.toList.length)
    (stands : StandsAmong text.toList excluded first others place)
    (near : (place + 1) * (others.length + 2) ≤ Limits.usualPlaces) :
    matchesIn (writtenGuarded excluded first others) text = true := by
  obtain ⟨plan, plan_eq, height_le, brief, tried⟩ := prepare_guarded excluded first others
  choose stop? spent tries spent_le found_iff using tried text
  rw [matchesIn, plan_eq]
  have room : exceeds (1 + plan.height) ({} : Limits).branches = false :=
    within_of_le (Nat.add_le_add_left height_le 1) rfl
  have within : ∀ earlier ≤ place, (∀ before < earlier, stop? before = none) →
      exceeds (spentBefore spent earlier + spent earlier) ({} : Limits).retreats = false := by
    intro earlier le _
    have before_le : spentBefore spent earlier ≤ earlier * (others.length + 2) :=
      spentBefore_le spent_le earlier
    have here_le := spent_le earlier
    have nearer : (earlier + 1) * (others.length + 2) ≤ (place + 1) * (others.length + 2) :=
      Nat.mul_le_mul_right _ (Nat.succ_le_succ le)
    rw [Nat.add_mul] at nearer
    simp only [exceeds, decide_eq_false_iff_not]
    rw [Limits.usualPlaces] at near
    omega
  obtain ⟨earliest, end_first⟩ :=
    Plan.exists_firstEnd within inside ((found_iff place).mpr stands)
  have sooner : earliest ≤ place := by
    refine Nat.le_of_not_lt fun later => ?_
    have missed := end_first.before place later
    rw [← Option.not_isSome_iff_eq_none] at missed
    exact missed ((found_iff place).mpr stands)
  have patient : (earliest + 1) * (plan.duration + 4) + 2 ≤ ({} : Limits).steps := by
    have steps_le : (earliest + 1) * (plan.duration + 4) ≤
        (place + 1) * (5 * (others.length + 2)) :=
      Nat.mul_le_mul (Nat.succ_le_succ sooner) (by omega)
    rw [Nat.mul_left_comm] at steps_le
    rw [Limits.usualPlaces] at near
    simp only [Nat.pow_eq]
    omega
  exact Prepared.isSome_of_firstEnd tries room end_first patient 0

end Redirects.Regex
