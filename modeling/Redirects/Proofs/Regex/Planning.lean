import Redirects.Proofs.Regex.Guarded
import Redirects.Proofs.Regex.Steps

/-!
# Plans of guarded texts

Where the signs of a guarded text end, read from a place on, is decided sign by sign.  However the
planner joins the signs, what it makes of them ends at the same place and comes back to a kept way
once for each text that was looked for in vain.
-/

namespace Redirects.Regex

variable {limits : Limits} {text : Array Char}

/-! ## Signs in a text -/

/-- Where signs end that are read from a place on, if the text lets them. -/
def endFrom? (text : Array Char) : List Sign → Nat → Option Nat
  | [], place => some place
  | .plain c :: signs, place =>
    if text[place]? = some c then endFrom? text signs (place + 1) else none
  | .barred chars :: signs, place =>
    if standsAt text chars place then none else endFrom? text signs place

/-- How many texts are looked for in vain while signs are read from a place on. -/
def missedFrom (text : Array Char) : List Sign → Nat → Nat
  | [], _ => 0
  | .plain c :: signs, place =>
    if text[place]? = some c then missedFrom text signs (place + 1) else 0
  | .barred chars :: signs, place =>
    if standsAt text chars place then 0 else missedFrom text signs place + 1

theorem endFrom?_append (front back : List Sign) (place : Nat) :
    endFrom? text (front ++ back) place =
      (endFrom? text front place).bind (endFrom? text back) := by
  fun_induction endFrom? text front place with
  | case1 => rfl
  | case2 c signs place here ih => simpa [endFrom?, here] using ih
  | case3 c signs place away => simp [endFrom?, away]
  | case4 chars signs place stands => simp [endFrom?, stands]
  | case5 chars signs place missed ih => simpa [endFrom?, missed] using ih

theorem missedFrom_append (front back : List Sign) (place : Nat) :
    missedFrom text (front ++ back) place =
      missedFrom text front place + (endFrom? text front place).elim 0 (missedFrom text back) := by
  fun_induction endFrom? text front place with
  | case1 => simp [missedFrom]
  | case2 c signs place here ih => simpa [missedFrom, here] using ih
  | case3 c signs place away => simp [missedFrom, away]
  | case4 chars signs place stands => simp [missedFrom, stands]
  | case5 chars signs place missed ih => simp [missedFrom, missed, ih, Nat.add_right_comm]

theorem endFrom?_plain (chars : List Char) (place : Nat) :
    endFrom? text (chars.map .plain) place =
      if standsAt text chars place then some (place + chars.length) else none := by
  induction chars generalizing place with
  | nil => rfl
  | cons c chars ih =>
      rw [List.map_cons, endFrom?, ih, standsAt]
      by_cases here : text[place]? = some c <;> simp [here, Nat.add_right_comm, Nat.add_assoc]

theorem missedFrom_plain (chars : List Char) (place : Nat) :
    missedFrom text (chars.map .plain) place = 0 := by
  induction chars generalizing place with
  | nil => rfl
  | cons c chars ih => simp [missedFrom, ih]

theorem missedFrom_le (signs : List Sign) (place : Nat) :
    missedFrom text signs place ≤ signs.length := by
  fun_induction missedFrom text signs place with
  | case1 => exact Nat.le_refl 0
  | case2 c signs place here ih => exact Nat.le_succ_of_le ih
  | case3 c signs place away => exact Nat.zero_le _
  | case4 chars signs place stands => exact Nat.zero_le _
  | case5 chars signs place missed ih => exact Nat.succ_le_succ ih

/-! ## Plans that carry signs out -/

namespace Plan

/-- A plan ends where the signs end, at every place of every text. -/
structure Carries (plan : Plan) (signs : List Sign) : Prop where
  ends : ∀ text place,
    plan.Ends text place (endFrom? text signs place) (missedFrom text signs place)
  height_le : plan.height ≤ 1

theorem carries_text (chars : List Char) : (Plan.text chars).Carries (chars.map .plain) where
  ends text place := by
    rw [endFrom?_plain, missedFrom_plain]
    split
    · exact .stands ‹_›
    · exact .differs (Bool.eq_false_iff.mpr ‹_›)
  height_le := Nat.zero_le _

theorem carries_blank : (Plan.classical Classical.empty.automaton 0).Carries [] where
  ends _ place := .blank 0 place
  height_le := Nat.zero_le _

/-- A text that must not follow is looked for with a plan of it. -/
theorem Carries.look {inner : Plan} {chars : List Char}
    (carries : inner.Carries (chars.map .plain)) (flat : inner.height = 0) :
    (Plan.look 0 false inner).Carries [.barred chars] where
  ends text place := by
    have inside := carries.ends text place
    rw [endFrom?_plain, missedFrom_plain] at inside
    by_cases stands : standsAt text chars place = true
    · rw [if_pos stands] at inside
      simpa [endFrom?, missedFrom, stands] using Ends.refused inside
    · rw [if_neg stands] at inside
      simpa [endFrom?, missedFrom, stands] using Ends.granted inside
  height_le := by simp [height, flat]

theorem Carries.ne_nothing {plan : Plan} {signs : List Sign} (carries : plan.Carries signs) :
    plan ≠ .nothing := by
  rintro rfl
  have impossible := carries.ends #[] 0
  cases impossible

theorem Carries.andThen {first second : Plan} {front back : List Sign}
    (front_carries : first.Carries front) (back_carries : second.Carries back) :
    (first.andThen second).Carries (front ++ back) := by
  have joined : first.andThen second = .seq first second := by
    have first_ne := front_carries.ne_nothing
    have second_ne := back_carries.ne_nothing
    cases first <;> cases second <;> first | rfl | contradiction
  rw [joined]
  refine ⟨fun text place => ?_, Nat.max_le.mpr ⟨front_carries.height_le, back_carries.height_le⟩⟩
  have front_ends := front_carries.ends text place
  rw [endFrom?_append, missedFrom_append]
  cases between : endFrom? text front place with
  | none =>
      rw [between] at front_ends
      exact .short front_ends
  | some stop =>
      rw [between] at front_ends
      exact .both front_ends (back_carries.ends text stop)

theorem duration_andThen_le (first second : Plan) :
    (first.andThen second).duration ≤ first.duration + second.duration + 1 := by
  cases first <;> cases second <;> simp [andThen, duration] <;> omega

end Plan

/-! ## Planning -/

namespace Planner

theorem text?_inSequence {chars : List Char} (some_char : chars ≠ []) :
    (Term.inSequence (chars.map (Term.char false))).text? = some chars := by
  induction chars with
  | nil => contradiction
  | cons c chars ih =>
      cases chars with
      | nil => rfl
      | cons d chars =>
          change (Term.seq (.char false c)
            (Term.inSequence ((d :: chars).map (Term.char false)))).text? = _
          rw [Term.text?, ih (List.cons_ne_nil d chars)]
          rfl

/-- Plain characters are matched as one text. -/
theorem together_plain (limits : Limits) {chars : List Char} (some_char : chars ≠ []) (next : Nat) :
    together limits (chars.map (Term.char false)) next = .ok (.text chars, next) := by
  have nonempty : (chars.map (Term.char false)).isEmpty = false := by simpa using some_char
  rw [together, nonempty, if_neg Bool.false_ne_true]
  simp only [text?_inSequence some_char]
  rfl

theorem together_whole (limits : Limits) {chars : List Char} (some_char : chars ≠ []) (next : Nat) :
    together limits [Term.inSequence (chars.map (Term.char false))] next =
      .ok (.text chars, next) := by
  simp only [together, List.isEmpty_cons, Term.inSequence, text?_inSequence some_char]
  rfl

/-- A part that does not nest deeply is matched by an automaton that fits. -/
theorem classical_of_shallow {term : Term} {pattern : Classical}
    (written : term.classical? limits.vast = some pattern)
    (shallow : pattern.nesting .whole ≤ Classical.maxNesting) :
    classical limits term =
      if limits.size.all pattern.fits then .ok pattern else .error .tooLarge := by
  have allowed : (!limits.vast && decide (Classical.maxNesting < pattern.nesting .whole)) = false := by
    simp [Nat.not_lt.mpr shallow]
  rw [classical, written]
  dsimp only
  rw [allowed, if_neg Bool.false_ne_true]

theorem together_blank (roomy : limits.size.all Classical.empty.fits = true) (next : Nat) :
    together limits [.empty] next =
      .ok (.classical Classical.empty.automaton 0, next) := by
  have whole : classical limits .empty = .ok .empty := by
    rw [classical_of_shallow rfl (Nat.zero_le _), if_pos roomy]
  simp only [together, List.isEmpty_cons, Term.inSequence, Term.text?, whole]
  rfl

end Planner

/-! ## What the planner makes of signs -/

namespace Sign

/-- The sign is a text that must not follow. -/
def isBarred : Sign → Bool
  | .plain _ => false
  | .barred _ => true

theorem exists_chars {signs : List Sign} (unbarred : signs.any isBarred = false) :
    ∃ chars : List Char, signs = chars.map plain := by
  induction signs with
  | nil => exact ⟨[], rfl⟩
  | cons sign signs ih =>
      cases sign with
      | barred _ => simp [isBarred] at unbarred
      | plain c =>
          obtain ⟨chars, rfl⟩ := ih (by simpa [isBarred] using unbarred)
          exact ⟨c :: chars, rfl⟩

theorem exists_barred {signs : List Sign} (barred : signs.any isBarred = true) :
    ∃ (chars excluded : List Char) (rest : List Sign),
      signs = chars.map plain ++ .barred excluded :: rest := by
  induction signs with
  | nil => simp at barred
  | cons sign signs ih =>
      cases sign with
      | barred excluded => exact ⟨[], excluded, signs, rfl⟩
      | plain c =>
          obtain ⟨chars, excluded, rest, rfl⟩ := ih (by simpa [isBarred] using barred)
          exact ⟨c :: chars, excluded, rest, rfl⟩

theorem any_isBarred_plain (chars : List Char) : (chars.map plain).any isBarred = false := by
  simp [isBarred]

theorem map_term_plain (chars : List Char) :
    (chars.map Sign.plain).map Sign.term = chars.map (Term.char false) := by
  rw [List.map_map]
  rfl

theorem beyondClassical_term (sign : Sign) : sign.term.beyondClassical [] = sign.isBarred := by
  cases sign <;> rfl

theorem constantSize_term (sign : Sign) : sign.term.constantSize = true := by
  cases sign <;> rfl

end Sign

namespace Term

theorem inSequence_cons {term : Term} {terms : List Term} (more : terms ≠ []) :
    inSequence (term :: terms) = .seq term (inSequence terms) := by
  cases terms with
  | nil => contradiction
  | cons other terms => rfl

theorem beyondClassical_signs (signs : List Sign) :
    (inSequence (signs.map Sign.term)).beyondClassical [] = signs.any Sign.isBarred := by
  induction signs with
  | nil => rfl
  | cons sign signs ih =>
      cases signs with
      | nil => simp [inSequence, sign.beyondClassical_term]
      | cons other signs =>
          rw [List.map_cons, inSequence_cons (by simp), beyondClassical, ih,
            sign.beyondClassical_term]
          rfl

theorem canTrail_signs (signs : List Sign) :
    Setting.canTrail [] false (inSequence (signs.map Sign.term)) = !signs.any Sign.isBarred := by
  induction signs with
  | nil => rfl
  | cons sign signs ih =>
      cases signs with
      | nil => cases sign <;> rfl
      | cons other signs =>
          rw [List.map_cons, inSequence_cons (by simp), Setting.canTrail, ih,
            sign.beyondClassical_term, sign.constantSize_term, List.any_cons]
          simp

/-- A classical part that nothing comes back to is matched as a whole. -/
theorem plan_alone_true {term : Term} {referred : List Nat}
    (classical : term.beyondClassical referred = false) :
    term.plan limits referred (.alone true) = Planner.together limits [term] := by
  cases term <;> simp [plan, Setting.plan, classical]

/-- What can be matched as one with all that follows is. -/
theorem plan_trailing_of_canTrail {term : Term} {referred : List Nat} {free : Bool}
    (trail : Setting.canTrail referred free term = true) :
    term.plan limits referred (.trailing free) = Planner.together limits [term] := by
  cases term <;> simp [plan, Setting.plan, trail]

/-- The parts of a sequence that cannot be matched as one are planned one after the other. -/
theorem plan_trailing_seq {first second : Term} {referred : List Nat} {free : Bool}
    (apart : Setting.canTrail referred free (.seq first second) = false) :
    (Term.seq first second).plan limits referred (.trailing free) = (do
      let front ← first.plan limits referred (.alone false)
      let back ← second.plan limits referred (.trailing free)
      return front.andThen back) := by
  simp [plan, apart]

/-- What cannot be matched together with the parts before it is planned behind them. -/
theorem plan_leading_seq {first second : Term} {referred : List Nat} {free : Bool}
    {before : List Term} (apart : Setting.canLead referred first = false) :
    (Term.seq first second).plan limits referred (.leading free before) = (do
      let front ← Planner.together limits before
      let back ← (Term.seq first second).plan limits referred (.trailing free)
      return front.andThen back) := by
  simp [plan, apart]

@[inherit_doc plan_leading_seq]
theorem plan_leading_look {ahead wanted free : Bool} {inner : Term} {referred : List Nat}
    {before : List Term} :
    (Term.look ahead wanted inner).plan limits referred (.leading free before) = (do
      let front ← Planner.together limits before
      let back ← (Term.look ahead wanted inner).plan limits referred (.trailing free)
      return front.andThen back) := by
  simp [plan, Setting.plan, Setting.canLead, Setting.canTrail, beyondClassical]

theorem plan_leading_onward {first second : Term} {referred : List Nat} {free : Bool}
    {before : List Term} (lead : Setting.canLead referred first = true) :
    (Term.seq first second).plan limits referred (.leading free before) =
      second.plan limits referred (.leading free (before ++ [first])) := by
  simp [plan, lead]

theorem plan_alone_false_seq {first second : Term} {referred : List Nat} :
    (Term.seq first second).plan limits referred (.alone false) =
      (Term.seq first second).plan limits referred (.leading false []) := by
  simp [plan, Setting.plan]

end Term

section Planning

variable (roomy : limits.size.all Classical.empty.fits = true)
include roomy

/-- A text that must not follow is looked for as one text. -/
theorem plan_barred (chars : List Char) (next : Nat) :
    ∃ inner, (Term.inSequence (chars.map (Term.char false))).plan limits [] (.alone true) next =
        .ok (inner, next) ∧
      inner.Carries (chars.map .plain) ∧ inner.height = 0 ∧ inner.duration = 1 := by
  have classical := Term.beyondClassical_signs (chars.map .plain)
  rw [Sign.map_term_plain, Sign.any_isBarred_plain] at classical
  rw [Term.plan_alone_true classical]
  cases chars with
  | nil => exact ⟨_, Planner.together_blank roomy next, Plan.carries_blank, rfl, rfl⟩
  | cons c chars =>
      exact ⟨_, Planner.together_whole limits (List.cons_ne_nil c chars) next,
        Plan.carries_text _, rfl, rfl⟩

/-- A single sign is planned alone. -/
theorem plan_sign (sign : Sign) (next : Nat) :
    ∃ plan, sign.term.plan limits [] (.alone false) next = .ok (plan, next) ∧
      plan.Carries [sign] ∧ plan.duration ≤ 3 := by
  cases sign with
  | plain c =>
      exact ⟨.text [c], Planner.together_plain limits (List.cons_ne_nil c []) next,
        Plan.carries_text [c], by simp [Plan.duration]⟩
  | barred chars =>
      obtain ⟨inner, inner_eq, carries, flat, brief⟩ := plan_barred roomy chars next
      refine ⟨.look 0 false inner, ?_, carries.look flat, by simp [Plan.duration, brief]⟩
      rw [Sign.term, Term.plan, Setting.plan, Bool.false_and, if_neg Bool.false_ne_true, if_pos rfl,
        bind_ok inner_eq]
      rfl

/-- Behind others, the signs are planned one by one until only plain characters are left. -/
theorem plan_trailing {signs : List Sign} (some_sign : signs ≠ []) (next : Nat) :
    ∃ plan, (Term.inSequence (signs.map Sign.term)).plan limits [] (.trailing false) next =
        .ok (plan, next) ∧
      plan.Carries signs ∧ plan.duration ≤ 4 * signs.length := by
  induction signs with
  | nil => contradiction
  | cons sign signs ih =>
      have trail := Term.canTrail_signs (sign :: signs)
      cases barred : (sign :: signs).any Sign.isBarred with
      | false =>
          obtain ⟨chars, chars_eq⟩ := Sign.exists_chars barred
          have some_char : chars ≠ [] := by
            rintro rfl
            exact some_sign chars_eq
          rw [barred] at trail
          have brief : (Plan.text chars).duration = 1 := rfl
          refine ⟨.text chars, ?_, chars_eq ▸ Plan.carries_text chars, by simp; omega⟩
          rw [Term.plan_trailing_of_canTrail trail, chars_eq, Sign.map_term_plain,
            Planner.together_whole limits some_char]
      | true =>
          -- an exclusion is still to come, so the first sign is planned by itself
          rw [barred] at trail
          obtain ⟨front, front_eq, front_carries, front_brief⟩ := plan_sign roomy sign next
          cases signs with
          | nil =>
              cases sign with
              | plain c => simp [Sign.isBarred] at barred
              | barred chars => exact ⟨front, front_eq, front_carries, by simp; omega⟩
          | cons other signs =>
              obtain ⟨back, back_eq, back_carries, back_brief⟩ := ih (List.cons_ne_nil other signs)
              refine ⟨front.andThen back, ?_, front_carries.andThen back_carries, ?_⟩
              · rw [List.map_cons, Term.inSequence_cons (by simp)] at trail ⊢
                rw [Term.plan_trailing_seq trail, bind_ok front_eq, bind_ok back_eq]
                rfl
              · have joined := Plan.duration_andThen_le front back
                simp only [List.length_cons] at back_brief ⊢
                omega

/-- Plain characters in front are matched as one text, and from the first text that must not follow
on the signs are planned as behind others. -/
theorem plan_leading (before chars excluded : List Char) (signs : List Sign) (next : Nat) :
    ∃ plan, (Term.inSequence
          ((chars.map Sign.plain ++ .barred excluded :: signs).map Sign.term)).plan limits []
            (.leading false (before.map (.char false))) next = .ok (plan, next) ∧
      plan.Carries ((before ++ chars).map .plain ++ .barred excluded :: signs) ∧
      plan.duration ≤ 4 * signs.length + 6 := by
  induction chars generalizing before with
  | nil =>
      obtain ⟨back, back_eq, back_carries, back_brief⟩ :=
        plan_trailing roomy (List.cons_ne_nil (.barred excluded) signs) next
      rw [List.length_cons] at back_brief
      have behind : (Term.inSequence ((Sign.barred excluded :: signs).map Sign.term)).plan limits []
            (.leading false (before.map (.char false))) =
          (do
            let front ← Planner.together limits (before.map (.char false))
            let back ← (Term.inSequence ((Sign.barred excluded :: signs).map Sign.term)).plan
              limits [] (.trailing false)
            return front.andThen back) := by
        cases signs with
        | nil => exact Term.plan_leading_look
        | cons sign signs => exact Term.plan_leading_seq rfl
      rw [List.map_nil, List.nil_append, behind, List.append_nil]
      cases before with
      | nil =>
          refine ⟨back, ?_, back_carries, by omega⟩
          have nothing : Planner.together limits [] next = .ok (.nothing, next) := rfl
          rw [List.map_nil, bind_ok nothing, bind_ok back_eq]
          rfl
      | cons c before =>
          refine ⟨(Plan.text (c :: before)).andThen back, ?_,
            (Plan.carries_text _).andThen back_carries, ?_⟩
          · rw [bind_ok (Planner.together_plain limits (List.cons_ne_nil c before) next),
              bind_ok back_eq]
            rfl
          · have joined := Plan.duration_andThen_le (.text (c :: before)) back
            have brief : (Plan.text (c :: before)).duration = 1 := rfl
            omega
  | cons c chars ih =>
      -- a plain character joins those that were passed, which the induction ranges over
      obtain ⟨plan, plan_eq, carries, brief⟩ := ih (before ++ [c])
      refine ⟨plan, ?_, by simpa using carries, brief⟩
      have before_eq : (before ++ [c]).map (Term.char false) =
          before.map (Term.char false) ++ [Sign.term (.plain c)] := List.map_append
      rw [before_eq] at plan_eq
      rw [List.map_cons, List.cons_append, List.map_cons, Term.inSequence_cons (by simp),
        Term.plan_leading_onward rfl]
      exact plan_eq

/-- A guarded text with a text that must not follow is matched by a plan that carries its signs
out. -/
theorem plan_guarded (chars excluded : List Char) (signs : List Sign) (next : Nat) :
    ∃ plan, (Term.inSequence
          ((chars.map Sign.plain ++ .barred excluded :: signs).map Sign.term)).plan limits []
            (.alone false) next = .ok (plan, next) ∧
      plan.Carries (chars.map .plain ++ .barred excluded :: signs) ∧
      plan.duration ≤ 4 * signs.length + 6 := by
  obtain ⟨plan, plan_eq, carries, brief⟩ := plan_leading roomy [] chars excluded signs next
  rw [List.nil_append] at carries
  cases all_eq : chars.map Sign.plain ++ .barred excluded :: signs with
  | nil => simp at all_eq
  | cons sign others =>
      cases others with
      | nil =>
          obtain ⟨single, single_eq, single_carries, single_brief⟩ := plan_sign roomy sign next
          exact ⟨single, single_eq, single_carries, by omega⟩
      | cons other others =>
          rw [all_eq] at plan_eq carries
          refine ⟨plan, ?_, carries, brief⟩
          rw [List.map_cons, Term.inSequence_cons (by simp)] at plan_eq ⊢
          rw [Term.plan_alone_false_seq]
          exact plan_eq

end Planning

end Redirects.Regex
