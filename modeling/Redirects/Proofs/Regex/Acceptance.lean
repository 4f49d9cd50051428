import Redirects.Proofs.Regex.Soundness

/-!
# Patterns that are accepted

A pattern that was read is accepted if none of its references dangles and it can be planned.  Main
statements: an accepted pattern stays accepted behind a guard (`isOk_prepare_guarded`), and with
other parts at its end that may stand there (`isOk_prepare_of_differ`).
-/

namespace Redirects.Regex

namespace Term

theorem danglingFrom_inSequence_append (front back : List Term) (opened : Nat) :
    (inSequence (front ++ back)).danglingFrom opened =
      let before := (inSequence front).danglingFrom opened
      let behind := (inSequence back).danglingFrom before.2
      (before.1 || behind.1, behind.2) := by
  induction front generalizing opened with
  | nil => rfl
  | cons term front ih =>
      cases front with
      | nil =>
          cases back with
          | nil => simp [inSequence, danglingFrom]
          | cons other back => rfl
      | cons other front =>
          rw [List.cons_append, inSequence_cons (by simp), inSequence_cons (by simp)]
          simp only [danglingFrom, ih, Bool.or_assoc]

/-- The first branches of two choices alike otherwise. -/
theorem danglingFrom_inChoice {first other : Term} {opened : Nat}
    (same : first.danglingFrom opened = other.danglingFrom opened) (others : List Term) :
    (inChoice first others).danglingFrom opened = (inChoice other others).danglingFrom opened := by
  cases others with
  | nil => exact same
  | cons second others => rw [inChoice, inChoice, danglingFrom, danglingFrom, same]

end Term

section Unbounded

variable {limits : Limits} (unbounded : limits.Unbounded) {referred : List Nat}
include unbounded

/-! ## Patterns that were read -/

/-- A pattern is accepted if none of its references dangles and it can be planned, or be written as
a classical pattern where it is one. -/
theorem isOk_prepare (written : Written) : (written.prepare limits).isOk =
    (!written.term.hasDanglingReference &&
      if written.term.beyondClassical written.referred then
        written.term.sound limits written.referred
      else written.term.classic) := by
  have kept {α β : Type} (result : Except Fault α) (make : α → β) :
      (result >>= fun value => pure (make value)).isOk = result.isOk := by
    cases result <;> rfl
  rw [Written.prepare]
  cases written.term.hasDanglingReference with
  | true => rfl
  | false =>
      cases written.term.beyondClassical written.referred with
      | true =>
          have regular : written.term.Regular limits written.referred
              (written.term.sound limits written.referred) := regular_sound unbounded written.term
          refine Eq.trans ?_ (regular.alone (2 * (written.groups + 1)))
          exact kept _ fun found : Plan × Nat => Prepared.planned found.1 found.2 written.groups
      | false =>
          refine Eq.trans ?_ (Planner.isOk_classical unbounded written.term)
          exact kept _ fun pattern => Prepared.classical (Classical.automaton pattern)

/-- An accepted pattern can be planned, be it classical or not. -/
theorem sound_of_prepare {written : Written} (accepted : (written.prepare limits).isOk = true) :
    written.term.hasDanglingReference = false ∧
      written.term.sound limits written.referred = true := by
  rw [isOk_prepare unbounded, Bool.and_eq_true, Bool.not_eq_true'] at accepted
  refine accepted.imp_right fun planned => ?_
  split at planned
  · exact planned
  · exact sound_of_classic unbounded planned

/-- A pattern that is accepted is accepted behind a guard, too. -/
theorem isOk_prepare_guarded {terms others : List Term} {groups : Nat}
    (accepted : (Written.prepare limits
      ⟨Term.inChoice (Term.inSequence terms) others, groups, referred⟩).isOk = true)
    (excluded : List Char) :
    (Written.prepare limits
      ⟨Term.inChoice (Term.inSequence ((Sign.barred excluded).term :: terms)) others, groups,
        referred⟩).isOk = true := by
  let guard := (Sign.barred excluded).term
  obtain ⟨settled, sound⟩ := sound_of_prepare unbounded accepted
  have guard_settled (opened : Nat) : guard.danglingFrom opened = (false, opened) :=
    danglingFrom_signs [.barred excluded] opened
  have still_settled : (Term.inChoice (Term.inSequence (guard :: terms))
      others).hasDanglingReference = false := by
    rw [Term.hasDanglingReference, ← settled]
    refine congrArg Prod.fst (Term.danglingFrom_inChoice ?_ others)
    have joined := Term.danglingFrom_inSequence_append [guard] terms 1
    rw [Term.inSequence] at joined
    simpa [guard_settled] using joined
  have beyond : (Term.inChoice (Term.inSequence (guard :: terms)) others).beyondClassical
      referred = true := by
    rw [Term.beyondClassical_inChoice, List.any_cons, Term.beyondClassical_inSequence]
    rfl
  rw [isOk_prepare unbounded, still_settled, beyond, if_pos rfl]
  rw [sound_inChoice unbounded, List.all_cons, sound_inSequence unbounded] at sound ⊢
  rwa [List.all_cons, sound_barred unbounded]

/-! ## Another end -/

omit unbounded in
/-- Two choices that differ in the ends of their last branches only. -/
inductive Differ (old new : List Term) : List Term × List Term → List Term × List Term → Prop where
  | last (terms : List Term) : Differ old new (terms ++ old, []) (terms ++ new, [])
  | behind (terms : List Term) {second others second' others' : List Term}
      (rest : Differ old new (second, others) (second', others')) :
      Differ old new (terms, Term.inSequence second :: others)
        (terms, Term.inSequence second' :: others')

omit unbounded in
theorem Differ.all {old new : List Term} {found other : List Term × List Term}
    (differ : Differ old new found other) {p : Term → Bool}
    (sequence : ∀ terms, p (Term.inSequence terms) = terms.all p)
    (carried : old.all p = true → new.all p = true)
    (holds : (Term.inSequence found.1 :: found.2).all p = true) :
    (Term.inSequence other.1 :: other.2).all p = true := by
  induction differ with
  | last terms =>
      simp only [List.all_cons, List.all_nil, sequence, List.all_append, Bool.and_true,
        Bool.and_eq_true] at holds ⊢
      exact holds.imp_right carried
  | behind terms rest ih =>
      rw [List.all_cons, Bool.and_eq_true] at holds ⊢
      exact holds.imp_right ih

omit unbounded in
theorem Differ.symm {old new : List Term} {found other : List Term × List Term}
    (differ : Differ old new found other) : Differ new old other found := by
  induction differ with
  | last terms => exact .last terms
  | behind terms rest ih => exact .behind terms ih

omit unbounded in
theorem Differ.isEmpty {old new : List Term} {found other : List Term × List Term}
    (differ : Differ old new found other) : found.2.isEmpty = other.2.isEmpty := by
  cases differ <;> rfl

omit unbounded in
/-- No reference dangles in the one choice if none does in the other. -/
theorem Differ.settled {old new : List Term} {found other : List Term × List Term}
    (differ : Differ old new found other)
    (carried : ∀ opened, ((Term.inSequence old).danglingFrom opened).1 = false →
      ((Term.inSequence new).danglingFrom opened).1 = false) (opened : Nat)
    (holds : ((Term.inChoice (Term.inSequence found.1) found.2).danglingFrom opened).1 = false) :
    ((Term.inChoice (Term.inSequence other.1) other.2).danglingFrom opened).1 = false := by
  induction differ generalizing opened with
  | last terms =>
      simp only [Term.inChoice, Term.danglingFrom_inSequence_append, Bool.or_eq_false_iff]
        at holds ⊢
      exact holds.imp_right (carried _)
  | behind terms rest ih =>
      simp only [Term.inChoice, Term.danglingFrom, Bool.or_eq_false_iff] at holds ⊢
      exact holds.imp_right (ih _)

/-- Parts may stand in the place of others at the end of a pattern. -/
structure Replaces (limits : Limits) (old new : List Term) : Prop where
  classic : old.all Term.classic = true → new.all Term.classic = true
  sound : ∀ referred, old.all (Term.sound limits referred) = true →
    new.all (Term.sound limits referred) = true
  beyond : ∀ referred, new.all (fun term => !term.beyondClassical referred) = true →
    old.all (fun term => !term.beyondClassical referred) = true
  settled : ∀ opened, ((Term.inSequence old).danglingFrom opened).1 = false →
    ((Term.inSequence new).danglingFrom opened).1 = false

/-- A pattern is accepted with other parts at the end of its last branch that may stand there. -/
theorem isOk_prepare_of_differ {old new : List Term} (replaces : Replaces limits old new)
    {found other : List Term × List Term} (differ : Differ old new found other)
    {groups groups' : Nat}
    (accepted : (Written.prepare limits
      ⟨Term.inChoice (Term.inSequence found.1) found.2, groups, referred⟩).isOk = true) :
    (Written.prepare limits
      ⟨Term.inChoice (Term.inSequence other.1) other.2, groups', referred⟩).isOk = true := by
  obtain ⟨settled, sound⟩ := sound_of_prepare unbounded accepted
  have still_settled : (Term.inChoice (Term.inSequence other.1) other.2).hasDanglingReference =
      false := differ.settled replaces.settled 1 settled
  rw [isOk_prepare unbounded] at accepted ⊢
  rw [still_settled]
  cases beyond : (Term.inChoice (Term.inSequence other.1) other.2).beyondClassical referred with
  | true =>
      rw [sound_inChoice unbounded] at sound
      rw [if_pos rfl, sound_inChoice unbounded,
        differ.all (sound_inSequence unbounded) (replaces.sound referred) sound]
      rfl
  | false =>
      let inside (term : Term) : Bool := !term.beyondClassical referred
      have inside_sequence (terms : List Term) :
          inside (Term.inSequence terms) = terms.all inside := by
        simp only [inside, Term.beyondClassical_inSequence, List.not_any_eq_all_not]
      have inside_choice (first : Term) (others : List Term) :
          inside (Term.inChoice first others) = (first :: others).all inside := by
        simp only [inside, Term.beyondClassical_inChoice, List.not_any_eq_all_not]
      -- the pattern itself is classical, too, for else it would need more here
      have unbeyond : inside (Term.inChoice (Term.inSequence found.1) found.2) = true := by
        rw [inside_choice]
        refine differ.symm.all inside_sequence (replaces.beyond referred) ?_
        rw [← inside_choice]
        simp [inside, beyond]
      rw [if_neg (by simpa [inside] using unbeyond), Bool.and_eq_true, Term.classic_inChoice]
        at accepted
      rw [if_neg Bool.false_ne_true, Term.classic_inChoice,
        differ.all Term.classic_inSequence replaces.classic accepted.2]
      rfl

end Unbounded

end Redirects.Regex
