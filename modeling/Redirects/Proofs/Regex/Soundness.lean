import Redirects.Proofs.Regex.Finding

/-!
# Patterns that can be planned

Without bounds on the size of automata, whether a plan can be made of a part depends on the part
alone: on what it holds, and not on how the planner joins it with what stands beside it.  Main
statements: a sequence and a choice can be planned exactly if their parts can, and so can every
classical pattern (`sound_inSequence`, `sound_inChoice`, `sound_of_classic`).
-/

namespace Redirects.Regex

/-- Automata may be of any size, and classical parts nest and repeat as they are written to. -/
structure Limits.Unbounded (limits : Limits) : Prop where
  sizeless : limits.size = none
  vast : limits.vast = true

/-! ## Verdicts of planners -/

namespace Planner

variable {α β : Type}

/-- A planner succeeds or fails, whatever slots were given out before. -/
def Decides (planner : Planner α) (verdict : Bool) : Prop :=
  ∀ next, (planner next).isOk = verdict

namespace Decides

theorem pure (value : α) : Decides (pure value : Planner α) true := fun _ => rfl

theorem throw (fault : Fault) : Decides (throw fault : Planner α) false := fun _ => rfl

theorem slot : Decides Planner.slot true := fun _ => rfl

theorem bind {first : Planner α} {next : α → Planner β} {front back : Bool}
    (first_decides : Decides first front) (next_decides : ∀ value, Decides (next value) back) :
    Decides (first >>= next) (front && back) := by
  intro slots
  have front_eq := first_decides slots
  change (first slots >>= fun (value, after) => next value after).isOk = _
  cases found : first slots with
  | error fault =>
      rw [found] at front_eq
      rw [← front_eq]
      rfl
  | ok result =>
      rw [found] at front_eq
      have back_eq := next_decides result.1 result.2
      rw [← front_eq, ← back_eq]
      rfl

theorem unique {planner : Planner α} {first second : Bool} (decides : Decides planner first)
    (also : Decides planner second) : first = second :=
  (decides 0).symm.trans (also 0)

end Decides

end Planner

/-! ## Classical parts -/

namespace Term

/-- The term can be written as a classical pattern of whatever size. -/
def classic (term : Term) : Bool := (term.classical? true).isSome

theorem classic_seq (first second : Term) :
    (seq first second).classic = (first.classic && second.classic) := by
  rw [classic, classic, classic, classical?]
  cases first.classical? true <;> cases second.classical? true <;> rfl

theorem classic_alt (first second : Term) :
    (alt first second).classic = (first.classic && second.classic) := by
  rw [classic, classic, classic, classical?]
  cases first.classical? true <;> cases second.classical? true <;> rfl

theorem classic_group (number : Nat) (inner : Term) :
    (group number inner).classic = inner.classic := by
  rw [classic, classic, classical?]
  cases inner.classical? true <;> rfl

theorem classic_many (inner : Term) (least : Nat) (most : Option Nat) (greedy : Bool) :
    (many inner least most greedy).classic = (!exceeds least most && inner.classic) := by
  by_cases bracketed : ∃ reading, inner = .bracket reading
  · obtain ⟨reading, rfl⟩ := bracketed
    cases crosses : exceeds least most <;> simp [classic, classical?, crosses]
  · rw [classic, classic, classical?]
    · cases exceeds least most <;> cases inner.classical? true <;> rfl
    · exact fun reading same => bracketed ⟨reading, same⟩

theorem classic_inSequence (terms : List Term) :
    (inSequence terms).classic = terms.all classic := by
  induction terms with
  | nil => rfl
  | cons term terms ih =>
      cases terms with
      | nil => simp [inSequence]
      | cons other terms => rw [inSequence_cons (by simp), classic_seq, ih, ← List.all_cons]

theorem classic_inChoice (first : Term) (others : List Term) :
    (inChoice first others).classic = (first :: others).all classic := by
  induction others generalizing first with
  | nil => simp [inChoice]
  | cons other others ih => rw [inChoice, classic_alt, ih, ← List.all_cons]

theorem beyondClassical_inSequence (referred : List Nat) (terms : List Term) :
    (inSequence terms).beyondClassical referred = terms.any (beyondClassical referred) := by
  induction terms with
  | nil => rfl
  | cons term terms ih =>
      cases terms with
      | nil => simp [inSequence]
      | cons other terms => rw [inSequence_cons (by simp), beyondClassical, ih, ← List.any_cons]

theorem beyondClassical_inChoice (referred : List Nat) (first : Term) (others : List Term) :
    (inChoice first others).beyondClassical referred =
      (first :: others).any (beyondClassical referred) := by
  induction others generalizing first with
  | nil => simp [inChoice]
  | cons other others ih => rw [inChoice, beyondClassical, ih, ← List.any_cons]

theorem classic_of_text {term : Term} {chars : List Char} (text_eq : term.text? = some chars) :
    term.classic = true := by
  induction term generalizing chars with
  | char fold c => rfl
  | seq first second first_ih second_ih =>
      obtain ⟨front, front_eq, text_eq⟩ := Option.bind_eq_some_iff.mp text_eq
      obtain ⟨back, back_eq, -⟩ := Option.bind_eq_some_iff.mp text_eq
      rw [classic_seq, first_ih front_eq, second_ih back_eq, Bool.and_self]
  | scope inner ih => exact ih text_eq
  | _ => cases text_eq

end Term

section Unbounded

variable {limits : Limits} (unbounded : limits.Unbounded) {referred : List Nat}
include unbounded

namespace Planner

theorem isOk_classical (term : Term) : (classical limits term).isOk = term.classic := by
  rw [classical, unbounded.vast, Term.classic]
  cases term.classical? true with
  | none => rfl
  | some pattern =>
      simp [unbounded.sizeless]
      rfl

theorem decides_together (terms : List Term) :
    Decides (together limits terms) (terms.all Term.classic) := by
  rw [← Term.classic_inSequence]
  cases terms with
  | nil => exact .pure _
  | cons term terms =>
      rw [together, List.isEmpty_cons, if_neg Bool.false_ne_true]
      dsimp only
      cases text_eq : (Term.inSequence (term :: terms)).text? with
      | some chars =>
          rw [Term.classic_of_text text_eq]
          exact .pure _
      | none =>
          rw [← isOk_classical unbounded]
          cases found : classical limits (Term.inSequence (term :: terms)) with
          | error fault => exact .throw fault
          | ok pattern =>
              cases pattern <;> exact .pure _

end Planner

/-- Whether a planner succeeds does not depend on the slots that were given out before. -/
def Planner.Steady {α : Type} (planner : Planner α) : Prop := ∃ verdict, Decides planner verdict

namespace Planner.Steady

omit unbounded
variable {α : Type}

theorem pure (value : α) : Steady (pure value : Planner α) := ⟨_, .pure value⟩

theorem throw (fault : Fault) : Steady (throw fault : Planner α) := ⟨_, .throw fault⟩

theorem ite {condition : Prop} [Decidable condition] {first second : Planner α}
    (yes : Steady first) (no : Steady second) :
    Steady (if condition then first else second) := by
  split <;> assumption

/-- What was planned is made part of a plan, which cannot fail. -/
theorem map {β : Type} {first : Planner α} (steady : Steady first) (make : α → β) :
    Steady (do let one ← first; return make one) := by
  obtain ⟨verdict, decides⟩ := steady
  exact ⟨_, decides.bind fun one => .pure (make one)⟩

theorem bind {β : Type} {first : Planner α} {next : α → Planner β} (steady : Steady first)
    (same : ∃ verdict, ∀ value, Decides (next value) verdict) : Steady (first >>= next) := by
  obtain ⟨front, first_decides⟩ := steady
  obtain ⟨back, next_decides⟩ := same
  exact ⟨_, first_decides.bind next_decides⟩

theorem both {first second : Planner Plan} (front : Steady first) (back : Steady second)
    (join : Plan → Plan → Plan) :
    Steady (do let one ← first; let two ← second; return join one two) := by
  obtain ⟨verdict, decides⟩ := back
  exact front.bind ⟨_, fun one => decides.bind fun two => .pure (join one two)⟩

end Planner.Steady

open Planner

theorem steady_together (terms : List Term) : Steady (together limits terms) :=
  ⟨_, decides_together unbounded terms⟩

theorem steady_setting (setting : Setting) (term : Term) {visit : Bool → Planner Plan}
    (steady : ∀ free, Steady (visit free)) :
    Steady (setting.plan limits referred term visit) := by
  have whole := steady_together unbounded
  cases setting with
  | alone free => exact .ite (whole _) (steady free)
  | leading free before =>
      refine .ite (whole _) ?_
      cases Setting.canTrail referred free term with
      | true => exact .both (whole _) (whole _) Plan.andThen
      | false => exact .both (whole _) (steady false) Plan.andThen
  | trailing free => exact .ite (whole _) (steady false)
  | behind wanted | amongBehind wanted =>
      exact .ite (.ite ((steady true).map _) ((whole _).map _)) (.throw _)

/-- Whether a part can be planned in a setting does not depend on the slots that were given out. -/
theorem steady_plan (setting : Setting) (term : Term) :
    Steady (term.plan limits referred setting) := by
  induction term generalizing setting with
  | empty => exact steady_setting unbounded _ _ fun _ => .pure _
  | char fold c => exact steady_setting unbounded _ _ fun _ => steady_together unbounded _
  | set members => exact steady_setting unbounded _ _ fun _ => .pure _
  | bracket reading => exact steady_setting unbounded _ _ fun _ => steady_together unbounded _
  | unreadable => exact steady_setting unbounded _ _ fun _ => .throw _
  | edge place => exact steady_setting unbounded _ _ fun _ => .pure _
  | seq first second first_ih second_ih =>
      have rest (free : Bool) : Steady ((Term.seq first second).plan limits referred
          (.trailing free)) :=
        .ite (steady_together unbounded _)
          (.both (first_ih (.alone false)) (second_ih (.trailing free)) Plan.andThen)
      have leading (free : Bool) (before : List Term) : Steady ((Term.seq first second).plan limits
          referred (.leading free before)) :=
        .ite (second_ih (.leading free (before ++ [first])))
          (.both (steady_together unbounded before) (rest free) Plan.andThen)
      have around (setting : Setting) : Steady (setting.plan limits referred (.seq first second)
          fun free => (Term.seq first second).plan limits referred (.leading free [])) :=
        steady_setting unbounded setting _ fun free => leading free []
      cases setting with
      | leading free before => exact leading free before
      | trailing free => exact rest free
      | alone free => exact around (.alone free)
      | behind wanted => exact around (.behind wanted)
      | amongBehind wanted => exact around (.amongBehind wanted)
  | alt first second first_ih second_ih =>
      have around (setting : Setting) : Steady (setting.plan limits referred (.alt first second)
          fun free => do
            let left ← first.plan limits referred (.alone free)
            let right ← second.plan limits referred (.alone free)
            return Plan.alt left right) :=
        steady_setting unbounded setting _ fun free =>
          .both (first_ih (.alone free)) (second_ih (.alone free)) Plan.alt
      have apart (wanted : Bool) : Steady ((Term.alt first second).plan limits referred
          (.amongBehind wanted)) :=
        .both (first_ih (.amongBehind wanted)) (second_ih (.amongBehind wanted)) fun left right =>
          if wanted then .alt left right else .seq left right
      cases setting with
      | behind wanted => exact .ite (around (.behind wanted)) (apart wanted)
      | amongBehind wanted => exact apart wanted
      | alone free => exact around (.alone free)
      | leading free before => exact around (.leading free before)
      | trailing free => exact around (.trailing free)
  | scope inner ih =>
      have around (setting : Setting) : Steady (setting.plan limits referred (.scope inner)
          fun free => inner.plan limits referred (.alone free)) :=
        steady_setting unbounded setting _ fun free => ih (.alone free)
      cases setting with
      | behind wanted => exact ih (.behind wanted)
      | amongBehind wanted => exact around (.amongBehind wanted)
      | alone free => exact around (.alone free)
      | leading free before => exact around (.leading free before)
      | trailing free => exact around (.trailing free)
  | group number inner ih =>
      exact steady_setting unbounded _ _ fun free => (ih (.alone free)).map _
  | many inner least most greedy ih =>
      refine steady_setting unbounded _ _ fun free => ?_
      have part := ih (.alone (free && (least == 0 && most == some 1)))
      obtain ⟨verdict, decides⟩ := part
      have guarded (guard : Option Nat) : Decides (do
          let part ← inner.plan limits referred (.alone (free && (least == 0 && most == some 1)))
          return Plan.many part least most greedy guard) (verdict && true) :=
        decides.bind fun part => .pure _
      cases most.isNone && inner.leastSize == 0 with
      | true => exact .bind ((Steady.map ⟨_, .slot⟩ some)) ⟨_, guarded⟩
      | false => exact .bind (.pure none) ⟨_, guarded⟩
  | atomic inner ih => exact steady_setting unbounded _ _ fun _ => (ih (.alone true)).map _
  | look ahead wanted inner ih =>
      exact steady_setting unbounded _ _ fun _ =>
        .ite ((ih (.alone true)).map _) (ih (.behind wanted))
  | again number => exact steady_setting unbounded _ _ fun _ => .pure _
  | entered number => exact steady_setting unbounded _ _ fun _ => .pure _
  | choose condition yes no condition_ih yes_ih no_ih =>
      refine steady_setting unbounded _ _ fun free => (condition_ih (.alone free)).bind ?_
      obtain ⟨front, yes_decides⟩ := yes_ih (.alone free)
      obtain ⟨back, no_decides⟩ := no_ih (.alone free)
      exact ⟨_, fun _ => yes_decides.bind fun _ => no_decides.bind fun _ => .pure _⟩
  | restart => exact steady_setting unbounded _ _ fun _ => .pure _
  | resume => exact steady_setting unbounded _ _ fun _ => .pure _

/-! ## Sound parts -/

omit unbounded in
/-- A part that may lead in a sequence may trail in it, and one that may trail may lead. -/
theorem canLead_of_canTrail {term : Term} (trail : Setting.canTrail referred false term = true) :
    Setting.canLead referred term = true := by
  induction term with
  | seq first second _ ih =>
      simp only [Setting.canTrail, Bool.false_or, Bool.and_eq_true] at trail
      have back := ih trail.2
      simp only [Setting.canLead, Bool.and_eq_true, Term.constantSize, Term.beyondClassical,
        Bool.not_or] at back ⊢
      exact ⟨⟨trail.1.1, back.1⟩, trail.1.2, back.2⟩
  | _ => exact trail

/-- Whether a part can be planned is the same wherever it stands. -/
structure Term.Regular (limits : Limits) (referred : List Nat) (term : Term) (sound : Bool) :
    Prop where
  alone : Decides (term.plan limits referred (.alone false)) sound
  of_classic : term.classic = true → sound = true
  to_classic : Setting.canLead referred term = true → sound = true → term.classic = true
  trailing : Decides (term.plan limits referred (.trailing false)) sound
  leading : ∀ before, Decides (term.plan limits referred (.leading false before))
    (before.all Term.classic && sound)

/-- A part that is no sequence, and the plan of it where it is not joined with others. -/
structure Term.Visited (limits : Limits) (referred : List Nat) (term : Term)
    (visit : Bool → Planner Plan) : Prop where
  alone : term.plan limits referred (.alone false) = visit false
  trailing : term.plan limits referred (.trailing false) =
    Setting.plan limits referred term visit (.trailing false)
  leading : ∀ before, term.plan limits referred (.leading false before) =
    Setting.plan limits referred term visit (.leading false before)
  single : Setting.canTrail referred false term = Setting.canLead referred term

theorem regular_of_visited {term : Term} {visit : Bool → Planner Plan} {sound : Bool}
    (visited : term.Visited limits referred visit) (decides : Decides (visit false) sound)
    (of_classic : term.classic = true → sound = true)
    (to_classic : Setting.canLead referred term = true → sound = true → term.classic = true) :
    term.Regular limits referred sound := by
  have same (lead : Setting.canLead referred term = true) : term.classic = sound :=
    Bool.eq_iff_iff.mpr ⟨of_classic, to_classic lead⟩
  have trailing : Decides (Setting.plan limits referred term visit (.trailing false)) sound := by
    rw [Setting.plan, visited.single]
    split
    · next lead =>
        have whole := decides_together unbounded [term]
        rwa [List.all_cons, List.all_nil, Bool.and_true, same lead] at whole
    · exact decides
  refine ⟨visited.alone ▸ decides, of_classic, to_classic, visited.trailing ▸ trailing,
    fun before => ?_⟩
  rw [visited.leading, Setting.plan]
  split
  · next lead =>
      have whole := decides_together unbounded (before ++ [term])
      rwa [List.all_append, List.all_cons, List.all_nil, Bool.and_true, same lead] at whole
  · next apart =>
      simp only [visited.single, if_neg apart]
      have whole := (decides_together unbounded before).bind fun front =>
        decides.bind fun back => .pure (Plan.andThen front back)
      rwa [Bool.and_true] at whole

/-- What needs more than the classical operators is planned alone everywhere. -/
theorem regular_of_beyond {term : Term} {visit : Bool → Planner Plan}
    (visited : term.Visited limits referred visit)
    (beyond : term.beyondClassical referred = true) (unclassic : term.classic = false) :
    ∃ sound, term.Regular limits referred sound := by
  obtain ⟨sound, decides⟩ : Planner.Steady (term.plan limits referred (.alone false)) :=
    steady_plan unbounded (.alone false) term
  exact ⟨sound, regular_of_visited unbounded visited (visited.alone ▸ decides)
    (by simp [unclassic]) (by simp [Setting.canLead, beyond])⟩

theorem regular_seq {first second : Term} {front back : Bool}
    (first_regular : first.Regular limits referred front)
    (second_regular : second.Regular limits referred back) :
    (Term.seq first second).Regular limits referred (front && back) := by
  have of_classic (classic : (Term.seq first second).classic = true) :
      (front && back) = true := by
    rw [Term.classic_seq, Bool.and_eq_true] at classic
    rw [first_regular.of_classic classic.1, second_regular.of_classic classic.2, Bool.and_self]
  have to_classic (lead : Setting.canLead referred (.seq first second) = true)
      (sound : (front && back) = true) : (Term.seq first second).classic = true := by
    simp only [Setting.canLead, Term.constantSize, Term.beyondClassical, Bool.not_or,
      Bool.and_eq_true] at lead sound
    rw [Term.classic_seq, Bool.and_eq_true]
    exact ⟨first_regular.to_classic (by simp [Setting.canLead, lead]) sound.1,
      second_regular.to_classic (by simp [Setting.canLead, lead]) sound.2⟩
  have trailing : Decides ((Term.seq first second).plan limits referred (.trailing false))
      (front && back) := by
    cases trail : Setting.canTrail referred false (.seq first second) with
    | true =>
        have whole := decides_together unbounded [Term.seq first second]
        rw [List.all_cons, List.all_nil, Bool.and_true,
          Bool.eq_iff_iff.mpr ⟨of_classic, to_classic (canLead_of_canTrail trail)⟩] at whole
        rwa [Term.plan_trailing_of_canTrail trail]
    | false =>
        have whole := first_regular.alone.bind fun one =>
          second_regular.trailing.bind fun two => .pure (Plan.andThen one two)
        rw [Bool.and_true] at whole
        rwa [Term.plan_trailing_seq trail]
  have leading (before : List Term) :
      Decides ((Term.seq first second).plan limits referred (.leading false before))
        (before.all Term.classic && (front && back)) := by
    cases lead : Setting.canLead referred first with
    | true =>
        have onward := second_regular.leading (before ++ [first])
        have same : first.classic = front :=
          Bool.eq_iff_iff.mpr ⟨first_regular.of_classic, first_regular.to_classic lead⟩
        rw [List.all_append, List.all_cons, List.all_nil, Bool.and_true, same,
          Bool.and_assoc] at onward
        rwa [Term.plan_leading_onward lead]
    | false =>
        have whole := ((decides_together unbounded before).bind fun one =>
          trailing.bind fun two => .pure (Plan.andThen one two))
        rw [Bool.and_true] at whole
        rwa [Term.plan_leading_seq lead]
  refine ⟨?_, of_classic, to_classic, trailing, leading⟩
  rw [Term.plan_alone_false_seq]
  exact leading []

theorem regular_alt {first second : Term} {front back : Bool}
    (first_regular : first.Regular limits referred front)
    (second_regular : second.Regular limits referred back) :
    (Term.alt first second).Regular limits referred (front && back) := by
  have visited : (Term.alt first second).Visited limits referred fun free => do
      let left ← first.plan limits referred (.alone free)
      let right ← second.plan limits referred (.alone free)
      return .alt left right :=
    ⟨rfl, rfl, fun _ => rfl, rfl⟩
  have decides := first_regular.alone.bind fun one =>
    second_regular.alone.bind fun two => .pure (Plan.alt one two)
  rw [Bool.and_true] at decides
  refine regular_of_visited unbounded visited decides ?_ ?_
  · intro classic
    rw [Term.classic_alt, Bool.and_eq_true] at classic
    rw [first_regular.of_classic classic.1, second_regular.of_classic classic.2, Bool.and_self]
  · intro lead sound
    simp only [Setting.canLead, Term.constantSize, Term.beyondClassical, Bool.not_or,
      Bool.and_eq_true] at lead sound
    rw [Term.classic_alt, Bool.and_eq_true]
    exact ⟨first_regular.to_classic (by simp [Setting.canLead, lead]) sound.1,
      second_regular.to_classic (by simp [Setting.canLead, lead]) sound.2⟩

theorem regular_scope {inner : Term} {sound : Bool}
    (inner_regular : inner.Regular limits referred sound) :
    (Term.scope inner).Regular limits referred sound := by
  have visited : (Term.scope inner).Visited limits referred fun free =>
      inner.plan limits referred (.alone free) :=
    ⟨rfl, rfl, fun _ => rfl, rfl⟩
  exact regular_of_visited unbounded visited inner_regular.alone inner_regular.of_classic
    inner_regular.to_classic

theorem regular_group {number : Nat} {inner : Term} {sound : Bool}
    (inner_regular : inner.Regular limits referred sound) :
    (Term.group number inner).Regular limits referred sound := by
  have decides := inner_regular.alone.bind fun one => .pure (Plan.group number one)
  rw [Bool.and_true] at decides
  refine regular_of_visited unbounded ⟨rfl, rfl, fun _ => rfl, rfl⟩ decides ?_ ?_
  · rw [Term.classic_group]
    exact inner_regular.of_classic
  · intro lead
    rw [Term.classic_group]
    simp only [Setting.canLead, Term.constantSize, Term.beyondClassical, Bool.not_or,
      Bool.and_eq_true] at lead
    exact inner_regular.to_classic (by simp [Setting.canLead, lead])

theorem regular_many {inner : Term} {least : Nat} {most : Option Nat} {greedy : Bool} {sound : Bool}
    (inner_regular : inner.Regular limits referred sound) :
    (Term.many inner least most greedy).Regular limits referred sound := by
  have visited : (Term.many inner least most greedy).Visited limits referred fun free => do
      let optional := least == 0 && most == some 1
      let guard ←
        if most.isNone && inner.leastSize == 0 then some <$> Planner.slot else pure none
      let part ← inner.plan limits referred (.alone (free && optional))
      return .many part least most greedy guard :=
    ⟨rfl, rfl, fun _ => rfl, rfl⟩
  have guarded (guard : Option Nat) : Decides (do
      let part ← inner.plan limits referred (.alone false)
      return Plan.many part least most greedy guard) (sound && true) :=
    inner_regular.alone.bind fun part => .pure _
  refine regular_of_visited unbounded visited ?_ ?_ ?_
  · rw [← Bool.and_true sound]
    cases most.isNone && inner.leastSize == 0 with
    | true => exact (Decides.slot.bind fun slot => .pure (some slot)).bind guarded
    | false => exact (Decides.pure none).bind guarded
  · rw [Term.classic_many, Bool.and_eq_true]
    exact fun classic => inner_regular.of_classic classic.2
  · intro lead sound
    simp only [Setting.canLead, Term.constantSize, Term.beyondClassical, Bool.and_eq_true,
      beq_iff_eq] at lead
    have uncrossed : exceeds least most = false := by simp [lead, exceeds]
    rw [Term.classic_many, uncrossed]
    exact inner_regular.to_classic (by simp [Setting.canLead, lead]) sound

theorem exists_regular (term : Term) : ∃ sound, term.Regular limits referred sound := by
  have plain {term : Term} {visit : Bool → Planner Plan}
      (visited : term.Visited limits referred visit) (decides : Decides (visit false) true)
      (classic : term.classic = true) : ∃ sound, term.Regular limits referred sound :=
    ⟨true, regular_of_visited unbounded visited decides (fun _ => rfl) fun _ _ => classic⟩
  have whole {term : Term} (classic : term.classic = true) :
      Decides (together limits [term]) true := by
    have decides := decides_together unbounded [term]
    rwa [List.all_cons, List.all_nil, Bool.and_true, classic] at decides
  induction term with
  | empty => exact plain ⟨rfl, rfl, fun _ => rfl, rfl⟩ (.pure _) rfl
  | char fold c => exact plain ⟨rfl, rfl, fun _ => rfl, rfl⟩ (whole rfl) rfl
  | set members => exact plain ⟨rfl, rfl, fun _ => rfl, rfl⟩ (.pure _) rfl
  | bracket reading => exact plain ⟨rfl, rfl, fun _ => rfl, rfl⟩ (whole rfl) rfl
  | edge place => exact plain ⟨rfl, rfl, fun _ => rfl, rfl⟩ (.pure _) rfl
  | unreadable =>
      exact ⟨false, regular_of_visited unbounded ⟨rfl, rfl, fun _ => rfl, rfl⟩ (.throw _) nofun
        nofun⟩
  | seq first second first_ih second_ih =>
      obtain ⟨front, first_regular⟩ := first_ih
      obtain ⟨back, second_regular⟩ := second_ih
      exact ⟨_, regular_seq unbounded first_regular second_regular⟩
  | alt first second first_ih second_ih =>
      obtain ⟨front, first_regular⟩ := first_ih
      obtain ⟨back, second_regular⟩ := second_ih
      exact ⟨_, regular_alt unbounded first_regular second_regular⟩
  | scope inner ih =>
      obtain ⟨sound, inner_regular⟩ := ih
      exact ⟨_, regular_scope unbounded inner_regular⟩
  | group number inner ih =>
      obtain ⟨sound, inner_regular⟩ := ih
      exact ⟨_, regular_group unbounded inner_regular⟩
  | many inner least most greedy ih =>
      obtain ⟨sound, inner_regular⟩ := ih
      exact ⟨_, regular_many unbounded inner_regular⟩
  | _ => exact regular_of_beyond unbounded ⟨rfl, rfl, fun _ => rfl, rfl⟩ rfl rfl

omit unbounded in
/-- A plan can be made of the part where it stands alone. -/
def Term.sound (limits : Limits) (referred : List Nat) (term : Term) : Bool :=
  (term.plan limits referred (.alone false) 0).isOk

theorem regular_sound (term : Term) :
    term.Regular limits referred (term.sound limits referred) := by
  obtain ⟨sound, regular⟩ : ∃ sound, term.Regular limits referred sound :=
    exists_regular unbounded term
  rwa [show term.sound limits referred = sound from regular.alone 0]

/-- Every classical part can be planned. -/
theorem sound_of_classic {term : Term} (classic : term.classic = true) :
    term.sound limits referred = true :=
  (regular_sound unbounded term).of_classic classic

theorem sound_seq (first second : Term) : (Term.seq first second).sound limits referred =
    (first.sound limits referred && second.sound limits referred) :=
  (regular_seq unbounded (regular_sound unbounded first) (regular_sound unbounded second)).alone 0

theorem sound_alt (first second : Term) : (Term.alt first second).sound limits referred =
    (first.sound limits referred && second.sound limits referred) :=
  (regular_alt unbounded (regular_sound unbounded first) (regular_sound unbounded second)).alone 0

theorem sound_many (inner : Term) (least : Nat) (most : Option Nat) (greedy : Bool) :
    (Term.many inner least most greedy).sound limits referred = inner.sound limits referred :=
  (regular_many unbounded (regular_sound unbounded inner)).alone 0

/-- A sequence can be planned exactly if its parts can. -/
theorem sound_inSequence (terms : List Term) :
    (Term.inSequence terms).sound limits referred = terms.all (Term.sound limits referred) := by
  induction terms with
  | nil => rfl
  | cons term terms ih =>
      cases terms with
      | nil => simp [Term.inSequence]
      | cons other terms =>
          rw [Term.inSequence_cons (by simp), sound_seq unbounded, ih, ← List.all_cons]

/-- A choice can be planned exactly if its branches can. -/
theorem sound_inChoice (first : Term) (others : List Term) :
    (Term.inChoice first others).sound limits referred =
      (first :: others).all (Term.sound limits referred) := by
  induction others generalizing first with
  | nil => simp [Term.inChoice]
  | cons other others ih => rw [Term.inChoice, sound_alt unbounded, ih, ← List.all_cons]

/-- A text that must not follow can be planned. -/
theorem sound_barred (excluded : List Char) :
    (Sign.barred excluded).term.sound limits referred = true := by
  let inner := Term.inSequence (excluded.map (Term.char false))
  have unbeyond : inner.beyondClassical referred = false := by
    simp [inner, Term.beyondClassical_inSequence, Term.beyondClassical]
  have classic : inner.classic = true := by
    rw [Term.classic_inSequence, List.all_map]
    exact List.all_eq_true.mpr fun _ _ => rfl
  have decides := decides_together unbounded [inner]
  rw [List.all_cons, List.all_nil, Bool.and_true, classic, ← Term.plan_alone_true unbeyond]
    at decides
  exact decides.bind (fun one => .pure (Plan.look 0 false one)) 0

end Unbounded

end Redirects.Regex
