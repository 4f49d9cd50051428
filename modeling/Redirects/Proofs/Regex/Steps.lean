import Redirects.Regex.Machine

/-!
# Steps of the machine

A run is followed piece by piece: a stretch of it leads from one progress to another in a number of
steps, stretches are joined, and a run that starts with a stretch goes on from its end with the
steps that are left.  The ways that a plan without choices can end are given by a relation of their
own, which counts how often the machine comes back to a way that it kept; `Plan.Ends.leads` says
that the machine takes just these ways and none beside them.  Of plans to choose from the machine
takes the first that does not fail (`Plan.Tries.leads`).
-/

namespace Redirects.Regex

variable {limits : Limits} {text : Array Char}

/-- What a run comes to from some progress on, so many steps being left. -/
def Progress.finish (limits : Limits) (text : Array Char) (fuel : Nat) : Progress → Option Moment
  | .running state => state.run limits text fuel
  | .matched moment => some moment
  | .failed | .exhausted => none

/-- So many steps lead from one progress to another. -/
inductive Leads (limits : Limits) (text : Array Char) : Nat → Progress → Progress → Prop where
  | here (progress : Progress) : Leads limits text 0 progress progress
  | step {count : Nat} {state : Running} {progress : Progress}
      (rest : Leads limits text count (state.step limits text) progress) :
      Leads limits text (count + 1) (.running state) progress

namespace Leads

theorem one {state : Running} {progress : Progress}
    (step_eq : state.step limits text = progress) :
    Leads limits text 1 (.running state) progress :=
  .step (step_eq ▸ .here _)

theorem trans {first second : Nat} {before between after : Progress}
    (front : Leads limits text first before between)
    (back : Leads limits text second between after) :
    Leads limits text (first + second) before after := by
  induction front with
  | here => simpa using back
  | step _ ih =>
      rw [Nat.add_right_comm]
      exact .step (ih back)

/-- A run goes on from the end of a stretch with the steps that are left, if there are so many. -/
theorem finish_eq {count : Nat} {before after : Progress}
    (stretch : Leads limits text count before after) (fuel : Nat) :
    (before.finish limits text (fuel + count)) = after.finish limits text fuel := by
  induction stretch with
  | here => rfl
  | step _ ih => exact ih

/-- A run that is broken off within a stretch has found nothing. -/
theorem finish_of_lt {count fuel : Nat} {before after : Progress}
    (stretch : Leads limits text count before after) (short : fuel < count) :
    before.finish limits text fuel = none := by
  induction stretch generalizing fuel with
  | here => omega
  | step _ ih =>
      cases fuel with
      | zero => rfl
      | succ fuel => exact ih (by omega)

end Leads

/-! ## Plans without choices -/

theorem exceeds_of_le {number other : Nat} {bound : Option Nat} (le : number ≤ other)
    (beyond : exceeds number bound = true) : exceeds other bound = true := by
  cases bound with
  | none => exact beyond
  | some bound =>
      simp only [exceeds, decide_eq_true_eq] at beyond ⊢
      omega

theorem within_of_le {number other : Nat} {bound : Option Nat} (le : number ≤ other)
    (within : exceeds other bound = false) : exceeds number bound = false := by
  cases beyond : exceeds number bound with
  | false => rfl
  | true => exact absurd (exceeds_of_le le beyond) (by simp [within])

/-- What a plan without choices comes to from a position: it ends at a place, or it fails.  The
number says how often the machine comes back to a way that it kept meanwhile. -/
inductive Plan.Ends (text : Array Char) : Plan → Nat → Option Nat → Nat → Prop where
  | stands {chars : List Char} {position : Nat} (found : standsAt text chars position = true) :
      Ends text (.text chars) position (some (position + chars.length)) 0
  | differs {chars : List Char} {position : Nat} (missed : standsAt text chars position = false) :
      Ends text (.text chars) position none 0
  /-- A classical part that takes nothing. -/
  | blank (firstGroup position : Nat) :
      Ends text (.classical Classical.empty.automaton firstGroup) position (some position) 0
  | both {first second : Plan} {position between spent further : Nat} {stop? : Option Nat}
      (front : Ends text first position (some between) spent)
      (back : Ends text second between stop? further) :
      Ends text (.seq first second) position stop? (spent + further)
  | short {first second : Plan} {position spent : Nat}
      (front : Ends text first position none spent) :
      Ends text (.seq first second) position none spent
  /-- What must not follow does. -/
  | refused {inner : Plan} {position stop spent : Nat}
      (inside : Ends text inner position (some stop) spent) :
      Ends text (.look 0 false inner) position none spent
  /-- What must not follow does not, and the way kept for this case is taken. -/
  | granted {inner : Plan} {position spent : Nat} (inside : Ends text inner position none spent) :
      Ends text (.look 0 false inner) position (some position) (spent + 1)

namespace Plan

/-- How many ways a plan keeps at once that chooses at most between its branches. -/
def height : Plan → Nat
  | .look _ _ inner => inner.height + 1
  | .seq first second => max first.height second.height
  | .alt first second => max (first.height + 1) second.height
  | _ => 0

/-- A number of steps within which such a plan has ended. -/
def duration : Plan → Nat
  | .look _ _ inner => inner.duration + 2
  | .seq first second | .alt first second => first.duration + second.duration + 1
  | _ => 1

end Plan

/-- Goes on where a plan ended, or with the way that was kept last. -/
def Running.proceed (limits : Limits) (state : Running) : Option Nat → Progress
  | some stop => .running { state with moment := state.moment.moveTo stop }
  | none => state.retreat limits

namespace Plan

theorem matchAt?_empty (position : Nat) :
    Classical.empty.automaton.matchAt? text position =
      some ⟨0, position, Array.replicate 2 none⟩ := by
  have patient : Classical.empty.automaton.patience text ≠ 0 := by
    simp [Automaton.patience]
  obtain ⟨fuel, fuel_eq⟩ := Nat.exists_eq_succ_of_ne_zero patient
  rw [Automaton.matchAt?, Automaton.runFrom, fuel_eq]
  rfl

/-- What must not follow is looked for with the way kept that is taken if it does not. -/
theorem step_look {inner : Plan} {tasks : List Task} {moment : Moment} {branches : List Branch}
    {depth retreats : Nat} (room : exceeds (depth + 1) limits.branches = false) :
    Running.step limits text
        ⟨.attempt (.look 0 false inner) :: tasks, moment, branches, depth, retreats⟩ =
      .running ⟨[.attempt inner, .refuse depth], moment, ⟨tasks, moment⟩ :: branches, depth + 1,
        retreats⟩ := by
  simp [Running.step, Plan.begin, Running.keep, room, Moment.moveTo]

/-- Once it was found, the way kept meanwhile is dropped. -/
theorem step_refuse {tasks : List Task} {moment : Moment} {kept : Branch} {branches : List Branch}
    {depth retreats : Nat} :
    Running.step limits text
        ⟨.refuse depth :: tasks, moment, kept :: branches, depth + 1, retreats⟩ =
      Running.retreat limits ⟨tasks, moment, branches, depth, retreats⟩ := by
  simp [Running.step, Running.truncate, Running.retreat]

/-- The machine takes a plan without choices to its end, unless it comes back too often. -/
theorem Ends.leads {plan : Plan} {position spent : Nat} {stop? : Option Nat}
    (ends : plan.Ends text position stop? spent) (tasks : List Task) (moment : Moment)
    (branches : List Branch) {depth retreats : Nat}
    (fresh : exceeds retreats limits.retreats = false)
    (room : exceeds (depth + plan.height) limits.branches = false) :
    ∃ count ≤ plan.duration,
      Leads limits text count
        (.running ⟨.attempt plan :: tasks, moment.moveTo position, branches, depth, retreats⟩)
        (if exceeds (retreats + spent) limits.retreats then .exhausted
          else Running.proceed limits ⟨tasks, moment, branches, depth, retreats + spent⟩ stop?) := by
  induction ends generalizing tasks moment branches depth retreats with
  | stands found =>
      refine ⟨1, Nat.le_refl 1, .one ?_⟩
      simp [Running.step, begin, Moment.moveTo, found, fresh, Running.go, Running.proceed]
  | differs missed =>
      refine ⟨1, Nat.le_refl 1, .one ?_⟩
      simp [Running.step, begin, Moment.moveTo, missed, fresh, Running.proceed, Running.retreat]
  | blank firstGroup position =>
      refine ⟨1, Nat.le_refl 1, .one ?_⟩
      simp [Running.step, begin, Moment.moveTo, fresh, Running.go, Running.proceed,
        matchAt?_empty, Moment.adopt]
  | @both first second position between spent further stop? front back front_ih back_ih =>
      have first_room : exceeds (depth + first.height) limits.branches = false :=
        within_of_le (Nat.add_le_add_left (Nat.le_max_left ..) depth) room
      have second_room : exceeds (depth + second.height) limits.branches = false :=
        within_of_le (Nat.add_le_add_left (Nat.le_max_right ..) depth) room
      obtain ⟨count, count_le, stretch⟩ :=
        front_ih (.attempt second :: tasks) moment branches fresh first_room
      cases beyond : exceeds (retreats + spent) limits.retreats with
      | true =>
          have beyond_all := exceeds_of_le (Nat.le_add_right _ further) beyond
          rw [beyond, if_pos rfl] at stretch
          rw [← Nat.add_assoc, beyond_all, if_pos rfl]
          exact ⟨count + 1, by simp only [duration]; omega, .step stretch⟩
      | false =>
          rw [beyond, if_neg Bool.false_ne_true] at stretch
          obtain ⟨rest, rest_le, back_stretch⟩ :=
            back_ih tasks moment branches beyond second_room
          rw [← Nat.add_assoc]
          exact ⟨count + rest + 1, by simp only [duration]; omega,
            .step (stretch.trans back_stretch)⟩
  | @short first second position spent front ih =>
      have first_room : exceeds (depth + first.height) limits.branches = false :=
        within_of_le (Nat.add_le_add_left (Nat.le_max_left ..) depth) room
      obtain ⟨count, count_le, stretch⟩ :=
        ih (.attempt second :: tasks) moment branches fresh first_room
      exact ⟨count + 1, by simp only [duration]; omega, .step stretch⟩
  | @refused inner position stop spent inside ih =>
      have kept_room : exceeds (depth + 1) limits.branches = false :=
        within_of_le (by simp only [height]; omega) room
      have inner_room : exceeds (depth + 1 + inner.height) limits.branches = false :=
        within_of_le (by simp only [height]; omega) room
      obtain ⟨count, count_le, stretch⟩ :=
        ih [.refuse depth] moment (⟨tasks, moment.moveTo position⟩ :: branches) fresh inner_room
      have opened := (Leads.one (step_look kept_room)).trans stretch
      cases beyond : exceeds (retreats + spent) limits.retreats with
      | true =>
          rw [beyond, if_pos rfl] at opened
          exact ⟨1 + count, by simp only [duration]; omega, opened⟩
      | false =>
          rw [beyond, if_neg Bool.false_ne_true] at opened
          exact ⟨1 + count + 1, by simp only [duration]; omega, opened.trans (.one step_refuse)⟩
  | @granted inner position spent inside ih =>
      have kept_room : exceeds (depth + 1) limits.branches = false :=
        within_of_le (by simp only [height]; omega) room
      have inner_room : exceeds (depth + 1 + inner.height) limits.branches = false :=
        within_of_le (by simp only [height]; omega) room
      obtain ⟨count, count_le, stretch⟩ :=
        ih [.refuse depth] moment (⟨tasks, moment.moveTo position⟩ :: branches) fresh inner_room
      have opened := (Leads.one (step_look kept_room)).trans stretch
      refine ⟨1 + count, by simp only [duration]; omega, ?_⟩
      cases beyond : exceeds (retreats + spent) limits.retreats with
      | true =>
          rw [beyond, if_pos rfl] at opened
          rwa [← Nat.add_assoc, exceeds_of_le (Nat.le_add_right _ 1) beyond, if_pos rfl]
      | false =>
          -- the failure inside comes back to the way kept in front of it
          rw [beyond, if_neg Bool.false_ne_true] at opened
          exact opened

/-! ## Plans to choose from -/

/-- What plans to choose from come to: the first that does not fail ends, or all of them fail.  The
number says how often the machine comes back to a way that it kept meanwhile. -/
inductive Tries (text : Array Char) : Plan → Nat → Option Nat → Nat → Prop where
  | single {plan : Plan} {position spent : Nat} {stop? : Option Nat}
      (ends : plan.Ends text position stop? spent) : Tries text plan position stop? spent
  | nothing (position : Nat) : Tries text .nothing position (some position) 0
  | empty (second : Plan) (position : Nat) :
      Tries text (.alt .nothing second) position (some position) 0
  | first {first : Plan} (second : Plan) {position stop spent : Nat}
      (ends : first.Ends text position (some stop) spent) :
      Tries text (.alt first second) position (some stop) spent
  | second {first second : Plan} {position spent further : Nat} {stop? : Option Nat}
      (fails : first.Ends text position none spent) (back : Tries text second position stop? further) :
      Tries text (.alt first second) position stop? (spent + 1 + further)

/-- The first plan is tried with the way kept that tries the second. -/
theorem step_alt {first second : Plan} {tasks : List Task} {moment : Moment}
    {branches : List Branch} {depth retreats : Nat}
    (room : exceeds (depth + (Plan.alt first second).height) limits.branches = false) :
    Running.step limits text
        ⟨.attempt (.alt first second) :: tasks, moment, branches, depth, retreats⟩ =
      .running ⟨.attempt first :: tasks, moment, ⟨.attempt second :: tasks, moment⟩ :: branches,
        depth + 1, retreats⟩ := by
  have kept_room : exceeds (depth + 1) limits.branches = false :=
    within_of_le (by simp only [height]; omega) room
  simp [Running.step, begin, Running.keep, kept_room]

theorem room_first {first second : Plan} {depth : Nat}
    (room : exceeds (depth + (Plan.alt first second).height) limits.branches = false) :
    exceeds (depth + 1 + first.height) limits.branches = false :=
  within_of_le (by simp only [height]; omega) room

/-- The machine takes the first plan that does not fail, and keeps the others behind it. -/
theorem Tries.leads {plan : Plan} {position spent : Nat} {stop? : Option Nat}
    (tries : plan.Tries text position stop? spent) (tasks : List Task) (moment : Moment)
    (branches : List Branch) {depth retreats : Nat}
    (fresh : exceeds retreats limits.retreats = false)
    (room : exceeds (depth + plan.height) limits.branches = false) :
    ∃ count ≤ plan.duration, ∃ kept more,
      (stop? = none → kept = [] ∧ more = 0) ∧
      Leads limits text count
        (.running ⟨.attempt plan :: tasks, moment.moveTo position, branches, depth, retreats⟩)
        (if exceeds (retreats + spent) limits.retreats then .exhausted
          else Running.proceed limits
            ⟨tasks, moment, kept ++ branches, depth + more, retreats + spent⟩ stop?) := by
  induction tries generalizing retreats with
  | single ends =>
      obtain ⟨count, count_le, stretch⟩ := ends.leads tasks moment branches fresh room
      exact ⟨count, count_le, [], 0, fun _ => ⟨rfl, rfl⟩, stretch⟩
  | nothing position =>
      refine ⟨1, Nat.le_refl 1, [], 0, fun _ => ⟨rfl, rfl⟩, .one ?_⟩
      simp [Running.step, begin, Moment.moveTo, fresh, Running.go, Running.proceed]
  | empty second position =>
      refine ⟨2, by simp only [duration]; omega,
        [⟨.attempt second :: tasks, moment.moveTo position⟩], 1, nofun,
        (Leads.one (step_alt room)).trans (.one ?_)⟩
      simp [Running.step, begin, Moment.moveTo, fresh, Running.go, Running.proceed]
  | @first first second position stop spent ends =>
      obtain ⟨count, count_le, stretch⟩ := ends.leads tasks moment
        (⟨.attempt second :: tasks, moment.moveTo position⟩ :: branches) fresh (room_first room)
      refine ⟨1 + count, by simp only [duration]; omega,
        [⟨.attempt second :: tasks, moment.moveTo position⟩], 1, nofun, ?_⟩
      exact (Leads.one (step_alt room)).trans stretch
  | @second first second position spent further stop? fails back ih =>
      obtain ⟨count, count_le, stretch⟩ := fails.leads tasks moment
        (⟨.attempt second :: tasks, moment.moveTo position⟩ :: branches) fresh (room_first room)
      have opened := (Leads.one (step_alt room)).trans stretch
      have second_room : exceeds (depth + second.height) limits.branches = false :=
        within_of_le (Nat.add_le_add_left (Nat.le_max_right ..) depth) room
      have sum_eq : retreats + (spent + 1 + further) = retreats + spent + 1 + further := by omega
      rw [sum_eq]
      cases beyond : exceeds (retreats + spent + 1) limits.retreats with
      | true =>
          -- the machine does not come back to the second plan
          have exhausted : (if exceeds (retreats + spent) limits.retreats then .exhausted else
              Running.proceed limits ⟨tasks, moment,
                ⟨.attempt second :: tasks, moment.moveTo position⟩ :: branches, depth + 1,
                retreats + spent⟩ none) = Progress.exhausted := by
            simp [Running.proceed, Running.retreat, beyond]
          have beyond_all := exceeds_of_le (Nat.le_add_right _ further) beyond
          rw [exhausted] at opened
          simp only [beyond_all, if_true]
          exact ⟨1 + count, by simp only [duration]; omega, [], 0, fun _ => ⟨rfl, rfl⟩, opened⟩
      | false =>
          have within_first : exceeds (retreats + spent) limits.retreats = false :=
            within_of_le (Nat.le_succ _) beyond
          have back_to : Running.proceed limits ⟨tasks, moment,
              ⟨.attempt second :: tasks, moment.moveTo position⟩ :: branches, depth + 1,
              retreats + spent⟩ none = .running ⟨.attempt second :: tasks, moment.moveTo position,
                branches, depth, retreats + spent + 1⟩ := by
            simp [Running.proceed, Running.retreat, beyond]
          rw [within_first, if_neg Bool.false_ne_true, back_to] at opened
          obtain ⟨others, others_le, kept, more, none_kept, onward⟩ := ih beyond second_room
          exact ⟨1 + count + others, by simp only [duration]; omega, kept, more, none_kept,
            opened.trans onward⟩

end Plan

end Redirects.Regex
