import Redirects.Proofs.Regex.Tail

/-!
# A needle that must not begin with a text, and the rest of its line

With a text excluded in front of the needle the pattern is no longer classical.  Its plan carries the
exclusion and the characters of the needle out one after another and then goes along the line, where
it keeps a way at every place.  So it is found at the first place where the needle stands and the
excluded text does not, as long as the search comes there before it has spent its retreats and the
line does not keep too many ways.
-/

namespace Redirects.Regex

variable {limits : Limits} {text : Array Char}

/-! ## Plans in front of another -/

namespace Plan

/-- A plan carries signs out and then comes to its last part; where the signs do not end, it fails. -/
structure LeadsInto (plan : Plan) (signs : List Sign) (last : Plan) : Prop where
  fails : ∀ text place, endFrom? text signs place = none →
    plan.Ends text place none (missedFrom text signs place)
  reaches : ∀ (limits : Limits) text place stop, endFrom? text signs place = some stop →
    ∀ (tasks : List Task) (moment : Moment) (branches : List Branch) {depth retreats : Nat},
      exceeds retreats limits.retreats = false → exceeds (depth + 1) limits.branches = false →
      ∃ count ≤ plan.duration,
        Leads limits text count
          (.running ⟨.attempt plan :: tasks, moment.moveTo place, branches, depth, retreats⟩)
          (if exceeds (retreats + missedFrom text signs place) limits.retreats then .exhausted
            else .running ⟨.attempt last :: tasks, moment.moveTo stop, branches, depth,
              retreats + missedFrom text signs place⟩)
  height_le : plan.height ≤ 1
  nonempty : plan ≠ .nothing

theorem LeadsInto.refl {last : Plan} (flat : last.height ≤ 1) (nonempty : last ≠ .nothing) :
    last.LeadsInto [] last where
  fails text place fails := by cases fails
  reaches limits text place stop stop_eq tasks moment branches depth retreats fresh _ := by
    cases stop_eq
    refine ⟨0, Nat.zero_le _, ?_⟩
    rw [missedFrom, Nat.add_zero, fresh, if_neg Bool.false_ne_true]
    exact .here _
  height_le := flat
  nonempty := nonempty

theorem Carries.seq {front back last : Plan} {signs others : List Sign}
    (carries : front.Carries signs) (leads : back.LeadsInto others last) :
    (Plan.seq front back).LeadsInto (signs ++ others) last where
  fails text place fails := by
    have front_ends := carries.ends text place
    rw [endFrom?_append] at fails
    rw [missedFrom_append]
    cases between : endFrom? text signs place with
    | none =>
        rw [between] at front_ends
        exact .short front_ends
    | some stop =>
        rw [between] at front_ends fails
        exact .both front_ends (leads.fails text stop fails)
  reaches limits text place stop stop_eq tasks moment branches depth retreats fresh room := by
    have front_ends := carries.ends text place
    rw [endFrom?_append, Option.bind_eq_some_iff] at stop_eq
    obtain ⟨between, between_eq, stop_eq⟩ := stop_eq
    rw [between_eq] at front_ends
    have front_room : exceeds (depth + front.height) limits.branches = false :=
      within_of_le (Nat.add_le_add_left carries.height_le depth) room
    obtain ⟨count, count_le, stretch⟩ :=
      front_ends.leads (.attempt back :: tasks) moment branches fresh front_room
    have split : missedFrom text (signs ++ others) place = _ := missedFrom_append signs others place
    rw [between_eq, Option.elim_some] at split
    rw [split, ← Nat.add_assoc]
    cases beyond : exceeds (retreats + missedFrom text signs place) limits.retreats with
    | true =>
        rw [beyond, if_pos rfl] at stretch
        rw [exceeds_of_le (Nat.le_add_right _ _) beyond, if_pos rfl]
        exact ⟨count + 1, by simp only [duration]; omega, .step stretch⟩
    | false =>
        rw [beyond, if_neg Bool.false_ne_true] at stretch
        obtain ⟨rest, rest_le, onward⟩ := leads.reaches limits text between stop stop_eq tasks
          moment branches beyond room
        exact ⟨count + rest + 1, by simp only [duration]; omega, .step (stretch.trans onward)⟩
  height_le := Nat.max_le.mpr ⟨carries.height_le, leads.height_le⟩
  nonempty := Plan.noConfusion

theorem andThen_eq_seq {front back : Plan} (front_ne : front ≠ .nothing)
    (back_ne : back ≠ .nothing) : front.andThen back = .seq front back := by
  cases front <;> cases back <;> first | rfl | contradiction

/-- The group that takes the rest of a line. -/
def tail : Plan := .group 1 (.many (.set dot) 0 none true none)

end Plan

/-! ## Planning -/

namespace Term

theorem canTrail_tailed (signs : List Sign) :
    Setting.canTrail [] false (inSequence (signs.map Sign.term ++ [.tail])) = false := by
  induction signs with
  | nil => rfl
  | cons sign signs ih =>
      rw [List.map_cons, List.cons_append, inSequence_cons (by simp), Setting.canTrail, ih,
        Bool.and_false]

end Term

theorem plan_tail (next : Nat) :
    Term.tail.plan limits [] (.trailing false) next = .ok (.tail, next) := rfl

section Planning

variable (roomy : limits.size.all Classical.empty.fits = true)
include roomy

/-- The signs in front of the group are planned one by one. -/
theorem plan_trailing_tailed (signs : List Sign) (next : Nat) :
    ∃ plan, (Term.inSequence (signs.map Sign.term ++ [.tail])).plan limits [] (.trailing false)
        next = .ok (plan, next) ∧
      plan.LeadsInto signs .tail ∧ plan.duration ≤ 4 * signs.length + 1 := by
  induction signs with
  | nil => exact ⟨.tail, plan_tail next, .refl (Nat.zero_le 1) Plan.noConfusion, Nat.le_refl 1⟩
  | cons sign signs ih =>
      obtain ⟨front, front_eq, front_carries, front_brief⟩ := plan_sign roomy sign next
      obtain ⟨back, back_eq, back_leads, back_brief⟩ := ih
      have apart := Term.canTrail_tailed (sign :: signs)
      rw [List.map_cons, List.cons_append, Term.inSequence_cons (by simp)] at apart ⊢
      refine ⟨.seq front back, ?_, front_carries.seq back_leads, ?_⟩
      · rw [Term.plan_trailing_seq apart, bind_ok front_eq, bind_ok back_eq,
          Plan.andThen_eq_seq front_carries.ne_nothing back_leads.nonempty]
        rfl
      · rw [Plan.duration, List.length_cons]
        omega

variable (limits) in
/-- A needle that must not begin with a text, and the group behind it. -/
theorem plan_barred_tailed (excluded : List Char) (signs : List Sign) (next : Nat) :
    ∃ plan, (Term.inSequence ((Sign.barred excluded :: signs).map Sign.term ++ [.tail])).plan limits
        [] (.alone false) next = .ok (plan, next) ∧
      plan.LeadsInto (.barred excluded :: signs) .tail ∧
      plan.duration ≤ 4 * signs.length + 5 := by
  obtain ⟨plan, plan_eq, leads, brief⟩ :=
    plan_trailing_tailed roomy (.barred excluded :: signs) next
  refine ⟨plan, ?_, leads, by simpa [Nat.mul_add] using brief⟩
  have nothing : Planner.together limits [] next = .ok (.nothing, next) := rfl
  have onward : Plan.nothing.andThen plan = plan := by
    cases plan <;> rfl
  rw [List.map_cons, List.cons_append, Term.inSequence_cons (by simp)] at plan_eq ⊢
  rw [Term.plan_alone_false_seq, Term.plan_leading_seq rfl, bind_ok nothing, bind_ok plan_eq,
    onward]
  rfl

end Planning

/-! ## The run along a line -/

variable (limits text) in
/-- Before it takes a character, the loop keeps the way that leaves it. -/
theorem step_pass_dot (tasks : List Task) (moment : Moment) (branches : List Branch)
    (count depth retreats : Nat) :
    Running.step limits text
        ⟨.pass (.set dot) 0 none true none count :: tasks, moment, branches, depth, retreats⟩ =
      if exceeds (depth + 1) limits.branches then .exhausted
      else .running ⟨.attempt (.set dot) :: .pass (.set dot) 0 none true none (count + 1) :: tasks,
        moment, ⟨tasks, moment⟩ :: branches, depth + 1, retreats⟩ := rfl

variable (limits) in
/-- A loop along a line keeps a way at each of its places and comes back once, at its end. -/
theorem leads_line {line rest : List Char} {position : Nat} (slots : Slots) (marks : List Nat)
    (tasks : List Task) (branches : List Branch) (count depth retreats : Nat)
    (text_eq : text.toList.drop position = line ++ rest) (inside : ∀ c ∈ line, c ≠ '\n')
    (ends : ∀ c, rest.head? = some c → c = '\n') :
    ∃ steps ≤ 2 * line.length + 2, ∃ kept height, Leads limits text steps
      (.running ⟨.pass (.set dot) 0 none true none count :: tasks, ⟨position, slots, marks⟩,
        branches, depth, retreats⟩)
      (if exceeds (depth + line.length + 1) limits.branches ||
          exceeds (retreats + 1) limits.retreats then .exhausted
        else .running ⟨tasks, ⟨position + line.length, slots, marks⟩, kept, height,
          retreats + 1⟩) := by
  induction line generalizing position branches count depth with
  | nil =>
      have tried := step_pass_dot limits text tasks ⟨position, slots, marks⟩
        branches count depth retreats
      cases deep : exceeds (depth + 1) limits.branches with
      | true =>
          rw [deep, if_pos rfl] at tried
          exact ⟨1, by omega, [], 0, by simpa [deep] using Leads.one tried⟩
      | false =>
          rw [deep, if_neg Bool.false_ne_true] at tried
          have refused : ∀ c, text[position]? = some c → dot.has c = false := by
            intro c here
            rw [getElem?_eq_head?_drop, text_eq] at here
            exact Bool.eq_false_iff.mpr fun taken => has_dot.mp taken (ends c here)
          refine ⟨2, by omega, branches, depth, (Leads.one tried).trans (.one ?_)⟩
          have failed : Running.step limits text ⟨.attempt (.set dot) ::
                .pass (.set dot) 0 none true none (count + 1) :: tasks, ⟨position, slots, marks⟩,
                ⟨tasks, ⟨position, slots, marks⟩⟩ :: branches, depth + 1, retreats⟩ =
              Running.retreat limits ⟨.attempt (.set dot) ::
                .pass (.set dot) 0 none true none (count + 1) :: tasks, ⟨position, slots, marks⟩,
                ⟨tasks, ⟨position, slots, marks⟩⟩ :: branches, depth + 1, retreats⟩ := by
            cases here : text[position]? with
            | none => simp [Running.step, Plan.begin, here]
            | some c => simp [Running.step, Plan.begin, here, refused c here]
          rw [failed]
          simp [Running.retreat]
  | cons c line ih =>
      have tried := step_pass_dot limits text tasks ⟨position, slots, marks⟩
        branches count depth retreats
      have deeper : depth + 1 + line.length + 1 = depth + (c :: line).length + 1 := by
        rw [List.length_cons]
        omega
      cases deep : exceeds (depth + 1) limits.branches with
      | true =>
          rw [deep, if_pos rfl] at tried
          have deep_all : exceeds (depth + (c :: line).length + 1) limits.branches = true :=
            exceeds_of_le (by omega) deep
          refine ⟨1, by omega, [], 0, ?_⟩
          rw [deep_all, Bool.true_or, if_pos rfl]
          exact .one tried
      | false =>
          rw [deep, if_neg Bool.false_ne_true] at tried
          have here : text[position]? = some c := by
            rw [getElem?_eq_head?_drop, text_eq]
            rfl
          have taken : dot.has c = true := has_dot.mpr (inside c List.mem_cons_self)
          have next_eq : text.toList.drop (position + 1) = line ++ rest := by
            rw [← List.drop_drop, text_eq]
            rfl
          obtain ⟨steps, steps_le, kept, height, onward⟩ := ih
            (⟨tasks, ⟨position, slots, marks⟩⟩ :: branches) (count + 1) (depth + 1) next_eq
            (fun d d_mem => inside d (List.mem_cons_of_mem _ d_mem))
          have moved : Running.step limits text ⟨.attempt (.set dot) ::
                .pass (.set dot) 0 none true none (count + 1) :: tasks, ⟨position, slots, marks⟩,
                ⟨tasks, ⟨position, slots, marks⟩⟩ :: branches, depth + 1, retreats⟩ =
              .running ⟨.pass (.set dot) 0 none true none (count + 1) :: tasks,
                ⟨position + 1, slots, marks⟩, ⟨tasks, ⟨position, slots, marks⟩⟩ :: branches,
                depth + 1, retreats⟩ := by
            simp [Running.step, Plan.begin, here, taken, Running.go, Moment.moveTo]
          rw [deeper, Nat.add_assoc position, Nat.add_comm 1] at onward
          refine ⟨1 + (1 + steps), by rw [List.length_cons]; omega, kept, height, ?_⟩
          exact (Leads.one tried).trans ((Leads.one moved).trans onward)

/-! ## The search -/

/-- The slots of a match that takes the rest of a line from one position to another. -/
def tailMoment (place start stop : Nat) : Moment :=
  ⟨stop, #[some place, some stop, some start, some stop], []⟩

variable (limits text) in
/-- From the group on, the machine takes the rest of the line and has found a match, unless it comes
to a limit. -/
theorem leads_tail (place start retreats : Nat) (branches : List Branch) :
    let line := lineOf (text.toList.drop start)
    ∃ steps ≤ 2 * line.length + 7, Leads limits text steps
      (.running ⟨[.attempt .tail, .note 1], ⟨start, #[some place, none, none, none], []⟩, branches,
        1, retreats⟩)
      (if exceeds (line.length + 2) limits.branches || exceeds (retreats + 1) limits.retreats then
          .exhausted
        else .matched (tailMoment place start (start + line.length))) := by
  intro line
  obtain ⟨rest, text_eq, inside, ends⟩ := exists_lineOf (text.toList.drop start)
  obtain ⟨steps, steps_le, kept, height, stretch⟩ := leads_line limits
    #[some place, none, some start, none] [] [.note 3, .note 1] branches 0 1 retreats text_eq inside
    ends
  have few_steps : 2 + steps ≤ 2 * line.length + 4 := by
    rw [Nat.add_comm]
    exact Nat.add_le_add_right steps_le 2
  have deeper : 1 + line.length + 1 = line.length + 2 := by omega
  have opened : Leads limits text 2
      (.running ⟨[.attempt .tail, .note 1], ⟨start, #[some place, none, none, none], []⟩, branches,
        1, retreats⟩)
      (.running ⟨[.pass (.set dot) 0 none true none 0, .note 3, .note 1],
        ⟨start, #[some place, none, some start, none], []⟩, branches, 1, retreats⟩) :=
    .step (.one rfl)
  have reached := opened.trans stretch
  rw [deeper] at reached
  cases exhausted : exceeds (line.length + 2) limits.branches ||
      exceeds (retreats + 1) limits.retreats with
  | true =>
      rw [exhausted, if_pos rfl] at reached
      exact ⟨_, by omega, reached⟩
  | false =>
      rw [exhausted, if_neg Bool.false_ne_true] at reached
      exact ⟨_, by omega, reached.trans (.step (.step (.one rfl)))⟩

section Search

variable {plan : Plan} {signs : List Sign} (leads : plan.LeadsInto signs .tail)
  (wide : exceeds 2 limits.branches = false)
include leads wide

variable (limits text) in
/-- Where the signs end first, the search takes the rest of the line, unless it comes to a limit. -/
theorem search_tailed {place start : Nat} (inside : place ≤ text.size)
    (start_eq : endFrom? text signs place = some start)
    (before : ∀ earlier < place, endFrom? text signs earlier = none)
    {retreats : Nat} (retreats_eq : retreats =
      spentBefore (missedFrom text signs) place + missedFrom text signs place)
    {line : List Char} (line_eq : line = lineOf (text.toList.drop start))
    (patient : exceeds (line.length + 2) limits.branches = false →
      exceeds (retreats + 1) limits.retreats = false →
      (place + 1) * (plan.duration + 3) + 2 * line.length + 11 ≤ limits.steps) :
    plan.search limits 4 text =
      if exceeds (line.length + 2) limits.branches || exceeds (retreats + 1) limits.retreats then none
      else some (tailMoment place start (start + line.length)) := by
  have room : exceeds (1 + plan.height) limits.branches = false :=
    within_of_le (Nat.add_le_add_left leads.height_le 1) wide
  have missed : ∀ earlier < place, plan.Tries text earlier none (missedFrom text signs earlier) :=
    fun earlier lt => .single (leads.fails text earlier (before earlier lt))
  cases sooner : exceeds (spentBefore (missedFrom text signs) place) limits.retreats with
  | true =>
      obtain ⟨steps, after, ended, stretch⟩ :=
        Plan.leads_nowhere room (Array.replicate 4 none) missed (.inr sooner)
      have exhausted : exceeds (retreats + 1) limits.retreats = true :=
        exceeds_of_le (by omega) sooner
      rw [exhausted, Bool.or_true, if_pos rfl]
      exact Plan.search_eq_none_of_ended stretch ended
  | false =>
      obtain ⟨steps, steps_le, stretch⟩ :=
        Plan.leads_to_place room (Array.replicate 4 none) inside missed sooner
      obtain ⟨tried, tried_le, trial⟩ := leads.reaches limits text place start start_eq [.note 1]
        ⟨place, #[some place, none, none, none], []⟩
        [plan.further (Array.replicate 4 none) place] sooner wide
      have kept_room : exceeds 1 limits.branches = false := within_of_le (Nat.le_succ 1) wide
      have to_signs := stretch.trans ((Plan.leads_scanning (Array.replicate 4 none) place _
        kept_room).trans trial)
      rw [← retreats_eq] at to_signs
      cases beyond : exceeds retreats limits.retreats with
      | true =>
          have exhausted : exceeds (retreats + 1) limits.retreats = true :=
            exceeds_of_le (Nat.le_succ _) beyond
          rw [exhausted, Bool.or_true, if_pos rfl]
          rw [beyond, if_pos rfl] at to_signs
          exact Plan.search_eq_none_of_ended to_signs (.inr rfl)
      | false =>
          rw [beyond, if_neg Bool.false_ne_true] at to_signs
          obtain ⟨last, last_le, found⟩ := leads_tail limits text place start
            retreats [plan.further (Array.replicate 4 none) place]
          rw [← line_eq] at last_le found
          have whole := to_signs.trans found
          cases exhausted : exceeds (line.length + 2) limits.branches ||
              exceeds (retreats + 1) limits.retreats with
          | true =>
              rw [exhausted, if_pos rfl] at whole
              rw [if_pos rfl]
              exact Plan.search_eq_none_of_ended whole (.inr rfl)
          | false =>
              rw [exhausted, if_neg Bool.false_ne_true] at whole
              rw [if_neg Bool.false_ne_true]
              rw [Bool.or_eq_false_iff] at exhausted
              have enough := patient exhausted.1 exhausted.2
              rw [Nat.add_mul] at enough
              exact Plan.search_eq_some_of_matched whole (by omega)

omit wide in
theorem search_tailed_eq_none (wide : exceeds 2 limits.branches = false)
    (nowhere : ∀ place ≤ text.size, endFrom? text signs place = none) :
    plan.search limits 4 text = none := by
  have room : exceeds (1 + plan.height) limits.branches = false :=
    within_of_le (Nat.add_le_add_left leads.height_le 1) wide
  have missed : ∀ earlier < text.size + 1,
      plan.Tries text earlier none (missedFrom text signs earlier) :=
    fun earlier lt => .single (leads.fails text earlier (nowhere earlier (Nat.le_of_lt_succ lt)))
  obtain ⟨steps, after, ended, stretch⟩ :=
    Plan.leads_nowhere room (Array.replicate 4 none) missed (.inl (Nat.lt_succ_self _))
  exact Plan.search_eq_none_of_ended stretch ended

end Search

/-! ## A needle that must not begin with a text -/

/-- The needle stands at the place, and the excluded text does not. -/
def StandsUnbarred (text excluded needle : List Char) (place : Nat) : Bool :=
  standsAt text.toArray needle place && !standsAt text.toArray excluded place

/-- How often a search comes back before it tries a place: once at every earlier place, and once more
where the excluded text does not stand. -/
def retreatsBefore (text excluded : List Char) (place : Nat) : Nat :=
  place + (List.range place).countP fun earlier => !standsAt text.toArray excluded earlier

/-- The match is not reached within the usual limits: the retreats before it, its own two and the
ways that are kept along the line are too many. -/
def OutOfReach (text excluded : List Char) (place length : Nat) : Prop :=
  exceeds (retreatsBefore text excluded place + 2) ({} : Limits).retreats = true ∨
    exceeds ((lineOf (text.drop (place + length))).length + 2) ({} : Limits).branches = true

instance (text excluded : List Char) (place length : Nat) :
    Decidable (OutOfReach text excluded place length) :=
  inferInstanceAs (Decidable (_ ∨ _))

theorem endFrom?_unbarred (text excluded needle : List Char) (place : Nat) :
    endFrom? text.toArray (.barred excluded :: needle.map .plain) place =
      if StandsUnbarred text excluded needle place then some (place + needle.length) else none := by
  rw [endFrom?, endFrom?_plain, StandsUnbarred]
  cases standsAt text.toArray excluded place <;> cases standsAt text.toArray needle place <;> rfl

theorem missedFrom_unbarred (text excluded needle : List Char) (place : Nat) :
    missedFrom text.toArray (.barred excluded :: needle.map .plain) place =
      if standsAt text.toArray excluded place then 0 else 1 := by
  rw [missedFrom, missedFrom_plain]

theorem spentBefore_unbarred (text excluded needle : List Char) (place : Nat) :
    spentBefore (missedFrom text.toArray (.barred excluded :: needle.map .plain)) place =
      retreatsBefore text excluded place := by
  rw [retreatsBefore]
  induction place with
  | zero => rfl
  | succ place ih =>
      rw [spentBefore, ih, missedFrom_unbarred, List.range_succ, List.countP_append]
      cases stands : standsAt text.toArray excluded place <;> simp [stands] <;> omega

/-- A needle that must not begin with a text, and the rest of its line, are found at the first place
where the needle stands and the text does not, if that is within reach. -/
theorem firstMatch?_barred_tailed (excluded needle : List Char) (text : String)
    (short : Text.byteLength needle ≤ Limits.usualTailedBytes) :
    firstMatch? (tailedText (.barred excluded :: needle.map .plain)) text =
      ((List.range (text.toList.length + 1)).find?
        (StandsUnbarred text.toList excluded needle)).bind fun place =>
          if OutOfReach text.toList excluded place needle.length then none
          else some (tailMatch text.toList place needle.length) := by
  obtain ⟨plan, plan_eq, leads, brief⟩ :=
    plan_barred_tailed {} rfl excluded (needle.map .plain) 4
  have searched : firstMatch? (tailedText (.barred excluded :: needle.map .plain)) text =
      (Prepared.planned plan 4 1).find? text.toList.toArray := by
    rw [firstMatch?, prepare, prepareWithin_tailedText, if_pos (by simp [Sign.isBarred]),
      StateT.run, plan_eq]
    rfl
  rw [searched, Prepared.find?, Prepared.findWithin?]
  cases first : (List.range (text.toList.length + 1)).find?
      (StandsUnbarred text.toList excluded needle) with
  | none =>
      have nowhere : ∀ place ≤ text.toList.toArray.size,
          endFrom? text.toList.toArray (.barred excluded :: needle.map .plain) place = none := by
        intro place inside
        have lost := List.find?_eq_none.mp first place (List.mem_range.mpr (Nat.lt_succ_of_le inside))
        rw [endFrom?_unbarred, if_neg lost]
      rw [search_tailed_eq_none leads rfl nowhere]
      rfl
  | some place =>
      obtain ⟨stands, inside, before⟩ := List.find?_range_eq_some.mp first
      have start_eq : endFrom? text.toList.toArray (.barred excluded :: needle.map .plain) place =
          some (place + needle.length) := by
        rw [endFrom?_unbarred, if_pos stands]
      have missed_one : missedFrom text.toList.toArray (.barred excluded :: needle.map .plain)
          place = 1 := by
        rw [StandsUnbarred, Bool.and_eq_true, Bool.not_eq_true'] at stands
        rw [missedFrom_unbarred, stands.2, if_neg Bool.false_ne_true]
      have earlier_none : ∀ earlier < place, endFrom? text.toList.toArray
          (.barred excluded :: needle.map .plain) earlier = none := by
        intro earlier lt
        rw [endFrom?_unbarred, if_neg (by simpa using before earlier lt)]
      have length_le : needle.length ≤ Text.byteLength needle := Text.length_le_byteLength needle
      have found := search_tailed {} text.toList.toArray leads rfl
        (Nat.le_of_lt_succ (List.mem_range.mp inside)) start_eq earlier_none rfl rfl ?_
      · rw [found, spentBefore_unbarred, missed_one, Option.bind_some]
        have far_iff : (exceeds ((lineOf (text.toList.drop (place + needle.length))).length + 2)
              ({} : Limits).branches ||
            exceeds (retreatsBefore text.toList excluded place + 1 + 1)
              ({} : Limits).retreats) = true ↔
            OutOfReach text.toList excluded place needle.length := by
          rw [OutOfReach, Bool.or_eq_true]
          exact or_comm
        by_cases far : OutOfReach text.toList excluded place needle.length
        · rw [if_pos far, if_pos (far_iff.mpr far)]
          rfl
        · rw [if_neg far, if_neg (mt far_iff.mp far), Option.bind_some]
          have start_le : place ≤ place + needle.length +
              (lineOf (text.toList.drop (place + needle.length))).length := by omega
          change some (matchOf place _ 1 _) = _
          rw [matchOf, Nat.min_eq_left start_le]
          rfl
      · rw [spentBefore_unbarred, missed_one]
        simp only [exceeds, decide_eq_false_iff_not, Limits.usualTailedBytes] at short ⊢
        intro near_end near
        have place_le : place ≤ retreatsBefore text.toList excluded place := Nat.le_add_right _ _
        have steps : (place + 1) * (plan.duration + 3) ≤ 1000000 * 1400000 :=
          Nat.mul_le_mul (by omega) (by simp at brief; omega)
        simp only [Nat.pow_eq]
        omega

end Redirects.Regex
