import Redirects.Proofs.Regex.Steps
import Redirects.Regex.Search

/-!
# Scanning a text

A search tries a plan at one place after another.  Where the plan fails, one retreat leads on to the
next place; where it ends, the search has found what it looked for.  So a plan whose only choices
are between its branches is found exactly if it ends somewhere and the retreats up to the first such
place stay within the limit.
-/

namespace Redirects.Regex

variable {limits : Limits} {text : Array Char} {plan : Plan}

/-- How often the machine comes back before it tries a place, if it comes back so often at each
place before. -/
def spentBefore (spent : Nat → Nat) : Nat → Nat
  | 0 => 0
  | position + 1 => spentBefore spent position + spent position + 1

theorem spentBefore_le {spent : Nat → Nat} {most : Nat} (spent_le : ∀ place, spent place ≤ most)
    (position : Nat) : spentBefore spent position ≤ position * (most + 1) := by
  induction position with
  | zero => exact Nat.zero_le _
  | succ position ih =>
      have here := spent_le position
      rw [spentBefore, Nat.add_mul]
      omega

/-- A search that never comes back at a place does so once between two places. -/
theorem spentBefore_eq_self {spent : Nat → Nat} {position : Nat}
    (free : ∀ place < position, spent place = 0) : spentBefore spent position = position := by
  induction position with
  | zero => rfl
  | succ position ih =>
      have here := free position (Nat.lt_succ_self position)
      rw [spentBefore, ih fun place lt => free place (Nat.lt_succ_of_lt lt), here]

theorem has_all (c : Char) : Unicode.CharSet.all.has c = true := by
  have valid : c.toNat.isValidChar := c.valid
  have code_le : c.toNat ≤ Unicode.lastCode := by
    rw [Unicode.lastCode]
    rcases valid with low | ⟨_, high⟩ <;> omega
  simp [Unicode.CharSet.has, Unicode.CharSet.holds, Unicode.CharSet.all, Unicode.CharSet.inSpans,
    code_le]

theorem exceeds_zero (bound : Option Nat) : exceeds 0 bound = false := by
  cases bound <;> simp [exceeds]

namespace Plan

/-- The state in which a search tries a place, after so many retreats. -/
def scanning (plan : Plan) (slots : Slots) (position retreats : Nat) : Running :=
  ⟨[.pass (.set .all) 0 none false none position, .attempt (.group 0 plan)],
    ⟨position, slots, []⟩, [], 0, retreats⟩

/-- The moment at which a search ends that found a match. -/
def found (slots : Slots) (start stop : Nat) : Moment :=
  ⟨stop, (slots.setIfInBounds 0 (some start)).setIfInBounds 1 (some stop), []⟩

/-- The way that is kept while a place is tried, which goes on to the next. -/
def further (plan : Plan) (slots : Slots) (position : Nat) : Branch :=
  ⟨[.attempt (.set .all), .pass (.set .all) 0 none false none (position + 1),
    .attempt (.group 0 plan)], ⟨position, slots, []⟩⟩

/-- A place is tried with the way to the next one kept. -/
theorem leads_scanning (slots : Slots) (position retreats : Nat)
    (room : exceeds 1 limits.branches = false) :
    Leads limits text 2 (.running (plan.scanning slots position retreats))
      (.running ⟨[.attempt plan, .note 1],
        ⟨position, slots.setIfInBounds 0 (some position), []⟩, [plan.further slots position], 1,
        retreats⟩) := by
  apply Leads.step
  simp only [scanning, Running.step, Running.keep, Nat.zero_add, room]
  exact .one rfl

/-- Behind a place where the plan fails the search comes to the next one, unless the text is at its
end. -/
theorem leads_further (slots : Slots) (moment : Moment) (tasks : List Task)
    (position retreats : Nat) (fresh : exceeds (retreats + 1) limits.retreats = false) :
    Leads limits text 1
      (Running.retreat limits ⟨tasks, moment, [plan.further slots position], 1, retreats⟩)
      (if position < text.size then .running (plan.scanning slots (position + 1) (retreats + 1))
        else .failed) := by
  simp only [Running.retreat, further, fresh]
  apply Leads.one
  simp only [Running.step, Plan.begin]
  by_cases inside : position < text.size
  · simp only [inside, getElem?_pos, has_all, if_pos]
    rfl
  · simp [inside, Running.retreat]

/-! ## Trying the places in turn -/

/-- A place is the first where a plan ends, and it is reached within the limit. -/
structure FirstEnd (limits : Limits) (text : Array Char) (stop? : Nat → Option Nat)
    (spent : Nat → Nat) (place : Nat) : Prop where
  inside : place ≤ text.size
  ends : (stop? place).isSome = true
  before : ∀ earlier < place, stop? earlier = none
  within : exceeds (spentBefore spent place + spent place) limits.retreats = false

/-- If the plan ends at a place and the limit lies behind it, some place is the first. -/
theorem exists_firstEnd {stop? : Nat → Option Nat} {spent : Nat → Nat} {place : Nat}
    (within : ∀ first ≤ place, (∀ earlier < first, stop? earlier = none) →
      exceeds (spentBefore spent first + spent first) limits.retreats = false)
    (inside : place ≤ text.size) (ends : (stop? place).isSome = true) :
    ∃ first, FirstEnd limits text stop? spent first := by
  induction place using Nat.strongRecOn with
  | ind place ih =>
      by_cases earlier : ∃ other < place, (stop? other).isSome = true
      · obtain ⟨other, lt, other_ends⟩ := earlier
        have other_within : ∀ first ≤ other, (∀ earlier < first, stop? earlier = none) →
            exceeds (spentBefore spent first + spent first) limits.retreats = false :=
          fun first le => within first (by omega)
        exact ih other lt other_within (by omega) other_ends
      · have before : ∀ other < place, stop? other = none := by
          intro other lt
          rw [← Option.not_isSome_iff_eq_none]
          exact fun other_ends => earlier ⟨other, lt, other_ends⟩
        exact ⟨place, inside, ends, before, within place (Nat.le_refl place) before⟩

section Search

variable {spent : Nat → Nat} (room : exceeds (1 + plan.height) limits.branches = false)
include room

theorem leads_tried (slots : Slots) {place further : Nat} {stop? : Option Nat}
    (tries : plan.Tries text place stop? further) {retreats : Nat}
    (fresh : exceeds retreats limits.retreats = false) :
    ∃ count ≤ plan.duration + 2, ∃ kept more,
      (stop? = none → kept = [] ∧ more = 0) ∧
      Leads limits text count (.running (plan.scanning slots place retreats))
        (if exceeds (retreats + further) limits.retreats then .exhausted
          else Running.proceed limits
            ⟨[.note 1], ⟨place, slots.setIfInBounds 0 (some place), []⟩,
              kept ++ [plan.further slots place], 1 + more, retreats + further⟩ stop?) := by
  obtain ⟨count, count_le, kept, more, none_kept, stretch⟩ := tries.leads [.note 1]
    ⟨place, slots.setIfInBounds 0 (some place), []⟩ [plan.further slots place] fresh room
  have kept_room : exceeds 1 limits.branches = false := within_of_le (Nat.le_add_right 1 _) room
  exact ⟨2 + count, by omega, kept, more, none_kept,
    (leads_scanning slots place retreats kept_room).trans stretch⟩

/-- Where the plan fails, no way of its own is left. -/
theorem leads_missed (slots : Slots) {place further : Nat}
    (misses : plan.Tries text place none further) {retreats : Nat}
    (fresh : exceeds retreats limits.retreats = false) :
    ∃ count ≤ plan.duration + 2,
      Leads limits text count (.running (plan.scanning slots place retreats))
        (if exceeds (retreats + further) limits.retreats then .exhausted
          else Running.retreat limits
            ⟨[.note 1], ⟨place, slots.setIfInBounds 0 (some place), []⟩,
              [plan.further slots place], 1, retreats + further⟩) := by
  obtain ⟨count, count_le, kept, more, none_kept, stretch⟩ := leads_tried room slots misses fresh
  obtain ⟨rfl, rfl⟩ := none_kept rfl
  exact ⟨count, count_le, stretch⟩

/-- The search comes to a place before which the plan fails everywhere. -/
theorem leads_to_place (slots : Slots) {place : Nat} (inside : place ≤ text.size)
    (before : ∀ earlier < place, plan.Tries text earlier none (spent earlier))
    (fresh : exceeds (spentBefore spent place) limits.retreats = false) :
    ∃ count ≤ place * (plan.duration + 3),
      Leads limits text count (.running (plan.scanning slots 0 0))
        (.running (plan.scanning slots place (spentBefore spent place))) := by
  induction place with
  | zero => exact ⟨0, Nat.zero_le _, .here _⟩
  | succ place ih =>
      rw [spentBefore] at fresh ⊢
      have fresh_before : exceeds (spentBefore spent place) limits.retreats = false :=
        within_of_le (by omega) fresh
      have fresh_tried : exceeds (spentBefore spent place + spent place) limits.retreats = false :=
        within_of_le (by omega) fresh
      obtain ⟨count, count_le, stretch⟩ :=
        ih (by omega) (fun earlier lt => before earlier (by omega)) fresh_before
      obtain ⟨tried, tried_le, trial⟩ :=
        leads_missed room slots (before place (Nat.lt_succ_self place)) fresh_before
      rw [fresh_tried, if_neg Bool.false_ne_true] at trial
      have onward := trial.trans (leads_further slots _ _ place _ fresh)
      rw [if_pos (by omega)] at onward
      refine ⟨count + (tried + 1), ?_, stretch.trans onward⟩
      rw [Nat.add_mul]
      omega

/-- Where the plan fails everywhere before a place, and the place lies behind the text or behind the
limit, the search ends without a match. -/
theorem leads_nowhere (slots : Slots) {place : Nat}
    (before : ∀ earlier < place, plan.Tries text earlier none (spent earlier))
    (behind : text.size < place ∨ exceeds (spentBefore spent place) limits.retreats = true) :
    ∃ count after, (after = .failed ∨ after = .exhausted) ∧ Leads limits text count
      (.running (plan.scanning slots 0 0)) after := by
  induction place with
  | zero =>
      rcases behind with behind | beyond
      · omega
      · rw [spentBefore, exceeds_zero] at beyond
        contradiction
  | succ place ih =>
      by_cases sooner : text.size < place ∨ exceeds (spentBefore spent place) limits.retreats = true
      · exact ih (fun earlier lt => before earlier (by omega)) sooner
      · rw [not_or, Nat.not_lt, Bool.not_eq_true] at sooner
        obtain ⟨inside, fresh⟩ := sooner
        obtain ⟨count, -, stretch⟩ := leads_to_place room slots inside
          (fun earlier lt => before earlier (by omega)) fresh
        obtain ⟨tried, -, trial⟩ :=
          leads_missed room slots (before place (Nat.lt_succ_self place)) fresh
        have reached := stretch.trans trial
        cases beyond : exceeds (spentBefore spent place + spent place) limits.retreats with
        | true =>
            rw [beyond, if_pos rfl] at reached
            exact ⟨_, _, .inr rfl, reached⟩
        | false =>
            rw [beyond, if_neg Bool.false_ne_true] at reached
            cases beyond_next : exceeds (spentBefore spent (place + 1)) limits.retreats with
            | true =>
                have spent_up : Running.retreat limits ⟨[.note 1],
                    ⟨place, slots.setIfInBounds 0 (some place), []⟩, [plan.further slots place], 1,
                    spentBefore spent place + spent place⟩ = .exhausted := if_pos beyond_next
                exact ⟨_, _, .inr spent_up, reached⟩
            | false =>
                -- the place was the last one of the text
                have last : text.size < place + 1 :=
                  behind.resolve_right (by simp [beyond_next])
                have onward := reached.trans (leads_further slots _ _ place _ beyond_next)
                rw [if_neg (by omega)] at onward
                exact ⟨_, _, .inl rfl, onward⟩

omit room in
/-- A search starts at the front of the text. -/
theorem leads_search (slots : Nat) :
    Leads limits text 2
      (.running ⟨[.attempt (.seq (.many (.set .all) 0 none false none) (.group 0 plan))],
        ⟨0, Array.replicate slots none, []⟩, [], 0, 0⟩)
      (.running (plan.scanning (Array.replicate slots none) 0 0)) :=
  .step (.one rfl)

omit room in
/-- A search that has ended has found what its last stretch came to. -/
theorem search_eq_none_of_ended {slots count : Nat} {after : Progress}
    (stretch : Leads limits text count
      (.running (plan.scanning (Array.replicate slots none) 0 0)) after)
    (ended : after = .failed ∨ after = .exhausted) : plan.search limits slots text = none := by
  have ends_so : after.finish limits text (limits.steps - (2 + count)) = none := by
    rcases ended with rfl | rfl <;> rfl
  have whole := (leads_search slots).trans stretch
  by_cases short : limits.steps < 2 + count
  · exact whole.finish_of_lt short
  · have run := whole.finish_eq (limits.steps - (2 + count))
    rw [Nat.sub_add_cancel (by omega), ends_so] at run
    exact run

omit room in
/-- A search has found what it ends with, if there are steps enough. -/
theorem search_eq_some_of_matched {slots count : Nat} {final : Moment}
    (stretch : Leads limits text count
      (.running (plan.scanning (Array.replicate slots none) 0 0)) (.matched final))
    (patient : count + 2 ≤ limits.steps) : plan.search limits slots text = some final := by
  obtain ⟨fuel, steps_eq⟩ : ∃ fuel, limits.steps = fuel + (2 + count) :=
    ⟨limits.steps - (2 + count), by omega⟩
  have run := ((leads_search slots).trans stretch).finish_eq fuel
  rw [← steps_eq] at run
  exact run

section Tries

variable {stop? : Nat → Option Nat}
  (tries : ∀ place, plan.Tries text place (stop? place) (spent place))
include tries

omit room in
theorem tries_none {place : Nat} (before : ∀ earlier < place, stop? earlier = none) :
    ∀ earlier < place, plan.Tries text earlier none (spent earlier) := by
  intro earlier lt
  have fails := tries earlier
  rwa [before earlier lt] at fails

/-- The search ends at the first place where the plan ends. -/
theorem leads_found (slots : Slots) {place stop : Nat}
    (first : FirstEnd limits text stop? spent place) (stop_eq : stop? place = some stop) :
    ∃ count ≤ (place + 1) * (plan.duration + 4),
      Leads limits text count (.running (plan.scanning slots 0 0))
        (.matched (found slots place stop)) := by
  have fresh : exceeds (spentBefore spent place) limits.retreats = false :=
    within_of_le (Nat.le_add_right _ _) first.within
  obtain ⟨count, count_le, stretch⟩ :=
    leads_to_place room slots first.inside (tries_none tries first.before) fresh
  obtain ⟨tried, tried_le, kept, more, -, trial⟩ := leads_tried room slots (tries place) fresh
  rw [first.within, if_neg Bool.false_ne_true, stop_eq] at trial
  have noted := trial.trans (.step (.one rfl))
  refine ⟨count + (tried + 2), ?_, stretch.trans noted⟩
  have wider : place * (plan.duration + 3) ≤ place * (plan.duration + 4) :=
    Nat.mul_le_mul_left place (by omega)
  rw [Nat.add_mul]
  omega

/-- A search finds the first place where the plan ends. -/
theorem search_eq_found (slots : Nat) {place stop : Nat}
    (first : FirstEnd limits text stop? spent place) (stop_eq : stop? place = some stop)
    (patient : (place + 1) * (plan.duration + 4) + 2 ≤ limits.steps) :
    plan.search limits slots text = some (found (Array.replicate slots none) place stop) := by
  obtain ⟨count, count_le, stretch⟩ :=
    leads_found room tries (Array.replicate slots none) first stop_eq
  exact search_eq_some_of_matched stretch (by omega)

theorem search_eq_none (slots : Nat) (nowhere : ∀ place, ¬FirstEnd limits text stop? spent place) :
    plan.search limits slots text = none := by
  by_cases somewhere : ∃ place ≤ text.size, (stop? place).isSome = true
  · obtain ⟨place, inside, is_end⟩ := somewhere
    have unlimited : ∀ first ≤ place, (∀ earlier < first, stop? earlier = none) →
        exceeds (spentBefore spent first + spent first)
          { limits with retreats := none }.retreats = false := fun _ _ _ => rfl
    obtain ⟨first, first_inside, first_ends, before, -⟩ :=
      exists_firstEnd unlimited inside is_end
    -- the first place where the plan ends lies behind the limit
    have beyond : exceeds (spentBefore spent first + spent first) limits.retreats = true := by
      rw [← Bool.not_eq_false]
      exact fun within => nowhere first ⟨first_inside, first_ends, before, within⟩
    cases sooner : exceeds (spentBefore spent first) limits.retreats with
    | true =>
        obtain ⟨count, after, ended, stretch⟩ := leads_nowhere room (Array.replicate slots none)
          (tries_none tries before) (.inr sooner)
        exact search_eq_none_of_ended stretch ended
    | false =>
        obtain ⟨count, -, stretch⟩ := leads_to_place room (Array.replicate slots none)
          first_inside (tries_none tries before) sooner
        obtain ⟨tried, -, kept, more, -, trial⟩ :=
          leads_tried room (Array.replicate slots none) (tries first) sooner
        rw [beyond, if_pos rfl] at trial
        exact search_eq_none_of_ended (stretch.trans trial) (.inr rfl)
  · have before : ∀ earlier < text.size + 1, stop? earlier = none := by
      intro earlier lt
      rw [← Option.not_isSome_iff_eq_none]
      exact fun is_some => somewhere ⟨earlier, by omega, is_some⟩
    obtain ⟨count, after, ended, stretch⟩ := leads_nowhere room (Array.replicate slots none)
      (tries_none tries before) (.inl (Nat.lt_succ_self _))
    exact search_eq_none_of_ended stretch ended

end Tries

end Search

end Plan

namespace Prepared

variable {stop? : Nat → Option Nat} {spent : Nat → Nat}

/-- A plan that is found ends somewhere within the limit. -/
theorem exists_firstEnd_of_isSome
    (tries : ∀ place, plan.Tries text place (stop? place) (spent place))
    (room : exceeds (1 + plan.height) limits.branches = false) (groups : Nat)
    (isFound : ((planned plan (2 * (groups + 1)) groups).findWithin? limits text).isSome = true) :
    ∃ place, Plan.FirstEnd limits text stop? spent place := by
  apply Classical.byContradiction
  intro nowhere
  have lost := Plan.search_eq_none room tries (2 * (groups + 1))
    (fun place first => nowhere ⟨place, first⟩)
  simp [findWithin?, lost] at isFound

/-- A plan that ends somewhere within the limit is found, if there are steps enough. -/
theorem isSome_of_firstEnd
    (tries : ∀ place, plan.Tries text place (stop? place) (spent place))
    (room : exceeds (1 + plan.height) limits.branches = false) {place : Nat}
    (first : Plan.FirstEnd limits text stop? spent place)
    (patient : (place + 1) * (plan.duration + 4) + 2 ≤ limits.steps) (groups : Nat) :
    ((planned plan (2 * (groups + 1)) groups).findWithin? limits text).isSome = true := by
  obtain ⟨stop, stop_eq⟩ := Option.isSome_iff_exists.mp first.ends
  have reached := Plan.search_eq_found room tries (2 * (groups + 1)) first stop_eq patient
  have spanned : spanOf? (Plan.found (Array.replicate (2 * (groups + 1)) none) place stop).slots 0 =
      some (place, stop) := by
    have wide : 1 < 2 * (groups + 1) := by omega
    simp [spanOf?, Plan.found, wide]
  simp [findWithin?, reached, spanned]

end Prepared

end Redirects.Regex
