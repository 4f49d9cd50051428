import Redirects.Regex.Plan

/-!
# Running a plan

A plan runs as a list of tasks on a position and some slots. Where there are two ways to go on, the
less preferred one is kept with the state it starts from, and a failure retreats to the way that was
kept last. What is inside an atomic group, or looked for in vain, drops the ways that were kept since
it began; how many there were is remembered in a mark. A branch that is taken because a condition
failed leaves the mark of the condition behind.
-/

namespace Redirects.Regex

/-- A state that matching can come back to. -/
structure Moment where
  position : Nat
  /-- Two slots for each group, where it starts and where it ends, and those of guarded loops. -/
  slots : Slots
  /-- How many ways there were to come back to, for each atomic part that was entered. -/
  marks : List Nat
deriving DecidableEq, Repr

namespace Moment

/-- Where a group was entered. -/
def start? (moment : Moment) (number : Nat) : Option Nat := (moment.slots[2 * number]?).join

/-- Where a group was left. -/
def stop? (moment : Moment) (number : Nat) : Option Nat := (moment.slots[2 * number + 1]?).join

/-- Notes a position. -/
def note (moment : Moment) (slot position : Nat) : Moment :=
  { moment with slots := moment.slots.setIfInBounds slot (some position) }

/-- Goes to a position. -/
def moveTo (moment : Moment) (position : Nat) : Moment := { moment with position }

/-- Takes over the groups of a classical part, the first of which has the given number. -/
def adopt (moment : Moment) (groups : Slots) (firstGroup : Nat) : Moment :=
  let slots := (List.range (groups.size - 2)).foldl
    (fun slots i => slots.setIfInBounds (2 * firstGroup + i) (groups[i + 2]?).join) moment.slots
  { moment with slots }

end Moment

/-- What is left to do. -/
inductive Task where
  /-- Matches a plan. -/
  | attempt (plan : Plan)
  /-- Starts the next pass of a repetition, after so many, or leaves it. -/
  | pass (inner : Plan) (least : Nat) (most : Option Nat) (greedy : Bool) (guard : Option Nat)
    (count : Nat)
  /-- Notes the position in a slot. -/
  | note (slot : Nat)
  /-- Goes back to a position. -/
  | back (position : Nat)
  /-- Keeps only as many ways as the last mark says, and drops the mark. -/
  | cut
  /-- Keeps only so many ways, and fails. -/
  | refuse (depth : Nat)

/-- A way that was kept. -/
structure Branch where
  tasks : List Task
  moment : Moment

/-- A state of the machine. -/
structure Running where
  tasks : List Task
  moment : Moment
  branches : List Branch
  /-- The number of branches. -/
  depth : Nat
  /-- How often matching came back so far. -/
  retreats : Nat

/-- What a step leads to. -/
inductive Progress where
  | running (state : Running)
  | matched (final : Moment)
  | failed
  /-- A limit was reached. -/
  | exhausted

namespace Running

/-- Goes on with some tasks. -/
def go (state : Running) (tasks : List Task) (moment : Moment) : Progress :=
  .running { state with tasks, moment }

/-- Retreats to the way that was kept last. -/
def retreat (limits : Limits) (state : Running) : Progress :=
  match state.branches with
  | [] => .failed
  | branch :: branches =>
    if exceeds (state.retreats + 1) limits.retreats then .exhausted
    else
      .running ⟨branch.tasks, branch.moment, branches, state.depth - 1, state.retreats + 1⟩

/-- Keeps a way and goes on with another. -/
def keep (limits : Limits) (state : Running) (kept tasks : List Task) (moment : Moment) :
    Progress :=
  if exceeds (state.depth + 1) limits.branches then .exhausted
  else
    .running { state with
      tasks, moment, branches := ⟨kept, moment⟩ :: state.branches, depth := state.depth + 1 }

/-- Drops all but so many of the ways that were kept. -/
def truncate (state : Running) (depth : Nat) : Running :=
  { state with
    branches := state.branches.drop (state.depth - depth), depth := min depth state.depth }

end Running

/-- The text between two places stands at a third one, too. -/
def sameText (text : Array Char) (start stop position : Nat) : Bool :=
  (List.range (stop - start)).all fun i =>
    match text[position + i]? with
    | some c => text[start + i]? == some c
    | none => false

/-- The characters stand at a place. -/
def standsAt (text : Array Char) : List Char → Nat → Bool
  | [], _ => true
  | c :: chars, position => text[position]? == some c && standsAt text chars (position + 1)

/-- Starts to match a plan. -/
def Plan.begin (limits : Limits) (text : Array Char) (plan : Plan) (tasks : List Task)
    (state : Running) : Progress :=
  let moment := state.moment
  let fail := state.retreat limits
  match plan with
  | .nothing => state.go tasks moment
  | .text chars =>
    if standsAt text chars moment.position then
      state.go tasks (moment.moveTo (moment.position + chars.length))
    else fail
  | .set members =>
    match text[moment.position]? with
    | some c =>
      if members.has c then state.go tasks (moment.moveTo (moment.position + 1)) else fail
    | none => fail
  | .edge place => if place.holds text moment.position then state.go tasks moment else fail
  | .classical part firstGroup =>
    match part.matchAt? text moment.position with
    | some way => state.go tasks ((moment.adopt way.slots firstGroup).moveTo way.position)
    | none => fail
  | .seq first second => state.go (.attempt first :: .attempt second :: tasks) moment
  | .alt first second => state.keep limits (.attempt second :: tasks) (.attempt first :: tasks) moment
  | .group number inner =>
    state.go (.attempt inner :: .note (2 * number + 1) :: tasks)
      (moment.note (2 * number) moment.position)
  | .many inner least most greedy guard =>
    state.go (.pass inner least most greedy guard 0 :: tasks) moment
  | .atomic inner =>
    state.go (.attempt inner :: .cut :: tasks) { moment with marks := state.depth :: moment.marks }
  | .look back wanted inner =>
    if wanted then
      if back ≤ moment.position then
        state.go (.attempt inner :: .back moment.position :: tasks)
          (moment.moveTo (moment.position - back))
      else fail
    else if back ≤ moment.position then
      match state.keep limits tasks [.attempt inner, .refuse state.depth] moment with
      | .running kept => .running { kept with moment := moment.moveTo (moment.position - back) }
      | progress => progress
    else
      match state.keep limits tasks [] moment with
      | .running kept => kept.retreat limits
      | progress => progress
  | .again number =>
    match moment.start? number, moment.stop? number with
    | some start, some stop =>
      if sameText text start stop moment.position then
        state.go tasks (moment.moveTo (moment.position + (stop - start)))
      else fail
    | _, _ => fail
  | .entered number => if (moment.start? number).isSome then state.go tasks moment else fail
  | .choose condition yes no =>
    state.keep limits (.attempt no :: tasks) (.attempt condition :: .cut :: .attempt yes :: tasks)
      { moment with marks := state.depth :: moment.marks }
  | .restart => state.go tasks (moment.note 0 moment.position)
  | .resume => if moment.position == 0 then state.go tasks moment else fail

/-- One step. -/
def Running.step (limits : Limits) (text : Array Char) (state : Running) : Progress :=
  let moment := state.moment
  match state.tasks with
  | [] => .matched moment
  | .attempt plan :: tasks => plan.begin limits text tasks state
  | .note slot :: tasks => state.go tasks (moment.note slot moment.position)
  | .back position :: tasks => state.go tasks (moment.moveTo position)
  | .cut :: tasks =>
    match moment.marks with
    | [] => state.go tasks moment
    | mark :: marks => (state.truncate mark).go tasks { moment with marks }
  | .refuse depth :: _ => (state.truncate depth).retreat limits
  | .pass inner least most greedy guard count :: tasks =>
    let stuck :=
      match guard with
      | some slot => count != 0 && (moment.slots[slot]?).join == some moment.position
      | none => false
    let again : List Task := .attempt inner :: .pass inner least most greedy guard (count + 1) :: tasks
    if stuck then state.retreat limits
    else if most == some count then state.go tasks moment
    else if count < least then state.go again moment
    else
      let moment :=
        match guard with
        | some slot => moment.note slot moment.position
        | none => moment
      if greedy then state.keep limits tasks again moment
      else state.keep limits again tasks moment

/-- Runs until the end, at most so many steps; the final state, if there is a match. -/
def Running.run (limits : Limits) (text : Array Char) : Nat → Running → Option Moment
  | 0, _ => none
  | fuel + 1, state =>
    match state.step limits text with
    | .running state => state.run limits text fuel
    | .matched moment => some moment
    | .failed | .exhausted => none

/-- Looks for a match from the start of a text on, trying later and later places. The whole match is
group zero. -/
def Plan.search (limits : Limits) (plan : Plan) (slots : Nat) (text : Array Char) : Option Moment :=
  let everywhere : Plan :=
    .seq (.many (.set .all) 0 none false none) (.group 0 plan)
  let moment : Moment := ⟨0, Array.replicate slots none, []⟩
  Running.run limits text limits.steps ⟨[.attempt everywhere], moment, [], 0, 0⟩

end Redirects.Regex
