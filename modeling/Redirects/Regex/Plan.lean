import Redirects.Regex.Classical.Run
import Redirects.Regex.Classical.Size
import Redirects.Regex.Fault
import Redirects.Regex.Term

/-!
# Plans

A plan says how a pattern that needs more than the classical operators is matched. Its classical
parts become automata, as large ones as possible: where nothing later can come back to a part, the
part may take in all that follows in its sequence; elsewhere only parts of constant size may be
taken together, since those have no other way to match to come back to. The rest of the plan has the
shape of the pattern.
-/

namespace Redirects.Regex

open Unicode (CharSet)

/-- Bounds on what matching may take; without one there is no bound. -/
structure Limits where
  /-- How many bytes an automaton may take. -/
  size : Option Nat := some (10 * Nat.pow 2 20)
  /-- How often matching may come back to another way. -/
  retreats : Option Nat := some 1000000
  /-- How many ways may be left to come back to. -/
  branches : Option Nat := some 1000000
  /-- How many steps matching may take in all. -/
  steps : Nat := Nat.pow 2 60
  /-- Classical parts may nest as deeply and repeat as often as they are written to. -/
  vast : Bool := false
deriving DecidableEq, Repr

/-- The number exceeds the bound. -/
def exceeds (number : Nat) (bound : Option Nat) : Bool :=
  match bound with
  | some bound => bound < number
  | none => false

/-- A pattern prepared for matching. -/
inductive Plan where
  | nothing
  | text (chars : List Char)
  | set (members : CharSet)
  | edge (place : Edge)
  /-- A classical part, whose groups are numbered from the given one on. -/
  | classical (part : Automaton) (firstGroup : Nat)
  | seq (first second : Plan)
  | alt (first second : Plan)
  | group (number : Nat) (inner : Plan)
  /-- A repetition. A guarded one notes in a slot where its last pass started, and a pass that starts
  there again fails. -/
  | many (inner : Plan) (least : Nat) (most : Option Nat) (greedy : Bool) (guard : Option Nat)
  | atomic (inner : Plan)
  /-- Looks from so many characters back for a match, or for there being none. -/
  | look (back : Nat) (wanted : Bool) (inner : Plan)
  | again (number : Nat)
  | entered (number : Nat)
  | choose (condition yes no : Plan)
  | restart
  | resume
deriving DecidableEq, Repr

/-- One plan after another. -/
def Plan.andThen : Plan → Plan → Plan
  | .nothing, second => second
  | first, .nothing => first
  | first, second => .seq first second

/-- The greatest repetition count of a classical part. -/
def maxCount : Nat := UInt32.size - 1

/-- A classical part as a classical pattern. Its bounds must not cross, and their size is limited
unless the part may be vast. -/
def Term.classical? (vast : Bool) : Term → Option Classical
  | .empty => some .empty
  | .char fold c => some (.set ((CharSet.one c).foldedIf fold))
  | .set members => some (.set members)
  | .bracket reading => some reading.whole
  | .edge place => some (.edge place)
  | .seq first second => do return .seq (← first.classical? vast) (← second.classical? vast)
  | .alt first second => do return .alt (← first.classical? vast) (← second.classical? vast)
  | .scope inner => inner.classical? vast
  | .group _ inner => do return .group (← inner.classical? vast)
  | .many inner least most greedy => do
    if exceeds least most || !vast && (maxCount < least || exceeds (most.getD 0) (some maxCount)) then
      none
    else
      match inner with
      | .bracket reading => return (reading.repeated least most greedy).whole
      | inner => return .many (← inner.classical? vast) least most greedy
  | .unreadable | .atomic _ | .look .. | .again _ | .entered _ | .choose .. | .restart | .resume =>
    none

/-- Makes a plan of a part. Slots are given out one after another. -/
abbrev Planner := StateT Nat (Except Fault)

namespace Planner

/-- The classical pattern of a part, within the limits. -/
def classical (limits : Limits) (term : Term) : Except Fault Classical :=
  match term.classical? limits.vast with
  | none => .error .badPiece
  | some pattern =>
    if !limits.vast && Classical.maxNesting < pattern.nesting .whole then .error .badPiece
    else if limits.size.all pattern.fits then .ok pattern
    else .error .tooLarge

/-- The plan of classical parts that are matched as one. -/
def together (limits : Limits) (terms : List Term) : Planner Plan :=
  if terms.isEmpty then return .nothing
  else
    let term := Term.inSequence terms
    match term.text? with
    | some chars => return .text chars
    | none => do
      match ← classical limits term with
      | .set members => return .set members
      | pattern => return .classical pattern.automaton (term.firstGroup?.getD 0)

/-- A new slot. -/
def slot : Planner Nat := fun next => .ok (next, next + 1)

end Planner

/-- What stands around a part. -/
inductive Setting where
  /-- The part stands alone. It is free if nothing comes back to it. -/
  | alone (free : Bool)
  /-- The part is in a sequence, all parts before it being classical and of constant size. -/
  | leading (free : Bool) (before : List Term)
  /-- The part is in a sequence, behind some that stand alone. -/
  | trailing (free : Bool)
  /-- The part is looked for backwards. -/
  | behind (wanted : Bool)
  /-- The part is one of several that are looked for backwards. -/
  | amongBehind (wanted : Bool)
deriving DecidableEq, Repr

namespace Setting

/-- The part can be matched together with those before it. -/
def canLead (referred : List Nat) (term : Term) : Bool :=
  term.constantSize && !term.beyondClassical referred

/-- The part, and what follows it in its sequence, can be matched as one. -/
def canTrail (referred : List Nat) (free : Bool) : Term → Bool
  | .seq first second =>
    (free || first.constantSize) && !first.beyondClassical referred &&
      canTrail referred free second
  | term => (free || term.constantSize) && !term.beyondClassical referred

/-- The plan of a part in its setting, from the plan of the part when it is not matched by an
automaton, which depends on whether it is free. -/
def plan (limits : Limits) (referred : List Nat) (term : Term) (visit : (free : Bool) → Planner Plan) :
    Setting → Planner Plan
  | .alone free =>
    if free && !term.beyondClassical referred then Planner.together limits [term] else visit free
  | .leading free before => do
    if canLead referred term then Planner.together limits (before ++ [term])
    else
      let front ← Planner.together limits before
      let back ←
        if canTrail referred free term then Planner.together limits [term] else visit false
      return front.andThen back
  | .trailing free =>
    if canTrail referred free term then Planner.together limits [term] else visit false
  | .behind wanted | .amongBehind wanted => do
    if term.constantSize then
      let inner ←
        if term.beyondClassical referred then visit true else Planner.together limits [term]
      return .look term.leastSize wanted inner
    else throw .lookbehindSize

end Setting

/-- The plan of a part. -/
def Term.plan (limits : Limits) (referred : List Nat) : Setting → Term → Planner Plan
  | setting, .empty => setting.plan limits referred .empty fun _ => return .nothing
  | setting, .char fold c =>
    setting.plan limits referred (.char fold c) fun _ =>
      Planner.together limits [.char fold c]
  | setting, .set members =>
    setting.plan limits referred (.set members) fun _ => return .set members
  | setting, .bracket reading =>
    setting.plan limits referred (.bracket reading) fun _ =>
      Planner.together limits [.bracket reading]
  | setting, .unreadable =>
    setting.plan limits referred .unreadable fun _ => throw .badPiece
  | setting, .edge place =>
    setting.plan limits referred (.edge place) fun _ => return .edge place
  | setting, .seq first second =>
    let whole := Term.seq first second
    let rest (free : Bool) : Planner Plan := do
      if Setting.canTrail referred free whole then Planner.together limits [whole]
      else
        let front ← first.plan limits referred (.alone false)
        let back ← second.plan limits referred (.trailing free)
        return front.andThen back
    let leading (free : Bool) (before : List Term) : Planner Plan := do
      if Setting.canLead referred first then
        second.plan limits referred (.leading free (before ++ [first]))
      else
        let front ← Planner.together limits before
        return front.andThen (← rest free)
    match setting with
    | .leading free before => leading free before
    | .trailing free => rest free
    | setting => setting.plan limits referred whole fun free => leading free []
  | setting, .alt first second =>
    let whole := Term.alt first second
    let apart (wanted : Bool) : Planner Plan := do
      let left ← first.plan limits referred (.amongBehind wanted)
      let right ← second.plan limits referred (.amongBehind wanted)
      return if wanted then .alt left right else .seq left right
    let visit (free : Bool) : Planner Plan := do
      let left ← first.plan limits referred (.alone free)
      let right ← second.plan limits referred (.alone free)
      return .alt left right
    match setting with
    | .behind wanted =>
      if whole.constantSize then setting.plan limits referred whole visit else apart wanted
    | .amongBehind wanted => apart wanted
    | setting => setting.plan limits referred whole visit
  | setting, .scope inner =>
    match setting with
    | .behind wanted => inner.plan limits referred (.behind wanted)
    | setting => setting.plan limits referred (.scope inner) fun free =>
        inner.plan limits referred (.alone free)
  | setting, .group number inner =>
    setting.plan limits referred (.group number inner) fun free => do
      return .group number (← inner.plan limits referred (.alone free))
  | setting, .many inner least most greedy =>
    setting.plan limits referred (.many inner least most greedy) fun free => do
      let optional := least == 0 && most == some 1
      let guard ←
        if most.isNone && inner.leastSize == 0 then some <$> Planner.slot else pure none
      let part ← inner.plan limits referred (.alone (free && optional))
      return .many part least most greedy guard
  | setting, .atomic inner =>
    setting.plan limits referred (.atomic inner) fun _ => do
      return .atomic (← inner.plan limits referred (.alone true))
  | setting, .look ahead wanted inner =>
    setting.plan limits referred (.look ahead wanted inner) fun _ => do
      if ahead then return .look 0 wanted (← inner.plan limits referred (.alone true))
      else inner.plan limits referred (.behind wanted)
  | setting, .again number =>
    setting.plan limits referred (.again number) fun _ => return .again number
  | setting, .entered number =>
    setting.plan limits referred (.entered number) fun _ => return .entered number
  | setting, .choose condition yes no =>
    setting.plan limits referred (.choose condition yes no) fun free => do
      let condition ← condition.plan limits referred (.alone free)
      let yes ← yes.plan limits referred (.alone free)
      let no ← no.plan limits referred (.alone free)
      return .choose condition yes no
  | setting, .restart => setting.plan limits referred .restart fun _ => return .restart
  | setting, .resume => setting.plan limits referred .resume fun _ => return .resume

end Redirects.Regex
