import Redirects.Rule

/-!
# Redirect cycles

Each enabled rule sends its source to its destination; of rules with one source the last counts.
Addresses are compared as texts. A walk that starts at the source of a rule and comes to an address
a second time shows a cycle, and every enabled rule whose source lies on the walk is left out of the
compiled set.
-/

namespace Redirects

/-- A cycle, as the walk that found it. -/
structure Cycle where
  /-- The addresses of the walk, in order. -/
  path : List String
  /-- The rules whose sources lie on the walk, in list order. -/
  ruleIds : List String
deriving DecidableEq, Repr

namespace Cycle

/-- An address that can be walked to. -/
def node? (url : String) : Option String := if url.isEmpty then none else some url

/-- Where the last of the rules with a source sends it. -/
def next? (rules : List Rule) (url : String) : Option String :=
  (rules.reverse.find? (·.source = url)).bind fun rule => node? rule.destination

/-- Walks on from an address, the addresses met so far given latest first: the whole path, and
whether the walk came back to it. -/
def walk (next? : String → Option String) : Nat → List String → Option String → List String × Bool
  | _, met, none => (met.reverse, false)
  | 0, met, some _ => (met.reverse, false)
  | steps + 1, met, some url =>
    if met.contains url then (met.reverse, true)
    else walk next? steps (url :: met) (next? url)

/-- The walk from the source of a rule. A walk has at most one address more than there are rules. -/
def walkFrom (rules : List Rule) (rule : Rule) : List String × Bool :=
  walk (next? rules) (rules.length + 2) [] (node? rule.source)

/-- The cycle that the walk from a rule shows. -/
def ofRule? (rules : List Rule) (rule : Rule) : Option Cycle :=
  let (path, isClosed) := walkFrom rules rule
  if isClosed then
    some ⟨path, (rules.filter fun rule => path.contains rule.source).map (·.id)⟩
  else none

/-- The cycles among the enabled rules, each set of rules once. -/
def detect (rules : List Rule) : List Cycle :=
  let enabled := rules.filter (·.enabled)
  (enabled.filterMap (ofRule? enabled)).eraseDupsBy fun cycle other =>
    cycle.ruleIds == other.ruleIds

/-- The rules left out on account of cycles. -/
def excluded (cycles : List Cycle) : List String := (cycles.flatMap (·.ruleIds)).eraseDups

/-- The rule is left out on account of a cycle. -/
def excludes (cycles : List Cycle) (id : String) : Bool :=
  cycles.any fun cycle => cycle.ruleIds.contains id

end Cycle

end Redirects
