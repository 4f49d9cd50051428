import Redirects.Cycle
import Redirects.Synthesis

/-!
# Warnings about rules

What is doubtful about the enabled rules of a list: a rule on a cycle, a destination that contains
the source, a source that is no pattern, and a pattern that occurs in its own destination even
though the destination's start is excluded. Warnings keep nothing from being saved.
-/

namespace Redirects

/-- A doubt about a rule. -/
inductive Concern where
  /-- The rule is on the path of a cycle, or leads there. -/
  | cycle (path : List String)
  /-- The destination contains the source. -/
  | overlap
  /-- The source is no pattern. -/
  | badRegex (fault : Regex.Fault)
  /-- The filter occurs in the destination, past its start. -/
  | selfRedirect (filter : String)
deriving DecidableEq, Repr

namespace Concern

/-- The name of the kind of doubt. -/
def kind : Concern → String
  | .cycle _ => "cycle"
  | .overlap => "substring-overlap"
  | .badRegex _ => "invalid-regex"
  | .selfRedirect _ => "self-redirect"

/-- What the user is told. -/
def message : Concern → String
  | .cycle path =>
    let walk := " -> ".intercalate path
    s!"Redirect cycle detected ({walk}); rule is not active"
  | .overlap =>
    "Destination contains the source URL. Auto-exclusion regex will be applied to prevent " ++
      "recursive redirects."
  | .badRegex fault => "Source is not a valid regex: " ++ fault.message
  | .selfRedirect filter =>
    s!"Destination still matches {filter} past its start; " ++
      "anchor the source (e.g. with ^) to avoid redirecting it to itself"

end Concern

/-- A warning about one rule. -/
structure Warning where
  ruleId : String
  concern : Concern
deriving DecidableEq, Repr

/-- The warning in one line. -/
def Warning.line (warning : Warning) : String :=
  s!"[{warning.concern.kind}] {warning.ruleId}: {warning.concern.message}"

/-- The doubt about a rule that leads into one of the cycles. -/
def cycleConcern? (cycles : List Cycle) (rule : Rule) : Option Concern :=
  (cycles.find? (·.ruleIds.contains rule.id)).map (.cycle ·.path)

/-- The doubt about a rule's own texts. -/
def ownConcern? (rule : Rule) : Option Concern :=
  match rule.kind with
  | .contains => if overlaps rule.source rule.destination then some .overlap else none
  | .regex =>
    match Regex.prepare rule.source, (synthesize rule).filter with
    | .error fault, _ => some (.badRegex fault)
    | .ok _, .regex pattern =>
      if pattern.occursIn rule.destination then some (.selfRedirect pattern.render) else none
    | .ok _, .substring _ => none

/-- The warnings about the enabled rules of a list, in its order. -/
def diagnose (rules : List Rule) : List Warning :=
  let cycles := Cycle.detect rules
  (rules.filter (·.enabled)).flatMap fun rule =>
    ((cycleConcern? cycles rule).toList ++ (ownConcern? rule).toList).map (⟨rule.id, ·⟩)

end Redirects
