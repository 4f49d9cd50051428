/-!
# Redirect rules

A rule sends the requests whose address matches its source to its destination. Rules are kept in a
list whose order matters: the position of a rule decides its number once it is compiled.
-/

namespace Redirects

/-- How a rule's source is matched. -/
inductive MatchKind where
  /-- The address contains the source. -/
  | contains
  /-- The source is a pattern that occurs in the address. -/
  | regex
deriving DecidableEq, Repr

/-- The name of a way to match. -/
def MatchKind.name : MatchKind → String
  | .contains => "contains"
  | .regex => "regex"

/-- The way to match of a name. -/
def MatchKind.ofName? : String → Option MatchKind
  | "contains" => some .contains
  | "regex" => some .regex
  | _ => none

theorem MatchKind.ofName?_name (kind : MatchKind) : ofName? kind.name = some kind := by
  cases kind <;> rfl

/-- What the user says of a rule. -/
structure Draft where
  /-- Text or pattern that addresses are matched with. -/
  source : String
  /-- Address, or template with places for the groups of the pattern. -/
  destination : String
  /-- How the source is matched. -/
  kind : MatchKind := .contains
  /-- The rule is in use. -/
  enabled : Bool := true
deriving DecidableEq, Repr

/-- A rule. -/
structure Rule extends Draft where
  /-- Name of the rule, given once and never again. -/
  id : String
deriving DecidableEq, Repr

/-- The rule that a draft becomes under a name. -/
def Draft.named (draft : Draft) (id : String) : Rule := { draft with id }

end Redirects
