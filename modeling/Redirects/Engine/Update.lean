import Redirects.Declarative
import Redirects.Error

/-!
# Updates of the active rules

An update takes some numbers out of the active rules and adds rules at their end, all at once. It is
refused if two active rules would have one number.
-/

namespace Redirects

/-- A change of the active rules. -/
structure Update where
  /-- The numbers taken out. -/
  removals : List UInt32
  /-- The rules added. -/
  additions : List DeclarativeRule
deriving DecidableEq, Repr

namespace Update

/-- Takes all active rules out and adds others. -/
def replaceAll (active rules : List DeclarativeRule) : Update := ⟨active.map (·.id), rules⟩

/-- Nothing is taken out and nothing is added. -/
def isNoop (update : Update) : Bool := update.removals.isEmpty && update.additions.isEmpty

/-- Adds rules one after another. -/
def addAll (active : List DeclarativeRule) :
    List DeclarativeRule → Except Error (List DeclarativeRule)
  | [] => .ok active
  | rule :: rules =>
    if active.any (·.id = rule.id) then .error (.engine (.duplicate rule.id))
    else addAll (active ++ [rule]) rules

/-- The active rules after the update. -/
def apply (update : Update) (active : List DeclarativeRule) :
    Except Error (List DeclarativeRule) :=
  addAll (active.filter fun rule => !update.removals.contains rule.id) update.additions

end Update

end Redirects
