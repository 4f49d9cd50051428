import Redirects.Cycle
import Redirects.Declarative

/-!
# Compiling a rule list

Each enabled rule outside every cycle becomes a declarative rule whose number is the rule's place in
the list, counted from one. Rules that are left out leave a gap. While redirects are switched off
nothing is compiled.
-/

namespace Redirects

/-- What a rule list is compiled to, and what was left out. -/
structure Compilation where
  /-- The declarative rules. -/
  rules : List DeclarativeRule := []
  /-- The cycles on whose account rules were left out. -/
  cycles : List Cycle := []
  /-- The number of rules that are not enabled. -/
  disabled : Nat := 0
deriving DecidableEq, Repr

/-- The declarative number of the rule at a place, as long as numbers last. -/
def numberAt? (index : Nat) : Option UInt32 :=
  if index + 1 < UInt32.size then some (UInt32.ofNat (index + 1)) else none

/-- The declarative rule for the rule at a place, unless it is left out. -/
def compileAt? (cycles : List Cycle) (rule : Rule) (index : Nat) : Option DeclarativeRule :=
  if rule.enabled && !Cycle.excludes cycles rule.id then
    (numberAt? index).map (synthesize rule).emit
  else none

/-- Compiles a rule list. -/
def compileWithReport (rules : List Rule) (enabled : Bool) : Compilation :=
  if enabled then
    let cycles := Cycle.detect rules
    ⟨rules.zipIdx.filterMap fun (rule, index) => compileAt? cycles rule index, cycles,
      rules.countP (!·.enabled)⟩
  else {}

/-- The declarative rules of a rule list. -/
def compile (rules : List Rule) (enabled : Bool) : List DeclarativeRule :=
  (compileWithReport rules enabled).rules

end Redirects
