import Redirects.Engine.Update

/-!
# Engines

An engine holds the active rules. It tells them, and it carries out an update of them; a refused
update changes none of them.
-/

namespace Redirects

/-- Where the active rules are: how they are read, and how they are updated. -/
structure Engine (World : Type) where
  active : World → Except Error (List DeclarativeRule)
  replace : Update → World → Except Error Unit × World

/-- An engine in memory. -/
structure MemoryEngine where
  rules : List DeclarativeRule := []
  /-- The number of updates asked for. -/
  calls : Nat := 0
  /-- Every update is refused. -/
  refusing : Bool := false
deriving DecidableEq, Repr

namespace MemoryEngine

/-- Carries out an update. -/
def replace (update : Update) (engine : MemoryEngine) : Except Error Unit × MemoryEngine :=
  let engine := { engine with calls := engine.calls + 1 }
  if engine.refusing then (.error (.engine .refused), engine)
  else
    match update.apply engine.rules with
    | .ok rules => (.ok (), { engine with rules })
    | .error error => (.error error, engine)

end MemoryEngine

end Redirects
