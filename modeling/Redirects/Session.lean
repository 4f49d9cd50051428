import Redirects.Sync

/-!
# A store and an engine in memory

A store in memory holds a state, or cannot be read.
-/

namespace Redirects

/-- A store and an engine side by side in memory. -/
structure Session where
  /-- The stored state; a store without one cannot be read. -/
  store : Option StoredState
  engine : MemoryEngine := {}
deriving DecidableEq, Repr

namespace Session

/-- Reads the stored state. -/
def load (session : Session) : Except Error StoredState :=
  match session.store with
  | some state => .ok state
  | none => .error (.store .unreadable)

/-- The store of a session. -/
def memoryStore : Store Session where
  load := load
  save state session := (.ok (), { session with store := some state })

/-- Updates the active rules. -/
def replace (update : Update) (session : Session) : Except Error Unit × Session :=
  let (result, engine) := session.engine.replace update
  (result, { session with engine })

/-- The engine of a session. -/
def memoryEngine : Engine Session where
  active session := .ok session.engine.rules
  replace := replace

end Session

end Redirects
