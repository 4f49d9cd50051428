import Redirects.Compilation
import Redirects.Engine.Basic
import Redirects.Store.State

/-!
# Bringing the engine in step with the store

A synchronisation reads the stored state, reads the active rules, and replaces all of them by what
the state compiles to. These are its three steps, and other work may happen between them. Where
redirects are switched off and nothing is active the last step leaves the engine alone.
-/

namespace Redirects

/-- What a synchronisation did. -/
inductive SyncOutcome where
  /-- The compiled rules were installed. -/
  | installed (installed removed cycled disabled : Nat)
  /-- Redirects are switched off; the active rules were taken out. -/
  | cleared (removed : Nat)
  /-- The store or the engine failed. -/
  | failed
deriving DecidableEq, Repr

/-- How far a synchronisation has come. -/
inductive SyncStage where
  | ready
  /-- The state was read. -/
  | loaded (state : StoredState)
  /-- The active rules were read, too. -/
  | compared (state : StoredState) (active : List DeclarativeRule)
  | done (result : Except Failure SyncOutcome)

namespace SyncStage

/-- What an update came to. -/
def finish (task : String) (outcome : SyncOutcome) : Except Error Unit → SyncStage
  | .ok _ => .done (.ok outcome)
  | .error error => .done (.error (.during task error))

/-- The next step of a synchronisation. -/
def advance {World : Type} (store : Store World) (engine : Engine World) :
    SyncStage → World → SyncStage × World
  | .ready, world =>
    match store.load world with
    | .ok state => (.loaded state, world)
    | .error error => (.done (.error (.during "Failed to read stored rules" error)), world)
  | .loaded state, world =>
    match engine.active world with
    | .ok active => (.compared state active, world)
    | .error error => (.done (.error (.during "Failed to read active rules" error)), world)
  | .compared state active, world =>
    if state.enabled then
      let compilation := compileWithReport state.rules true
      let outcome := SyncOutcome.installed compilation.rules.length active.length
        (Cycle.excluded compilation.cycles).length compilation.disabled
      let (result, world) := engine.replace (.replaceAll active compilation.rules) world
      (finish "Failed to install compiled rules" outcome result, world)
    else
      let update := Update.replaceAll active []
      let outcome := SyncOutcome.cleared active.length
      if update.isNoop then (.done (.ok outcome), world)
      else
        let (result, world) := engine.replace update world
        (finish "Failed to clear active rules" outcome result, world)
  | .done result, world => (.done result, world)

/-- The result of a synchronisation that is done. -/
def result? : SyncStage → Option (Except Failure SyncOutcome)
  | .done result => some result
  | _ => none

end SyncStage

/-- A whole synchronisation. -/
def trySync {World : Type} (store : Store World) (engine : Engine World) (world : World) :
    Except Failure SyncOutcome × World :=
  let (stage, world) := SyncStage.ready.advance store engine world
  let (stage, world) := stage.advance store engine world
  let (stage, world) := stage.advance store engine world
  (stage.result?.getD (.ok .failed), world)

/-- A whole synchronisation whose failure is only told. -/
def sync {World : Type} (store : Store World) (engine : Engine World) (world : World) :
    SyncOutcome × World :=
  let (result, world) := trySync store engine world
  (result.toOption.getD .failed, world)

end Redirects
