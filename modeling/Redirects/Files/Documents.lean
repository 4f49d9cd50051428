import Redirects.Engine.Basic
import Redirects.Engine.Document
import Redirects.Files.Tree
import Redirects.Store.State

/-!
# A store and an engine in files

Each keeps its document in one file, which is replaced as a whole. A missing file is a first run:
the first state, and no active rules. A file that holds something else is an error and stays as it
is.
-/

namespace Redirects

/-- A store in a file. -/
structure FileStore where
  path : String
deriving DecidableEq, Repr

namespace FileStore

/-- Reads the state. -/
def load (store : FileStore) (files : Files) : Except Error StoredState :=
  match files.readText store.path with
  | .error .notFound => .ok {}
  | .error fault => .error (.store (.cannotRead store.path fault))
  | .ok text =>
    match StoredState.ofDocument? text with
    | some state => .ok state
    | none => .error (.store (.corrupted store.path))

/-- The error of a state that could not be written. -/
def saveError (store : FileStore) : Files.ReplaceFault → Error
  | .parents fault => .files fault
  | .write path fault => .store (.cannotWrite path fault)
  | .rename fault => .store (.cannotReplace store.path fault)

/-- Writes the state. -/
def save (store : FileStore) (state : StoredState) (files : Files) : Except Error Unit × Files :=
  let (result, files) := files.replaceText store.path state.document
  (result.mapError store.saveError, files)

/-- The store among files. -/
def store (store : FileStore) : Store Files := ⟨store.load, store.save⟩

end FileStore

/-- An engine whose active rules are in a file. -/
structure FileEngine where
  path : String
  /-- The time that is written into the file. -/
  clock : String
deriving DecidableEq, Repr

namespace FileEngine

/-- Reads the active rules. -/
def active (engine : FileEngine) (files : Files) : Except Error (List DeclarativeRule) :=
  match files.readText engine.path with
  | .error .notFound => .ok []
  | .error fault => .error (.engine (.cannotRead engine.path fault))
  | .ok text =>
    match ActiveRules.ofDocument? text with
    | some active => .ok active.rules
    | none => .error (.engine (.corrupted engine.path))

/-- The error of active rules that could not be written. -/
def writeError (engine : FileEngine) : Files.ReplaceFault → Error
  | .parents fault => .files fault
  | .write path fault => .engine (.cannotWrite path fault)
  | .rename fault => .engine (.cannotInstall engine.path fault)

/-- Writes the active rules. -/
def write (engine : FileEngine) (rules : List DeclarativeRule) (files : Files) :
    Except Error Unit × Files :=
  let document := ActiveRules.document ⟨engine.clock, rules⟩
  let (result, files) := files.replaceText engine.path document
  (result.mapError engine.writeError, files)

/-- Carries out an update. -/
def replace (engine : FileEngine) (update : Update) (files : Files) :
    Except Error Unit × Files :=
  match engine.active files with
  | .error error => (.error error, files)
  | .ok active =>
    match update.apply active with
    | .error error => (.error error, files)
    | .ok rules => engine.write rules files

/-- The engine among files. -/
def engine (engine : FileEngine) : Engine Files := ⟨engine.active, engine.replace⟩

end FileEngine

end Redirects
