import Redirects.Proofs.CommandLine.Effect
import Redirects.Proofs.Files.Documents
import Redirects.Proofs.Files.Plain

/-!
# Runs over one store and one engine

Runs of the program start where neither file is there, and share one supply of names.  The system
serves both files all along, and nothing but the program writes them.  Where both are files of the
current directory, no run can bring that to an end.
-/

namespace Redirects

/-- The system serves the file of the store and that of the engine. -/
structure Served (storePath enginePath : String) (files : Files) : Prop where
  store : files.Serves storePath
  engine : files.Serves enginePath

/-- The system serves both files, and still does when the store was written. -/
structure Untroubled (storePath enginePath : String) (files : Files) : Prop where
  now : Served storePath enginePath files
  saved : ∀ state, Served storePath enginePath ((FileStore.mk storePath).save state files).2

/-- A run over the two files, which are written by the program only; its clock tells the time. -/
structure Admitted (storePath enginePath : String) (invocation : Invocation) (files : Files) :
    Prop where
  timed : Timestamp.isValid invocation.clock = true
  store : ∀ config, invocation.configure files = .ok (.ok config) → config.store = storePath
  engine : ∀ config, invocation.configure files = .ok (.ok config) → config.engine = enginePath
  runs : ∀ config, invocation.configure files = .ok (.ok config) → config.command ≠ .watch
  exports : ∀ config path, invocation.configure files = .ok (.ok config) →
    config.command = .exportRules (some path) →
      Path.placeFrom files.current path ≠ Path.placeFrom files.current storePath ∧
        Path.placeFrom files.current path ≠ Path.placeFrom files.current enginePath

theorem Admitted.surroundings_store {storePath enginePath : String} {invocation : Invocation}
    {files : Files} {config : RunConfig}
    (admitted : Admitted storePath enginePath invocation files)
    (configured : invocation.configure files = .ok (.ok config)) :
    (invocation.surroundings config).store = ⟨storePath⟩ := by
  rw [Invocation.surroundings, admitted.store config configured]

theorem Admitted.surroundings_engine {storePath enginePath : String} {invocation : Invocation}
    {files : Files} {config : RunConfig}
    (admitted : Admitted storePath enginePath invocation files)
    (configured : invocation.configure files = .ok (.ok config)) :
    (invocation.surroundings config).engine = ⟨enginePath, invocation.clock⟩ := by
  rw [Invocation.surroundings, admitted.engine config configured]

/-- A run that exports nothing is admitted by what it reads from its words. -/
theorem Admitted.of_configuration {storePath enginePath : String} {invocation : Invocation}
    {files : Files} {command : Command} (timed : Timestamp.isValid invocation.clock = true)
    (configuration : ((invocation.configure files).toOption.bind Except.toOption).map
      (fun config => (config.store, config.engine, config.command)) =
        some (storePath, enginePath, command))
    (runs : command ≠ .watch) (exports : ∀ path, command ≠ .exportRules path) :
    Admitted storePath enginePath invocation files := by
  have read {config : RunConfig} (configured : invocation.configure files = .ok (.ok config)) :=
    Invocation.eq_of_configuration configuration configured
  refine ⟨timed, fun config configured => (read configured).1,
    fun config configured => (read configured).2.1, fun config configured => ?_,
    fun config path configured exported => ?_⟩
  · rw [(read configured).2.2]
    exact runs
  · rw [(read configured).2.2] at exported
    exact absurd exported (exports _)

/-- The store is kept neither in the file of the engine nor at the place of its draft. -/
structure Apart (current : Place) (storePath enginePath : String) : Prop where
  file : Path.placeFrom current storePath ≠ Path.placeFrom current enginePath
  draft : Path.placeFrom current storePath ≠ Path.placeFrom current (Files.draftPath enginePath)

/-- Where runs over the two files lead, one after another, from an empty directory. -/
inductive Reached (current : Place) (storePath enginePath : String) : Desk → Prop
  | start (names : NameSupply) (output : String)
      (untroubled : Untroubled storePath enginePath (Files.empty current)) :
      Reached current storePath enginePath ⟨Files.empty current, names, output⟩
  | run {desk : Desk} (invocation : Invocation)
      (reached : Reached current storePath enginePath desk)
      (admitted : Admitted storePath enginePath invocation desk.files)
      (untroubled : Untroubled storePath enginePath (invocation.run desk).2.files) :
      Reached current storePath enginePath (invocation.run desk).2

theorem Reached.untroubled {current : Place} {storePath enginePath : String} {desk : Desk}
    (reached : Reached current storePath enginePath desk) :
    Untroubled storePath enginePath desk.files := by
  cases reached with
  | start _ _ untroubled => exact untroubled
  | run _ _ _ untroubled => exact untroubled

/-- The names of the stored rules are distinct, and the active rules are what the stored state
compiles to. -/
def InStep (storePath enginePath : String) (files : Files) : Prop :=
  ∃ state, (FileStore.mk storePath).load files = .ok state ∧ (state.rules.map (·.id)).Nodup ∧
    ∀ clock, (FileEngine.mk enginePath clock).active files =
      .ok (compile state.rules state.enabled)

/-! ## Files of the current directory -/

section Plain

variable {storePath enginePath name : String} {files after : Files}

theorem untroubled_of_unobstructed (store : files.Unobstructed storePath)
    (engine : files.Unobstructed enginePath) : Untroubled storePath enginePath files := by
  refine ⟨⟨store.serves, engine.serves⟩, fun state => ?_⟩
  rw [FileStore.save_eq, store.replaceText_eq]
  exact ⟨(store.replaced _ _).serves, (engine.replaced _ _).serves⟩

/-- A synchronisation puts nothing in the way of a file of the current directory. -/
theorem unobstructed_trySync (store : FileStore) {engine : FileEngine}
    (engine_free : files.Unobstructed engine.path) (unobstructed : files.Unobstructed name) :
    (trySync store.store engine.engine files).2.Unobstructed name := by
  have synced := synced_trySync store engine files
  generalize trySync store.store engine.engine files = outcome at synced ⊢
  obtain ⟨result, after⟩ := outcome
  cases synced with
  | unread => exact unobstructed
  | idle => exact unobstructed
  | written _ _ wrote =>
      rw [FileEngine.write_eq, engine_free.replaceText_eq] at wrote
      obtain ⟨-, rfl⟩ := Prod.mk.inj wrote
      exact unobstructed.replaced _ _
  | unwritten _ _ wrote =>
      rw [FileEngine.write_eq, engine_free.replaceText_eq] at wrote
      obtain ⟨-, rfl⟩ := Prod.mk.inj wrote
      exact unobstructed.replaced _ _

/-- Nothing that a command does puts anything in the way of a file of the current directory. -/
theorem Effect.unobstructed {surroundings : Surroundings} {command : Command}
    {names left : NameSupply} {result : Except Failure Unit}
    (effect : Effect surroundings command files names result after left)
    (store : files.Unobstructed surroundings.store.path)
    (engine : files.Unobstructed surroundings.engine.path)
    (unobstructed : files.Unobstructed name) : after.Unobstructed name := by
  have synced := unobstructed_trySync surroundings.store engine unobstructed
  cases effect with
  | refused => exact unobstructed
  | unsaved _ _ saved =>
      rw [FileStore.save_eq, store.replaceText_eq] at saved
      obtain ⟨-, rfl⟩ := Prod.mk.inj saved
      exact unobstructed.replaced _ _
  | unsynced ran =>
      rwa [ran] at synced
  | read => exact unobstructed
  | exported _ _ wrote => exact unobstructed.written wrote
  | synced ran =>
      rwa [ran] at synced
  | edited _ _ wrote =>
      rw [FileStore.save_eq, store.replaceText_eq] at wrote
      obtain ⟨-, rfl⟩ := Prod.mk.inj wrote
      exact unobstructed_trySync _ (engine.replaced _ _) (unobstructed.replaced _ _)

theorem Admitted.unobstructed {invocation : Invocation} {desk : Desk}
    (admitted : Admitted storePath enginePath invocation desk.files)
    (store : desk.files.Unobstructed storePath) (engine : desk.files.Unobstructed enginePath)
    (unobstructed : desk.files.Unobstructed name) :
    (invocation.run desk).2.files.Unobstructed name := by
  have ran := Invocation.ran_run admitted.runs
  generalize invocation.run desk = outcome at ran ⊢
  cases ran with
  | unconfigured => exact unobstructed
  | done configured effect =>
      rw [← admitted.store _ configured] at store
      rw [← admitted.engine _ configured] at engine
      exact effect.unobstructed store engine unobstructed
  | failed configured effect =>
      rw [← admitted.store _ configured] at store
      rw [← admitted.engine _ configured] at engine
      exact effect.unobstructed store engine unobstructed

/-- No run over files of the current directory runs into trouble. -/
theorem Reached.run_unobstructed {current : Place} {invocation : Invocation} {desk : Desk}
    (reached : Reached current storePath enginePath desk)
    (store : desk.files.Unobstructed storePath) (engine : desk.files.Unobstructed enginePath)
    (admitted : Admitted storePath enginePath invocation desk.files) :
    Reached current storePath enginePath (invocation.run desk).2 :=
  reached.run invocation admitted
    (untroubled_of_unobstructed (admitted.unobstructed store engine store)
      (admitted.unobstructed store engine engine))

/-- Adds a rule, with the two files named before the command. -/
def addition (storePath enginePath : String) : Invocation where
  words := ["--store", storePath, "--engine", enginePath, "add", "http://a/", "http://b/"]
  environment := []
  clock := "2025-01-01T00:00:00Z"
  palette := .plain

/-- What is there when the rule was added in an empty directory. -/
def added (storePath enginePath : String) : Desk :=
  ((addition storePath enginePath).run { files := Files.empty ["home"] }).2

/-- The words of the addition are read as they are meant, in the empty directory. -/
def ReadsAddition (storePath enginePath : String) : Prop :=
  (((addition storePath enginePath).configure (Files.empty ["home"])).toOption.bind
    Except.toOption).map (fun config => (config.store, config.engine, config.command)) =
      some (storePath, enginePath, .add "http://a/" "http://b/" false none false)

instance (storePath enginePath : String) : Decidable (ReadsAddition storePath enginePath) :=
  inferInstanceAs (Decidable (_ = _))

theorem ReadsAddition.admitted (reads : ReadsAddition storePath enginePath) :
    Admitted storePath enginePath (addition storePath enginePath) (Files.empty ["home"]) :=
  .of_configuration (show Timestamp.isValid "2025-01-01T00:00:00Z" = true by decide +kernel) reads
    nofun nofun

theorem reached_added (store : (Files.empty ["home"]).Unobstructed storePath)
    (engine : (Files.empty ["home"]).Unobstructed enginePath)
    (reads : ReadsAddition storePath enginePath) :
    Reached ["home"] storePath enginePath (added storePath enginePath) :=
  (Reached.start {} "" (untroubled_of_unobstructed store engine)).run_unobstructed store engine
    reads.admitted

end Plain

end Redirects
