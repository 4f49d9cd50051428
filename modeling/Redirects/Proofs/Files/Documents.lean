import Redirects.Files.Documents
import Redirects.Proofs.Engine.Document
import Redirects.Proofs.Files.Contents
import Redirects.Proofs.Store.Document
import Redirects.Proofs.Sync.Installation

/-!
# Synchronisation among files

A synchronisation writes nothing but the file of the engine, and where it fails the failure is one
of reading either file or of writing that one.  Where the system serves both files, the engine ends
up with what the stored state compiles to.
-/

namespace Redirects

variable {files after : Files} {state : StoredState} {rules : List DeclarativeRule}

theorem ok_of_mapError {ε ε' α : Type} {result : Except ε α} {translate : ε → ε'} {value : α}
    (done : result.mapError translate = .ok value) : result = .ok value := by
  cases result with
  | error error => cases done
  | ok found => exact congrArg Except.ok (Except.ok.inj done)

theorem exists_of_mapError {ε ε' α : Type} {result : Except ε α} {translate : ε → ε'} {error : ε'}
    (failed : result.mapError translate = .error error) :
    ∃ fault, result = .error fault ∧ error = translate fault := by
  cases result with
  | error fault => exact ⟨fault, rfl, (Except.error.inj failed).symm⟩
  | ok found => cases failed

namespace FileStore

variable {store : FileStore}

/-- The file holds the state; without a file it is the first one. -/
def Stores (store : FileStore) (files : Files) (state : StoredState) : Prop :=
  files.Holds store.path (some state.document) ∨ (files.Holds store.path none ∧ state = {})

theorem load_of_holds (holds : files.Holds store.path (some state.document)) :
    store.load files = .ok state := by
  rw [Files.Holds] at holds
  simp [load, holds, state.ofDocument?_document]

theorem load_of_stores (serves : files.Serves store.path) (stores : store.Stores files state) :
    store.load files = .ok state := by
  rcases stores with holds | ⟨missing, rfl⟩
  · exact load_of_holds holds
  · rw [load, missing.notFound serves]

theorem save_eq (store : FileStore) (state : StoredState) (files : Files) :
    store.save state files =
      ((files.replaceText store.path state.document).1.mapError store.saveError,
        (files.replaceText store.path state.document).2) := rfl

theorem save_of_serves (sound : files.Sound) (serves : files.Serves store.path)
    (state : StoredState) :
    ∃ saved, store.save state files = (.ok (), saved) ∧
      files.Replaced store.path state.document saved := by
  refine ⟨(files.replaceText store.path state.document).2, ?_, ?_⟩
  · rw [save_eq, serves.replaces]
    rfl
  · exact Files.replaced_of_ok sound (Prod.ext (serves.replaces _) rfl)

/-- A state that was saved took the place of what the file held. -/
theorem replaced_of_save {saved : Files} (sound : files.Sound)
    (wrote : store.save state files = (.ok (), saved)) :
    files.Replaced store.path state.document saved := by
  rw [save_eq] at wrote
  obtain ⟨done, rfl⟩ := Prod.mk.inj wrote
  exact Files.replaced_of_ok sound (Prod.ext (ok_of_mapError done) rfl)

end FileStore

namespace FileEngine

variable {engine : FileEngine}

/-- The file holds the rules; without a file there are none. -/
def Installs (engine : FileEngine) (files : Files) (rules : List DeclarativeRule) : Prop :=
  (∃ time, Timestamp.isValid time = true ∧
      files.Holds engine.path (some (ActiveRules.document ⟨time, rules⟩))) ∨
    (files.Holds engine.path none ∧ rules = [])

theorem active_of_holds {time : String} (timed : Timestamp.isValid time = true)
    (holds : files.Holds engine.path (some (ActiveRules.document ⟨time, rules⟩))) :
    engine.active files = .ok rules := by
  rw [Files.Holds] at holds
  simp [active, holds, ActiveRules.ofDocument?_document ⟨time, rules⟩ timed]

theorem active_of_installs (serves : files.Serves engine.path)
    (installs : engine.Installs files rules) : engine.active files = .ok rules := by
  rcases installs with ⟨time, timed, holds⟩ | ⟨missing, rfl⟩
  · exact active_of_holds timed holds
  · rw [active, missing.notFound serves]

theorem write_eq (engine : FileEngine) (rules : List DeclarativeRule) (files : Files) :
    engine.write rules files =
      ((files.replaceText engine.path (ActiveRules.document ⟨engine.clock, rules⟩)).1.mapError
          engine.writeError,
        (files.replaceText engine.path (ActiveRules.document ⟨engine.clock, rules⟩)).2) := rfl

theorem write_of_serves (engine : FileEngine) (sound : files.Sound)
    (serves : files.Serves engine.path) (rules : List DeclarativeRule) :
    ∃ written, engine.write rules files = (.ok (), written) ∧
      files.Replaced engine.path (ActiveRules.document ⟨engine.clock, rules⟩) written := by
  refine ⟨(files.replaceText engine.path (ActiveRules.document ⟨engine.clock, rules⟩)).2, ?_, ?_⟩
  · rw [write_eq, serves.replaces]
    rfl
  · exact Files.replaced_of_ok sound (Prod.ext (serves.replaces _) rfl)

/-- Rules that were written took the place of what the file held. -/
theorem replaced_of_write {written : Files} (sound : files.Sound)
    (wrote : engine.write rules files = (.ok (), written)) :
    files.Replaced engine.path (ActiveRules.document ⟨engine.clock, rules⟩) written := by
  rw [write_eq] at wrote
  obtain ⟨done, rfl⟩ := Prod.mk.inj wrote
  exact Files.replaced_of_ok sound (Prod.ext (ok_of_mapError done) rfl)

theorem replace_of_apply_ok {update : Update} {next : List DeclarativeRule}
    (active_eq : engine.active files = .ok rules) (applied : update.apply rules = .ok next) :
    engine.replace update files = engine.write next files := by
  rw [replace, active_eq]
  dsimp only
  rw [applied]

theorem replace_of_apply_error {update : Update} {error : Error}
    (active_eq : engine.active files = .ok rules) (rejected : update.apply rules = .error error) :
    engine.replace update files = (.error error, files) := by
  rw [replace, active_eq]
  dsimp only
  rw [rejected]

/-- Replacing the rules that were read is never turned down. -/
theorem replace_of_active (active_eq : engine.active files = .ok rules) (state : StoredState) :
    engine.replace (state.update rules) files =
      engine.write (compile state.rules state.enabled) files :=
  replace_of_apply_ok active_eq (Update.apply_replaceAll_self (compile_ids_nodup _ _))

end FileEngine

section Sync

variable {store : FileStore} {engine : FileEngine}

/-- What a synchronisation among files comes to. -/
inductive Synced (store : FileStore) (engine : FileEngine) (files : Files) :
    Except Failure SyncOutcome → Files → Prop
  /-- The store or the engine could not be read. -/
  | unread (failure : Failure) : Synced store engine files (.error failure) files
  /-- Redirects are switched off, and nothing is active. -/
  | idle {state : StoredState} (outcome : SyncOutcome) (loaded : store.load files = .ok state)
      (disabled : state.enabled = false) (inactive : engine.active files = .ok []) :
      Synced store engine files (.ok outcome) files
  | written {state : StoredState} {written : Files} (outcome : SyncOutcome)
      (loaded : store.load files = .ok state)
      (wrote : engine.write (compile state.rules state.enabled) files = (.ok (), written)) :
      Synced store engine files (.ok outcome) written
  | unwritten {state : StoredState} {error : Error} {left : Files} (failure : Failure)
      (loaded : store.load files = .ok state)
      (wrote : engine.write (compile state.rules state.enabled) files = (.error error, left)) :
      Synced store engine files (.error failure) left

/-- A synchronisation whose reads succeed writes what the state compiles to. -/
theorem trySync_of_read (loaded : store.load files = .ok state)
    (active_eq : engine.active files = .ok rules) :
    trySync store.store engine.engine files =
      if state.enabled = false ∧ rules = [] then (.ok (state.outcome rules), files)
      else
        ((SyncStage.finish state.task (state.outcome rules)
            (engine.write (compile state.rules state.enabled) files).1).result?.getD (.ok .failed),
          (engine.write (compile state.rules state.enabled) files).2) := by
  have reads : trySync store.store engine.engine files =
      (((SyncStage.compared state rules).advance store.store engine.engine files).1.result?.getD
          (.ok .failed),
        ((SyncStage.compared state rules).advance store.store engine.engine files).2) := by
    simp [trySync, SyncStage.advance, FileStore.store, FileEngine.engine, loaded, active_eq]
  rw [reads, SyncStage.advance_compared]
  split
  · rfl
  · simp only [FileEngine.engine, FileEngine.replace_of_active active_eq]

theorem synced_trySync (store : FileStore) (engine : FileEngine) (files : Files) :
    Synced store engine files (trySync store.store engine.engine files).1
      (trySync store.store engine.engine files).2 := by
  cases loaded : store.load files with
  | error error =>
      have failed : trySync store.store engine.engine files =
          (.error (.during "Failed to read stored rules" error), files) := by
        simp [trySync, SyncStage.advance, FileStore.store, loaded, SyncStage.result?]
      rw [failed]
      exact .unread _
  | ok state =>
      cases active_eq : engine.active files with
      | error error =>
          have failed : trySync store.store engine.engine files =
              (.error (.during "Failed to read active rules" error), files) := by
            simp [trySync, SyncStage.advance, FileStore.store, FileEngine.engine, loaded,
              active_eq, SyncStage.result?]
          rw [failed]
          exact .unread _
      | ok rules =>
          rw [trySync_of_read loaded active_eq]
          split
          · next idle => exact .idle _ loaded idle.1 (idle.2 ▸ active_eq)
          · cases wrote : engine.write (compile state.rules state.enabled) files with
            | mk result left =>
                cases result with
                | ok _ => exact .written _ loaded wrote
                | error error => exact .unwritten _ loaded wrote

/-- Where the system serves both files, a synchronisation installs what the state compiles to. -/
theorem trySync_of_serves (store : FileStore) (engine : FileEngine) (sound : files.Sound)
    (timed : Timestamp.isValid engine.clock = true)
    (store_serves : files.Serves store.path) (engine_serves : files.Serves engine.path)
    (apart : Path.placeFrom files.current store.path ≠ Path.placeFrom files.current engine.path)
    (draft_apart : Path.placeFrom files.current store.path ≠ files.draftPlace engine.path)
    (stores : store.Stores files state) (installs : engine.Installs files rules) :
    ∃ outcome synced, trySync store.store engine.engine files = (.ok outcome, synced) ∧
      synced.Sound ∧ synced.current = files.current ∧ store.Stores synced state ∧
        engine.Installs synced (compile state.rules state.enabled) := by
  have loaded := FileStore.load_of_stores store_serves stores
  have active_eq := FileEngine.active_of_installs engine_serves installs
  rw [trySync_of_read loaded active_eq]
  split
  · next idle =>
      obtain ⟨disabled, rfl⟩ := idle
      refine ⟨_, files, rfl, sound, rfl, stores, ?_⟩
      rwa [disabled, compile_false]
  · obtain ⟨written, wrote, replaced⟩ :=
      FileEngine.write_of_serves engine sound engine_serves (compile state.rules state.enabled)
    rw [wrote]
    refine ⟨_, written, rfl, replaced.sound, replaced.current, ?_, .inl ⟨_, timed, replaced.holds⟩⟩
    rcases stores with holds | ⟨missing, first⟩
    · exact .inl (holds.replaced replaced apart draft_apart)
    · exact .inr ⟨missing.replaced replaced apart draft_apart, first⟩

end Sync

end Redirects
