import Redirects.Proofs.CommandLine.Effect
import Redirects.Proofs.Files.Documents
import Redirects.Proofs.Files.Plain

/-!
# What a failing command leaves behind

A command that fails leaves the stored state and the active rules as they were, wherever it failed:
an edit that could be written is never taken back for a failure behind it.  Every command reads the
state, so none succeeds over a damaged store.
-/

namespace Redirects

variable {files after : Files} {place : Place}

/-- What is there is not missing to a reader. -/
theorem Files.readText_ne_notFound {path : String} (present : files.hasPath path = true) :
    files.readText path ≠ .error .notFound := by
  rw [hasPath] at present
  split at present
  · next there leads =>
      obtain ⟨node, found⟩ := Option.isSome_iff_exists.mp present
      rw [readText, leads]
      cases node with
      | file content => cases content <;> simp [bind, Except.bind, found]
      | directory => simp [bind, Except.bind, found]
  · contradiction

namespace FileStore

/-- A state that cannot be written leaves everything but its draft as it was. -/
theorem at?_save_of_error {store : FileStore} {state : StoredState} {error : Error}
    (plain : Path.Plain store.path) (failed : store.save state files = (.error error, after))
    (apart : place ≠ files.draftPlace store.path) : after.at? place = files.at? place := by
  rw [save_eq] at failed
  obtain ⟨translated, rfl⟩ := Prod.mk.inj failed
  obtain ⟨fault, not_replaced, -⟩ := exists_of_mapError translated
  exact Files.at?_replaceText_of_error plain not_replaced apart

/-- A file that is there and holds no state cannot be loaded. -/
theorem load_of_damaged (store : FileStore) (present : files.hasPath store.path = true)
    (damaged : ∀ text, files.readText store.path = .ok text →
      StoredState.ofDocument? text = none) :
    ∃ error, store.load files = .error error := by
  rw [load]
  split
  · next missing => exact absurd missing (Files.readText_ne_notFound present)
  · exact ⟨_, rfl⟩
  · next text read =>
      rw [damaged text read]
      exact ⟨_, rfl⟩

end FileStore

namespace FileEngine

variable {engine : FileEngine} {rules : List DeclarativeRule} {error : Error}

/-- Rules that cannot be written leave everything but their draft as it was. -/
theorem at?_write_of_error (plain : Path.Plain engine.path)
    (failed : engine.write rules files = (.error error, after))
    (apart : place ≠ files.draftPlace engine.path) : after.at? place = files.at? place := by
  rw [write_eq] at failed
  obtain ⟨translated, rfl⟩ := Prod.mk.inj failed
  obtain ⟨fault, not_replaced, -⟩ := exists_of_mapError translated
  exact Files.at?_replaceText_of_error plain not_replaced apart

end FileEngine

section Commands

variable {surroundings : Surroundings} {command : Command} {names left : NameSupply}
  {failure : Failure}

/-- A command that fails leaves everything but the drafts as it was. -/
theorem Effect.at?_of_error
    (effect : Effect surroundings command files names (.error failure) after left)
    (store_plain : Path.Plain surroundings.store.path)
    (engine_plain : Path.Plain surroundings.engine.path)
    (store_apart : place ≠ files.draftPlace surroundings.store.path)
    (engine_apart : place ≠ files.draftPlace surroundings.engine.path) :
    after.at? place = files.at? place := by
  cases effect with
  | refused => rfl
  | unsaved _ _ failed => exact FileStore.at?_save_of_error store_plain failed store_apart
  | unsynced failed =>
      have synced := synced_trySync surroundings.store surroundings.engine files
      rw [failed] at synced
      cases synced with
      | unread => rfl
      | unwritten _ _ unwritten =>
          exact FileEngine.at?_write_of_error engine_plain unwritten engine_apart

/-- A command that succeeds has read the state. -/
theorem Effect.loaded (effect : Effect surroundings command files names (.ok ()) after left) :
    ∃ state, surroundings.store.load files = .ok state := by
  cases effect with
  | read loaded => exact ⟨_, loaded⟩
  | exported loaded => exact ⟨_, loaded⟩
  | synced succeeded =>
      have synced := synced_trySync surroundings.store surroundings.engine files
      rw [succeeded] at synced
      cases synced with
      | idle _ loaded => exact ⟨_, loaded⟩
      | written _ loaded => exact ⟨_, loaded⟩
  | edited loaded => exact ⟨_, loaded⟩

end Commands

/-! ## The files of the current directory -/

/-- The drafts of the two files stand beside them. -/
theorem append_ne_draftPlace (files : Files) {name path : String}
    (name_listed : name ∈ ["rules.json", "active-rules.json"])
    (path_listed : path ∈ ["rules.json", "active-rules.json"]) :
    files.current ++ [name] ≠ files.draftPlace path := by
  have drafts : ∀ path ∈ ["rules.json", "active-rules.json"],
      Path.Plain (Files.draftPath path) ∧
        ∀ name ∈ ["rules.json", "active-rules.json"], name ≠ Files.draftPath path := by
    decide
  obtain ⟨plain, apart⟩ := drafts path path_listed
  rw [Files.draftPlace, plain.placeFrom_eq]
  intro same
  exact apart name name_listed (List.singleton_inj.mp (List.append_cancel_left same))

namespace Invocation

variable {invocation : Invocation} {desk : Desk}

theorem at?_run_of_failed
    (asked : ∀ config, invocation.configure desk.files = .ok (.ok config) →
      config.store = "rules.json" ∧ config.engine = "active-rules.json" ∧ config.command ≠ .watch)
    (failed : (invocation.run desk).1 ≠ .done) {name : String}
    (listed : name ∈ ["rules.json", "active-rules.json"]) :
    (invocation.run desk).2.files.at? (desk.files.current ++ [name]) =
      desk.files.at? (desk.files.current ++ [name]) := by
  have ran := ran_run fun config configured => (asked config configured).2.2
  generalize invocation.run desk = outcome at ran failed ⊢
  cases ran with
  | unconfigured => rfl
  | done => contradiction
  | @failed config _ _ _ configured effect =>
      obtain ⟨store_eq, engine_eq, -⟩ := asked config configured
      have store_listed : config.store ∈ ["rules.json", "active-rules.json"] := by simp [store_eq]
      have engine_listed : config.engine ∈ ["rules.json", "active-rules.json"] := by
        simp [engine_eq]
      have plain : ∀ path ∈ ["rules.json", "active-rules.json"], Path.Plain path := by decide
      exact effect.at?_of_error (plain _ store_listed) (plain _ engine_listed)
        (append_ne_draftPlace _ listed store_listed) (append_ne_draftPlace _ listed engine_listed)

theorem run_ne_done_of_damaged
    (asked : ∀ config, invocation.configure desk.files = .ok (.ok config) →
      config.store = "rules.json" ∧ config.command ≠ .watch)
    (present : desk.files.hasPath "rules.json" = true)
    (damaged : ∀ text, desk.files.readText "rules.json" = .ok text →
      StoredState.ofDocument? text = none) : (invocation.run desk).1 ≠ .done := by
  have ran := ran_run fun config configured => (asked config configured).2
  generalize invocation.run desk = outcome at ran ⊢
  cases ran with
  | unconfigured failed => exact failed
  | @done config _ configured effect =>
      obtain ⟨state, loaded⟩ := effect.loaded
      rw [surroundings, (asked config configured).1] at loaded
      obtain ⟨error, unloaded⟩ := FileStore.load_of_damaged ⟨"rules.json"⟩ present damaged
      rw [unloaded] at loaded
      contradiction
  | failed =>
      intro done
      cases done

end Invocation

end Redirects
