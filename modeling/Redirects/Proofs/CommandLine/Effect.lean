import Redirects.CommandLine.Run
import Redirects.Proofs.Files.Walk
import Redirects.Proofs.Rule.Names

/-!
# What a command does

Whatever a command prints, it can do one of a few things to the files: nothing, an export, a
synchronisation, or an edit of the stored state with a synchronisation behind it.  It fails before
it wrote anything, or because the state or the active rules could not be written.
-/

namespace Redirects

namespace Work

variable {α β : Type} {desk : Desk} {surroundings : Surroundings}

/-- Where the work succeeds, one condition holds of its value and of the desk it leaves; where it
fails, another. -/
structure Meets (work : Work α) (desk : Desk) (good : α → Desk → Prop)
    (bad : Failure → Desk → Prop) : Prop where
  succeeds : ∀ value after, work.run.run desk = (.ok value, after) → good value after
  fails : ∀ failure after, work.run.run desk = (.error failure, after) → bad failure after

variable {good : α → Desk → Prop} {bad : Failure → Desk → Prop}

theorem Meets.mono {work : Work α} {good' : α → Desk → Prop} {bad' : Failure → Desk → Prop}
    (meets : Meets work desk good bad)
    (better : ∀ value after, good value after → good' value after)
    (worse : ∀ failure after, bad failure after → bad' failure after) :
    Meets work desk good' bad' where
  succeeds value after ran := better value after (meets.succeeds value after ran)
  fails failure after ran := worse failure after (meets.fails failure after ran)

/-- Work is judged by how it runs. -/
theorem meets_iff {work : Work α} :
    Meets work desk good bad ↔
      match work.run.run desk with
      | (.ok value, after) => good value after
      | (.error failure, after) => bad failure after := by
  constructor
  · rintro ⟨succeeds, fails⟩
    split
    · next value after ran => exact succeeds value after ran
    · next failure after ran => exact fails failure after ran
  · intro met
    refine ⟨fun value after ran => ?_, fun failure after ran => ?_⟩
    · rwa [ran] at met
    · rwa [ran] at met

@[simp]
theorem meets_pure (value : α) : Meets (pure value) desk good bad ↔ good value desk := meets_iff

@[simp]
theorem meets_throw (failure : Failure) :
    Meets (throw failure) desk good bad ↔ bad failure desk := meets_iff

@[simp]
theorem meets_bind (work : Work β) (next : β → Work α) :
    Meets (work >>= next) desk good bad ↔
      Meets work desk (fun value mid => Meets (next value) mid good bad) bad := by
  have run_bind : (work >>= next).run.run desk =
      match work.run.run desk with
      | (.ok value, mid) => (next value).run.run mid
      | (.error failure, mid) => (.error failure, mid) := by
    simp only [ExceptT.run_bind, StateT.run_bind]
    rcases work.run.run desk with ⟨failure | value, mid⟩ <;> rfl
  rw [meets_iff, meets_iff, run_bind]
  rcases work.run.run desk with ⟨failure | value, mid⟩
  · rfl
  · exact meets_iff.symm

@[simp]
theorem meets_get {good : Desk → Desk → Prop} :
    Meets (get : Work Desk) desk good bad ↔ good desk desk := meets_iff

@[simp]
theorem meets_set (next : Desk) {good : PUnit → Desk → Prop} :
    Meets (set next : Work PUnit) desk good bad ↔ good () next := meets_iff

@[simp]
theorem meets_print (text : String) {good : Unit → Desk → Prop} :
    Meets (print text) desk good bad ↔ good () { desk with output := desk.output ++ text } :=
  meets_iff

@[simp]
theorem meets_ofExcept (result : Except Error α) :
    Meets (ofExcept result) desk good bad ↔
      (∀ value, result = .ok value → good value desk) ∧
        ∀ error, result = .error error → bad (.plain error) desk := by
  cases result <;> simp [ofExcept]

@[simp]
theorem meets_onFiles (action : Files → α × Files) :
    Meets (onFiles action) desk good bad ↔
      good (action desk.files).1 { desk with files := (action desk.files).2 } := meets_iff

@[simp]
theorem meets_nextName {good : String → Desk → Prop} :
    Meets nextName desk good bad ↔
      good desk.names.next.1 { desk with names := desk.names.next.2 } := meets_iff

/-- What is told changes the output at most. -/
theorem meets_tell {message : String} {good : Unit → Desk → Prop}
    (told : ∀ output, good () { desk with output }) :
    Meets (tell surroundings message) desk good bad := by
  rw [tell]
  split
  · exact (meets_pure ()).mpr (told desk.output)
  · exact (meets_print _).mpr (told _)

@[simp]
theorem meets_load {good : StoredState → Desk → Prop} :
    Meets (load surroundings) desk good bad ↔
      (∀ state, surroundings.store.load desk.files = .ok state → good state desk) ∧
        ∀ error, surroundings.store.load desk.files = .error error → bad (.plain error) desk := by
  rw [load, meets_bind, meets_get, meets_ofExcept]

theorem meets_readImport {path : String} {good : List Rule → Desk → Prop}
    (failed : ∀ failure, bad failure desk)
    (imported : ∀ text rules left, importRules text desk.names = .ok (rules, left) →
      good rules { desk with names := left }) :
    Meets (readImport path) desk good bad := by
  rw [readImport, meets_bind, meets_get]
  split
  · exact (meets_throw _).mpr (failed _)
  · next text _ =>
      simp only [meets_bind, meets_ofExcept, meets_set, meets_pure]
      exact ⟨fun _ read => imported text _ _ read, fun _ _ => failed _⟩

theorem meets_writeExport {path text : String} {good : Unit → Desk → Prop}
    (failed : ∀ failure, bad failure desk)
    (exported : ∀ after, desk.files.write path (.text text) = .ok after →
      good () { desk with files := after }) :
    Meets (writeExport path text) desk good bad := by
  rw [writeExport, meets_bind, meets_get]
  split
  · exact (meets_throw _).mpr (failed _)
  · next after wrote => exact (meets_set _).mpr (exported after wrote)

theorem meets_edit {change : StoredState → Work (StoredState × α)}
    (unread : ∀ error, surroundings.store.load desk.files = .error error → bad (.plain error) desk)
    (read : ∀ before, surroundings.store.load desk.files = .ok before →
      Meets (change before) desk
        (fun (after, value) mid =>
          (∀ error left, surroundings.store.save after mid.files = (.error error, left) →
              bad (.plain error) { mid with files := left }) ∧
            ∀ saved output, surroundings.store.save after mid.files = (.ok (), saved) →
              good value
                { mid with
                  files := (sync surroundings.store.store surroundings.engine.engine saved).2
                  output })
        bad) :
    Meets (edit surroundings change) desk good bad := by
  rw [edit, meets_bind, meets_load]
  refine ⟨fun before loaded => ?_, unread⟩
  rw [meets_bind]
  refine (read before loaded).mono ?_ fun _ _ failed => failed
  rintro ⟨after, value⟩ mid ⟨unsaved, saved⟩
  simp only [meets_bind, meets_onFiles, meets_ofExcept]
  refine ⟨fun _ save_ok => ?_, fun error save_error => unsaved error _ (Prod.ext save_error rfl)⟩
  have edited := fun output => saved _ output (Prod.ext save_ok rfl)
  split
  · simpa only [meets_bind, meets_print, meets_pure] using edited _
  · simpa only [meets_pure] using edited _

end Work

/-- What a command can do to the files and to the names that are left. -/
inductive Effect (surroundings : Surroundings) (command : Command) (files : Files)
    (names : NameSupply) : Except Failure Unit → Files → NameSupply → Prop
  /-- It failed before it wrote anything. -/
  | refused (failure : Failure) (left : NameSupply) :
      Effect surroundings command files names (.error failure) files left
  /-- The state could not be written. -/
  | unsaved {state : StoredState} {error : Error} {after : Files} (failure : Failure)
      (left : NameSupply) (saved : surroundings.store.save state files = (.error error, after)) :
      Effect surroundings command files names (.error failure) after left
  /-- The active rules could not be brought in step. -/
  | unsynced {failure : Failure} {after : Files}
      (synced : trySync surroundings.store.store surroundings.engine.engine files =
        (.error failure, after)) :
      Effect surroundings command files names (.error failure) after names
  /-- The state was only read. -/
  | read {state : StoredState} (loaded : surroundings.store.load files = .ok state) :
      Effect surroundings command files names (.ok ()) files names
  | exported {state : StoredState} {path text : String} {after : Files}
      (loaded : surroundings.store.load files = .ok state)
      (asked : command = .exportRules (some path))
      (wrote : files.write path (.text text) = .ok after) :
      Effect surroundings command files names (.ok ()) after names
  | synced {outcome : SyncOutcome} {after : Files}
      (synced : trySync surroundings.store.store surroundings.engine.engine files =
        (.ok outcome, after)) :
      Effect surroundings command files names (.ok ()) after names
  /-- A new state was written and synchronised. -/
  | edited {before state : StoredState} {saved : Files} {left : NameSupply}
      (loaded : surroundings.store.load files = .ok before)
      (edits : Edits before.rules names state.rules left)
      (wrote : surroundings.store.save state files = (.ok (), saved)) :
      Effect surroundings command files names (.ok ())
        (sync surroundings.store.store surroundings.engine.engine saved).2 left

namespace Work

variable {surroundings : Surroundings} {command : Command} {names : NameSupply} {desk : Desk}

/-- The work does what the command can do, which started with these names. -/
def Does {α : Type} (surroundings : Surroundings) (command : Command) (names : NameSupply)
    (desk : Desk) (work : Work α) : Prop :=
  Meets work desk
    (fun _ after => Effect surroundings command desk.files names (.ok ()) after.files after.names)
    fun failure after =>
      Effect surroundings command desk.files names (.error failure) after.files after.names

theorem Does.tell {α : Type} {work : Work α} {message : α → String}
    (does : Does surroundings command names desk work) :
    Does surroundings command names desk
      (work >>= fun value => tell surroundings (message value)) := by
  rw [Does, meets_bind]
  exact Meets.mono does (fun _ _ effect => meets_tell fun _ => effect) fun _ _ effect => effect

/-- The state is read and shown. -/
theorem does_show (shown : StoredState → String) :
    Does surroundings command desk.names desk
      (load surroundings >>= fun state => print (shown state)) := by
  simp only [Does, meets_bind, meets_load, meets_print]
  exact ⟨fun _ loaded => .read loaded, fun _ _ => .refused _ _⟩

theorem does_edit {α : Type} {change : StoredState → Work (StoredState × α)}
    (changes : ∀ before, surroundings.store.load desk.files = .ok before →
      Meets (change before) desk
        (fun (state, _) mid =>
          mid.files = desk.files ∧ Edits before.rules names state.rules mid.names)
        fun _ mid => mid.files = desk.files) :
    Does surroundings command names desk (edit surroundings change) := by
  refine meets_edit (fun error _ => .refused _ _) fun before loaded => ?_
  refine (changes before loaded).mono ?_ ?_
  · rintro ⟨state, value⟩ mid ⟨same_files, edits⟩
    rw [same_files]
    exact ⟨fun _ _ unsaved => .unsaved _ _ unsaved, fun _ _ wrote => .edited loaded edits wrote⟩
  · intro failure mid same_files
    rw [same_files]
    exact .refused _ _

theorem does_editRules {change : List Rule → Except Error (List Rule)}
    (changes : ∀ before after, change before = .ok after → Edits before names after desk.names) :
    Does surroundings command names desk (editRules surroundings change) := by
  refine does_edit fun before _ => ?_
  simp only [meets_bind, meets_ofExcept, meets_pure]
  exact ⟨fun after changed => ⟨trivial, changes _ _ changed⟩, fun _ _ => trivial⟩

theorem does_switch (enabled : Bool) :
    Does surroundings command desk.names desk (switch surroundings enabled) :=
  does_edit fun _ _ => (meets_pure _).mpr ⟨rfl, edits_of_names_eq rfl⟩

theorem edits_edited {rules after : List Rule} {id : String} {source destination : Option String}
    {kind : Option MatchKind} (changed : edited rules id source destination kind = .ok after) :
    Edits rules names after names := by
  rw [edited] at changed
  split at changed
  · contradiction
  · obtain ⟨rule, -, updated⟩ := bind_ok_iff.mp changed
    exact edits_update updated

/-- Adding a rule saves the state with the rule behind the others. -/
theorem meets_add {source destination : String} {regex disabled : Bool} {kind : Option MatchKind}
    {draft : Draft} {before : StoredState} {saved : Files} {bad : Failure → Desk → Prop}
    (valid : Draft.validate
      { source, destination, kind := kind.getD (if regex then .regex else .contains),
        enabled := !disabled } = .ok draft)
    (loaded : surroundings.store.load desk.files = .ok before)
    (wrote : surroundings.store.save
      { before with rules := before.rules ++ [draft.named desk.names.next.1] } desk.files =
        (.ok (), saved)) :
    Meets (perform surroundings (.add source destination regex kind disabled)) desk
      (fun _ after =>
        after.files = (sync surroundings.store.store surroundings.engine.engine saved).2) bad := by
  rw [perform, meets_bind, meets_ofExcept, valid]
  refine ⟨fun _ same => ?_, fun _ failed => nomatch failed⟩
  obtain rfl := Except.ok.inj same
  rw [meets_bind]
  refine meets_edit (fun error unread => ?_) fun state read => ?_
  · simp [loaded] at unread
  · rw [loaded] at read
    obtain rfl := Except.ok.inj read
    simp only [meets_bind, meets_nextName, meets_pure, Rule.add]
    refine ⟨fun error left unsaved => ?_, fun left output saved_eq => meets_tell fun _ => ?_⟩
    · simp [wrote] at unsaved
    · rw [wrote] at saved_eq
      obtain ⟨-, rfl⟩ := Prod.mk.inj saved_eq
      rfl

theorem does_perform (surroundings : Surroundings) {command : Command} (runs : command ≠ .watch)
    (desk : Desk) :
    Does surroundings command desk.names desk (perform surroundings command) := by
  cases command with
  | list search => exact does_show _
  | add source destination regex kind disabled =>
      rw [Does, perform, meets_bind, meets_ofExcept]
      refine ⟨fun draft _ => ?_, fun _ _ => .refused _ _⟩
      refine (does_edit fun before _ => ?_).tell
      simp only [meets_bind, meets_nextName, meets_pure]
      exact ⟨trivial, edits_add before.rules draft desk.names⟩
  | edit id source destination kind =>
      exact (does_editRules fun _ _ changed => edits_edited changed).tell
  | remove id => exact (does_editRules fun _ _ removed => edits_remove removed).tell
  | clear yes =>
      rw [Does, perform, meets_bind, meets_load]
      refine ⟨fun state loaded => ?_, fun _ _ => .refused _ _⟩
      dsimp only
      split
      · exact meets_tell fun _ => .read loaded
      · split
        · exact meets_tell fun _ => .read loaded
        · refine (does_editRules fun _ _ cleared => ?_).tell
          cases cleared
          exact edits_of_sublist (List.nil_sublist _)
  | toggle id =>
      refine Does.tell (does_edit fun before _ => ?_)
      simp only [meets_bind, meets_ofExcept, meets_pure]
      exact ⟨fun _ toggled => ⟨trivial, edits_toggle toggled⟩, fun _ _ => trivial⟩
  | enable => exact (does_switch true).tell
  | disable => exact (does_switch false).tell
  | importRules file =>
      rw [Does, perform, meets_bind]
      refine meets_readImport (fun _ => .refused _ _) fun text imported left read => ?_
      refine (does_editRules fun before _ appended => ?_).tell
      cases appended
      exact edits_import before read
  | exportRules file =>
      rw [Does, perform, meets_bind, meets_load]
      refine ⟨fun state loaded => ?_, fun _ _ => .refused _ _⟩
      cases file with
      | none => exact (meets_print _).mpr (.read loaded)
      | some path =>
          dsimp only
          rw [meets_bind]
          refine meets_writeExport (fun _ => .refused _ _) fun after wrote => ?_
          exact meets_tell fun _ => .exported loaded rfl wrote
  | compile => exact does_show _
  | sync =>
      rw [Does, perform, meets_bind, meets_onFiles]
      split
      · next failure failed => exact (meets_throw _).mpr (.unsynced (Prod.ext failed rfl))
      · next outcome succeeded =>
          split
          · rw [meets_print]
            exact .synced (Prod.ext succeeded rfl)
          · rw [meets_pure]
            exact .synced (Prod.ext succeeded rfl)
  | check => exact does_show _
  | preview url maxHops => exact does_show _
  | watch => exact absurd rfl runs

end Work

namespace Invocation

variable {invocation : Invocation} {desk : Desk} {config : RunConfig}

/-- What the command of a configuration is told. -/
def surroundings (invocation : Invocation) (config : RunConfig) : Surroundings where
  store := ⟨config.store⟩
  engine := ⟨config.engine, invocation.clock⟩
  palette := invocation.palette
  maxHops := config.maxHops
  quiet := config.quiet

theorem runConfigured_eq (invocation : Invocation) (config : RunConfig) (desk : Desk) :
    invocation.runConfigured config desk =
      match (Work.perform (invocation.surroundings config) config.command).run.run desk with
      | (.ok _, after) => (.ok (), after)
      | (.error failure, after) => (.error failure, { after with names := desk.names }) := by
  rw [surroundings, runConfigured]
  split
  next result after performed =>
    rw [performed]
    cases result <;> rfl

/-- A run does what its command can do; where it fails, no names are used up. -/
inductive Ran (invocation : Invocation) (desk : Desk) : RunResult × Desk → Prop
  /-- The words or the configuration cannot be used. -/
  | unconfigured {result : RunResult} (failed : result ≠ .done) : Ran invocation desk (result, desk)
  | done {config : RunConfig} {after : Desk}
      (configured : invocation.configure desk.files = .ok (.ok config))
      (effect : Effect (invocation.surroundings config) config.command desk.files desk.names
        (.ok ()) after.files after.names) :
      Ran invocation desk (.done, after)
  | failed {config : RunConfig} {failure : Failure} {after : Desk} {left : NameSupply}
      (configured : invocation.configure desk.files = .ok (.ok config))
      (effect : Effect (invocation.surroundings config) config.command desk.files desk.names
        (.error failure) after.files left)
      (kept : after.names = desk.names) :
      Ran invocation desk (.failed failure, after)

theorem ran_run (runs : ∀ config, invocation.configure desk.files = .ok (.ok config) →
      config.command ≠ .watch) : Ran invocation desk (invocation.run desk) := by
  rw [run]
  split
  · exact .unconfigured nofun
  · exact .unconfigured nofun
  · next config configured =>
      have does := Work.does_perform (invocation.surroundings config) (runs config configured) desk
      rw [Work.Does, Work.meets_iff] at does
      rw [runConfigured_eq]
      split at does
      · next value after performed =>
          rw [performed]
          exact .done configured does
      · next failure after performed =>
          rw [performed]
          exact .failed configured does rfl

/-- A run whose command does not fail leaves what the command leaves. -/
theorem files_run_of_meets {config : RunConfig} {expected : Files}
    (configured : invocation.configure desk.files = .ok (.ok config))
    (meets : Work.Meets (Work.perform (invocation.surroundings config) config.command) desk
      (fun _ after => after.files = expected) fun _ _ => False) :
    (invocation.run desk).2.files = expected := by
  rw [run, configured]
  dsimp only
  rw [runConfigured_eq]
  rw [Work.meets_iff] at meets
  split at meets
  · next performed =>
      rw [performed]
      exact meets
  · exact meets.elim

section Configuration

variable {files : Files} {store engine : String} {command : Command}

/-- What matters of the configuration that was read. -/
theorem eq_of_configuration
    (configuration : ((invocation.configure files).toOption.bind Except.toOption).map
      (fun config => (config.store, config.engine, config.command)) = some (store, engine, command))
    (configured : invocation.configure files = .ok (.ok config)) :
    config.store = store ∧ config.engine = engine ∧ config.command = command := by
  rw [configured] at configuration
  simpa [Except.toOption] using configuration

theorem exists_configuration
    (configuration : ((invocation.configure files).toOption.bind Except.toOption).map
      (fun config => (config.store, config.engine, config.command)) =
        some (store, engine, command)) :
    ∃ config, invocation.configure files = .ok (.ok config) := by
  cases configured : invocation.configure files with
  | error fault => simp [configured, Except.toOption] at configuration
  | ok result =>
      cases result with
      | error error => simp [configured, Except.toOption] at configuration
      | ok config => exact ⟨config, rfl⟩

end Configuration

end Invocation

end Redirects
