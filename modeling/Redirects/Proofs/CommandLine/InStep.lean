import Redirects.Proofs.CommandLine.Reached
import Redirects.Proofs.Compilation.Places

/-!
# Runs keep the engine in step with the store

After every run the active rules are what the stored state compiles to, whatever the commands were
and whether they failed.

The engine writes its draft beside its file.  A store kept at the place of that draft is lost with
the first synchronisation.
-/

namespace Redirects

/-- What every run keeps: the state that is stored, with names from the supply, and what it compiles
to among the active rules. -/
structure Tracks (current : Place) (storePath enginePath : String) (state : StoredState)
    (files : Files) (names : NameSupply) : Prop where
  sound : files.Sound
  current : files.current = current
  stores : (FileStore.mk storePath).Stores files state
  named : WellNamed state.rules names
  installs : ∀ clock,
    (FileEngine.mk enginePath clock).Installs files (compile state.rules state.enabled)

section Runs

variable {current : Place} {storePath enginePath : String} {state : StoredState}
  {files after : Files} {names left : NameSupply}

theorem tracks_start (current : Place) (storePath enginePath : String) (names : NameSupply) :
    Tracks current storePath enginePath {} (Files.empty current) names where
  sound := Files.sound_empty current
  current := rfl
  stores := .inr ⟨Files.holds_empty current storePath, rfl⟩
  named := ⟨List.nodup_nil, nofun⟩
  installs _ := .inr ⟨Files.holds_empty current enginePath, rfl⟩

namespace Tracks

theorem inStep (tracks : Tracks current storePath enginePath state files names)
    (served : Served storePath enginePath files) : InStep storePath enginePath files :=
  ⟨state, FileStore.load_of_stores served.store tracks.stores, tracks.named.distinct,
    fun clock => FileEngine.active_of_installs served.engine (tracks.installs clock)⟩

/-- A synchronisation brings the engine in step, whatever was active. -/
theorem sync {clock : String} {rules : List DeclarativeRule}
    (apart : Apart current storePath enginePath)
    (timed : Timestamp.isValid clock = true) (served : Served storePath enginePath files)
    (sound : files.Sound) (same_current : files.current = current)
    (stores : (FileStore.mk storePath).Stores files state) (named : WellNamed state.rules names)
    (installs : (FileEngine.mk enginePath clock).Installs files rules) :
    ∃ outcome synced,
      trySync (FileStore.mk storePath).store (FileEngine.mk enginePath clock).engine files =
          (.ok outcome, synced) ∧
        Tracks current storePath enginePath state synced names := by
  obtain ⟨apart, draft_apart⟩ := apart
  rw [← same_current] at apart draft_apart
  rw [← Files.draftPlace] at draft_apart
  obtain ⟨outcome, synced, ran, synced_sound, synced_current, synced_stores, installed⟩ :=
    trySync_of_serves ⟨storePath⟩ ⟨enginePath, clock⟩ sound timed served.store served.engine apart
      draft_apart stores installs
  exact ⟨outcome, synced, ran, synced_sound, synced_current.trans same_current, synced_stores,
    named, fun _ => installed⟩

theorem exported {path text : String}
    (tracks : Tracks current storePath enginePath state files names)
    (wrote : files.write path (.text text) = .ok after)
    (store_apart : Path.placeFrom files.current path ≠ Path.placeFrom files.current storePath)
    (engine_apart : Path.placeFrom files.current path ≠ Path.placeFrom files.current enginePath) :
    Tracks current storePath enginePath state after names where
  sound := Files.sound_write tracks.sound wrote
  current := (Files.current_write wrote).trans tracks.current
  stores := by
    rcases tracks.stores with holds | ⟨missing, first⟩
    · exact .inl (holds.written wrote store_apart.symm)
    · exact .inr ⟨missing.written wrote store_apart.symm, first⟩
  named := tracks.named
  installs clock := by
    rcases tracks.installs clock with ⟨time, timed, holds⟩ | ⟨missing, inactive⟩
    · exact .inl ⟨time, timed, holds.written wrote engine_apart.symm⟩
    · exact .inr ⟨missing.written wrote engine_apart.symm, inactive⟩

/-- Replacing the file of the store leaves that of the engine as it is, or takes it away for its
draft. -/
theorem installs_saved {clock text : String} {rules : List DeclarativeRule}
    (apart : Path.placeFrom files.current storePath ≠ Path.placeFrom files.current enginePath)
    (replaced : files.Replaced storePath text after)
    (installs : (FileEngine.mk enginePath clock).Installs files rules) :
    ∃ rules, (FileEngine.mk enginePath clock).Installs after rules := by
  by_cases draft : Path.placeFrom files.current enginePath = files.draftPlace storePath
  · exact ⟨[], .inr ⟨replaced.holds_draft apart.symm draft, rfl⟩⟩
  · refine ⟨rules, ?_⟩
    rcases installs with ⟨time, timed, holds⟩ | ⟨missing, inactive⟩
    · exact .inl ⟨time, timed, holds.replaced replaced apart.symm draft⟩
    · exact .inr ⟨missing.replaced replaced apart.symm draft, inactive⟩

/-- What a command that succeeds does keeps the engine in step. -/
theorem of_effect {surroundings : Surroundings} {command : Command} {clock : String}
    (apart : Apart current storePath enginePath)
    (store_eq : surroundings.store = ⟨storePath⟩)
    (engine_eq : surroundings.engine = ⟨enginePath, clock⟩)
    (timed : Timestamp.isValid clock = true)
    (exports : ∀ path, command = .exportRules (some path) →
      Path.placeFrom files.current path ≠ Path.placeFrom files.current storePath ∧
        Path.placeFrom files.current path ≠ Path.placeFrom files.current enginePath)
    (untroubled : Untroubled storePath enginePath files)
    (tracks : Tracks current storePath enginePath state files names)
    (effect : Effect surroundings command files names (.ok ()) after left) :
    ∃ state, Tracks current storePath enginePath state after left := by
  cases effect with
  | read => exact ⟨state, tracks⟩
  | exported _ asked wrote =>
      obtain ⟨store_apart, engine_apart⟩ := exports _ asked
      exact ⟨state, tracks.exported wrote store_apart engine_apart⟩
  | synced succeeded =>
      obtain ⟨outcome, synced, ran, kept⟩ := sync apart timed untroubled.now
        tracks.sound tracks.current tracks.stores tracks.named (tracks.installs clock)
      rw [store_eq, engine_eq, ran] at succeeded
      obtain ⟨-, rfl⟩ := Prod.mk.inj succeeded
      exact ⟨state, kept⟩
  | @edited before edited saved _ loaded edits wrote =>
      rw [store_eq, FileStore.load_of_stores untroubled.now.store tracks.stores] at loaded
      obtain rfl := Except.ok.inj loaded
      rw [store_eq] at wrote
      have replaced := FileStore.replaced_of_save tracks.sound wrote
      have served := untroubled.saved edited
      rw [wrote] at served
      obtain ⟨rules, installs⟩ := installs_saved (tracks.current ▸ apart.file) replaced
        (tracks.installs clock)
      obtain ⟨outcome, synced, ran, kept⟩ := sync apart timed served replaced.sound
        (replaced.current.trans tracks.current) (.inl replaced.holds) (tracks.named.edits edits)
        installs
      rw [store_eq, engine_eq, Redirects.sync, ran]
      exact ⟨edited, kept⟩

/-- Where the system serves both files, a command that fails did nothing to the files. -/
theorem eq_of_effect_error {surroundings : Surroundings} {command : Command} {clock : String}
    {failure : Failure}
    (apart : Apart current storePath enginePath)
    (store_eq : surroundings.store = ⟨storePath⟩)
    (engine_eq : surroundings.engine = ⟨enginePath, clock⟩)
    (timed : Timestamp.isValid clock = true) (untroubled : Untroubled storePath enginePath files)
    (tracks : Tracks current storePath enginePath state files names)
    (effect : Effect surroundings command files names (.error failure) after left) :
    after = files := by
  cases effect with
  | refused => rfl
  | @unsaved written _ _ _ _ failed =>
      obtain ⟨_, saved, -⟩ := FileStore.save_of_serves tracks.sound untroubled.now.store written
      rw [store_eq, saved] at failed
      simp at failed
  | unsynced failed =>
      obtain ⟨_, _, ran, -⟩ := sync apart timed untroubled.now tracks.sound
        tracks.current tracks.stores tracks.named (tracks.installs clock)
      rw [store_eq, engine_eq, ran] at failed
      simp at failed

theorem run {invocation : Invocation} {desk : Desk}
    (apart : Apart current storePath enginePath)
    (admitted : Admitted storePath enginePath invocation desk.files)
    (untroubled : Untroubled storePath enginePath desk.files)
    (tracks : Tracks current storePath enginePath state desk.files desk.names) :
    ∃ state, Tracks current storePath enginePath state (invocation.run desk).2.files
      (invocation.run desk).2.names := by
  have ran := Invocation.ran_run admitted.runs
  generalize invocation.run desk = outcome at ran ⊢
  cases ran with
  | unconfigured => exact ⟨state, tracks⟩
  | @done config after configured effect =>
      exact tracks.of_effect apart (admitted.surroundings_store configured)
        (admitted.surroundings_engine configured) admitted.timed
        (fun path => admitted.exports config path configured) untroubled effect
  | @failed config failure after left configured effect kept =>
      have same := tracks.eq_of_effect_error apart (admitted.surroundings_store configured)
        (admitted.surroundings_engine configured) admitted.timed untroubled effect
      refine ⟨state, ?_⟩
      rw [same, kept]
      exact tracks

end Tracks

end Runs

/-- Wherever runs lead, the stored state is tracked among the active rules. -/
theorem Reached.tracks {current : Place} {storePath enginePath : String} {desk : Desk}
    (apart : Apart current storePath enginePath)
    (reached : Reached current storePath enginePath desk) :
    ∃ state, Tracks current storePath enginePath state desk.files desk.names := by
  induction reached with
  | start names => exact ⟨{}, tracks_start current storePath enginePath names⟩
  | run invocation before admitted _ ih =>
      obtain ⟨state, tracks⟩ := ih
      exact tracks.run apart admitted before.untroubled

/-- Wherever runs lead, the engine is in step with the store, if the store is not kept in the file
of the engine or at the place of its draft. -/
theorem runs_keep_in_step {current : Place} {storePath enginePath : String} {desk : Desk}
    (apart : Apart current storePath enginePath)
    (reached : Reached current storePath enginePath desk) :
    InStep storePath enginePath desk.files := by
  obtain ⟨state, tracks⟩ := reached.tracks apart
  exact tracks.inStep reached.untroubled.now

/-- A rule is added in an empty directory. -/
theorem runs_keep_in_step_added :
    Apart ["home"] "rules.json" "active-rules.json" ∧
      Reached ["home"] "rules.json" "active-rules.json" (added "rules.json" "active-rules.json") ∧
        InStep "rules.json" "active-rules.json" (added "rules.json" "active-rules.json").files := by
  have apart : Apart ["home"] "rules.json" "active-rules.json" := ⟨by decide, by decide⟩
  have reached : Reached ["home"] "rules.json" "active-rules.json" _ :=
    reached_added (.of_empty _ (by decide) (by decide)) (.of_empty _ (by decide) (by decide))
      (by decide +kernel)
  exact ⟨apart, reached, runs_keep_in_step apart reached⟩

/-! ## A store at the place of the engine's draft -/

/-- A synchronisation that writes the file of the engine takes a store at the place of its draft
away. -/
theorem sync_loses_store {storePath enginePath clock : String} {files : Files}
    {state : StoredState} {rules : List DeclarativeRule}
    (apart : Path.placeFrom files.current storePath ≠ Path.placeFrom files.current enginePath)
    (draft : Path.placeFrom files.current storePath = files.draftPlace enginePath)
    (timed : Timestamp.isValid clock = true) (served : Served storePath enginePath files)
    (sound : files.Sound) (stores : (FileStore.mk storePath).Stores files state)
    (installs : (FileEngine.mk enginePath clock).Installs files rules)
    (enabled : state.enabled = true) :
    ∃ outcome synced,
      trySync (FileStore.mk storePath).store (FileEngine.mk enginePath clock).engine files =
          (.ok outcome, synced) ∧
        (FileStore.mk storePath).Stores synced {} ∧
          (FileEngine.mk enginePath clock).Installs synced (compile state.rules true) := by
  have loaded := FileStore.load_of_stores served.store stores
  have active_eq := FileEngine.active_of_installs served.engine installs
  obtain ⟨written, wrote, replaced⟩ :=
    FileEngine.write_of_serves ⟨enginePath, clock⟩ sound served.engine
      (compile state.rules state.enabled)
  rw [trySync_of_read loaded active_eq, if_neg (by simp [enabled]), wrote]
  rw [enabled] at replaced
  exact ⟨_, written, rfl, .inr ⟨replaced.holds_draft apart draft, rfl⟩,
    .inl ⟨clock, timed, replaced.holds⟩⟩

/-- So an edit that enables rules activates them and loses them. -/
theorem edit_loses_store {storePath enginePath clock : String} {files saved : Files}
    {state : StoredState} {rules : List DeclarativeRule}
    (apart : Path.placeFrom files.current storePath ≠ Path.placeFrom files.current enginePath)
    (draft : Path.placeFrom files.current storePath = files.draftPlace enginePath)
    (timed : Timestamp.isValid clock = true) (untroubled : Untroubled storePath enginePath files)
    (sound : files.Sound) (installs : (FileEngine.mk enginePath clock).Installs files rules)
    (wrote : (FileStore.mk storePath).save state files = (.ok (), saved))
    (enabled : state.enabled = true) :
    let synced := (sync (FileStore.mk storePath).store (FileEngine.mk enginePath clock).engine
      saved).2
    (FileStore.mk storePath).Stores synced {} ∧
      (FileEngine.mk enginePath clock).Installs synced (compile state.rules true) := by
  have served := untroubled.saved state
  rw [wrote] at served
  have replaced := FileStore.replaced_of_save sound wrote
  obtain ⟨rules, installs⟩ := Tracks.installs_saved apart replaced installs
  rw [Files.draftPlace, ← replaced.current] at draft
  rw [← replaced.current] at apart
  obtain ⟨outcome, synced, ran, lost, active⟩ := sync_loses_store apart draft timed served
    replaced.sound (.inl replaced.holds) installs enabled
  rw [Redirects.sync, ran]
  exact ⟨lost, active⟩

/-- The engine is not in step with a store that was lost while rules are active. -/
theorem not_inStep_of_lost {storePath enginePath clock : String} {files : Files}
    {rules : List DeclarativeRule} (served : Served storePath enginePath files)
    (lost : (FileStore.mk storePath).Stores files {})
    (installs : (FileEngine.mk enginePath clock).Installs files rules) (active : rules ≠ []) :
    ¬InStep storePath enginePath files := by
  rintro ⟨state, loaded, -, in_step⟩
  rw [FileStore.load_of_stores served.store lost] at loaded
  obtain rfl := Except.ok.inj loaded
  have emitted := in_step clock
  rw [FileEngine.active_of_installs served.engine installs] at emitted
  exact active (Except.ok.inj emitted)

/-- Where the store is at the place of the engine's draft, a rule that is added is lost, and active
if it is emitted. -/
theorem not_inStep_of_add {current : Place} {storePath enginePath : String}
    {invocation : Invocation} (desk : Desk) {config : RunConfig} {state : StoredState}
    {source destination : String} {regex disabled : Bool} {kind : Option MatchKind} (draft : Draft)
    (apart : Path.placeFrom current storePath ≠ Path.placeFrom current enginePath)
    (draft_place : Path.placeFrom current storePath =
      Path.placeFrom current (Files.draftPath enginePath))
    (admitted : Admitted storePath enginePath invocation desk.files)
    (store : desk.files.Unobstructed storePath) (engine : desk.files.Unobstructed enginePath)
    (tracks : Tracks current storePath enginePath state desk.files desk.names)
    (configured : invocation.configure desk.files = .ok (.ok config))
    (asked : config.command = .add source destination regex kind disabled)
    (valid : Draft.validate
      { source, destination, kind := kind.getD (if regex then .regex else .contains),
        enabled := !disabled } = .ok draft)
    (enabled : state.enabled = true)
    (emitted : compile (state.rules ++ [draft.named desk.names.next.1]) true ≠ []) :
    ¬InStep storePath enginePath (invocation.run desk).2.files := by
  obtain rfl := tracks.current
  have untroubled := untroubled_of_unobstructed store engine
  have served : Served storePath enginePath (invocation.run desk).2.files :=
    ⟨(admitted.unobstructed store engine store).serves,
      (admitted.unobstructed store engine engine).serves⟩
  have store_eq := admitted.surroundings_store configured
  have engine_eq := admitted.surroundings_engine configured
  have loaded := FileStore.load_of_stores untroubled.now.store tracks.stores
  let rules := state.rules ++ [draft.named desk.names.next.1]
  obtain ⟨saved, wrote, -⟩ :=
    FileStore.save_of_serves tracks.sound untroubled.now.store { state with rules }
  have adds : Work.Meets (Work.perform (invocation.surroundings config) config.command) desk
      (fun _ after => after.files = (sync (invocation.surroundings config).store.store
        (invocation.surroundings config).engine.engine saved).2) fun _ _ => False := by
    rw [asked]
    rw [← store_eq] at loaded wrote
    exact Work.meets_add valid loaded wrote
  have files_eq := Invocation.files_run_of_meets configured adds
  rw [store_eq, engine_eq] at files_eq
  obtain ⟨lost, installs⟩ := edit_loses_store apart draft_place admitted.timed untroubled
    tracks.sound (tracks.installs invocation.clock) wrote enabled
  rw [← files_eq] at lost installs
  exact not_inStep_of_lost served lost installs emitted

/-- A rule is added in an empty directory, to a store at the place of the engine's draft. -/
theorem added_out_of_step :
    Path.placeFrom ["home"] "active-rules.json.tmp" ≠ Path.placeFrom ["home"] "active-rules.json" ∧
      Reached ["home"] "active-rules.json.tmp" "active-rules.json"
        (added "active-rules.json.tmp" "active-rules.json") ∧
          ¬InStep "active-rules.json.tmp" "active-rules.json"
            (added "active-rules.json.tmp" "active-rules.json").files := by
  have store : (Files.empty ["home"]).Unobstructed "active-rules.json.tmp" :=
    .of_empty _ (by decide) (by decide)
  have engine : (Files.empty ["home"]).Unobstructed "active-rules.json" :=
    .of_empty _ (by decide) (by decide)
  have reads : ReadsAddition "active-rules.json.tmp" "active-rules.json" := by decide +kernel
  refine ⟨by decide, reached_added store engine reads, ?_⟩
  obtain ⟨config, configured⟩ := Invocation.exists_configuration reads
  obtain ⟨-, -, asked⟩ := Invocation.eq_of_configuration reads configured
  have valid : Draft.validate ⟨"http://a/", "http://b/", .contains, true⟩ =
      .ok ⟨"http://a/", "http://b/", .contains, true⟩ := by
    decide +kernel
  have emitted : ∀ rule : Rule, rule.enabled = true → rule.source ≠ rule.destination →
      compile [rule] true ≠ [] := by
    intro rule enabled differ
    rw [compile_singleton enabled differ]
    exact List.cons_ne_nil _ _
  have tracks := tracks_start ["home"] "active-rules.json.tmp" "active-rules.json" {}
  rw [added]
  exact not_inStep_of_add { files := Files.empty ["home"] } _ (by decide) (by decide)
    reads.admitted store engine tracks configured asked valid rfl (emitted _ rfl (by decide))

end Redirects
