import Redirects.Proofs.Compilation.Numbering
import Redirects.Proofs.Engine.Update
import Redirects.Session

/-!
# What a synchronisation installs

Undisturbed, a synchronisation replaces whatever was active by what the stored state compiles to.
Its update takes out every number that it read, and compiled numbers are distinct, so the update is
never turned down; doing the same again changes nothing.
-/

namespace Redirects

/-- The outcome of a synchronisation that found some rules active. -/
def StoredState.outcome (state : StoredState) (active : List DeclarativeRule) : SyncOutcome :=
  if state.enabled then
    .installed (compile state.rules true).length active.length
      (Cycle.excluded (Cycle.detect state.rules)).length
      (compileWithReport state.rules true).disabled
  else .cleared active.length

/-- The number of rules that a synchronisation tells it took out. -/
def SyncOutcome.removed? : SyncOutcome → Option Nat
  | .installed _ removed _ _ => some removed
  | .cleared removed => some removed
  | .failed => none

theorem StoredState.outcome_removed? (state : StoredState) (active : List DeclarativeRule) :
    (state.outcome active).removed? = some active.length := by
  rw [outcome]
  split <;> rfl

/-- What a synchronisation fails to do when its update is turned down. -/
def StoredState.task (state : StoredState) : String :=
  if state.enabled then "Failed to install compiled rules" else "Failed to clear active rules"

/-- The update that brings the rules of a state in the place of the active ones. -/
def StoredState.update (state : StoredState) (active : List DeclarativeRule) : Update :=
  .replaceAll active (compile state.rules state.enabled)

/-- The last step updates the engine, unless nothing is active and nothing is wanted. -/
theorem SyncStage.advance_compared {World : Type} (store : Store World) (engine : Engine World)
    (state : StoredState) (active : List DeclarativeRule) (world : World) :
    (SyncStage.compared state active).advance store engine world =
      if state.enabled = false ∧ active = [] then (.done (.ok (state.outcome active)), world)
      else
        (SyncStage.finish state.task (state.outcome active)
            (engine.replace (state.update active) world).1,
          (engine.replace (state.update active) world).2) := by
  obtain ⟨rules, enabled⟩ := state
  cases enabled with
  | true => rfl
  | false =>
      cases active with
      | nil => rfl
      | cons first rest => rfl

namespace Session

/-! ## Updates of the engine -/

variable {session : Session} {update : Update}

theorem replace_of_refusing (refusing : session.engine.refusing = true) :
    session.replace update =
      (.error (.engine .refused),
        { session with engine := { session.engine with calls := session.engine.calls + 1 } }) := by
  simp [replace, MemoryEngine.replace, refusing]

theorem replace_of_apply_ok {rules : List DeclarativeRule}
    (willing : session.engine.refusing = false)
    (applied : update.apply session.engine.rules = .ok rules) :
    session.replace update =
      (.ok (),
        { session with
          engine := { session.engine with rules, calls := session.engine.calls + 1 } }) := by
  simp [replace, MemoryEngine.replace, willing, applied]

theorem replace_of_apply_error {error : Error}
    (willing : session.engine.refusing = false)
    (turned_down : update.apply session.engine.rules = .error error) :
    session.replace update =
      (.error error,
        { session with engine := { session.engine with calls := session.engine.calls + 1 } }) := by
  simp [replace, MemoryEngine.replace, willing, turned_down]

/-! ## The last step -/

variable {state : StoredState} {active : List DeclarativeRule}

theorem advance_compared (state : StoredState) (active : List DeclarativeRule)
    (session : Session) :
    (SyncStage.compared state active).advance memoryStore memoryEngine session =
      if state.enabled = false ∧ active = [] then (.done (.ok (state.outcome active)), session)
      else
        (SyncStage.finish state.task (state.outcome active)
            (session.replace (state.update active)).1,
          (session.replace (state.update active)).2) :=
  SyncStage.advance_compared memoryStore memoryEngine state active session

/-- With nothing active and nothing wanted, the update left out would change nothing. -/
theorem apply_update_of_idle (idle : state.enabled = false ∧ active = [])
    (rules : List DeclarativeRule) : (state.update active).apply rules = .ok rules := by
  obtain ⟨disabled, rfl⟩ := idle
  simp [StoredState.update, disabled, Update.replaceAll, Update.apply, Update.addAll]

theorem advance_of_apply_ok {rules : List DeclarativeRule}
    (willing : session.engine.refusing = false)
    (applied : (state.update active).apply session.engine.rules = .ok rules) :
    ∃ calls,
      (SyncStage.compared state active).advance memoryStore memoryEngine session =
        (.done (.ok (state.outcome active)),
          { session with engine := { session.engine with rules, calls } }) := by
  rw [advance_compared]
  split
  · rename_i idle
    rw [apply_update_of_idle idle, Except.ok.injEq] at applied
    exact ⟨session.engine.calls, by rw [← applied]⟩
  · rw [replace_of_apply_ok willing applied]
    exact ⟨session.engine.calls + 1, rfl⟩

theorem advance_of_apply_error {error : Error} (willing : session.engine.refusing = false)
    (turned_down : (state.update active).apply session.engine.rules = .error error) :
    ∃ calls,
      (SyncStage.compared state active).advance memoryStore memoryEngine session =
        (.done (.error (.during state.task error)),
          { session with engine := { session.engine with calls } }) := by
  rw [advance_compared]
  split
  · rename_i idle
    simp [apply_update_of_idle idle] at turned_down
  · rw [replace_of_apply_error willing turned_down]
    exact ⟨session.engine.calls + 1, rfl⟩

/-! ## A whole synchronisation -/

theorem trySync_of_stored (stored : session.store = some state) :
    trySync memoryStore memoryEngine session =
      (((SyncStage.compared state session.engine.rules).advance memoryStore memoryEngine
          session).1.result?.getD (.ok .failed),
        ((SyncStage.compared state session.engine.rules).advance memoryStore memoryEngine
          session).2) := by
  simp [trySync, SyncStage.advance, memoryStore, memoryEngine, load, stored]

/-- Unless updates are refused, a synchronisation succeeds. -/
theorem trySync_of_willing (stored : session.store = some state)
    (willing : session.engine.refusing = false) :
    ∃ calls,
      trySync memoryStore memoryEngine session =
        (.ok (state.outcome session.engine.rules),
          { session with
            engine :=
              { session.engine with rules := compile state.rules state.enabled, calls } }) := by
  have applied : (state.update session.engine.rules).apply session.engine.rules =
      .ok (compile state.rules state.enabled) :=
    Update.apply_replaceAll_self (compile_ids_nodup _ _)
  obtain ⟨calls, advanced⟩ := advance_of_apply_ok willing applied
  exact ⟨calls, by rw [trySync_of_stored stored, advanced]; rfl⟩

/-- Where updates are refused, only a synchronisation with nothing to do succeeds. -/
theorem trySync_of_refusing (stored : session.store = some state)
    (refusing : session.engine.refusing = true) {outcome : SyncOutcome} {after : Session}
    (ran : trySync memoryStore memoryEngine session = (.ok outcome, after)) :
    (state.enabled = false ∧ session.engine.rules = []) ∧ after = session ∧
      outcome = state.outcome session.engine.rules := by
  rw [trySync_of_stored stored, advance_compared] at ran
  split at ran
  · rename_i idle
    obtain ⟨outcome_eq, rfl⟩ := Prod.mk.inj ran
    exact ⟨idle, rfl, (Except.ok.inj outcome_eq).symm⟩
  · rw [replace_of_refusing refusing] at ran
    simp [SyncStage.finish, SyncStage.result?] at ran

theorem trySync_of_unreadable (unreadable : session.store = none) {outcome : SyncOutcome}
    {after : Session} : trySync memoryStore memoryEngine session ≠ (.ok outcome, after) := by
  simp [trySync, SyncStage.advance, memoryStore, load, unreadable, SyncStage.result?]

/-- What every successful synchronisation leaves behind. -/
theorem of_trySync_ok {outcome : SyncOutcome} {after : Session}
    (ran : trySync memoryStore memoryEngine session = (.ok outcome, after)) :
    ∃ state, session.store = some state ∧ after.store = some state ∧
      outcome = state.outcome session.engine.rules ∧
        after.engine.rules = compile state.rules state.enabled ∧
          (after.engine.refusing = false ∨ after = session) := by
  cases stored : session.store with
  | none => exact absurd ran (trySync_of_unreadable stored)
  | some state =>
      refine ⟨state, rfl, ?_⟩
      cases refusing : session.engine.refusing with
      | true =>
          obtain ⟨⟨disabled, inactive⟩, rfl, rfl⟩ := trySync_of_refusing stored refusing ran
          exact ⟨stored, rfl, by rw [inactive, disabled, compile_false], Or.inr rfl⟩
      | false =>
          obtain ⟨calls, ran_eq⟩ := trySync_of_willing stored refusing
          rw [ran_eq] at ran
          obtain ⟨outcome_eq, rfl⟩ := Prod.mk.inj ran
          exact ⟨stored, (Except.ok.inj outcome_eq).symm, rfl, Or.inl refusing⟩

/-- A synchronisation that succeeded succeeds again, and nothing changes. -/
theorem trySync_again {outcome : SyncOutcome} {after : Session}
    (ran : trySync memoryStore memoryEngine session = (.ok outcome, after)) :
    ∃ again later, trySync memoryStore memoryEngine after = (.ok again, later) ∧
      later.engine.rules = after.engine.rules := by
  obtain ⟨state, _, stored, _, installed, willing | rfl⟩ := of_trySync_ok ran
  · obtain ⟨calls, again⟩ := trySync_of_willing stored willing
    exact ⟨_, _, again, installed.symm⟩
  · exact ⟨outcome, after, ran, rfl⟩

/-- While names are distinct and numbers last, the outcome counts every rule once. -/
theorem outcome_counts {state : StoredState} (enabled : state.enabled = true)
    (distinct : (state.rules.map (·.id)).Nodup) (numbered : state.rules.length < UInt32.size)
    (active : List DeclarativeRule) :
    ∃ installed removed cycled disabled,
      state.outcome active = .installed installed removed cycled disabled ∧
        installed + cycled + disabled = state.rules.length := by
  refine ⟨_, _, _, _, by rw [StoredState.outcome, if_pos enabled], ?_⟩
  exact length_partition distinct numbered

/-- A successful synchronisation leaves exactly the compiled rules active, in their order, tells how
many rules were active before, and succeeds again without changing them.  Unless the store cannot be
read or updates are refused, it does succeed.  Its outcome counts every rule of the state once. -/
theorem trySync_installs (session : Session) :
    (∀ outcome after, trySync memoryStore memoryEngine session = (.ok outcome, after) →
        ∃ state, session.store = some state ∧ after.store = some state ∧
          after.engine.rules = compile state.rules state.enabled ∧
          outcome.removed? = some session.engine.rules.length ∧
          (∃ again later, trySync memoryStore memoryEngine after = (.ok again, later) ∧
            later.engine.rules = after.engine.rules) ∧
          (state.enabled = true → (state.rules.map (·.id)).Nodup →
            state.rules.length < UInt32.size →
              ∃ installed removed cycled disabled,
                outcome = .installed installed removed cycled disabled ∧
                  installed + cycled + disabled = state.rules.length)) ∧
      (session.store.isSome = true → session.engine.refusing = false →
        ∃ outcome after, trySync memoryStore memoryEngine session = (.ok outcome, after)) := by
  constructor
  · intro outcome after ran
    obtain ⟨state, stored, kept, rfl, installed, _⟩ := of_trySync_ok ran
    refine ⟨state, stored, kept, installed, state.outcome_removed? _, trySync_again ran, ?_⟩
    intro enabled distinct numbered
    exact outcome_counts enabled distinct numbered session.engine.rules
  · intro readable willing
    obtain ⟨state, stored⟩ := Option.isSome_iff_exists.mp readable
    obtain ⟨calls, ran⟩ := trySync_of_willing stored willing
    exact ⟨_, _, ran⟩

/-- A state with a cycle of two and a rule that is switched off, over two active rules of one
number. -/
theorem trySync_installs_over_duplicates :
    let rules : List Rule :=
      [{ source := "X", destination := "Y", id := "a" },
        { source := "Y", destination := "X", id := "b" },
        { source := "http://c/", destination := "http://cc/", id := "c" },
        { source := "http://d/", destination := "http://dd/", enabled := false, id := "d" }]
    let stale : DeclarativeRule :=
      (Synthesis.mk (.substring "http://old/") (.url "http://new/")).emit 3
    let session : Session := ⟨some ⟨rules, true⟩, ⟨[stale, stale], 0, false⟩⟩
    ∃ outcome after, trySync memoryStore memoryEngine session = (.ok outcome, after) ∧
      after.engine.rules = compile rules true ∧ outcome.removed? = some 2 ∧
        ∃ installed removed cycled disabled,
          outcome = .installed installed removed cycled disabled ∧
            installed + cycled + disabled = 4 := by
  intro rules stale session
  obtain ⟨installs, succeeds⟩ := trySync_installs session
  obtain ⟨outcome, after, ran⟩ := succeeds rfl rfl
  obtain ⟨state, stored, _, installed, removed, _, counts⟩ := installs outcome after ran
  obtain rfl : state = ⟨rules, true⟩ := (Option.some.inj stored).symm
  exact ⟨outcome, after, ran, installed, removed, counts rfl (by decide) (by decide)⟩

end Session

end Redirects
