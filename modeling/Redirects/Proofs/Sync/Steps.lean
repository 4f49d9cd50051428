import Redirects.Proofs.Sync.Installation

/-!
# The steps of a session

In a session synchronisations, updates and saves come in any order, the store may be swapped for
another, and updates may be refused for a while.  Whatever came before, a step that fails keeps the
active rules and the store: an update is accepted as a whole or not at all, and a synchronisation
fails before its update or with it.
-/

namespace Redirects.Session

/-- What can be done in a session. -/
inductive Action where
  | sync
  | trySync
  | save (state : StoredState)
  | load
  /-- Another store takes the place of the store; without a state it cannot be read. -/
  | swapStore (store : Option StoredState)
  /-- From now on updates are refused, or they no longer are. -/
  | setRefusing (refusing : Bool)
  | replace (update : Update)
deriving DecidableEq, Repr

/-- The active rules may be changed. -/
def Action.updates : Action → Bool
  | .sync | .trySync | .replace _ => true
  | _ => false

/-- The store may be changed. -/
def Action.stores : Action → Bool
  | .save _ | .swapStore _ => true
  | _ => false

/-- What is said when an action is over. -/
inductive Reply where
  | synced (outcome : SyncOutcome)
  | tried (result : Except Failure SyncOutcome)
  | loaded (result : Except Error StoredState)
  | wrote (result : Except Error Unit)
  | done

/-- An error, or the outcome that tells of one. -/
def Reply.failed : Reply → Bool
  | .synced .failed => true
  | .tried (.ok .failed) | .tried (.error _) => true
  | .loaded (.error _) => true
  | .wrote (.error _) => true
  | _ => false

namespace Reply

theorem failed_synced {outcome : SyncOutcome} :
    (Reply.synced outcome).failed = true ↔ outcome = .failed := by
  cases outcome <;> simp [failed]

theorem failed_tried {result : Except Failure SyncOutcome} :
    (Reply.tried result).failed = true ↔ ∀ outcome, result = .ok outcome → outcome = .failed := by
  cases result with
  | error failure => simp [failed]
  | ok outcome => cases outcome <;> simp [failed]

theorem failed_wrote {result : Except Error Unit} :
    (Reply.wrote result).failed = true ↔ ∃ error, result = .error error := by
  cases result <;> simp [failed]

end Reply

/-- Performs an action. -/
def perform (session : Session) : Action → Reply × Session
  | .sync => (sync memoryStore memoryEngine session).map .synced id
  | .trySync => (trySync memoryStore memoryEngine session).map .tried id
  | .save state => (memoryStore.save state session).map .wrote id
  | .load => (.loaded session.load, session)
  | .swapStore store => (.done, { session with store })
  | .setRefusing refusing =>
    (.done, { session with engine := { session.engine with refusing } })
  | .replace update => (session.replace update).map .wrote id

/-- One action of a session, with what was before and after it. -/
structure Step where
  before : Session
  action : Action
  reply : Reply
  after : Session

/-- The step that an action makes. -/
def step (session : Session) (action : Action) : Step :=
  ⟨session, action, (session.perform action).1, (session.perform action).2⟩

/-- The steps of actions, one after another. -/
def steps (session : Session) : List Action → List Step
  | [] => []
  | action :: actions => session.step action :: steps (session.step action).after actions

/-- The session after the actions. -/
def run (session : Session) (actions : List Action) : Session :=
  actions.foldl (fun session action => (session.step action).after) session

/-- Nothing but the number of updates asked for differs. -/
def Keeps (session after : Session) : Prop :=
  ∃ calls, after = { session with engine := { session.engine with calls } }

variable {session after : Session}

theorem Keeps.refl (session : Session) : session.Keeps session := ⟨session.engine.calls, rfl⟩

theorem Keeps.rules (keeps : session.Keeps after) : after.engine.rules = session.engine.rules := by
  obtain ⟨calls, rfl⟩ := keeps
  rfl

theorem Keeps.store (keeps : session.Keeps after) : after.store = session.store := by
  obtain ⟨calls, rfl⟩ := keeps
  rfl

/-! ## Synchronisations and updates -/

/-- An update that is not carried out has been asked for, and nothing else. -/
theorem keeps_of_replace_error {update : Update} {error : Error}
    (ran : session.replace update = (.error error, after)) : session.Keeps after := by
  cases refusing : session.engine.refusing with
  | true =>
      rw [replace_of_refusing refusing] at ran
      exact ⟨_, (Prod.mk.inj ran).2.symm⟩
  | false =>
      cases applied : update.apply session.engine.rules with
      | ok rules =>
          rw [replace_of_apply_ok refusing applied] at ran
          cases (Prod.mk.inj ran).1
      | error _ =>
          rw [replace_of_apply_error refusing applied] at ran
          exact ⟨_, (Prod.mk.inj ran).2.symm⟩

theorem keeps_of_trySync_error {failure : Failure}
    (ran : trySync memoryStore memoryEngine session = (.error failure, after)) :
    session.Keeps after := by
  cases stored : session.store with
  | none =>
      simp only [Redirects.trySync, SyncStage.advance, memoryStore, load, stored] at ran
      exact (Prod.mk.inj ran).2 ▸ .refl session
  | some state =>
      rw [trySync_of_stored stored, advance_compared] at ran
      split at ran
      · cases (Prod.mk.inj ran).1
      · -- Both were read, so the failure is that of the update.
        cases replaced : session.replace (state.update session.engine.rules) with
        | mk result left =>
            rw [replaced] at ran
            obtain ⟨result_eq, rfl⟩ := Prod.mk.inj ran
            cases result with
            | ok _ => cases result_eq
            | error error => exact keeps_of_replace_error replaced

/-- No synchronisation that succeeds has the outcome of a failure. -/
theorem keeps_of_trySync_failed
    (failed : ∀ outcome,
      (trySync memoryStore memoryEngine session).1 = .ok outcome → outcome = .failed) :
    session.Keeps (trySync memoryStore memoryEngine session).2 := by
  cases ran : trySync memoryStore memoryEngine session with
  | mk result after =>
      cases result with
      | error failure => exact keeps_of_trySync_error ran
      | ok outcome =>
          obtain ⟨state, -, -, rfl, -⟩ := of_trySync_ok ran
          have removed_eq := state.outcome_removed? session.engine.rules
          rw [failed _ (congrArg Prod.fst ran)] at removed_eq
          cases removed_eq

theorem store_trySync (session : Session) :
    (trySync memoryStore memoryEngine session).2.store = session.store := by
  cases ran : trySync memoryStore memoryEngine session with
  | mk result after =>
      cases result with
      | error failure => exact (keeps_of_trySync_error ran).store
      | ok outcome =>
          obtain ⟨state, stored, kept, -⟩ := of_trySync_ok ran
          exact kept.trans stored.symm

/-! ## Steps -/

/-- A step that fails keeps the session, and no step changes more than its action is for. -/
structure Step.Confined (step : Step) : Prop where
  failed : step.reply.failed = true → step.before.Keeps step.after
  rules : step.action.updates = false → step.after.engine.rules = step.before.engine.rules
  store : step.action.stores = false → step.after.store = step.before.store

theorem confined_step (session : Session) (action : Action) : (session.step action).Confined := by
  cases action with
  | sync =>
      refine ⟨fun failed => ?_, nofun, fun _ => session.store_trySync⟩
      -- The reply tells the outcome only, so an error and the outcome of one look alike.
      have told : (trySync memoryStore memoryEngine session).1.toOption.getD .failed = .failed :=
        Reply.failed_synced.mp failed
      have keeps : session.Keeps (trySync memoryStore memoryEngine session).2 := by
        refine keeps_of_trySync_failed fun outcome ran => ?_
        rwa [ran] at told
      exact keeps
  | trySync =>
      refine ⟨fun failed => ?_, nofun, fun _ => session.store_trySync⟩
      exact keeps_of_trySync_failed (Reply.failed_tried.mp failed)
  | save state => exact ⟨nofun, fun _ => rfl, nofun⟩
  | load => exact ⟨fun _ => .refl session, fun _ => rfl, fun _ => rfl⟩
  | swapStore store => exact ⟨nofun, fun _ => rfl, nofun⟩
  | setRefusing refusing => exact ⟨nofun, fun _ => rfl, fun _ => rfl⟩
  | replace update =>
      refine ⟨fun failed => ?_, nofun, fun _ => rfl⟩
      obtain ⟨error, ran⟩ := Reply.failed_wrote.mp failed
      exact keeps_of_replace_error (Prod.ext ran rfl)

variable {actions : List Action}

/-- Every step of a run is confined to what its action is for. -/
theorem confined_of_mem_steps {made : Step} (listed : made ∈ session.steps actions) :
    made.Confined := by
  induction actions generalizing session with
  | nil => cases listed
  | cons action actions ih =>
      rcases List.mem_cons.mp listed with rfl | later
      · exact session.confined_step action
      · exact ih later

/-- While nothing that may change the rules succeeds, they stay as they were. -/
theorem rules_run (idle : ∀ made ∈ session.steps actions,
      made.action.updates = true → made.reply.failed = true) :
    (session.run actions).engine.rules = session.engine.rules := by
  induction actions generalizing session with
  | nil => rfl
  | cons action actions ih =>
      obtain ⟨first_idle, later_idle⟩ := List.forall_mem_cons.mp idle
      refine (ih later_idle).trans ?_
      have confined := session.confined_step action
      cases updates : action.updates with
      | true => exact (confined.failed (first_idle updates)).rules
      | false => exact confined.rules updates

/-- While the store is neither saved to nor swapped, it stays as it was. -/
theorem store_run (unsaved : ∀ action ∈ actions, action.stores = false) :
    (session.run actions).store = session.store := by
  induction actions generalizing session with
  | nil => rfl
  | cons action actions ih =>
      obtain ⟨first_unsaved, later_unsaved⟩ := List.forall_mem_cons.mp unsaved
      exact (ih later_unsaved).trans ((session.confined_step action).store first_unsaved)

/-- In every run of a session, a step that fails leaves the active rules and the store as they were,
and a synchronisation leaves the store as it was.  The active rules change in no step but one that
succeeds in updating them, and so, as long as none does, they are those of the start. -/
theorem failed_steps_keep (session : Session) (actions : List Action) :
    (∀ made ∈ session.steps actions,
      (made.reply.failed = true → made.after.engine.rules = made.before.engine.rules ∧
        made.after.store = made.before.store) ∧
      (made.action = .sync ∨ made.action = .trySync → made.after.store = made.before.store) ∧
      (made.after.engine.rules ≠ made.before.engine.rules →
        made.reply.failed = false ∧ made.action.updates = true)) ∧
    ((∀ made ∈ session.steps actions, made.action.updates = true → made.reply.failed = true) →
      (session.run actions).engine.rules = session.engine.rules) ∧
    ((∀ action ∈ actions, action.stores = false) →
      (session.run actions).store = session.store) := by
  refine ⟨fun made listed => ?_, rules_run, store_run⟩
  have confined := confined_of_mem_steps listed
  refine ⟨fun failed => ⟨(confined.failed failed).rules, (confined.failed failed).store⟩, ?_, ?_⟩
  · rintro (same | same) <;> exact confined.store (by rw [same]; rfl)
  · intro changed
    refine ⟨Bool.eq_false_iff.mpr fun failed => ?_, Bool.of_not_eq_false fun quiet => ?_⟩
    · exact changed (confined.failed failed).rules
    · exact changed (confined.rules quiet)

/-- The store cannot be read, one update is rejected at its second rule, and another is refused. -/
theorem failed_steps_keep_unreadable :
    let rule := (Synthesis.mk (.substring "a") (.url "b")).emit 7
    let session : Session := ⟨none, { rules := [rule] }⟩
    let actions : List Action :=
      [.sync, .replace ⟨[7], [rule, rule]⟩, .setRefusing true, .replace ⟨[7], []⟩, .trySync, .load]
    (session.steps actions).map (·.reply.failed) = [true, true, false, true, true, true] ∧
      (∀ made ∈ session.steps actions, made.reply.failed = true →
        made.after.engine.rules = made.before.engine.rules ∧ made.after.store = made.before.store) ∧
      (session.run actions).engine.rules = [rule] ∧ (session.run actions).store = none := by
  intro rule session actions
  obtain ⟨each, idle, unsaved⟩ := failed_steps_keep session actions
  refine ⟨by decide, fun made listed => (each made listed).1, ?_, unsaved (by decide)⟩
  apply idle
  decide

end Redirects.Session
