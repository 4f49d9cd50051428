import Redirects.Proofs.Sync.Installation

/-!
# Synchronisations that overlap

Two synchronisations over one engine take their steps in any order, and states are saved in between.
The one that takes its last step first always installs what it compiled.  The other one then replaces
the rules that it read before, which need not be the rules that are active by now: it installs
exactly what it compiled if and only if it read them after the first was done, or every number that
the first installed was active from the start.
-/

namespace Redirects

/-- The active rules that a synchronisation has read and not yet replaced. -/
def SyncStage.seen? : SyncStage → Option (List DeclarativeRule)
  | .compared _ active => some active
  | _ => none

namespace Session

theorem advance_ready {state : StoredState} {session : Session}
    (stored : session.store = some state) :
    SyncStage.ready.advance memoryStore memoryEngine session = (.loaded state, session) := by
  simp [SyncStage.advance, memoryStore, load, stored]

theorem advance_loaded (state : StoredState) (session : Session) :
    (SyncStage.loaded state).advance memoryStore memoryEngine session =
      (.compared state session.engine.rules, session) := rfl

theorem advance_store (stage : SyncStage) (session : Session) :
    (stage.advance memoryStore memoryEngine session).2.store = session.store := by
  cases stage with
  | ready => cases stored : session.store <;> simp [SyncStage.advance, memoryStore, load, stored]
  | loaded state => rfl
  | compared state active =>
      rw [advance_compared]
      split <;> rfl
  | done result => rfl

/-- Every step but the last leaves the engine as it is, and a synchronisation reads what is active
when it reads. -/
theorem advance_quiet {stage : SyncStage} (quiet : ∀ state seen, stage ≠ .compared state seen)
    (session : Session) :
    (stage.advance memoryStore memoryEngine session).2.engine = session.engine ∧
      (stage.advance memoryStore memoryEngine session).1.seen?.getD session.engine.rules =
        stage.seen?.getD session.engine.rules := by
  cases stage with
  | ready =>
      cases stored : session.store <;>
        simp [SyncStage.advance, memoryStore, load, stored, SyncStage.seen?]
  | loaded state => exact ⟨rfl, rfl⟩
  | compared state seen => exact absurd rfl (quiet state seen)
  | done result => exact ⟨rfl, rfl⟩

/-- After its last step a synchronisation has a result. -/
theorem advance_compared_result (state : StoredState) (active : List DeclarativeRule)
    (session : Session) :
    ((SyncStage.compared state active).advance memoryStore memoryEngine session).1.result?.isSome =
      true := by
  rw [advance_compared]
  split
  · rfl
  · cases (session.replace (state.update active)).1 <;> rfl

end Session

/-- One of two synchronisations. -/
inductive Side where
  | first
  | second
deriving DecidableEq, Repr

/-- Two synchronisations over one store and one engine. -/
structure Race where
  session : Session
  /-- How far each has come. -/
  stage : Side → SyncStage

namespace Race

/-- What can happen next. -/
inductive Event where
  /-- One of the two takes its next step. -/
  | advance (side : Side)
  /-- A state is saved. -/
  | save (state : StoredState)
deriving DecidableEq, Repr

/-- Neither has begun. -/
def start (session : Session) : Race := ⟨session, fun _ => .ready⟩

def step (race : Race) : Event → Race
  | .advance side =>
    let (stage, session) :=
      (race.stage side).advance Session.memoryStore Session.memoryEngine race.session
    ⟨session, fun other => if other = side then stage else race.stage other⟩
  | .save state => { race with session := (Session.memoryStore.save state race.session).2 }

/-- The events happen one after another. -/
def run (race : Race) (events : List Event) : Race := events.foldl step race

theorem run_append (race : Race) (front back : List Event) :
    race.run (front ++ back) = (race.run front).run back :=
  List.foldl_append

@[simp]
theorem run_cons (race : Race) (event : Event) (events : List Event) :
    race.run (event :: events) = (race.step event).run events := rfl

/-- The active rules that a side has read, or would read now. -/
def view (race : Race) (side : Side) : List DeclarativeRule :=
  (race.stage side).seen?.getD race.session.engine.rules

/-! ## Single steps -/

variable {race : Race} {side other : Side} {event : Event} {events : List Event}

theorem step_stage_self :
    (race.step (.advance side)).stage side =
      ((race.stage side).advance Session.memoryStore Session.memoryEngine race.session).1 := by
  simp [step]

theorem step_stage_other (differ : other ≠ side) :
    (race.step (.advance side)).stage other = race.stage other := by
  simp [step, differ]

theorem step_session :
    (race.step (.advance side)).session =
      ((race.stage side).advance Session.memoryStore Session.memoryEngine race.session).2 := rfl

/-- The event is the last step of a side. -/
def IsLast (race : Race) (event : Event) : Prop :=
  ∃ side state seen, event = .advance side ∧ race.stage side = .compared state seen

/-- A side that has a result stays as it is. -/
theorem step_of_done (done : (race.stage side).result?.isSome = true) :
    (race.step event).stage side = race.stage side := by
  cases event with
  | save state => rfl
  | advance mover =>
      by_cases same : side = mover
      · subst same
        rw [step_stage_self]
        cases stage : race.stage side with
        | done result => rfl
        | _ => simp [stage, SyncStage.result?] at done
      · exact step_stage_other same

/-- Only a last step changes the engine and what a side has read or would read. -/
theorem step_quiet (quiet : ¬race.IsLast event) :
    (race.step event).session.engine = race.session.engine ∧
      ∀ side, (race.step event).view side = race.view side := by
  cases event with
  | save state => exact ⟨rfl, fun _ => rfl⟩
  | advance mover =>
      have not_last : ∀ state seen, race.stage mover ≠ .compared state seen :=
        fun state seen compared => quiet ⟨mover, state, seen, rfl, compared⟩
      obtain ⟨same_engine, same_seen⟩ := Session.advance_quiet not_last race.session
      rw [← step_session] at same_engine
      refine ⟨same_engine, fun side => ?_⟩
      rw [view, view, same_engine]
      by_cases same : side = mover
      · rw [same, step_stage_self, same_seen]
      · rw [step_stage_other same]

theorem step_last_done {state : StoredState} {seen : List DeclarativeRule}
    (compared : race.stage side = .compared state seen) :
    ((race.step (.advance side)).stage side).result?.isSome = true := by
  rw [step_stage_self, compared]
  exact Session.advance_compared_result state seen race.session

/-! ## Runs -/

theorem run_of_done (done : (race.stage side).result?.isSome = true) :
    (race.run events).stage side = race.stage side := by
  induction events generalizing race with
  | nil => rfl
  | cons event events ih =>
      have kept : (race.step event).stage side = race.stage side := step_of_done done
      rw [run_cons, ih (kept ▸ done), kept]

/-- While no further side comes to a result, the engine and what each side has read or would read
stay as they are. -/
theorem run_quiet
    (done_before : ∀ side, ((race.run events).stage side).result?.isSome = true →
      (race.stage side).result?.isSome = true) :
    (race.run events).session.engine = race.session.engine ∧
      ∀ side, (race.run events).view side = race.view side := by
  induction events generalizing race with
  | nil => exact ⟨rfl, fun _ => rfl⟩
  | cons event events ih =>
      rw [run_cons] at done_before ⊢
      have quiet : ¬race.IsLast event := by
        rintro ⟨side, state, seen, rfl, compared⟩
        have done := step_last_done compared
        have done_already := done_before side (run_of_done done ▸ done)
        rw [compared] at done_already
        cases done_already
      obtain ⟨tail_engine, tail_view⟩ := ih fun side done => by
        have done_already := done_before side done
        rw [step_of_done done_already]
        exact done_already
      obtain ⟨head_engine, head_view⟩ := step_quiet quiet
      exact ⟨tail_engine.trans head_engine, fun side => (tail_view side).trans (head_view side)⟩

/-! ## The last steps -/

/-- In the course of some events one side takes its last step, and later the other one does. -/
structure Finish (session : Session) (events : List Event) where
  early : Side
  late : Side
  differ : late ≠ early
  /-- What happens before the last step of the early side. -/
  front : List Event
  /-- What happens between the two last steps. -/
  middle : List Event
  back : List Event
  split : events = front ++ .advance early :: (middle ++ .advance late :: back)
  /-- The state that the early side loaded. -/
  earlyState : StoredState
  earlySeen : List DeclarativeRule
  early_compared : ((start session).run front).stage early = .compared earlyState earlySeen
  /-- The state that the late side loaded. -/
  lateState : StoredState
  lateSeen : List DeclarativeRule
  late_compared :
    ((((start session).run front).step (.advance early)).run middle).stage late =
      .compared lateState lateSeen

namespace Finish

variable {session : Session} {events : List Event} (finish : Finish session events)

/-- Where the early side is about to take its last step. -/
def before : Race := (start session).run finish.front

/-- Where the late side is about to take its last step. -/
def between : Race := (finish.before.step (.advance finish.early)).run finish.middle

/-- What the early side installs. -/
def earlyRules : List DeclarativeRule :=
  compile finish.earlyState.rules finish.earlyState.enabled

/-- What the late side is to install. -/
def lateRules : List DeclarativeRule :=
  compile finish.lateState.rules finish.lateState.enabled

theorem before_compared :
    finish.before.stage finish.early = .compared finish.earlyState finish.earlySeen :=
  finish.early_compared

theorem between_compared :
    finish.between.stage finish.late = .compared finish.lateState finish.lateSeen :=
  finish.late_compared

theorem run_eq : (start session).run events =
    (finish.between.step (.advance finish.late)).run finish.back := by
  have split_run := congrArg (start session).run finish.split
  rw [run_append, run_cons, run_append, run_cons] at split_run
  exact split_run

theorem side_cases (side : Side) : side = finish.early ∨ side = finish.late := by
  have differ := finish.differ
  cases side <;> cases early : finish.early <;> cases late : finish.late <;> simp_all

/-- The late side has no result yet when the early one takes its last step. -/
theorem late_not_done : ¬(finish.before.stage finish.late).result?.isSome = true := by
  intro done
  have stays : finish.between.stage finish.late = finish.before.stage finish.late := by
    rw [between, ← run_cons]
    exact run_of_done done
  rw [← stays, finish.between_compared] at done
  cases done

/-- Until the early side takes its last step nothing happens to the engine. -/
theorem before_quiet : finish.before.session.engine = session.engine ∧
    ∀ side, finish.before.view side = session.engine.rules := by
  have none_done : ∀ side, (finish.before.stage side).result?.isSome = true →
      ((start session).stage side).result?.isSome = true := by
    intro side done
    rcases finish.side_cases side with rfl | rfl
    · rw [finish.before_compared] at done
      cases done
    · exact absurd done finish.late_not_done
  exact run_quiet none_done

/-- The early side read what was active from the start. -/
theorem earlySeen_eq : finish.earlySeen = session.engine.rules := by
  have view_eq := finish.before_quiet.2 finish.early
  rwa [view, finish.before_compared] at view_eq

/-- The early side succeeds, and what it compiled is active. -/
theorem early_installs (willing : session.engine.refusing = false) :
    ∃ calls,
      (finish.before.step (.advance finish.early)).stage finish.early =
          .done (.ok (finish.earlyState.outcome finish.earlySeen)) ∧
        (finish.before.step (.advance finish.early)).session.engine =
          { session.engine with rules := finish.earlyRules, calls } := by
  have same_engine := finish.before_quiet.1
  have applied : (finish.earlyState.update finish.earlySeen).apply
      finish.before.session.engine.rules = .ok finish.earlyRules := by
    rw [same_engine, finish.earlySeen_eq]
    exact Update.apply_replaceAll_self (compile_ids_nodup _ _)
  obtain ⟨calls, advanced⟩ :=
    Session.advance_of_apply_ok (same_engine ▸ willing) applied
  refine ⟨calls, ?_, ?_⟩
  · rw [step_stage_self, finish.before_compared, advanced]
  · rw [step_session, finish.before_compared, advanced, same_engine]

/-- Until the late side takes its last step, what the early one compiled is active, and the late
one reads it unless it had read before. -/
theorem between_quiet (willing : session.engine.refusing = false) :
    ∃ calls,
      finish.between.session.engine = { session.engine with rules := finish.earlyRules, calls } ∧
        finish.lateSeen =
          (finish.before.stage finish.late).seen?.getD finish.earlyRules := by
  obtain ⟨calls, early_done, installed⟩ := finish.early_installs willing
  have early_only : ∀ side, (finish.between.stage side).result?.isSome = true →
      ((finish.before.step (.advance finish.early)).stage side).result?.isSome = true := by
    intro side done
    rcases finish.side_cases side with rfl | rfl
    · exact step_last_done finish.before_compared
    · rw [finish.between_compared] at done
      cases done
  obtain ⟨same_engine, same_view⟩ := run_quiet early_only
  refine ⟨calls, same_engine.trans installed, ?_⟩
  have late_view : finish.between.view finish.late = _ := same_view finish.late
  rw [view, finish.between_compared, view, installed, step_stage_other finish.differ] at late_view
  exact late_view

/-- What the early side installed and the late side leaves in. -/
def leftOver : List DeclarativeRule :=
  (finish.lateState.update finish.lateSeen).kept finish.earlyRules

/-- Something is left over unless the late side read after the early one was done, or the numbers
that the early side installed were active from the start. -/
theorem leftOver_eq_nil_iff (willing : session.engine.refusing = false) :
    finish.leftOver = [] ↔
      (finish.before.stage finish.late).seen? = none ∨
        ∀ rule ∈ finish.earlyRules, rule.id ∈ session.engine.rules.map (·.id) := by
  obtain ⟨_, _, seen_eq⟩ := finish.between_quiet willing
  have view_eq := finish.before_quiet.2 finish.late
  rw [leftOver, StoredState.update, Update.kept_replaceAll_eq_nil_iff, seen_eq]
  cases seen : (finish.before.stage finish.late).seen? with
  | none =>
      simp only [Option.getD_none, true_or, iff_true]
      exact fun rule rule_mem => List.mem_map_of_mem rule_mem
  | some active =>
      rw [view, seen] at view_eq
      obtain rfl : active = session.engine.rules := view_eq
      simp

/-- Once both are done, nothing changes any more. -/
theorem run_final (willing : session.engine.refusing = false) :
    ((start session).run events).session.engine =
        (finish.between.step (.advance finish.late)).session.engine ∧
      ((start session).run events).stage finish.early =
        .done (.ok (finish.earlyState.outcome finish.earlySeen)) ∧
      ((start session).run events).stage finish.late =
        (finish.between.step (.advance finish.late)).stage finish.late := by
  obtain ⟨_, early_done, _⟩ := finish.early_installs willing
  have late_done := step_last_done finish.between_compared
  have early_stays : (finish.between.step (.advance finish.late)).stage finish.early =
      .done (.ok (finish.earlyState.outcome finish.earlySeen)) := by
    rw [step_stage_other finish.differ.symm, between, run_of_done (by rw [early_done]; rfl),
      early_done]
  have both_done : ∀ side,
      ((finish.between.step (.advance finish.late)).stage side).result?.isSome = true := by
    intro side
    rcases finish.side_cases side with rfl | rfl
    · rw [early_stays]
      rfl
    · exact late_done
  rw [finish.run_eq]
  refine ⟨(run_quiet fun side _ => both_done side).1, ?_, run_of_done late_done⟩
  rw [run_of_done (both_done finish.early), early_stays]

/-- The late side succeeds with what is left over in front of its own rules, or it fails and the
early side's rules stay. -/
theorem late_outcome (willing : session.engine.refusing = false) :
    (∃ outcome, ((start session).run events).stage finish.late = .done (.ok outcome)) ∧
        ((start session).run events).session.engine.rules =
          finish.leftOver ++ finish.lateRules ∨
      finish.leftOver ≠ [] ∧
        (∃ failure, ((start session).run events).stage finish.late = .done (.error failure)) ∧
          ((start session).run events).session.engine.rules = finish.earlyRules := by
  obtain ⟨calls, engine_eq, _⟩ := finish.between_quiet willing
  have between_willing : finish.between.session.engine.refusing = false := by
    rw [engine_eq]
    exact willing
  have between_rules : finish.between.session.engine.rules = finish.earlyRules := by
    rw [engine_eq]
  obtain ⟨final_engine, _, final_late⟩ := finish.run_final willing
  rw [final_engine, final_late, step_session, step_stage_self, finish.between_compared]
  cases applied : (finish.lateState.update finish.lateSeen).apply finish.earlyRules with
  | ok rules =>
      obtain ⟨_, advanced⟩ :=
        Session.advance_of_apply_ok between_willing (between_rules ▸ applied)
      rw [advanced]
      exact Or.inl ⟨⟨_, rfl⟩, (Update.apply_eq_ok_iff.mp applied).1⟩
  | error error =>
      obtain ⟨_, advanced⟩ :=
        Session.advance_of_apply_error between_willing (between_rules ▸ applied)
      rw [advanced]
      refine Or.inr ⟨?_, ⟨_, rfl⟩, between_rules⟩
      intro nothing_left
      have accepted : (finish.lateState.update finish.lateSeen).apply finish.earlyRules =
          .ok finish.lateRules := by
        apply Update.apply_eq_ok_iff.mpr
        rw [← leftOver, nothing_left]
        exact ⟨rfl, compile_ids_nodup _ _, by simp⟩
      rw [accepted] at applied
      cases applied

end Finish

/-! ## Every complete run has last steps -/

theorem step_readable (readable : race.session.store.isSome = true) :
    (race.step event).session.store.isSome = true := by
  cases event with
  | save state => rfl
  | advance side => rw [step_session, Session.advance_store, readable]

theorem isLast_of_step_done (readable : race.session.store.isSome = true)
    (not_done : ¬(race.stage side).result?.isSome = true)
    (done : ((race.step event).stage side).result?.isSome = true) :
    event = .advance side ∧ ∃ state seen, race.stage side = .compared state seen := by
  cases event with
  | save state => exact absurd done not_done
  | advance mover =>
      by_cases same : side = mover
      · subst same
        rw [step_stage_self] at done
        cases stage : race.stage side with
        | ready =>
            obtain ⟨state, stored⟩ := Option.isSome_iff_exists.mp readable
            rw [stage, Session.advance_ready stored] at done
            cases done
        | loaded state =>
            rw [stage, Session.advance_loaded] at done
            cases done
        | compared state seen => exact ⟨rfl, state, seen, rfl⟩
        | done result => exact absurd (by rw [stage]; rfl) not_done
      · rw [step_stage_other same] at done
        exact absurd done not_done

/-- A side that comes to a result took its last step on the way. -/
theorem exists_last_step (readable : race.session.store.isSome = true)
    (not_done : ¬(race.stage side).result?.isSome = true)
    (done : ((race.run events).stage side).result?.isSome = true) :
    ∃ front back state seen, events = front ++ .advance side :: back ∧
      (race.run front).stage side = .compared state seen := by
  induction events generalizing race with
  | nil => exact absurd done not_done
  | cons event events ih =>
      by_cases step_done : ((race.step event).stage side).result?.isSome = true
      · obtain ⟨rfl, state, seen, compared⟩ := isLast_of_step_done readable not_done step_done
        exact ⟨[], events, state, seen, rfl, compared⟩
      · obtain ⟨front, back, state, seen, rfl, compared⟩ :=
          ih (step_readable readable) step_done done
        exact ⟨event :: front, back, state, seen, rfl, compared⟩

/-- Of two last steps in one run, one comes before the other. -/
theorem nonempty_finish {session : Session} (readable : session.store.isSome = true)
    (done : ∀ side, (((start session).run events).stage side).result?.isSome = true) :
    Nonempty (Finish session events) := by
  have none_done : ∀ side, ¬((start session).stage side).result?.isSome = true :=
    fun _ => Bool.false_ne_true
  obtain ⟨front, back, state, seen, split, compared⟩ :=
    exists_last_step readable (none_done .first) (done .first)
  obtain ⟨front', back', state', seen', split', compared'⟩ :=
    exists_last_step readable (none_done .second) (done .second)
  rcases List.append_eq_append_iff.mp (split.symm.trans split') with
    ⟨middle, front'_eq, back_eq⟩ | ⟨middle, front_eq, back'_eq⟩
  · cases middle with
    | nil => cases back_eq
    | cons event middle =>
        obtain ⟨rfl, rfl⟩ := List.cons.inj back_eq
        rw [front'_eq, run_append, run_cons] at compared'
        exact ⟨.first, .second, by decide, front, middle, back', split, state, seen, compared,
          state', seen', compared'⟩
  · cases middle with
    | nil => cases back'_eq
    | cons event middle =>
        obtain ⟨rfl, rfl⟩ := List.cons.inj back'_eq
        rw [front_eq, run_append, run_cons] at compared
        exact ⟨.second, .first, by decide, front', middle, back, split', state', seen', compared',
          state, seen, compared⟩

/-- When two synchronisations overlap, the one that ends first always succeeds.  The one that ends
last succeeds and leaves exactly what it compiled active if and only if it had not yet read the
active rules when the first one ended, or every number that the first one installed was active from
the start.  Otherwise it fails, and what the first one compiled stays active, or it leaves some of
the first one's rules in front of its own. -/
theorem last_wins_iff (session : Session) (readable : session.store.isSome = true)
    (willing : session.engine.refusing = false) (events : List Event)
    (done : ∀ side, (((start session).run events).stage side).result?.isSome = true) :
    Nonempty (Finish session events) ∧
      ∀ finish : Finish session events,
        let final := (start session).run events
        (∃ outcome, final.stage finish.early = .done (.ok outcome)) ∧
          ((∃ outcome, final.stage finish.late = .done (.ok outcome)) ∧
              final.session.engine.rules = finish.lateRules ↔
            (finish.before.stage finish.late).seen? = none ∨
              ∀ rule ∈ finish.earlyRules, rule.id ∈ session.engine.rules.map (·.id)) ∧
          ((∃ outcome, final.stage finish.late = .done (.ok outcome)) ∧
              final.session.engine.rules = finish.leftOver ++ finish.lateRules ∨
            (∃ failure, final.stage finish.late = .done (.error failure)) ∧
              final.session.engine.rules = finish.earlyRules) := by
  refine ⟨nonempty_finish readable done, fun finish => ?_⟩
  obtain ⟨_, early_done, _⟩ := finish.run_final willing
  refine ⟨⟨_, early_done⟩, ?_, ?_⟩
  · rw [← finish.leftOver_eq_nil_iff willing]
    rcases finish.late_outcome willing with
      ⟨succeeded, rules_eq⟩ | ⟨something_left, ⟨failure, failed⟩, _⟩
    · rw [rules_eq]
      simp [succeeded]
    · simp [something_left, failed]
  · rcases finish.late_outcome willing with succeeded | ⟨_, failed⟩
    · exact Or.inl succeeded
    · exact Or.inr failed

/-- Both sides read before either installs, over an engine without rules: the one that ends last does
not have its way. -/
theorem last_wins_iff_both_read :
    let rule : Rule := { source := "http://a/", destination := "http://b/", id := "a" }
    let session : Session := ⟨some ⟨[rule], true⟩, {}⟩
    let events : List Event :=
      [.advance .first, .advance .first, .advance .second, .advance .second, .advance .first,
        .advance .second]
    let final := (start session).run events
    ∃ finish : Finish session events, finish.late = .second ∧ finish.lateState = ⟨[rule], true⟩ ∧
      ¬((∃ outcome, final.stage finish.late = .done (.ok outcome)) ∧
        final.session.engine.rules = finish.lateRules) := by
  intro rule session events final
  have done : ∀ side, (final.stage side).result?.isSome = true := by
    intro side
    cases side <;> rfl
  let finish : Finish session events :=
    { early := .first
      late := .second
      differ := by decide
      front := [.advance .first, .advance .first, .advance .second, .advance .second]
      middle := []
      back := []
      split := rfl
      earlyState := ⟨[rule], true⟩
      earlySeen := []
      early_compared := rfl
      lateState := ⟨[rule], true⟩
      lateSeen := []
      late_compared := rfl }
  have wins_iff := ((last_wins_iff session rfl rfl events done).2 finish).2.1
  have seen : (finish.before.stage finish.late).seen? = some [] := rfl
  have compiled : (synthesize rule).emit 1 ∈ finish.earlyRules :=
    mem_compile_iff.mpr ⟨0, rule, rfl, rfl, by decide, rfl, rfl⟩
  refine ⟨finish, rfl, rfl, ?_⟩
  rw [wins_iff, seen]
  intro wins
  refine wins.elim (fun unread => ?_) (fun numbered => ?_)
  · cases unread
  · exact List.not_mem_nil (numbered _ compiled)

end Race

end Redirects
