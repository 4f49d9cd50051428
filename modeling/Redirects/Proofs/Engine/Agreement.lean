import Redirects.Proofs.Files.Persistence

/-!
# Engines that agree

An engine that keeps its rules in a file answers like one that keeps them in memory, unless the
system fails it.  They agree because what the file holds is read as the rules in memory, before and
after every update; a rejected update leaves both as they were.
-/

namespace Redirects

/-- A failure of the system, and not of what was asked for. -/
def Error.isOfSystem : Error → Bool
  | .files _ => true
  | .store (.cannotRead ..) | .store (.cannotWrite ..) | .store (.cannotReplace ..) => true
  | .engine (.cannotRead ..) | .engine (.cannotWrite ..) | .engine (.cannotInstall ..) => true
  | _ => false

namespace Engine

/-- An update, and when it is asked for. -/
structure Request where
  time : String
  update : Update
deriving DecidableEq, Repr

/-- What is seen of an update: its result, and the rules that are active afterwards. -/
structure Answer where
  result : Except Error Unit
  active : Except Error (List DeclarativeRule)

/-- The system did what it was asked to. -/
def Answer.Served (answer : Answer) : Prop :=
  ∀ error, answer.result = .error error → error.isOfSystem = false

variable {World : Type}

/-- The answers to requests, one after another, of an engine that may depend on the time. -/
def answers (engineAt : String → Engine World) : List Request → World → List Answer
  | [], _ => []
  | request :: requests, world =>
    let (result, after) := (engineAt request.time).replace request.update world
    ⟨result, (engineAt request.time).active after⟩ :: answers engineAt requests after

end Engine

open Engine

namespace Update

/-- An update is rejected for nothing but a number that is taken. -/
theorem eq_duplicate_of_addAll {active additions : List DeclarativeRule} {error : Error}
    (rejected : addAll active additions = .error error) :
    ∃ number, error = .engine (.duplicate number) := by
  induction additions generalizing active with
  | nil => cases rejected
  | cons rule additions ih =>
      rw [addAll] at rejected
      split at rejected
      · cases rejected
        exact ⟨rule.id, rfl⟩
      · exact ih rejected

end Update

namespace FileEngine

variable {path time : String} {files : Files} {session : Session} {update : Update}
  {rules : List DeclarativeRule}

/-- Where rules are not written, the system failed. -/
theorem isOfSystem_of_write {engine : FileEngine} {error : Error} {left : Files}
    (failed : engine.write rules files = (.error error, left)) : error.isOfSystem = true := by
  rw [write_eq] at failed
  obtain ⟨fault, -, rfl⟩ := exists_of_mapError (Prod.mk.inj failed).1
  cases fault <;> rfl

/-- Where nothing stands in the way of the file, the system does what an update asks for. -/
theorem replace_of_unobstructed (update : Update) (unobstructed : files.Unobstructed path)
    (active_eq : (FileEngine.mk path time).active files = .ok rules) :
    (∀ error, ((FileEngine.mk path time).replace update files).1 = .error error →
        error.isOfSystem = false) ∧
      ((FileEngine.mk path time).replace update files).2.Unobstructed path := by
  cases applied : update.apply rules with
  | error error =>
      obtain ⟨number, rfl⟩ := Update.eq_duplicate_of_addAll applied
      rw [replace_of_apply_error active_eq applied]
      refine ⟨fun error failed => ?_, unobstructed⟩
      rw [← Except.error.inj failed]
      rfl
  | ok after =>
      rw [replace_of_apply_ok active_eq applied, write_eq, unobstructed.replaceText_eq]
      refine ⟨fun error failed => ?_, unobstructed.replaced path _⟩
      cases failed

/-- The file holds the rules that are in memory, whenever it is read. -/
structure Mirrors (path : String) (files : Files) (session : Session) : Prop where
  sound : files.Sound
  active : ∀ time, (FileEngine.mk path time).active files = .ok session.engine.rules
  willing : session.engine.refusing = false

/-- A missing file stands for an engine without rules. -/
theorem mirrors_of_missing (sound : files.Sound) (missing : files.readText path = .error .notFound)
    (store : Option StoredState) : Mirrors path files ⟨store, {}⟩ := by
  refine ⟨sound, fun time => ?_, rfl⟩
  rw [FileEngine.active, missing]

/-- What the system writes without a failure is what is then in memory. -/
theorem Mirrors.replace (mirrors : Mirrors path files session)
    (timed : Timestamp.isValid time = true) {result : Except Error Unit} {after : Files}
    (ran : (FileEngine.mk path time).replace update files = (result, after))
    (served : ∀ error, result = .error error → error.isOfSystem = false) :
    result = (session.replace update).1 ∧ Mirrors path after (session.replace update).2 := by
  cases applied : update.apply session.engine.rules with
  | error error =>
      -- Nothing is written, and the file is still read as the rules in memory.
      rw [replace_of_apply_error (mirrors.active time) applied] at ran
      obtain ⟨rfl, rfl⟩ := Prod.mk.inj ran
      rw [Session.replace_of_apply_error mirrors.willing applied]
      exact ⟨rfl, mirrors.sound, mirrors.active, mirrors.willing⟩
  | ok rules =>
      rw [replace_of_apply_ok (mirrors.active time) applied] at ran
      rw [Session.replace_of_apply_ok mirrors.willing applied]
      cases result with
      | ok _ =>
          refine ⟨rfl, (replaced_of_write mirrors.sound ran).sound, fun clock => ?_,
            mirrors.willing⟩
          exact (active_of_write mirrors.sound timed ran clock).2
      | error error =>
          have of_system := isOfSystem_of_write ran
          rw [served error rfl] at of_system
          cases of_system

theorem Mirrors.answers {requests : List Request} (mirrors : Mirrors path files session)
    (timed : ∀ request ∈ requests, Timestamp.isValid request.time = true)
    (served : ∀ answer ∈ Engine.answers (fun time => (FileEngine.mk path time).engine) requests
      files, answer.Served) :
    Engine.answers (fun time => (FileEngine.mk path time).engine) requests files =
      Engine.answers (fun _ => Session.memoryEngine) requests session := by
  induction requests generalizing files session with
  | nil => rfl
  | cons request requests ih =>
      obtain ⟨first_served, later_served⟩ := List.forall_mem_cons.mp served
      obtain ⟨first_timed, later_timed⟩ := List.forall_mem_cons.mp timed
      obtain ⟨result_eq, after⟩ := mirrors.replace first_timed rfl first_served
      refine congrArg₂ List.cons ?_ (ih after later_timed later_served)
      exact congrArg₂ Answer.mk result_eq (after.active request.time)

theorem Mirrors.served {requests : List Request} (mirrors : Mirrors path files session)
    (timed : ∀ request ∈ requests, Timestamp.isValid request.time = true)
    (unobstructed : files.Unobstructed path) :
    ∀ answer ∈ Engine.answers (fun time => (FileEngine.mk path time).engine) requests files,
      answer.Served := by
  induction requests generalizing files session with
  | nil => exact List.forall_mem_nil _
  | cons request requests ih =>
      obtain ⟨first_timed, later_timed⟩ := List.forall_mem_cons.mp timed
      obtain ⟨first_served, after⟩ :=
        replace_of_unobstructed request.update unobstructed (mirrors.active request.time)
      have mirrors_after := (mirrors.replace first_timed rfl first_served).2
      exact List.forall_mem_cons.mpr ⟨first_served, ih mirrors_after later_timed after⟩

/-- From a missing file and an engine in memory without rules on, both answer all requests alike,
whatever is asked for and whether it is accepted or rejected, unless the system fails one of them;
and where nothing stands in the way of the file it fails none. -/
theorem agrees_with_memory (path : String) (files : Files) (store : Option StoredState)
    (requests : List Request) (sound : files.Sound)
    (missing : files.readText path = .error .notFound)
    (timed : ∀ request ∈ requests, Timestamp.isValid request.time = true) :
    let inFile := Engine.answers (fun time => (FileEngine.mk path time).engine) requests files
    let inMemory := Engine.answers (fun _ => Session.memoryEngine) requests ⟨store, {}⟩
    ((∀ answer ∈ inFile, answer.Served) → inFile = inMemory) ∧
      (files.Unobstructed path → ∀ answer ∈ inFile, answer.Served) := by
  have mirrors := mirrors_of_missing sound missing store
  exact ⟨mirrors.answers timed, mirrors.served timed⟩

/-- In an empty directory, rules are added, an update is rejected at its second rule, and another
takes one of the rules out. -/
theorem agrees_with_memory_rejecting :
    let rule (id : UInt32) := (Synthesis.mk (.substring "a") (.url "b")).emit id
    let request (update : Update) : Request := ⟨"2025-01-01T00:00:00Z", update⟩
    let requests :=
      [request ⟨[], [rule 1, rule 2]⟩, request ⟨[1], [rule 3, rule 2]⟩, request ⟨[1], [rule 3]⟩]
    let files := Files.empty ["home"]
    files.Sound ∧ files.readText "active-rules.json" = .error .notFound ∧
      (∀ request ∈ requests, Timestamp.isValid request.time = true) ∧
      Engine.answers (fun time => (FileEngine.mk "active-rules.json" time).engine) requests files =
        [⟨.ok (), .ok [rule 1, rule 2]⟩,
          ⟨.error (.engine (.duplicate 2)), .ok [rule 1, rule 2]⟩,
          ⟨.ok (), .ok [rule 2, rule 3]⟩] := by
  intro rule request requests files
  have unobstructed : files.Unobstructed "active-rules.json" :=
    .of_empty _ (by decide) (by decide)
  have missing := (Files.holds_empty ["home"] "active-rules.json").notFound unobstructed.serves
  have timed : ∀ request ∈ requests, Timestamp.isValid request.time = true := by decide +kernel
  obtain ⟨agree, served⟩ := agrees_with_memory "active-rules.json" files none requests
    (Files.sound_empty _) missing timed
  refine ⟨Files.sound_empty _, missing, timed, ?_⟩
  rw [agree (served unobstructed)]
  rfl

end FileEngine

end Redirects
