import Mathlib.Data.List.Nodup
import Redirects.Proofs.Sync.Steps

/-!
# Numbers stay unique

An update is rejected for the first of its rules whose number is taken at its turn: by a rule that
is kept, or by one that was added before it.  What is accepted has no number twice that was not there
twice before, so active rules with distinct numbers keep them distinct, whatever is done.
-/

namespace Redirects

namespace Update

variable {kept additions rest : List DeclarativeRule} {first rule : DeclarativeRule}

/-- The first of the added rules whose number is taken, by a kept rule or by one added before it. -/
def FirstTaken (kept additions : List DeclarativeRule) (rule : DeclarativeRule) : Prop :=
  ∃ front back, additions = front ++ rule :: back ∧ rule.id ∈ (kept ++ front).map (·.id) ∧
    ∀ earlier other later, front = earlier ++ other :: later →
      other.id ∉ (kept ++ earlier).map (·.id)

theorem not_firstTaken_nil : ¬FirstTaken kept [] rule := by
  rintro ⟨front, back, split, -⟩
  exact List.append_ne_nil_of_right_ne_nil front (List.cons_ne_nil rule back) split.symm

theorem firstTaken_cons_of_mem (taken : first.id ∈ kept.map (·.id)) :
    FirstTaken kept (first :: rest) rule ↔ rule = first := by
  constructor
  · rintro ⟨front, back, split, -, free⟩
    cases front with
    | nil => exact (List.cons.inj split).1.symm
    | cons head front =>
        obtain rfl := (List.cons.inj split).1
        have head_free := free [] first front rfl
        rw [List.append_nil] at head_free
        exact absurd taken head_free
  · rintro rfl
    refine ⟨[], rest, rfl, by rwa [List.append_nil], fun earlier other later split => ?_⟩
    exact absurd split.symm (List.append_ne_nil_of_right_ne_nil earlier (List.cons_ne_nil other later))

/-- A rule whose number is free counts as kept for those behind it. -/
theorem firstTaken_cons_of_not_mem (free : first.id ∉ kept.map (·.id)) :
    FirstTaken kept (first :: rest) rule ↔ FirstTaken (kept ++ [first]) rest rule := by
  constructor
  · rintro ⟨front, back, split, taken, before⟩
    cases front with
    | nil =>
        obtain rfl := (List.cons.inj split).1
        rw [List.append_nil] at taken
        exact absurd taken free
    | cons head front =>
        obtain ⟨rfl, rfl⟩ := List.cons.inj split
        refine ⟨front, back, rfl, ?_, fun earlier other later split => ?_⟩
        · rwa [List.append_assoc]
        · rw [List.append_assoc]
          exact before (first :: earlier) other later (congrArg (List.cons first) split)
  · rintro ⟨front, back, rfl, taken, before⟩
    refine ⟨first :: front, back, rfl, ?_, fun earlier other later split => ?_⟩
    · rwa [List.append_assoc] at taken
    · cases earlier with
      | nil =>
          obtain rfl := (List.cons.inj split).1
          rwa [List.append_nil]
      | cons head earlier =>
          obtain ⟨rfl, front_eq⟩ := List.cons.inj split
          have other_free := before earlier other later front_eq
          rwa [List.append_assoc] at other_free

theorem addAll_eq_error_iff {error : Error} :
    addAll kept additions = .error error ↔
      ∃ rule, FirstTaken kept additions rule ∧ error = .engine (.duplicate rule.id) := by
  induction additions generalizing kept with
  | nil => simp [addAll, not_firstTaken_nil]
  | cons first rest ih =>
      have taken_iff : kept.any (·.id = first.id) = true ↔ first.id ∈ kept.map (·.id) := by
        simp
      rw [addAll]
      by_cases taken : first.id ∈ kept.map (·.id)
      · rw [if_pos (taken_iff.mpr taken)]
        simp only [firstTaken_cons_of_mem taken, Except.error.injEq, exists_eq_left]
        exact eq_comm
      · rw [if_neg (mt taken_iff.mp taken), ih]
        simp only [firstTaken_cons_of_not_mem taken]

/-- What an update makes of distinct numbers is distinct. -/
theorem nodup_of_apply {update : Update} {active result : List DeclarativeRule}
    (distinct : (active.map (·.id)).Nodup) (applied : update.apply active = .ok result) :
    (result.map (·.id)).Nodup := by
  obtain ⟨rfl, new_distinct, apart⟩ := apply_eq_ok_iff.mp applied
  rw [List.map_append]
  refine List.Nodup.append ((List.filter_sublist.map _).nodup distinct) new_distinct ?_
  intro number old_number new_number
  obtain ⟨old, old_mem, rfl⟩ := List.mem_map.mp old_number
  obtain ⟨new, new_mem, same⟩ := List.mem_map.mp new_number
  exact apart old old_mem new new_mem same.symm

end Update

namespace Session

variable {session : Session}

theorem nodup_replace (distinct : (session.engine.rules.map (·.id)).Nodup) (update : Update) :
    ((session.replace update).2.engine.rules.map (·.id)).Nodup := by
  cases refusing : session.engine.refusing with
  | true =>
      rw [replace_of_refusing refusing]
      exact distinct
  | false =>
      cases applied : update.apply session.engine.rules with
      | ok rules =>
          rw [replace_of_apply_ok refusing applied]
          exact Update.nodup_of_apply distinct applied
      | error error =>
          rw [replace_of_apply_error refusing applied]
          exact distinct

theorem nodup_trySync (distinct : (session.engine.rules.map (·.id)).Nodup) :
    ((trySync memoryStore memoryEngine session).2.engine.rules.map (·.id)).Nodup := by
  cases ran : trySync memoryStore memoryEngine session with
  | mk result after =>
      cases result with
      | error failure =>
          rw [(keeps_of_trySync_error ran).rules]
          exact distinct
      | ok outcome =>
          obtain ⟨state, -, -, -, installed, -⟩ := of_trySync_ok ran
          rw [installed]
          exact compile_ids_nodup _ _

/-- No step of a session brings in a number twice. -/
theorem nodup_step (distinct : (session.engine.rules.map (·.id)).Nodup) (action : Action) :
    ((session.step action).after.engine.rules.map (·.id)).Nodup := by
  cases action with
  | sync => exact nodup_trySync distinct
  | trySync => exact nodup_trySync distinct
  | replace update => exact nodup_replace distinct update
  | save state => exact distinct
  | load => exact distinct
  | swapStore store => exact distinct
  | setRefusing refusing => exact distinct

theorem nodup_run (distinct : (session.engine.rules.map (·.id)).Nodup) (actions : List Action) :
    ((session.run actions).engine.rules.map (·.id)).Nodup := by
  induction actions generalizing session with
  | nil => exact distinct
  | cons action actions ih => exact ih (nodup_step distinct action)

end Session

/-- An update is accepted exactly when the numbers that it adds are distinct and none of them is
kept, and then what it adds stands behind what it keeps; otherwise the error names the first of its
rules whose number is taken.  So distinct numbers stay distinct in every session, and no compiled
rules are ever turned down in the place of all active ones. -/
theorem accepts_unique_numbers (active : List DeclarativeRule) (update : Update) :
    (∀ result, update.apply active = .ok result ↔
      result = update.kept active ++ update.additions ∧ (update.additions.map (·.id)).Nodup ∧
        ∀ new ∈ update.additions, new.id ∉ (update.kept active).map (·.id)) ∧
    (∀ error, update.apply active = .error error ↔
      ∃ rule, Update.FirstTaken (update.kept active) update.additions rule ∧
        error = .engine (.duplicate rule.id)) ∧
    (∀ store, (active.map (·.id)).Nodup → ∀ actions : List Session.Action,
      (((Session.mk store { rules := active }).run actions).engine.rules.map (·.id)).Nodup) ∧
    ∀ rules enabled, (Update.replaceAll active (compile rules enabled)).apply active =
      .ok (compile rules enabled) := by
  have apart_iff : (∀ old ∈ update.kept active, ∀ new ∈ update.additions, old.id ≠ new.id) ↔
      ∀ new ∈ update.additions, new.id ∉ (update.kept active).map (·.id) := by
    simp only [List.mem_map, not_exists, not_and]
    exact ⟨fun apart new new_mem old old_mem => apart old old_mem new new_mem,
      fun apart old old_mem new new_mem => apart new new_mem old old_mem⟩
  refine ⟨fun result => ?_, fun error => Update.addAll_eq_error_iff,
    fun store distinct actions => Session.nodup_run distinct actions,
    fun rules enabled => Update.apply_replaceAll_self (compile_ids_nodup rules enabled)⟩
  rw [Update.apply_eq_ok_iff, apart_iff]

/-- A number is taken out and added again, and behind it another is added twice: the update is
rejected, and what was active stays active. -/
theorem accepts_unique_numbers_added_again :
    let rule (id : UInt32) (text : String) : DeclarativeRule :=
      (Synthesis.mk (.substring text) (.url "http://b/")).emit id
    let active := [rule 1 "a", rule 2 "a"]
    let update : Update := ⟨[1, 7], [rule 1 "b", rule 3 "b", rule 4 "b", rule 3 "c", rule 2 "c"]⟩
    update.apply active = .error (.engine (.duplicate 3)) ∧ (active.map (·.id)).Nodup ∧
      (((Session.mk none { rules := active }).run
        [.replace update, .replace ⟨[1], [rule 1 "b"]⟩, .sync]).engine.rules.map (·.id)).Nodup := by
  intro rule active update
  obtain ⟨-, rejected, distinct_after, -⟩ := accepts_unique_numbers active update
  have distinct : (active.map (·.id)).Nodup := by decide
  refine ⟨(rejected _).mpr ⟨rule 3 "c", ?_, rfl⟩, distinct, distinct_after none distinct _⟩
  refine ⟨[rule 1 "b", rule 3 "b", rule 4 "b"], [rule 2 "c"], rfl, by decide, ?_⟩
  intro earlier other later split
  rcases earlier with _ | ⟨head, _ | ⟨second, _ | ⟨third, earlier⟩⟩⟩ <;> simp at split
  · obtain ⟨rfl, -⟩ := split
    decide
  · obtain ⟨rfl, rfl, -⟩ := split
    decide
  · obtain ⟨rfl, rfl, rfl, -⟩ := split
    decide

end Redirects
