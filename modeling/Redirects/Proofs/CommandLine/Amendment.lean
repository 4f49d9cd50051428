import Redirects.Proofs.CommandLine.Effect
import Redirects.Proofs.Rule.Validity

/-!
# Stored rules are valid

Without imports, a rule comes into the stored state through validation only: when it is added, and
when some of its texts are edited, which are then validated together with those that it keeps.  So
every stored rule is one that would be saved as it stands.
-/

namespace Redirects

/-- What a user can ask for of the stored state, imports aside. -/
inductive Amendment where
  | add (draft : Draft) (id : String)
  /-- Texts and the way to match that are not given stay those of the rule. -/
  | edit (id : String) (source destination : Option String) (kind : Option MatchKind)
  | remove (id : String)
  | clear
  | toggle (id : String)
  | switch (enabled : Bool)
deriving DecidableEq, Repr

namespace Amendment

/-- The stored state as it is asked for. -/
def apply (state : StoredState) : Amendment → Except Error StoredState
  | .add draft id => draft.validate.map fun draft =>
      { state with rules := (Rule.add state.rules draft id).1 }
  | .edit id source destination kind =>
      (Work.edited state.rules id source destination kind).map ({ state with rules := · })
  | .remove id => (Rule.remove state.rules id).map ({ state with rules := · })
  | .clear => .ok { state with rules := [] }
  | .toggle id => (Rule.toggle state.rules id).map ({ state with rules := · })
  | .switch enabled => .ok { state with enabled }

/-- The stored state after amendments, one after another; one that is rejected leaves it as it
is. -/
def applyAll (state : StoredState) (amendments : List Amendment) : StoredState :=
  amendments.foldl (fun state amendment => (amendment.apply state).toOption.getD state) state

end Amendment

/-- What a command asks for of the stored state, with the next name for a new rule. -/
def Command.amendment? (name : String) : Command → Option Amendment
  | .add source destination regex kind disabled =>
      let kind := kind.getD (if regex then .regex else .contains)
      some (.add { source, destination, kind, enabled := !disabled } name)
  | .edit id source destination kind => some (.edit id source destination kind)
  | .remove id => some (.remove id)
  | .clear true => some .clear
  | .toggle id => some (.toggle id)
  | .enable => some (.switch true)
  | .disable => some (.switch false)
  | _ => none

/-! ## The rules that are stored -/

namespace Rule

variable {rules after : List Rule} {id : String}

/-- A change of one rule leaves every rule in the list, but for those that it makes. -/
theorem mem_of_change {edit : Rule → Rule} (changed : change id edit rules = .ok after) {rule : Rule}
    (rule_mem : rule ∈ after) : rule ∈ rules ∨ ∃ other ∈ rules, rule = edit other := by
  induction rules generalizing after with
  | nil => cases changed
  | cons first rest ih =>
      rw [change] at changed
      split at changed
      · cases changed
        rcases List.mem_cons.mp rule_mem with rfl | rule_mem
        · exact .inr ⟨first, List.mem_cons_self, rfl⟩
        · exact .inl (List.mem_cons_of_mem _ rule_mem)
      · obtain ⟨others, rest_changed, rfl⟩ := exists_of_map_ok changed
        rcases List.mem_cons.mp rule_mem with rfl | rule_mem
        · exact .inl List.mem_cons_self
        · rcases ih rest_changed rule_mem with kept | ⟨other, other_mem, made⟩
          · exact .inl (List.mem_cons_of_mem _ kept)
          · exact .inr ⟨other, List.mem_cons_of_mem _ other_mem, made⟩

theorem mem_of_remove (removed : remove rules id = .ok after) {rule : Rule}
    (rule_mem : rule ∈ after) : rule ∈ rules := by
  simp only [remove] at removed
  split at removed
  · cases removed
  · cases removed
    exact List.mem_of_mem_filter rule_mem

end Rule

/-- Every stored rule is usable. -/
def StoredState.Usable (state : StoredState) : Prop := ∀ rule ∈ state.rules, rule.toDraft.Usable

namespace Amendment

variable {state after : StoredState}

/-- An edit validates the rule that it puts in the place of another. -/
theorem usable_of_edited {id : String} {source destination : Option String}
    {kind : Option MatchKind} {rules : List Rule} (usable : state.Usable)
    (edited : Work.edited state.rules id source destination kind = .ok rules) :
    ∀ rule ∈ rules, rule.toDraft.Usable := by
  rw [Work.edited] at edited
  split at edited
  · cases edited
  · obtain ⟨valid, accepted, updated⟩ := bind_ok_iff.mp edited
    intro rule rule_mem
    rcases Rule.mem_of_change updated rule_mem with kept | ⟨_, -, rfl⟩
    · exact usable rule kept
    · exact Rule.usable_of_validate accepted

/-- Whether a rule is enabled makes no difference to its validity. -/
theorem usable_of_toggle {id : String} {rules : List Rule} (usable : state.Usable)
    (toggled : Rule.toggle state.rules id = .ok rules) : ∀ rule ∈ rules, rule.toDraft.Usable := by
  intro rule rule_mem
  rcases Rule.mem_of_change toggled rule_mem with kept | ⟨other, other_mem, rfl⟩
  · exact usable rule kept
  · obtain ⟨source, destination, source_ne, destination_ne, differ, compiles⟩ :=
      usable other other_mem
    exact ⟨source, destination, source_ne, destination_ne, differ, compiles⟩

theorem usable_apply (usable : state.Usable) {amendment : Amendment}
    (applied : amendment.apply state = .ok after) : after.Usable := by
  cases amendment with
  | add draft id =>
      obtain ⟨saved, accepted, rfl⟩ := exists_of_map_ok applied
      intro rule rule_mem
      rcases List.mem_append.mp rule_mem with kept | added
      · exact usable rule kept
      · obtain rfl := List.mem_singleton.mp added
        exact Draft.usable_of_validate accepted
  | edit id source destination kind =>
      obtain ⟨rules, edited, rfl⟩ := exists_of_map_ok applied
      exact usable_of_edited usable edited
  | remove id =>
      obtain ⟨rules, removed, rfl⟩ := exists_of_map_ok applied
      exact fun rule rule_mem => usable rule (Rule.mem_of_remove removed rule_mem)
  | clear =>
      cases applied
      exact List.forall_mem_nil _
  | toggle id =>
      obtain ⟨rules, toggled, rfl⟩ := exists_of_map_ok applied
      exact usable_of_toggle usable toggled
  | switch enabled =>
      cases applied
      exact usable

theorem usable_applyAll (usable : state.Usable) (amendments : List Amendment) :
    (applyAll state amendments).Usable := by
  induction amendments generalizing state with
  | nil => exact usable
  | cons amendment amendments ih =>
      rw [applyAll, List.foldl_cons]
      refine ih ?_
      cases applied : amendment.apply state with
      | error error => exact usable
      | ok after => exact usable_apply usable applied

end Amendment

/-! ## The commands that amend -/

/-- What carrying out an amendment of the state that was read comes to. -/
inductive Amendment.Outcome (surroundings : Surroundings) (amendment : Amendment)
    (state : StoredState) (files : Files) : Except Failure Unit → Files → Prop
  /-- It is rejected, and nothing is written. -/
  | rejected {error : Error} (refused : amendment.apply state = .error error) :
      Outcome surroundings amendment state files (.error (.plain error)) files
  /-- There is nothing to amend. -/
  | idle (applied : amendment.apply state = .ok state) :
      Outcome surroundings amendment state files (.ok ()) files
  /-- The amended state was written, and then synchronised. -/
  | saved {next : StoredState} {saved : Files} (applied : amendment.apply state = .ok next)
      (wrote : surroundings.store.save next files = (.ok (), saved)) :
      Outcome surroundings amendment state files (.ok ())
        (sync surroundings.store.store surroundings.engine.engine saved).2
  | unsaved {next : StoredState} {error : Error} {left : Files}
      (applied : amendment.apply state = .ok next)
      (failed : surroundings.store.save next files = (.error error, left)) :
      Outcome surroundings amendment state files (.error (.plain error)) left

namespace Work

variable {surroundings : Surroundings} {desk : Desk} {state : StoredState} {amendment : Amendment}

/-- The work carries the amendment out. -/
def Amends {α : Type} (surroundings : Surroundings) (amendment : Amendment) (state : StoredState)
    (desk : Desk) (work : Work α) : Prop :=
  Meets work desk
    (fun _ after => amendment.Outcome surroundings state desk.files (.ok ()) after.files)
    fun failure after =>
      amendment.Outcome surroundings state desk.files (.error failure) after.files

theorem Amends.tell {α : Type} {work : Work α} {message : α → String}
    (amends : Amends surroundings amendment state desk work) :
    Amends surroundings amendment state desk
      (work >>= fun value => Work.tell surroundings (message value)) := by
  rw [Amends, meets_bind]
  exact Meets.mono amends (fun _ _ outcome => meets_tell fun _ => outcome)
    fun _ _ outcome => outcome

theorem amends_edit {α : Type} {change : StoredState → Work (StoredState × α)}
    (loaded : surroundings.store.load desk.files = .ok state)
    (changes : Meets (change state) desk
      (fun (next, _) mid => mid.files = desk.files ∧ amendment.apply state = .ok next)
      fun failure mid => mid.files = desk.files ∧
        ∃ error, failure = .plain error ∧ amendment.apply state = .error error) :
    Amends surroundings amendment state desk (edit surroundings change) := by
  refine meets_edit (fun error unread => ?_) fun before read => ?_
  · rw [loaded] at unread
    cases unread
  · obtain rfl := Except.ok.inj (loaded.symm.trans read)
    refine changes.mono ?_ ?_
    · rintro ⟨next, value⟩ mid ⟨same_files, applied⟩
      rw [same_files]
      exact ⟨fun _ _ failed => .unsaved applied failed, fun _ _ wrote => .saved applied wrote⟩
    · rintro _ mid ⟨same_files, error, rfl, refused⟩
      rw [same_files]
      exact .rejected refused

theorem amends_editRules {change : List Rule → Except Error (List Rule)}
    (loaded : surroundings.store.load desk.files = .ok state)
    (same : amendment.apply state = (change state.rules).map ({ state with rules := · })) :
    Amends surroundings amendment state desk (editRules surroundings change) := by
  refine amends_edit loaded ?_
  simp only [meets_bind, meets_ofExcept, meets_pure]
  refine ⟨fun rules changed => ⟨trivial, ?_⟩, fun error refused => ⟨trivial, error, rfl, ?_⟩⟩
  · rw [same, changed]
    rfl
  · rw [same, refused]
    rfl

theorem amends_switch (enabled : Bool) (loaded : surroundings.store.load desk.files = .ok state) :
    Amends surroundings (.switch enabled) state desk (switch surroundings enabled) :=
  amends_edit loaded ((meets_pure _).mpr ⟨rfl, rfl⟩)

/-- A command that asks for an amendment of the stored state carries it out. -/
theorem amends_perform {command : Command}
    (asked : command.amendment? desk.names.next.1 = some amendment)
    (loaded : surroundings.store.load desk.files = .ok state) :
    Amends surroundings amendment state desk (perform surroundings command) := by
  cases command with
  | add source destination regex kind disabled =>
      obtain rfl := Option.some.inj asked
      rw [Amends, perform, meets_bind, meets_ofExcept]
      refine ⟨fun draft accepted => ?_, fun error refused => .rejected ?_⟩
      · refine Amends.tell (amends_edit loaded ?_)
        simp only [meets_bind, meets_nextName, meets_pure]
        exact ⟨trivial, by rw [Amendment.apply, accepted]; rfl⟩
      · rw [Amendment.apply, refused]
        rfl
  | edit id source destination kind =>
      obtain rfl := Option.some.inj asked
      exact (amends_editRules loaded rfl).tell
  | remove id =>
      obtain rfl := Option.some.inj asked
      exact (amends_editRules loaded rfl).tell
  | clear yes =>
      cases yes with
      | false => cases asked
      | true =>
          obtain rfl := Option.some.inj asked
          rw [Amends, perform, meets_bind, meets_load]
          refine ⟨fun read load_eq => ?_, fun error unread => ?_⟩
          · obtain rfl := Except.ok.inj (loaded.symm.trans load_eq)
            dsimp only
            split
            · next none_left =>
                -- The list is empty already, and is not written again.
                have empty : state.rules = [] := List.length_eq_zero_iff.mp none_left
                exact meets_tell fun _ => .idle (by rw [Amendment.apply, ← empty])
            · exact (amends_editRules loaded rfl).tell
          · rw [loaded] at unread
            cases unread
  | toggle id =>
      obtain rfl := Option.some.inj asked
      refine Amends.tell (amends_edit loaded ?_)
      simp only [meets_bind, meets_ofExcept, meets_pure]
      refine ⟨fun rules toggled => ⟨trivial, ?_⟩, fun error refused => ⟨trivial, error, rfl, ?_⟩⟩
      · rw [Amendment.apply, toggled]
        rfl
      · rw [Amendment.apply, refused]
        rfl
  | enable =>
      obtain rfl := Option.some.inj asked
      exact (amends_switch true loaded).tell
  | disable =>
      obtain rfl := Option.some.inj asked
      exact (amends_switch false loaded).tell
  | _ => cases asked

end Work

/-- Whatever is asked for, starting without rules, every stored rule is saved again as it stands: its
texts are trimmed, not empty and different, and the source of a pattern rule is a pattern.  This is
what the commands do to the stored state; where one is rejected nothing is written. -/
theorem stored_rules_are_valid (enabled : Bool) (amendments : List Amendment) :
    let state := Amendment.applyAll { enabled } amendments
    (∀ rule ∈ state.rules, rule.validate = .ok rule ∧ rule.toDraft.Usable) ∧
      ∀ (surroundings : Surroundings) (command : Command) (desk : Desk) (amendment : Amendment),
        command.amendment? desk.names.next.1 = some amendment →
        surroundings.store.load desk.files = .ok state →
        let ran := (Work.perform surroundings command).run.run desk
        amendment.Outcome surroundings state desk.files ran.1 ran.2.files ∧
          ∀ error, amendment.apply state = .error error →
            ran.1 = .error (.plain error) ∧ ran.2.files = desk.files := by
  intro state
  have without_rules : StoredState.Usable { enabled } := List.forall_mem_nil _
  constructor
  · intro rule rule_mem
    have usable : rule.toDraft.Usable :=
      Amendment.usable_applyAll without_rules amendments rule rule_mem
    exact ⟨Rule.validate_self_iff.mpr usable, usable⟩
  · intro surroundings command desk amendment asked loaded ran
    have outcome : amendment.Outcome surroundings state desk.files ran.1 ran.2.files := by
      have amends := Work.amends_perform asked loaded
      rw [Work.Amends, Work.meets_iff] at amends
      split at amends
      · next performed => simpa only [ran, performed] using amends
      · next performed => simpa only [ran, performed] using amends
    refine ⟨outcome, fun error refused => ?_⟩
    generalize ran.1 = result at outcome ⊢
    generalize ran.2.files = after at outcome ⊢
    cases outcome with
    | rejected refused' =>
        rw [refused] at refused'
        cases refused'
        exact ⟨rfl, rfl⟩
    | idle applied => exact nomatch refused.symm.trans applied
    | saved applied => exact nomatch refused.symm.trans applied
    | unsaved applied => exact nomatch refused.symm.trans applied

/-- A rule whose source is no pattern is added, and cannot become a pattern rule; another destination
for it is trimmed.  A rule that would redirect to itself is turned down by the program. -/
theorem stored_rules_are_valid_edited :
    let draft : Draft := { source := " http://a/(\t", destination := "\nhttp://b/" }
    let amendments : List Amendment :=
      [.add draft "#1", .edit "#1" none none (some .regex),
        .edit "#1" none (some " http://c/ ") none, .toggle "#1"]
    let kept : Rule :=
      { source := "http://a/(", destination := "http://c/", enabled := false, id := "#1" }
    let surroundings : Surroundings :=
      { store := ⟨"rules.json"⟩
        engine := ⟨"active-rules.json", "2025-01-01T00:00:00Z"⟩
        palette := .plain
        maxHops := 10
        quiet := false }
    let desk : Desk := { files := Files.empty ["home"] }
    let ran := (Work.perform surroundings (.add " a" "a " false none false)).run.run desk
    (Amendment.applyAll {} amendments).rules = [kept] ∧ kept.validate = .ok kept ∧
      surroundings.store.load desk.files = .ok {} ∧
      ran.1 = .error (.plain (.invalid .sameSourceAndDestination)) ∧ ran.2.files = desk.files := by
  intro draft amendments kept surroundings desk ran
  have stored : (Amendment.applyAll {} amendments).rules = [kept] := by decide +kernel
  have loaded : surroundings.store.load desk.files = .ok {} := by decide +kernel
  have valid := (stored_rules_are_valid true amendments).1 kept (stored ▸ List.mem_singleton_self _)
  have performs := (stored_rules_are_valid true []).2 surroundings (.add " a" "a " false none false)
    desk _ rfl loaded
  exact ⟨stored, valid.1, loaded, performs.2 _ (by decide +kernel)⟩

end Redirects
