import Redirects.Proofs.Regex.Exchange.Escapes

/-!
# Groups with a path in the place of a wildcard

A group is closed before the slash, so that it is read alike if what stands in it is.
-/

namespace Redirects.Regex.Reader

variable {wild : List Char} (listed : wild ∈ wildTails)
include listed

theorem swaps_blanks (cursor : Cursor) : Swaps True wild cursor blanks blanks :=
  fun _ _ read => (blanks_exchanged listed read).imp_right fun ⟨nothing, _⟩ => ⟨trivial, nothing⟩

theorem swaps_closeGroup (cursor : Cursor) : Swaps False wild cursor closeGroup closeGroup := by
  rw [closeGroup]
  refine (swaps_blanks listed cursor).bind_fails ?_ fun _ place => .left ?_
  · intro _ between after nothing
    have left_eq : left between = .ok ([], between) := by rw [← nothing]; rfl
    rw [bind_ok left_eq]
    rintro ⟨⟩
  · cases rest_eq : place.rest with
    | nil => exact .fail _ _
    | cons c rest =>
        exact .ite (fun _ => .skip (by simp [rest_eq])) fun _ => .fail _ _

/-- A pattern in parentheses is read alike. -/
theorem Swaps.closed {α β : Type} {cursor : Cursor} {first inside : Reader α}
    {next others : α → Reader β} (front : Swaps True wild cursor first inside)
    (back : ∀ value place, Swaps False wild place (next value) (others value)) :
    Swaps False wild cursor (do let value ← first; closeGroup; next value)
      (do let value ← inside; closeGroup; others value) := by
  refine front.bind_fails ?_ fun value place =>
    .bind (swaps_closeGroup listed place) fun _ _ => back value _
  intro value between after nothing
  rw [bind_error (closeGroup_nil nothing)]
  exact nofun

section Nested

variable {nested : Reader Term} (swaps : ∀ cursor, Swaps True wild cursor nested nested)
include swaps

omit listed swaps in
theorem swaps_openGroup (cursor : Cursor) : Swaps False wild cursor openGroup openGroup := by
  rintro _ _ ⟨⟩
  exact .inl ⟨{ cursor with groups := cursor.groups + 1 }, rfl, rfl⟩

theorem swaps_namedGroup (start : Nat) (cursor : Cursor) :
    Swaps False wild cursor (namedGroup nested start) (namedGroup nested start) := by
  rw [namedGroup]
  refine .bind (swaps_openGroup cursor) fun number place => .left ?_
  rw [delimitedName?_within (harmless_wild listed) (by decide) (by decide),
    delimitedName?_within harmless_path (by decide) (by decide)]
  cases named : delimitedName? ['<'] ['>'] false place.rest with
  | none => exact .failAt _ _ _
  | some found =>
      obtain ⟨name, rest⟩ := found
      have enough : name.length + 2 ≤ place.rest.length := by
        simp [(delimitedName?_append harmless_nil _ _ _ named).1]
      exact .bind (.skip enough) fun _ _ => .bind (.modify fun _ => rfl) fun _ _ =>
        .closed listed (swaps _) fun inner _ => .pure _

theorem swaps_flagGroup {opened other : List Char} {start : Nat} {outside : Flags}
    {fuel further : Nat} (enough : fuel ≤ further) (negated : Bool) (cursor : Cursor) :
    Swaps False wild cursor (flagGroup nested opened start outside fuel negated)
      (flagGroup nested other start outside further negated) := by
  induction fuel generalizing further negated cursor with
  | zero => exact .fail _ _
  | succ fuel ih =>
      obtain ⟨further, rfl⟩ : ∃ other, further = other + 1 := ⟨further - 1, by omega⟩
      have enough : fuel ≤ further := Nat.le_of_succ_le_succ enough
      rw [flagGroup, flagGroup]
      refine (swaps_blanks listed cursor).bind_fails ?_ fun _ place => .get ?_
      · intro _ between after nothing
        obtain ⟨rest, position, flags, groups, names, numbered, referred⟩ := between
        cases nothing
        rintro ⟨⟩
      · obtain ⟨text, position, flags, groups, names, numbered, referred⟩ := place
        cases text with
        | nil =>
            -- the slash is no flag
            simp only [Cursor.within, List.nil_append, writtenPath]
            exact .failAt _ _ _
        | cons c rest =>
            have one_left : 1 ≤ (c :: rest).length := by simp
            simp only [Cursor.within, List.cons_append]
            by_cases hyphen : c = '-'
            · subst hyphen
              exact .ite (fun _ => .failAt _ _ _) fun _ => .bind (.skip one_left) fun _ _ =>
                ih enough _ _
            by_cases close : c = ')'
            · subst close
              exact .ite (fun _ => .failAt _ _ _) fun _ => .bind (.skip one_left) fun _ _ => .pure _
            by_cases colon : c = ':'
            · subst colon
              exact .ite (fun _ => .failAt _ _ _) fun _ => .bind (.skip one_left) fun _ _ =>
                .closed listed (swaps _) fun inner _ =>
                  .bind (.modify fun _ => rfl) fun _ _ => .pure _
            · cases switched_eq : switched? flags c !negated with
              | none =>
                  simp only [switched_eq]
                  exact .ite (fun _ => .fail _ _) fun _ => .failAt _ _ _
              | some switched =>
                  simp only [switched_eq]
                  have behind : Swaps False wild
                      ⟨c :: rest, position, switched, groups, names, numbered, referred⟩
                      (do skip 1; flagGroup nested opened start outside fuel negated)
                      (do skip 1; flagGroup nested other start outside further negated) :=
                    .bind (.skip one_left) fun _ _ => ih enough _ _
                  exact behind

/-- What follows the condition: the branches, or nothing behind a reference. -/
theorem swaps_conditionBranches (condition test : Term) (cursor : Cursor) :
    let behind : Reader Term := do
      let before ← position
      let branches ← nested
      if (← position) == before then
        if let .again _ := condition.bare then
          closeGroup
          return test
        else fail .expectedBranch
      else
        closeGroup
        let (yes, no) : Term × Term := match branches.bare with
          | .alt yes no => (yes, no)
          | term => (term, .empty)
        return if yes.isBlank && no.isBlank then test else .choose test yes no
    Swaps False wild cursor behind behind := by
  intro behind
  refine .position ((swaps cursor).bind_fails ?_ fun branches last => .position ?_)
  · intro branches last after nothing
    have position_eq : position last = .ok (last.position, last) := rfl
    rw [bind_ok position_eq]
    split
    · cases condition.bare with
      | again number =>
          dsimp only
          rw [bind_error (closeGroup_nil nothing)]
          exact nofun
      | _ => exact nofun
    · rw [bind_error (closeGroup_nil nothing)]
      exact nofun
  · refine .ite (fun _ => ?_) fun _ => .bind (swaps_closeGroup listed last) fun _ _ => .pure _
    cases condition.bare with
    | again number => exact .bind (swaps_closeGroup listed last) fun _ _ => .pure _
    | _ => exact .fail _ _

theorem swaps_conditional (cursor : Cursor) :
    Swaps False wild cursor (conditional nested) (conditional nested) := by
  rw [conditional]
  refine .left ?_
  have numbered : Swaps False wild cursor numberedReference numberedReference :=
    swaps_numberedReference listed cursor
  have named {opening closing : List Char} (opening_slashless : '/' ∉ opening)
      (closing_slashless : '/' ∉ closing) :
      Swaps False wild cursor (namedReference opening closing true)
        (namedReference opening closing true) :=
    swaps_namedReference listed opening_slashless closing_slashless true cursor
  cases rest_eq : cursor.rest with
  | nil =>
      -- the slash begins a condition of its own
      exact (swaps _).closed listed fun condition place =>
        swaps_conditionBranches listed swaps condition _ place
  | cons c rest =>
      rw [List.cons_append, List.cons_append]
      refine .ite (fun _ => ?_) fun _ => .ite (fun _ => ?_) fun _ => .ite (fun _ => ?_) fun _ => ?_
      · exact numbered.weaken.closed listed fun condition place =>
          swaps_conditionBranches listed swaps condition _ place
      · exact (named (by decide) (by decide)).weaken.closed listed fun condition place =>
          swaps_conditionBranches listed swaps condition _ place
      · exact (named (by decide) (by decide)).weaken.closed listed fun condition place =>
          swaps_conditionBranches listed swaps condition _ place
      · exact (swaps _).closed listed fun condition place =>
          swaps_conditionBranches listed swaps condition _ place

variable (stays : ∀ (cursor after : Cursor) (term : Term), nested cursor = .ok (term, after) →
  cursor.rest = [] → after.rest = [])
include stays

theorem swaps_groupBody (cursor : Cursor) :
    Swaps False wild cursor (groupBody nested) (groupBody nested) := by
  refine (swaps_blanks listed cursor).bind_fails ?_ fun _ place => .position (.left ?_)
  · intro _ between after nothing read
    have capture_eq : opening between.rest = .capture :=
      opening_eq_capture fun rest => by rw [nothing]; nofun
    obtain ⟨value, after⟩ := after
    change behindOpening nested between.position (opening between.rest) between = _ at read
    rw [capture_eq] at read
    obtain ⟨number, inside, opened_eq, read⟩ := bind_eq_ok_iff.mp read
    obtain ⟨inner, last, inner_eq, closed⟩ := bind_eq_ok_iff.mp read
    cases opened_eq
    rw [bind_error (closeGroup_nil (stays _ _ _ inner_eq nothing))] at closed
    contradiction
  rw [opening_append (harmless_wild listed), opening_append harmless_path]
  have taken_le := taken_opening_le place.rest
  cases opening_eq : opening place.rest with
  | look taken ahead wanted =>
      rw [opening_eq] at taken_le
      exact .bind (.skip taken_le) fun _ _ => (swaps _).closed listed fun inner _ => .pure _
  | named taken =>
      rw [opening_eq] at taken_le
      exact .bind (.skip taken_le) fun _ _ => swaps_namedGroup listed swaps _ _
  | reference =>
      rw [opening_eq] at taken_le
      exact .bind (.skip taken_le) fun _ _ =>
        swaps_namedReference listed (by decide) (by decide) _ _
  | atomic =>
      rw [opening_eq] at taken_le
      exact .bind (.skip taken_le) fun _ _ => (swaps _).closed listed fun inner _ => .pure _
  | condition =>
      rw [opening_eq] at taken_le
      exact .bind (.skip taken_le) fun _ _ => swaps_conditional listed swaps _
  | flags opened =>
      rw [opening_eq] at taken_le
      refine .bind (.skip taken_le) fun _ _ => .flags (swaps_flagGroup listed swaps ?_ _ _)
      have longer := length_wild_le listed
      simpa [writtenPath] using longer
  | capture =>
      exact .bind (swaps_openGroup _) fun _ _ => (swaps _).closed listed fun inner _ => .pure _

theorem swaps_group {cursor : Cursor} (some_char : cursor.rest ≠ []) :
    Swaps False wild cursor (group nested) (group nested) := by
  rw [group_eq]
  exact .bind (.skip (List.length_pos_iff.mpr some_char)) fun _ _ =>
    swaps_groupBody listed swaps stays _

end Nested

end Redirects.Regex.Reader
