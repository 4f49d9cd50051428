import Redirects.Proofs.Regex.Inside.Branches

/-!
# The progress of reading

A part that passes over nothing is empty and changes nothing, so the parts of a branch end at the end
of the pattern or where no blanks stand.  A choice is read as the parts of its first branch and the
branches behind it.
-/

namespace Redirects.Regex.Reader

theorem harmless_nil : Harmless [] := ⟨nofun, nofun⟩

/-! ## Readers that pass over some text -/

theorem onward_of_blanks {cursor after : Cursor} (read : blanks cursor = .ok ((), after)) :
    cursor.Onward after := by
  have agrees : Agrees ([] = ([] : List Char)) 0 [] cursor blanks blanks :=
    agrees_blanks harmless_nil cursor .inr
  exact (agrees () after read).1

theorem onward_of_quantified {cursor after : Cursor} {term found : Term}
    (read : quantified term cursor = .ok (found, after)) :
    cursor.Onward after := by
  have agrees : Agrees ([] = ([] : List Char)) 0 [] cursor (quantified term) (quantified term) :=
    agrees_quantified harmless_nil term cursor .inr
  exact (agrees found after read).1

/-- Blanks change nothing but the place. -/
theorem eq_of_blanks_stay {cursor after : Cursor} (read : blanks cursor = .ok ((), after))
    (stays : after.position = cursor.position) : after = cursor := by
  have rest_eq := (onward_of_blanks read).rest_eq_of_position stays
  rw [blanks] at read
  split at read
  · split at read
    · cases read
      obtain ⟨rest, position, flags, groups, names, numbered, referred⟩ := cursor
      cases rest_eq
      cases stays
      rfl
    · cases read
  · cases read
    rfl

/-- A reader passes over some text. -/
def Advances {α : Type} (cursor : Cursor) (reader : Reader α) : Prop :=
  ∀ value after, reader cursor = .ok (value, after) → cursor.position < after.position

namespace Advances

variable {α β : Type} {cursor : Cursor}

theorem skip_bind {count : Nat} (some_char : cursor.rest ≠ []) (some_count : 0 < count)
    {next : Unit → Reader α}
    (back : ∀ value between, Alike 0 [] between (next value) (next value)) :
    Advances cursor (skip count >>= next) := by
  intro value after read
  obtain ⟨_, between, between_eq, next_eq⟩ := bind_eq_ok_iff.mp read
  obtain ⟨passed, -, position_eq⟩ := (back _ between value after next_eq).1
  cases between_eq
  have taken : Text.byteLength (cursor.rest.take count) ≠ 0 := by
    rw [ne_eq, Text.byteLength_eq_zero_iff, List.take_eq_nil_iff]
    simp [some_char, Nat.ne_of_gt some_count]
  rw [position_eq]
  simp only
  omega

theorem flags {next : Flags → Reader α} (back : Advances cursor (next cursor.flags)) :
    Advances cursor (flags >>= next) := back

theorem left {next : List Char → Reader α} (back : Advances cursor (next cursor.rest)) :
    Advances cursor (left >>= next) := back

theorem position {next : Nat → Reader α} (back : Advances cursor (next cursor.position)) :
    Advances cursor (position >>= next) := back

theorem fail (reason : Reason) : Advances cursor (fail reason : Reader α) := by
  rintro _ _ ⟨⟩

theorem failAt (position : Nat) (reason : Reason) :
    Advances cursor (failAt position reason : Reader α) := by
  rintro _ _ ⟨⟩

theorem ite {condition : Prop} [Decidable condition] {first second : Reader α}
    (yes : condition → Advances cursor first) (no : ¬condition → Advances cursor second) :
    Advances cursor (if condition then first else second) := by
  split
  · exact yes ‹_›
  · exact no ‹_›

theorem bind {first : Reader α} {next : α → Reader β} (front : Advances cursor first)
    (back : ∀ value between, Alike 0 [] between (next value) (next value)) :
    Advances cursor (first >>= next) := by
  intro value after read
  obtain ⟨found, between, first_eq, next_eq⟩ := bind_eq_ok_iff.mp read
  have front_lt := front found between first_eq
  obtain ⟨passed, -, position_eq⟩ := (back found between value after next_eq).1
  omega

end Advances

theorem advances_escape (inBracket : Bool) (cursor : Cursor) :
    Advances cursor (escape inBracket) := by
  rw [escape]
  refine .position (.left ?_)
  rcases rest_eq : cursor.rest with _ | ⟨q, _ | ⟨c, rest⟩⟩
  · exact .failAt _ _
  · exact .failAt _ _
  have some_char : cursor.rest ≠ [] := by simp [rest_eq]
  have passed {α : Type} {next : Reader α}
      (back : ∀ between, Alike 0 [] between next next) :
      Advances cursor (skip 2 >>= fun _ => next) :=
    .skip_bind some_char (by decide) fun _ => back
  simp only [List.drop_one, List.tail_cons]
  refine .ite (fun _ => ?_) fun _ => ?_
  · exact .skip_bind some_char (by decide) fun _ _ =>
      .bind (alike_numberedReference harmless_nil _) fun _ _ _ => .pure _
  refine .ite (fun _ => ?_) fun _ => ?_
  · refine passed fun _ => .ite (fun _ => ?_) fun _ => ?_
    · exact .bind (alike_namedReference harmless_nil _ _ _ _) fun _ _ _ => .pure _
    · exact .bind (alike_namedReference harmless_nil _ _ _ _) fun _ _ _ => .pure _
  refine .ite (fun _ => .failAt _ _) fun _ => ?_
  split
  · exact passed fun _ => .pure _
  split
  · exact passed fun _ => .pure _
  refine .ite (fun _ => passed fun _ => alike_hexChar harmless_nil 2 _) fun _ => ?_
  refine .ite (fun _ => passed fun _ => alike_hexChar harmless_nil 4 _) fun _ => ?_
  refine .ite (fun _ => passed fun _ => alike_hexChar harmless_nil 8 _) fun _ => ?_
  refine .ite (fun _ => passed fun _ => alike_propertySet _ _) fun _ => ?_
  split
  · exact passed fun _ => .pure _
  · exact .ite (fun _ => .failAt _ _) fun _ => passed fun _ => .pure _

section Stays

variable {nested : Reader Term}
  (agrees : ∀ cursor, Agrees ([] = ([] : List Char)) 0 [] cursor nested nested)
include agrees

/-- An atom that passes over nothing is empty. -/
theorem atomAt_stays {flags : Flags} {cursor after : Cursor} {c : Char} {rest : List Char}
    {term : Term} (rest_eq : cursor.rest = c :: rest)
    (read : atomAt (group nested) flags c cursor = .ok (term, after))
    (stays : after.position = cursor.position) : term = .empty ∧ after = cursor := by
  have some_char : cursor.rest ≠ [] := by simp [rest_eq]
  have onward {reader : Reader Term} (advances : Advances cursor reader)
      (read : reader cursor = .ok (term, after)) : term = .empty ∧ after = cursor :=
    absurd stays (Nat.ne_of_gt (advances term after read))
  have taken (term : Term) : Advances cursor (do skip 1; return term) :=
    .skip_bind some_char (by decide) fun _ _ => .pure _
  revert read
  fun_cases atomAt (group nested) flags c with
  | case4 =>
      rw [group_eq]
      exact onward (.skip_bind some_char (by decide) fun _ _ =>
        alike_groupBody harmless_nil agrees _)
  | case5 =>
      rw [bracket_eq]
      exact onward (.flags (.skip_bind some_char (by decide) fun _ _ =>
        alike_bracketBody harmless_nil _ _))
  | case6 =>
      exact onward ((advances_escape false cursor).bind fun escaped between =>
        alike_escapedTerm escaped _)
  | case7 =>
      rintro ⟨⟩
      exact ⟨rfl, rfl⟩
  | _ => exact onward (taken _)

/-- A part that passes over nothing is empty, and no blanks stand there. -/
theorem part_stays {cursor after : Cursor} {term : Term}
    (read : part (group nested) cursor = .ok (term, after))
    (stays : after.position = cursor.position) :
    term = .empty ∧ after = cursor ∧ blanks cursor = .ok ((), cursor) := by
  rw [part_eq] at read
  obtain ⟨first, between, atom_read, quantified_read⟩ := bind_eq_ok_iff.mp read
  rw [atom_eq] at atom_read
  obtain ⟨_, place, blanks_read, visible_read⟩ := bind_eq_ok_iff.mp atom_read
  have visible : Agrees ([] = ([] : List Char)) 0 [] place (visibleAtom (group nested))
      (visibleAtom (group nested)) :=
    agrees_visibleAtom harmless_nil (fun _ => alike_group harmless_nil agrees) place
  have blanks_le := (onward_of_blanks blanks_read).position_le
  have visible_le := (visible first between visible_read).1.position_le
  have quantified_le := (onward_of_quantified quantified_read).position_le
  obtain rfl : place = cursor := eq_of_blanks_stay blanks_read (by omega)
  obtain ⟨rfl, rfl⟩ : first = .empty ∧ between = place := by
    cases rest_eq : place.rest with
    | nil =>
        rw [visibleAtom_nil _ rest_eq] at visible_read
        cases visible_read
        exact ⟨rfl, rfl⟩
    | cons c rest =>
        rw [visibleAtom_cons _ rest_eq] at visible_read
        exact atomAt_stays agrees rest_eq visible_read (by omega)
  have get_eq : (get : Reader Cursor) between = .ok (between, between) := rfl
  rw [quantified, bind_ok blanks_read, bind_ok get_eq] at quantified_read
  cases counted : count? between with
  | none =>
      rw [counted] at quantified_read
      cases quantified_read
      exact ⟨rfl, rfl, blanks_read⟩
  | some count =>
      rw [counted] at quantified_read
      cases quantified_read

end Stays

/-- Behind blanks there are none. -/
theorem blanks_blanks {cursor place : Cursor} (read : blanks cursor = .ok ((), place)) :
    blanks place = .ok ((), place) := by
  have visible : startsBlank place.flags.spaced place.rest = false := by
    rw [flags_of_blanks read]
    rw [blanks] at read
    split at read
    · split at read
      · next passed =>
          cases read
          exact visible_of_pastBlanks (Nat.lt_succ_self _) passed
      · cases read
    · next visible =>
        cases read
        simpa using visible
  rw [blanks, if_neg (by simp [visible])]

/-! ## Parts in turn -/

/-- The parts behind one that moved on. -/
theorem parts_of_part {group : Reader Term} {cursor between : Cursor} {term : Term}
    (some_char : cursor.rest ≠ []) (part_read : part group cursor = .ok (term, between))
    (moved : between.position ≠ cursor.position) {fuel : Nat} :
    parts group (fuel + 1) cursor = (do
      let terms ← parts group fuel
      return if term.isBlank then terms else term :: terms) between := by
  have position_eq : Reader.position cursor = .ok (cursor.position, cursor) := rfl
  have left_eq : left cursor = .ok (cursor.rest, cursor) := rfl
  have between_eq : Reader.position between = .ok (between.position, between) := rfl
  rw [parts, bind_ok position_eq, bind_ok left_eq, if_neg (by simpa using some_char),
    bind_ok part_read, bind_ok between_eq, if_neg (by simpa using moved)]

/-- The first of some parts: it stays where it is and nothing follows, or it moves on. -/
theorem exists_part_of_parts {group : Reader Term} {cursor after : Cursor} {terms : List Term}
    {fuel : Nat} (some_char : cursor.rest ≠ [])
    (read : parts group (fuel + 1) cursor = .ok (terms, after)) :
    ∃ term between, part group cursor = .ok (term, between) ∧
      (between.position = cursor.position ∧ terms = [] ∧ between = after ∨
        between.position ≠ cursor.position ∧ ∃ more, parts group fuel between = .ok (more, after) ∧
          (if term.isBlank then more else term :: more) = terms) := by
  rw [parts] at read
  obtain ⟨_, _, ⟨⟩, read⟩ := bind_eq_ok_iff.mp read
  obtain ⟨_, _, ⟨⟩, read⟩ := bind_eq_ok_iff.mp read
  rw [if_neg (by simpa using some_char)] at read
  obtain ⟨term, between, part_read, read⟩ := bind_eq_ok_iff.mp read
  obtain ⟨_, _, ⟨⟩, read⟩ := bind_eq_ok_iff.mp read
  refine ⟨term, between, part_read, ?_⟩
  by_cases stays : between.position = cursor.position
  · rw [if_pos (beq_iff_eq.mpr stays)] at read
    cases read
    exact .inl ⟨stays, rfl, rfl⟩
  · rw [if_neg (by simpa using stays)] at read
    obtain ⟨more, last, more_read, read⟩ := bind_eq_ok_iff.mp read
    cases read
    exact .inr ⟨stays, more, more_read, rfl⟩

theorem parts_nil (group : Reader Term) {cursor : Cursor} (nothing : cursor.rest = []) (fuel : Nat) :
    parts group fuel cursor = .ok ([], cursor) := by
  obtain ⟨rest, position, flags, groups, names, numbered, referred⟩ := cursor
  cases nothing
  cases fuel <;> rfl

section Nested

variable {nested : Reader Term}
  (agrees : ∀ cursor, Agrees ([] = ([] : List Char)) 0 [] cursor nested nested)
include agrees

theorem onward_of_part {cursor after : Cursor} {term : Term}
    (read : part (group nested) cursor = .ok (term, after)) : cursor.Onward after :=
  (agrees_part harmless_nil (fun _ => alike_group harmless_nil agrees) cursor term after read).1

theorem onward_of_parts {fuel : Nat} {cursor after : Cursor} {terms : List Term}
    (enough : cursor.rest.length < fuel)
    (read : parts (group nested) fuel cursor = .ok (terms, after)) : cursor.Onward after :=
  (agrees_parts harmless_nil (fun _ => alike_group harmless_nil agrees) enough enough terms after
    read).1

/-- Parts end at the end of the pattern or where no blanks stand. -/
theorem blanks_of_parts {fuel : Nat} {cursor after : Cursor} {terms : List Term}
    (enough : cursor.rest.length < fuel)
    (read : parts (group nested) fuel cursor = .ok (terms, after)) :
    blanks after = .ok ((), after) := by
  induction fuel generalizing cursor terms with
  | zero => contradiction
  | succ fuel ih =>
      by_cases some_char : cursor.rest = []
      · rw [parts_nil _ some_char] at read
        cases read
        exact blanks_nil some_char
      · obtain ⟨term, between, part_read, ⟨stays, -, rfl⟩ | ⟨moved, more, more_read, -⟩⟩ :=
          exists_part_of_parts some_char read
        · obtain ⟨-, rfl, still⟩ := part_stays agrees part_read stays
          exact still
        · have shorter := (onward_of_part agrees part_read).length_lt_of_position moved
          exact ih (by omega) more_read

omit agrees in
theorem exists_blanks_of_parts {fuel : Nat} {cursor after : Cursor} {terms : List Term}
    (read : parts (group nested) (fuel + 1) cursor = .ok (terms, after)) :
    ∃ place, blanks cursor = .ok ((), place) := by
  by_cases some_char : cursor.rest = []
  · exact ⟨cursor, blanks_nil some_char⟩
  · obtain ⟨term, between, part_read, -⟩ := exists_part_of_parts some_char read
    rw [part_eq, atom_eq] at part_read
    obtain ⟨_, _, atom_read, -⟩ := bind_eq_ok_iff.mp part_read
    obtain ⟨_, place, blanks_read, -⟩ := bind_eq_ok_iff.mp atom_read
    exact ⟨place, blanks_read⟩

/-- Parts are the same with any number of them allowed that is large enough. -/
theorem parts_of_enough {fuel further : Nat} {cursor after : Cursor} {terms : List Term}
    (enough : cursor.rest.length < fuel) (enough_further : cursor.rest.length < further)
    (read : parts (group nested) fuel cursor = .ok (terms, after)) :
    parts (group nested) further cursor = .ok (terms, after) := by
  have same := (agrees_parts harmless_nil (fun _ => alike_group harmless_nil agrees) enough
    enough_further terms after read).2 (.inr rfl)
  rwa [Cursor.within_zero_nil, Cursor.within_zero_nil] at same

omit agrees in
theorem part_behind_blanks {cursor place : Cursor} (read : blanks cursor = .ok ((), place)) :
    part (group nested) cursor = part (group nested) place := by
  rw [part_eq]
  refine bind_congr ?_
  rw [atom_eq, bind_ok read, bind_ok (blanks_blanks read)]

/-- Blanks in front of some parts may be passed before. -/
theorem parts_behind_blanks {fuel further : Nat} {cursor place after : Cursor} {terms : List Term}
    (enough : cursor.rest.length < fuel) (enough_further : place.rest.length < further)
    (blanks_read : blanks cursor = .ok ((), place))
    (read : parts (group nested) fuel cursor = .ok (terms, after)) :
    parts (group nested) further place = .ok (terms, after) := by
  by_cases still : place.position = cursor.position
  · obtain rfl := eq_of_blanks_stay blanks_read still
    exact parts_of_enough agrees enough enough_further read
  have shorter := (onward_of_blanks blanks_read).length_lt_of_position still
  have some_char : cursor.rest ≠ [] := by
    intro nothing
    rw [blanks_nil nothing] at blanks_read
    cases blanks_read
    exact still rfl
  obtain ⟨fuel, rfl⟩ : ∃ other, fuel = other + 1 := ⟨fuel - 1, by omega⟩
  obtain ⟨further, rfl⟩ : ∃ other, further = other + 1 := ⟨further - 1, by omega⟩
  obtain ⟨term, between, part_read, onward⟩ := exists_part_of_parts some_char read
  rw [part_behind_blanks blanks_read] at part_read
  have place_le := (onward_of_blanks blanks_read).position_le
  have between_onward := onward_of_part agrees part_read
  have between_le := between_onward.position_le
  obtain ⟨-, more, more_read, rfl⟩ := onward.resolve_left fun stuck => by omega
  have between_shorter := between_onward.length_le
  by_cases stays : between.position = place.position
  · -- nothing but blanks was passed
    obtain ⟨rfl, rfl, -⟩ := part_stays agrees part_read stays
    exact parts_of_enough agrees (by omega) enough_further more_read
  · have some_left : place.rest ≠ [] := by
      intro nothing
      obtain ⟨passed, rest_eq, position_eq⟩ := between_onward
      rw [nothing, List.nil_eq, List.append_eq_nil_iff] at rest_eq
      exact stays (by simp [position_eq, rest_eq.1])
    have between_lt := between_onward.length_lt_of_position stays
    rw [parts_of_part some_left part_read stays,
      bind_ok (parts_of_enough agrees (by omega) (by omega) more_read)]
    rfl

end Nested

end Redirects.Regex.Reader
