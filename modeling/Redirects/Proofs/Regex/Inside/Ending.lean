import Redirects.Proofs.Regex.Inside.Progress
import Redirects.Proofs.Regex.Tail

/-!
# A pattern before the rest of a path

A pattern that ends outside of comment mode, with a slash and a group for the rest of the line put
behind it, is read as its branches, the last of which goes on with the slash and the group.
-/

namespace Redirects.Regex

/-- How a slash and the group behind it that takes the rest of a line are written. -/
def writtenPath : List Char := '/' :: writtenTail

/-- What a slash and the group behind it are read as, behind some groups under some flags. -/
def Term.path (flags : Flags) (groups : Nat) : List Term :=
  [.char flags.fold '/', .tailUnder flags groups]

/-- The place of reading behind a pattern and the path written behind it. -/
def Cursor.behindPath (shift : Nat) (cursor : Cursor) : Cursor :=
  { cursor with
    rest := [], position := cursor.position + shift + 5, groups := cursor.groups + 1 }

namespace Reader

/-- What a pattern that goes on with a path is read as, unless groups are referred to by number among
groups with names. -/
def beforePath {α : Type} (shift : Nat) (value : α) (cursor : Cursor) : Except Fault (α × Cursor) :=
  if cursor.numbered && !cursor.names.isEmpty then .error .numberedAmongNamed
  else .ok (value, cursor.behindPath shift)

theorem harmless_path : Harmless writtenPath where
  slash_of_head := by simp [writtenPath]
  brace_not_mem := by simp [writtenPath, writtenTail]

theorem part_slash (group : Reader Term) {cursor : Cursor} (rest_eq : cursor.rest = writtenPath)
    (unspaced : cursor.flags.spaced = false) :
    part group cursor = .ok (.char cursor.flags.fold '/',
      { cursor with rest := writtenTail, position := cursor.position + 1 }) := by
  obtain ⟨rest, position, ⟨fold, multiline, dotAll, swapped, spaced⟩, groups, names, numbered,
    referred⟩ := cursor
  cases rest_eq
  cases unspaced
  rfl

/-! ## The end of a part -/

/-- What follows an atom keeps the flags. -/
theorem flags_of_quantified {term found : Term} {cursor after : Cursor}
    (read : quantified term cursor = .ok (found, after)) : after.flags = cursor.flags := by
  rw [quantified] at read
  obtain ⟨_, place, blanks_eq, read⟩ := bind_eq_ok_iff.mp read
  obtain ⟨_, _, ⟨⟩, read⟩ := bind_eq_ok_iff.mp read
  have flags_eq := flags_of_blanks blanks_eq
  cases counted : count? place with
  | none =>
      rw [counted] at read
      cases read
      exact flags_eq
  | some count =>
      rw [counted] at read
      dsimp only at read
      split at read
      · cases read
      · obtain ⟨_, _, ⟨⟩, read⟩ := bind_eq_ok_iff.mp read
        obtain ⟨_, behind, behind_eq, read⟩ := bind_eq_ok_iff.mp read
        obtain ⟨_, marking, marking_eq, read⟩ := bind_eq_ok_iff.mp read
        obtain ⟨_, _, ⟨⟩, read⟩ := bind_eq_ok_iff.mp read
        obtain ⟨_, possessing, possessing_eq, read⟩ := bind_eq_ok_iff.mp read
        have after_eq : after.flags = possessing.flags := by
          split at read <;> cases read <;> rfl
        rw [after_eq, flags_of_accept possessing_eq, flags_of_accept marking_eq,
          flags_of_blanks behind_eq, ← flags_eq]



theorem quantified_nil {cursor : Cursor} (nothing : cursor.rest = []) (term : Term) :
    quantified term cursor = .ok (term, cursor) := by
  obtain ⟨rest, position, flags, groups, names, numbered, referred⟩ := cursor
  cases nothing
  rfl

section Tail

variable {shift : Nat} {tail : List Char} (harmless : Harmless tail) {group : Reader Term}
  (alike : ∀ cursor : Cursor, cursor.rest ≠ [] → Alike shift tail cursor group group)
include harmless alike

/-- At the end of a pattern a part is read alike, or it is a comment and what follows it stands for
it. -/
theorem part_ends {cursor after : Cursor} {term : Term}
    (read : part group cursor = .ok (term, after))
    (ends : after.rest = [] → after.flags.spaced = false) :
    part group (cursor.within shift tail) = .ok (term, after.within shift tail) ∨
      term = .empty ∧ after.rest = [] ∧
        part group (cursor.within shift tail) = part group (after.within shift tail) := by
  rw [part_eq] at read ⊢
  obtain ⟨first, between, atom_read, quantified_read⟩ := bind_eq_ok_iff.mp read
  have flags_eq := flags_of_quantified quantified_read
  have joined (inside : atom group (cursor.within shift tail) =
      .ok (first, between.within shift tail)) :
      (atom group >>= quantified) (cursor.within shift tail) =
        .ok (term, after.within shift tail) := by
    have agrees : Agrees (between.flags.spaced = false) shift tail between (quantified first)
        (quantified first) := agrees_quantified harmless first between .inl
    have apart : after.rest ≠ [] ∨ between.flags.spaced = false := by
      cases rest_eq : after.rest with
      | nil => exact .inr (flags_eq ▸ ends rest_eq)
      | cons c rest => exact .inl (List.cons_ne_nil c rest)
    exact bind_eq_ok_iff.mpr ⟨first, _, inside, (agrees term after quantified_read).2 apart⟩
  rw [atom_eq] at atom_read
  obtain ⟨_, place, blanks_read, visible_read⟩ := bind_eq_ok_iff.mp atom_read
  have inside_blanks := (blanks_within harmless shift blanks_read).2
  by_cases some_char : place.rest = []
  · rw [visibleAtom_nil _ some_char] at visible_read
    cases visible_read
    rw [quantified_nil some_char] at quantified_read
    cases quantified_read
    right
    refine ⟨rfl, some_char, bind_congr ?_⟩
    have unspaced := ends some_char
    have still := (blanks_within harmless shift (blanks_nil some_char)).2
      (.inr (.inl unspaced))
    rw [flags_of_blanks blanks_read] at unspaced
    rw [atom_eq, bind_ok (inside_blanks (.inr (.inl unspaced))), bind_ok still]
  · left
    apply joined
    rw [atom_eq, bind_ok (inside_blanks (.inl some_char))]
    exact (alike_visibleAtom harmless alike some_char first between visible_read).2

end Tail

/-! ## The end of a branch -/

theorem branches_nil (group : Reader Term) {cursor : Cursor} (nothing : cursor.rest = [])
    (length fuel : Nat) : branches group length fuel cursor = .ok ([], cursor) := by
  obtain ⟨rest, position, flags, groups, names, numbered, referred⟩ := cursor
  cases nothing
  cases fuel <;> rfl

/-- A choice whose last branch goes on with some terms. -/
inductive Extends (extra : List Term) : List Term × List Term → List Term × List Term → Prop where
  | last (terms : List Term) : Extends extra (terms, []) (terms ++ extra, [])
  | behind (terms : List Term) {second others second' others' : List Term}
      (rest : Extends extra (second, others) (second', others')) :
      Extends extra (terms, Term.inSequence second :: others)
        (terms, Term.inSequence second' :: others')

section Path

variable {shift depth : Nat}

theorem parts_path {cursor : Cursor} (rest_eq : cursor.rest = writtenPath)
    (unspaced : cursor.flags.spaced = false) (fuel : Nat) :
    parts (group (pattern (depth + 1))) (fuel + 3) cursor =
      if cursor.numbered && !cursor.names.isEmpty then .error .numberedAmongNamed
      else .ok (Term.path cursor.flags cursor.groups,
        { cursor with rest := [], position := cursor.position + 5, groups := cursor.groups + 1 }) := by
  have some_char : cursor.rest ≠ [] := by simp [rest_eq, writtenPath]
  rw [parts_of_part some_char (part_slash _ rest_eq unspaced) (by simp)]
  let behind : Cursor := { cursor with rest := writtenTail, position := cursor.position + 1 }
  have others := parts_tail (group (pattern depth)) (show behind.rest = _ from rfl) fuel
  by_cases mixed : (cursor.numbered && !cursor.names.isEmpty) = true
  · rw [if_pos mixed] at others ⊢
    exact bind_error others
  · rw [if_neg mixed] at others ⊢
    exact bind_ok others

theorem parts_within_path {cursor : Cursor} (nothing : cursor.rest = [])
    (unspaced : cursor.flags.spaced = false) (fuel : Nat) :
    parts (group (pattern (depth + 1))) (fuel + 3) (cursor.within shift writtenPath) =
      beforePath shift (Term.path cursor.flags cursor.groups) cursor := by
  have rest_eq : (cursor.within shift writtenPath).rest = writtenPath := by
    simp [Cursor.within, nothing]
  rw [parts_path rest_eq unspaced]
  rfl

theorem bind_beforePath {α β : Type} {reader : Reader α} {next : α → Reader β}
    {start cursor : Cursor} {value : α} {found : β}
    (read : reader start = beforePath shift value cursor)
    (goes_on : (cursor.numbered && !cursor.names.isEmpty) = false →
      next value (cursor.behindPath shift) = .ok (found, cursor.behindPath shift)) :
    (reader >>= next) start = beforePath shift found cursor := by
  rw [beforePath] at read ⊢
  split at read
  · rw [if_pos ‹_›]
    exact bind_error read
  · next apart =>
      rw [if_neg apart, bind_ok read, goes_on (by simpa using apart)]

theorem alike_group_path (cursor : Cursor) (some_char : cursor.rest ≠ []) :
    Alike shift writtenPath cursor (group (pattern (depth + 1))) (group (pattern (depth + 1))) :=
  alike_group harmless_path (agrees_pattern harmless_path (depth + 1)) some_char

/-- The parts at the end of a pattern are read before a path, too, and then the path. -/
theorem parts_ends {fuel further : Nat} {cursor after : Cursor} {terms : List Term}
    (enough : cursor.rest.length < fuel) (enough_further : cursor.rest.length + 2 < further)
    (read : parts (group (pattern (depth + 1))) fuel cursor = .ok (terms, after))
    (nothing : after.rest = []) (unspaced : after.flags.spaced = false) :
    parts (group (pattern (depth + 1))) further (cursor.within shift writtenPath) =
      beforePath shift (terms ++ Term.path after.flags after.groups) after := by
  induction fuel generalizing further cursor terms with
  | zero => contradiction
  | succ fuel ih =>
      by_cases some_char : cursor.rest = []
      · rw [parts_nil _ some_char] at read
        cases read
        obtain ⟨other, rfl⟩ : ∃ other, further = other + 3 := ⟨further - 3, by omega⟩
        exact parts_within_path nothing unspaced other
      obtain ⟨further, rfl⟩ : ∃ other, further = other + 1 := ⟨further - 1, by omega⟩
      have some_within : (cursor.within shift writtenPath).rest ≠ [] := by
        simp [Cursor.within, some_char]
      obtain ⟨term, between, part_read, stuck | ⟨moved, more, more_read, rfl⟩⟩ :=
        exists_part_of_parts some_char read
      · obtain ⟨stays, -, rfl⟩ := stuck
        have onward := onward_of_part (agrees_pattern harmless_nil (depth + 1)) part_read
        exact absurd (onward.rest_eq_of_position stays ▸ nothing) some_char
      have onward := onward_of_part (agrees_pattern harmless_nil (depth + 1)) part_read
      have shorter := onward.length_lt_of_position moved
      have ends (done : between.rest = []) : between.flags.spaced = false := by
        rw [parts_nil _ done] at more_read
        cases more_read
        exact unspaced
      rcases part_ends harmless_path alike_group_path part_read ends with inside | ⟨rfl, done, inside⟩
      · have others : parts _ further (between.within shift writtenPath) = _ :=
          ih (by omega) (by omega) more_read
        have moved_within : (between.within shift writtenPath).position ≠
            (cursor.within shift writtenPath).position := by
          simpa [Cursor.within] using moved
        rw [parts_of_part some_within inside moved_within]
        refine bind_beforePath others fun _ => ?_
        split <;> rfl
      · -- only a comment was left, so that the slash is read in its place
        have between_unspaced := ends done
        rw [parts_nil _ done] at more_read
        cases more_read
        have rest_eq : (after.within shift writtenPath).rest = writtenPath := by
          simp [Cursor.within, done]
        let behind : Cursor := { after.within shift writtenPath with
          rest := writtenTail, position := after.position + shift + 1 }
        have slash : part (group (pattern (depth + 1))) (cursor.within shift writtenPath) =
            .ok (.char after.flags.fold '/', behind) :=
          inside.trans (part_slash _ rest_eq between_unspaced)
        have moved_within : behind.position ≠ (cursor.within shift writtenPath).position := by
          obtain ⟨passed, -, position_eq⟩ := onward
          simp only [behind, Cursor.within]
          omega
        obtain ⟨further, rfl⟩ : ∃ other, further = other + 2 := ⟨further - 2, by omega⟩
        rw [parts_of_part some_within slash moved_within]
        have behind_eq : behind.rest = writtenTail := rfl
        exact bind_beforePath
          (parts_tail (group (pattern depth)) behind_eq further) fun _ => rfl

/-! ## The end of a choice -/

theorem ways_ends {first other length longer fuel further : Nat} {cursor after : Cursor}
    {found : List Term × List Term} (first_fits : cursor.rest.length < first)
    (other_fits : cursor.rest.length + 2 < other)
    (fits : cursor.rest.length < length) (fits_longer : cursor.rest.length + 2 < longer)
    (enough : cursor.rest.length < fuel) (enough_further : cursor.rest.length < further)
    (read : ways (group (pattern (depth + 1))) first length fuel cursor = .ok (found, after))
    (nothing : after.rest = []) (unspaced : after.flags.spaced = false) :
    ∃ extended, Extends (Term.path after.flags after.groups) found extended ∧
      ways (group (pattern (depth + 1))) other longer further (cursor.within shift writtenPath) =
        beforePath shift extended after := by
  induction fuel generalizing first other further cursor found with
  | zero => contradiction
  | succ fuel ih =>
      obtain ⟨further, rfl⟩ : ∃ other, further = other + 1 := ⟨further - 1, by omega⟩
      rw [ways] at read ⊢
      obtain ⟨terms, between, parts_read, read⟩ := bind_eq_ok_iff.mp read
      obtain ⟨_, place, blanks_read, read⟩ := bind_eq_ok_iff.mp read
      obtain ⟨others, last, branches_read, read⟩ := bind_eq_ok_iff.mp read
      cases read
      by_cases done : between.rest = []
      · rw [blanks_nil done] at blanks_read
        cases blanks_read
        rw [branches_nil _ done] at branches_read
        cases branches_read
        refine ⟨_, .last terms, ?_⟩
        exact bind_beforePath (parts_ends first_fits (by omega) parts_read nothing unspaced)
          fun _ => rfl
      · have parts_inside : parts (group (pattern (depth + 1))) other
            (cursor.within shift writtenPath) = .ok (terms, between.within shift writtenPath) :=
          (agrees_parts harmless_path alike_group_path first_fits (by omega) terms between
            parts_read).2 (.inl done)
        have still := blanks_of_parts (agrees_pattern harmless_nil (depth + 1)) first_fits parts_read
        rw [still] at blanks_read
        cases blanks_read
        have blanks_inside : blanks (between.within shift writtenPath) =
            .ok ((), between.within shift writtenPath) :=
          (blanks_within harmless_path shift still).2 (.inl done)
        rw [bind_ok parts_inside, bind_ok blanks_inside]
        rw [branches_succ] at branches_read
        obtain ⟨accepted, behind, bar, branches_read⟩ := bind_eq_ok_iff.mp branches_read
        cases accepted with
        | false =>
            rw [eq_of_accept_false bar] at branches_read
            cases branches_read
            exact absurd nothing done
        | true =>
            obtain ⟨⟨second, more⟩, _, ways_read, branches_read⟩ := bind_eq_ok_iff.mp branches_read
            cases branches_read
            have bar_eq := rest_eq_of_accept bar
            have between_le :=
              (onward_of_parts (agrees_pattern harmless_nil (depth + 1)) first_fits
                parts_read).length_le
            have shorter : behind.rest.length < between.rest.length := by simp [bar_eq]
            obtain ⟨⟨second', more'⟩, extended, inside⟩ : ∃ extended,
                Extends (Term.path after.flags after.groups) (second, more) extended ∧
                  ways (group (pattern (depth + 1))) longer longer further
                    (behind.within shift writtenPath) = beforePath shift extended after :=
              ih (by omega) (by omega) (by omega) (by omega) (by omega) (by omega) ways_read
            refine ⟨_, .behind terms extended, ?_⟩
            have bar_inside : accept '|' (between.within shift writtenPath) =
                .ok (true, behind.within shift writtenPath) :=
              (alike_accept harmless_path (by decide) between true behind bar).2
            have joined : branches (group (pattern (depth + 1))) longer (further + 1)
                (between.within shift writtenPath) =
                  beforePath shift (Term.inSequence second' :: more') after := by
              rw [branches_succ, bind_ok bar_inside]
              exact bind_beforePath inside fun _ => rfl
            exact bind_beforePath joined fun _ => rfl

end Path

end Reader

end Redirects.Regex
