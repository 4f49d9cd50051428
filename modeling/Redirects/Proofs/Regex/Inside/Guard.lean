import Redirects.Proofs.Regex.Inside.Ending

/-!
# A guard in front of a pattern

A pattern with a guard put in front of it is read as its branches, the first of which begins with the
guard, unless it begins with a count, which would then repeat the guard.  Main statements:
`readPattern_guarded` for a pattern alone, `readPattern_path` and `readPattern_guarded_path` for one
with the rest of a path behind it.
-/

namespace Redirects.Regex

namespace Reader

/-! ## Choices -/

/-- What a choice has behind the parts of its first branch. -/
def choiceRest (group : Reader Term) (length : Nat) (terms : List Term) : Reader Term := do
  blanks
  let others ← branches group length length
  let cursor ← get
  if others.isEmpty && cursor.numbered && !cursor.names.isEmpty then
    throw .numberedAmongNamed
  return Term.inChoice (Term.inSequence terms) others

theorem choiceBehind_eq (lead : List Term) (group : Reader Term) (first length : Nat) :
    choiceBehind lead group first length = (do
      let terms ← parts group first
      choiceRest group length (lead ++ terms)) := by
  simp only [choiceBehind, ways, choiceRest, bind_assoc, pure_bind]

theorem exists_ways_of_pattern {depth : Nat} {cursor after : Cursor} {term : Term}
    (read : pattern (depth + 1) cursor = .ok (term, after)) :
    ∃ terms others,
      ways (group (pattern depth)) (cursor.rest.length + 1) (cursor.rest.length + 1)
        (cursor.rest.length + 1) cursor = .ok ((terms, others), after) ∧
      term = Term.inChoice (Term.inSequence terms) others ∧
      (others.isEmpty && after.numbered && !after.names.isEmpty) = false := by
  change choice (group (pattern depth)) cursor = _ at read
  rw [choice_eq] at read
  obtain ⟨_, _, ⟨⟩, read⟩ := bind_eq_ok_iff.mp read
  obtain ⟨⟨terms, others⟩, last, ways_read, read⟩ := bind_eq_ok_iff.mp read
  obtain ⟨_, _, ⟨⟩, read⟩ := bind_eq_ok_iff.mp read
  dsimp only at read
  split at read
  · cases read
  · next apart =>
      cases read
      exact ⟨terms, others, ways_read, rfl, by simpa using apart⟩

theorem choiceBehind_of_ways {group : Reader Term} {first length : Nat} {cursor after : Cursor}
    {terms others : List Term}
    (read : ways group first length length cursor = .ok ((terms, others), after))
    (apart : (others.isEmpty && after.numbered && !after.names.isEmpty) = false) (lead : List Term) :
    choiceBehind lead group first length cursor =
      .ok (Term.inChoice (Term.inSequence (lead ++ terms)) others, after) := by
  have get_eq : (get : Reader Cursor) after = .ok (after, after) := rfl
  rw [choiceBehind, bind_ok read]
  dsimp only
  rw [bind_ok get_eq, if_neg (by simp [apart])]
  rfl

section Guard

variable {depth : Nat}

/-- Blanks in front of a choice may be passed before. -/
theorem ways_behind_blanks {first other length fuel : Nat} {cursor place after : Cursor}
    {found : List Term × List Term} (enough : cursor.rest.length < first)
    (enough_other : place.rest.length < other) (blanks_read : blanks cursor = .ok ((), place))
    (read : ways (group (pattern depth)) first length fuel cursor = .ok (found, after)) :
    ways (group (pattern depth)) other length fuel place = .ok (found, after) := by
  rw [ways] at read ⊢
  obtain ⟨terms, between, parts_read, read⟩ := bind_eq_ok_iff.mp read
  rw [bind_ok (parts_behind_blanks (agrees_pattern harmless_nil depth) enough enough_other
    blanks_read parts_read)]
  exact read

/-- How a text that must not stand at the front is written. -/
theorem atom_guard (excluded rest : List Char) (start : Nat) :
    atom (group (pattern (depth + 1))) (before ((Sign.barred excluded).written ++ rest) start) =
      .ok ((Sign.barred excluded).term,
        before rest (start + Text.byteLength (Sign.barred excluded).written)) :=
  readsSign_group (group (pattern depth)) (.barred excluded) rest start

/-- A guard cannot be repeated. -/
theorem quantified_guard (excluded : List Char) {cursor place : Cursor}
    (blanks_read : blanks cursor = .ok ((), place)) :
    quantified (Sign.barred excluded).term cursor =
      match count? place with
      | none => .ok ((Sign.barred excluded).term, place)
      | some count => .error (.writing count.lastPosition .badRepeat) := by
  have get_eq : (get : Reader Cursor) place = .ok (place, place) := rfl
  rw [quantified, bind_ok blanks_read, bind_ok get_eq]
  cases count? place <;> rfl

theorem choice_guarded {excluded text : List Char} {place : Cursor}
    (blanks_read : blanks (before text (Text.byteLength (Sign.barred excluded).written)) =
      .ok ((), place)) (uncounted : count? place = none) :
    let length := ((Sign.barred excluded).written ++ text).length
    choice (group (pattern (depth + 1))) (before ((Sign.barred excluded).written ++ text) 0) =
      choiceBehind [(Sign.barred excluded).term] (group (pattern (depth + 1))) length (length + 1)
        place := by
  intro length
  let start := before ((Sign.barred excluded).written ++ text) 0
  have left_eq : left start = .ok ((Sign.barred excluded).written ++ text, start) := rfl
  have some_char : start.rest ≠ [] := by simp [start, before, Sign.written]
  have guard_read : part (group (pattern (depth + 1))) start =
      .ok ((Sign.barred excluded).term, place) := by
    rw [part_eq, bind_ok (atom_guard excluded text 0), Nat.zero_add,
      quantified_guard excluded blanks_read, uncounted]
  have moved : place.position ≠ start.position := by
    have onward := (onward_of_blanks blanks_read).position_le
    have some_byte : Text.byteLength (Sign.barred excluded).written ≠ 0 := by
      rw [ne_eq, Text.byteLength_eq_zero_iff]
      exact written_ne_nil _
    simp only [start, before] at onward ⊢
    omega
  have parts_eq : parts (group (pattern (depth + 1))) (length + 1) start = (do
      let terms ← parts (group (pattern (depth + 1))) length
      return (Sign.barred excluded).term :: terms) place :=
    parts_of_part some_char guard_read moved
  rw [choice_eq, bind_ok left_eq, choiceBehind_eq, choiceBehind_eq]
  cases terms_eq : parts (group (pattern (depth + 1))) length place with
  | error fault =>
      rw [bind_error terms_eq] at parts_eq ⊢
      exact bind_error parts_eq
  | ok found =>
      obtain ⟨terms, after⟩ := found
      rw [bind_ok terms_eq] at parts_eq ⊢
      exact bind_ok parts_eq

/-- A count behind a guard is a fault. -/
theorem choice_counted {excluded text : List Char} {place : Cursor}
    (blanks_read : blanks (before text (Text.byteLength (Sign.barred excluded).written)) =
      .ok ((), place)) {count : Count} (counted : count? place = some count) :
    choice (group (pattern (depth + 1))) (before ((Sign.barred excluded).written ++ text) 0) =
      .error (.writing count.lastPosition .badRepeat) := by
  let start := before ((Sign.barred excluded).written ++ text) 0
  have position_eq : Reader.position start = .ok (0, start) := rfl
  have left_eq : left start = .ok ((Sign.barred excluded).written ++ text, start) := rfl
  have some_char : (Sign.barred excluded).written ++ text ≠ [] := by simp [Sign.written]
  have guard_read : part (group (pattern (depth + 1))) start =
      .error (.writing count.lastPosition .badRepeat) := by
    rw [part_eq, bind_ok (atom_guard excluded text 0), Nat.zero_add,
      quantified_guard excluded blanks_read, counted]
  rw [choice_eq, bind_ok left_eq, choiceBehind_eq]
  refine bind_error ?_
  rw [parts, bind_ok position_eq, bind_ok left_eq, if_neg (by simpa using some_char),
    bind_error guard_read]

/-- What is read before a path behind some terms: those of the pattern and, in its last branch, the
path. -/
theorem choiceBehind_path {shift first length other longer : Nat} {cursor after : Cursor}
    {terms others : List Term} (first_fits : cursor.rest.length < first)
    (other_fits : cursor.rest.length + 2 < other) (fits : cursor.rest.length < length)
    (fits_longer : cursor.rest.length + 2 < longer)
    (read : ways (group (pattern (depth + 1))) first length length cursor =
      .ok ((terms, others), after))
    (whole : after.rest = []) (unspaced : after.flags.spaced = false) :
    ∃ extended, Extends (Term.path after.flags after.groups) (terms, others) extended ∧
      ∀ lead, choiceBehind lead (group (pattern (depth + 1))) other longer
          (cursor.within shift writtenPath) =
        beforePath shift (Term.inChoice (Term.inSequence (lead ++ extended.1)) extended.2) after := by
  obtain ⟨extended, extends_so, inside⟩ : ∃ extended,
      Extends (Term.path after.flags after.groups) (terms, others) extended ∧
        ways (group (pattern (depth + 1))) other longer longer (cursor.within shift writtenPath) =
          beforePath shift extended after :=
    ways_ends first_fits other_fits fits fits_longer fits (by omega) read whole unspaced
  refine ⟨extended, extends_so, fun lead => bind_beforePath inside fun apart => ?_⟩
  have get_eq : (get : Reader Cursor) (after.behindPath shift) =
    .ok (after.behindPath shift, after.behindPath shift) := rfl
  have still_apart : (extended.2.isEmpty && (after.behindPath shift).numbered &&
      !(after.behindPath shift).names.isEmpty) = false := by
    rw [Bool.and_assoc]
    exact Bool.and_eq_false_imp.mpr fun _ => apart
  dsimp only
  rw [bind_ok get_eq, if_neg (by simp [still_apart])]
  rfl

end Guard

end Reader

/-! ## Patterns -/

open Reader

/-- What a pattern before a path is read as. -/
theorem eq_of_readPattern {text : List Char} {written : Written}
    (read : readPattern text = .ok written) {shift : Nat} {term : Term} {after : Cursor}
    (choice_eq : pattern maxDepth { rest := text } = beforePath shift term after) :
    written = ⟨term, after.groups + 1, after.referred⟩ := by
  rw [readPattern_eq, choice_eq, beforePath] at read
  split at read
  · cases read
  · cases read
    rfl

theorem readPattern_of_error {text : List Char} {fault : Fault}
    (faulty : pattern maxDepth { rest := text } = .error fault) :
    readPattern text = .error fault := by
  rw [readPattern_eq, faulty]
  rfl

theorem exists_of_readPattern {text : List Char} {written : Written}
    (read : readPattern text = .ok written) :
    ∃ term after, pattern maxDepth { rest := text } = .ok (term, after) ∧ after.rest = [] ∧
      ⟨term, after.groups, after.referred⟩ = written := by
  rw [readPattern_eq] at read
  cases pattern_eq : pattern maxDepth { rest := text } with
  | error fault =>
      rw [pattern_eq] at read
      cases read
  | ok found =>
      obtain ⟨term, after⟩ := found
      rw [pattern_eq] at read
      change finished (term, after) = _ at read
      rw [finished] at read
      split at read
      · next whole =>
          cases read
          exact ⟨term, after, rfl, by simpa using whole, rfl⟩
      · cases read

/-- A pattern before a path is read as its branches, the last of which goes on with the path. -/
theorem readPattern_path {stem : List Char} {term : Term} {after : Cursor}
    (read : pattern maxDepth { rest := stem } = .ok (term, after)) (whole : after.rest = [])
    (unspaced : after.flags.spaced = false) {written : Written}
    (path_read : readPattern (stem ++ writtenPath) = .ok written) :
    ∃ terms others extended, term = Term.inChoice (Term.inSequence terms) others ∧
      Extends (Term.path after.flags after.groups) (terms, others) extended ∧
      written = ⟨Term.inChoice (Term.inSequence extended.1) extended.2, after.groups + 1,
        after.referred⟩ := by
  obtain ⟨terms, others, ways_read, term_eq, -⟩ := exists_ways_of_pattern read
  let length := (stem ++ writtenPath).length + 1
  have long : stem.length + 2 < length := by simp [length, writtenPath, writtenTail]
  obtain ⟨extended, extended_so, inside⟩ : ∃ extended,
      Extends (Term.path after.flags after.groups) (terms, others) extended ∧
        ∀ lead, choiceBehind lead (group (pattern (maxDepth - 1))) length length
            (Cursor.within 0 writtenPath { rest := stem }) =
          beforePath 0 (Term.inChoice (Term.inSequence (lead ++ extended.1)) extended.2) after :=
    choiceBehind_path (Nat.lt_succ_self _) long (Nat.lt_succ_self _) long ways_read whole unspaced
  have path_eq : pattern maxDepth { rest := stem ++ writtenPath } =
      beforePath 0 (Term.inChoice (Term.inSequence extended.1) extended.2) after := by
    change choice (group (pattern (maxDepth - 1))) { rest := stem ++ writtenPath } = _
    rw [choice_eq]
    exact inside []
  exact ⟨terms, others, extended, term_eq, extended_so, eq_of_readPattern path_read path_eq⟩

/-- Behind a guard, too, it is read so, the guard standing in front of the first branch. -/
theorem readPattern_guarded_path {excluded stem : List Char} {term : Term} {after : Cursor}
    (read : pattern maxDepth { rest := stem } = .ok (term, after)) (whole : after.rest = [])
    (unspaced : after.flags.spaced = false) {written : Written}
    (path_read : readPattern ((Sign.barred excluded).written ++ (stem ++ writtenPath)) =
      .ok written) :
    ∃ terms others extended, term = Term.inChoice (Term.inSequence terms) others ∧
      Extends (Term.path after.flags after.groups) (terms, others) extended ∧
      written = ⟨Term.inChoice (Term.inSequence ((Sign.barred excluded).term :: extended.1))
        extended.2, after.groups + 1, after.referred⟩ := by
  obtain ⟨terms, others, ways_read, term_eq, -⟩ := exists_ways_of_pattern read
  obtain ⟨place, blanks_read⟩ : ∃ place, blanks { rest := stem } = .ok ((), place) := by
    obtain ⟨_, _, parts_read, -⟩ := bind_eq_ok_iff.mp ways_read
    exact exists_blanks_of_parts parts_read
  let shift := Text.byteLength (Sign.barred excluded).written
  have start_eq : before (stem ++ writtenPath) shift =
      Cursor.within shift writtenPath { rest := stem } := by
    simp [before, Cursor.within]
  have blanks_inside : blanks (before (stem ++ writtenPath) shift) =
      .ok ((), place.within shift writtenPath) := by
    rw [start_eq]
    exact (blanks_within harmless_path _ blanks_read).2 (.inr (.inl rfl))
  cases counted : count? (place.within shift writtenPath) with
  | some count =>
      have faulty : pattern maxDepth
            { rest := (Sign.barred excluded).written ++ (stem ++ writtenPath) } =
          .error (.writing count.lastPosition .badRepeat) :=
        choice_counted blanks_inside counted
      rw [readPattern_of_error faulty] at path_read
      cases path_read
  | none =>
      let length := ((Sign.barred excluded).written ++ (stem ++ writtenPath)).length
      have place_le : place.rest.length ≤ stem.length := (onward_of_blanks blanks_read).length_le
      have long : stem.length + 2 < length := by
        simp [length, Sign.written, writtenPath, writtenTail]
        omega
      have place_read := ways_behind_blanks (Nat.lt_succ_self _) (Nat.lt_succ_of_le place_le)
        blanks_read ways_read
      obtain ⟨extended, extended_so, inside⟩ : ∃ extended,
          Extends (Term.path after.flags after.groups) (terms, others) extended ∧
            ∀ lead, choiceBehind lead (group (pattern (maxDepth - 1))) length (length + 1)
                (place.within shift writtenPath) =
              beforePath shift (Term.inChoice (Term.inSequence (lead ++ extended.1)) extended.2)
                after :=
        choiceBehind_path (Nat.lt_succ_of_le place_le) (by omega) (Nat.lt_succ_of_le place_le)
          (by omega) place_read whole unspaced
      have path_eq : pattern maxDepth
            { rest := (Sign.barred excluded).written ++ (stem ++ writtenPath) } =
          beforePath shift (Term.inChoice
            (Term.inSequence ((Sign.barred excluded).term :: extended.1)) extended.2) after :=
        (choice_guarded blanks_inside counted).trans (inside [(Sign.barred excluded).term])
      exact ⟨terms, others, extended, term_eq, extended_so, eq_of_readPattern path_read path_eq⟩

/-- The count at the front of a pattern, possibly behind comments. -/
def leadingCount? (text : List Char) : Option Count :=
  match blanks { rest := text } with
  | .ok (_, place) => count? place
  | .error _ => none

/-- Behind a guard a pattern is read as its branches, the guard standing in front of the first one
only, unless the pattern begins with a count, which cannot repeat the guard. -/
theorem readPattern_guarded {text : List Char} {written : Written}
    (read : readPattern text = .ok written) (excluded : List Char) :
    (∃ count, leadingCount? text = some count ∧
      readPattern ((Sign.barred excluded).written ++ text) =
        .error (.writing (count.lastPosition + Text.byteLength (Sign.barred excluded).written)
          .badRepeat)) ∨
    leadingCount? text = none ∧
      ∃ terms others, written.term = Term.inChoice (Term.inSequence terms) others ∧
        readPattern ((Sign.barred excluded).written ++ text) =
          .ok { written with
            term := Term.inChoice (Term.inSequence ((Sign.barred excluded).term :: terms)) others } := by
  obtain ⟨term, after, pattern_read, whole, rfl⟩ := exists_of_readPattern read
  obtain ⟨terms, others, ways_read, term_eq, apart⟩ := exists_ways_of_pattern pattern_read
  obtain ⟨place, blanks_read⟩ : ∃ place, blanks { rest := text } = .ok ((), place) := by
    obtain ⟨_, _, parts_read, -⟩ := bind_eq_ok_iff.mp ways_read
    exact exists_blanks_of_parts parts_read
  let shift := Text.byteLength (Sign.barred excluded).written
  have start_eq : before text shift = Cursor.within shift [] { rest := text } := by
    simp [before, Cursor.within]
  have blanks_inside : blanks (before text shift) = .ok ((), place.within shift []) := by
    rw [start_eq]
    exact (blanks_within harmless_nil _ blanks_read).2 (.inr (.inl rfl))
  have leading_eq : leadingCount? text = count? place := by rw [leadingCount?, blanks_read]
  have counted_inside : count? (place.within shift []) = (count? place).map (Count.within shift []) :=
    count?_within harmless_nil place
  rw [leading_eq]
  cases counted : count? place with
  | some count =>
      rw [counted] at counted_inside
      have faulty : pattern maxDepth { rest := (Sign.barred excluded).written ++ text } =
          .error (.writing (count.lastPosition + shift) .badRepeat) :=
        choice_counted blanks_inside counted_inside
      exact .inl ⟨count, rfl, readPattern_of_error faulty⟩
  | none =>
      rw [counted] at counted_inside
      let length := ((Sign.barred excluded).written ++ text).length
      have place_le : place.rest.length ≤ text.length := (onward_of_blanks blanks_read).length_le
      have long : text.length < length := by
        simp [length, Sign.written]
      have place_read := ways_behind_blanks (Nat.lt_succ_self _) (Nat.lt_succ_of_le place_le)
        blanks_read ways_read
      have inside : ways (group (pattern (maxDepth - 1))) length (length + 1) (length + 1)
          (place.within shift []) = .ok ((terms, others), after.within shift []) :=
        (agrees_ways harmless_nil (fun _ => alike_group harmless_nil (agrees_pattern harmless_nil _))
          (Nat.lt_succ_of_le place_le) (by omega) (Nat.lt_succ_of_le place_le) (by omega)
          (Nat.lt_succ_of_le place_le) (by omega) (terms, others) after place_read).2 (.inr rfl)
      have guarded : pattern maxDepth { rest := (Sign.barred excluded).written ++ text } =
          .ok (Term.inChoice (Term.inSequence ((Sign.barred excluded).term :: terms)) others,
            after.within shift []) :=
        (choice_guarded blanks_inside counted_inside).trans
          (choiceBehind_of_ways inside apart [(Sign.barred excluded).term])
      have still_whole : (after.within shift []).rest = [] := by simp [Cursor.within, whole]
      have guarded_read := readPattern_of_ok guarded still_whole
      exact .inr ⟨rfl, terms, others, term_eq, guarded_read⟩

end Redirects.Regex
