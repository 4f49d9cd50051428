import Redirects.Proofs.Regex.Acceptance
import Redirects.Proofs.Regex.Exchange.Branches
import Redirects.Proofs.Regex.Inside.Guard

/-!
# A path at the end of a pattern

A pattern that ends in a slash and a wildcard is read with the path in the place of the wildcard,
too, unless it refers to groups by number and has groups with names.  The two readings differ in the
last parts of the last branch.  Main statement: the pattern with the path is accepted if the one
with the wildcard is (`isOk_prepare_path`).
-/

namespace Redirects.Regex

/-- Groups were referred to by number among groups with names. -/
def Cursor.mixed (cursor : Cursor) : Bool := cursor.numbered && !cursor.names.isEmpty

namespace Reader

/-- What is read with the path in the place of the wildcard, unless groups are referred to by number
among groups with names. -/
def Retold {α : Type} (value : α) (after : Cursor) (other : Except Fault (α × Cursor)) : Prop :=
  after.mixed = true ∧ other = .error .numberedAmongNamed ∨
    ∃ last : Cursor, last.Ends after ∧ other = .ok (value, last)

theorem Retold.bind {α β : Type} {reader : Reader α} {next : α → Reader β} {start after : Cursor}
    {value : α} {found : β} (retold : Retold value after (reader start))
    (goes_on : ∀ last : Cursor, last.Ends after → next value last = .ok (found, last)) :
    Retold found after ((reader >>= next) start) := by
  rcases retold with ⟨mixed, faulty⟩ | ⟨last, ends, read⟩
  · exact .inl ⟨mixed, bind_error faulty⟩
  · exact .inr ⟨last, ends, (bind_ok read).trans (goes_on last ends)⟩

variable {wild : List Char} (listed : wild ∈ wildTails) {depth : Nat}
include listed

/-! ## The end of a branch -/

omit listed in
/-- The group of the path is no count of the slash. -/
theorem quantified_tail {value : Term} {cursor : Cursor} (rest_eq : cursor.rest = writtenTail) :
    quantified value cursor = .ok (value, cursor) := by
  obtain ⟨_, position, ⟨fold, multiline, dotAll, swapped, spaced⟩, groups, names, numbered,
    referred⟩ := cursor
  cases rest_eq
  cases spaced <;> rfl

omit listed in
/-- The slash and the group behind it are read in the place of the wildcard. -/
theorem retold_slash {value : Term} {cursor place after : Cursor} {further : Nat}
    (meaning : value.OfSlash) (nothing : place.rest = []) (ends : after.Ends place)
    (inside : part (group (pattern depth)) (cursor.within 0 writtenPath) =
      quantified value (place.within 0 writtenTail))
    (enough : (cursor.rest ++ writtenTail).length < further) :
    Retold [value, .tailUnder place.flags place.groups] after
      (parts (group (pattern depth)) (further + 1) (cursor.within 0 writtenPath)) := by
  have some_char : (cursor.within 0 writtenPath).rest ≠ [] := by simp [Cursor.within, writtenPath]
  have rest_eq : (place.within 0 writtenTail).rest = writtenTail := by
    simp [Cursor.within, nothing]
  have slash := inside.trans (quantified_tail rest_eq)
  have moved : (place.within 0 writtenTail).position ≠ (cursor.within 0 writtenPath).position := by
    intro stays
    have passed := onward_of_part (agrees_pattern harmless_nil depth) slash
    have same := passed.rest_eq_of_position stays
    rw [rest_eq] at same
    simpa [Cursor.within, writtenPath, writtenTail] using congrArg List.length same
  obtain ⟨further, rfl⟩ : ∃ other, further = other + 2 := by
    simp only [writtenTail, List.length_append, List.length_cons] at enough
    exact ⟨further - 2, by omega⟩
  obtain ⟨inner, inner_eq⟩ := exists_choice_of_pattern depth
  have tail_read := parts_tail inner rest_eq further
  rw [parts_of_part some_char slash moved, inner_eq]
  by_cases mixed : ((place.within 0 writtenTail).numbered &&
      !(place.within 0 writtenTail).names.isEmpty) = true
  · rw [if_pos mixed] at tail_read
    refine .inl ⟨?_, bind_error tail_read⟩
    rw [Cursor.mixed, ends.numbered, ends.names]
    exact mixed
  · rw [if_neg mixed] at tail_read
    rw [bind_ok tail_read, meaning.not_blank]
    refine .inr ⟨_, ?_, rfl⟩
    exact ⟨rfl, ends.numbered.symm, ends.names.symm, ends.referred.symm⟩

omit listed in
/-- A part that goes on to the end of a pattern is the last. -/
theorem parts_of_last {cursor after : Cursor} {term : Term} (some_char : cursor.rest ≠ [])
    (read : part (group (pattern depth)) cursor = .ok (term, after)) (nothing : after.rest = [])
    (further : Nat) :
    parts (group (pattern depth)) (further + 1) cursor =
      .ok (if term.isBlank then [] else [term], after) := by
  have moved : after.position ≠ cursor.position := by
    intro stays
    have passed := onward_of_part (agrees_pattern harmless_nil depth) read
    exact some_char ((passed.rest_eq_of_position stays).symm.trans nothing)
  rw [parts_of_part some_char read moved, bind_ok (parts_nil _ nothing _)]
  rfl

/-- The parts of a branch that comes to the end of a pattern. -/
theorem parts_retailed {fuel further : Nat} {cursor after : Cursor} {terms : List Term}
    (enough : (cursor.rest ++ '/' :: wild).length < fuel)
    (enough_further : (cursor.rest ++ writtenPath).length < further)
    (read : parts (group (pattern depth)) fuel (cursor.within 0 ('/' :: wild)) = .ok (terms, after))
    (nothing : after.rest = []) :
    ∃ front old new, Retailed old new ∧ terms = front ++ old ∧
      Retold (front ++ new) after
        (parts (group (pattern depth)) further (cursor.within 0 writtenPath)) := by
  induction fuel generalizing further cursor terms with
  | zero => contradiction
  | succ fuel ih =>
      obtain ⟨further, rfl⟩ : ∃ other, further = other + 1 := ⟨further - 1, by omega⟩
      have some_wild : (cursor.within 0 ('/' :: wild)).rest ≠ [] := by simp [Cursor.within]
      have some_path : (cursor.within 0 writtenPath).rest ≠ [] := by
        simp [Cursor.within, writtenPath]
      obtain ⟨term, between, part_read, onward⟩ := exists_part_of_parts some_wild read
      have passed := onward_of_part (agrees_pattern harmless_nil depth) part_read
      have goes_on : ¬(between.position = (cursor.within 0 ('/' :: wild)).position ∧ terms = [] ∧
          between = after) := by
        rintro ⟨stays, -, rfl⟩
        exact some_wild ((passed.rest_eq_of_position stays).symm.trans nothing)
      obtain ⟨moved, more, more_read, rfl⟩ := onward.resolve_left goes_on
      rcases part_exchanged listed (fun _ => swaps_group_pattern listed) part_read with
        ⟨place, rfl, inside⟩ | ⟨ended, stop, inside⟩ |
          ⟨value, place, meaning, ended, counting, inside⟩
      · have shorter := passed.length_lt_of_position moved
        simp only [Cursor.within, List.length_append] at enough enough_further shorter
        have fits : (place.rest ++ '/' :: wild).length < fuel := by
          rw [List.length_append]
          omega
        have fits_further : (place.rest ++ writtenPath).length < further := by
          rw [List.length_append]
          omega
        obtain ⟨front, old, new, retailed, rfl, others⟩ := ih fits fits_further more_read
        refine ⟨if term.isBlank then front else term :: front, old, new, retailed, ?_, ?_⟩
        · split <;> rfl
        · have moved_inside : (place.within 0 writtenPath).position ≠
              (cursor.within 0 writtenPath).position := moved
          rw [parts_of_part some_path inside moved_inside]
          refine others.bind fun last _ => ?_
          split <;> rfl
      · rw [parts_nil _ ended] at more_read
        cases more_read
        let last : Cursor := { after with position := stop }
        have ends : last.Ends after := ⟨ended, rfl, rfl, rfl⟩
        have parts_inside := parts_of_last some_path inside ended further
        refine ⟨_, [], [], .blank, (List.append_nil _).symm, .inr ⟨last, ends, ?_⟩⟩
        rw [List.append_nil]
        exact parts_inside
      · have left_enough : between.rest.length < fuel := by
          have shorter := passed.length_lt_of_position moved
          simp only [Cursor.within] at shorter
          omega
        obtain ⟨retailed, ends⟩ :=
          retailed_of_quantified listed (readsDots_group depth) meaning ended counting left_enough
            more_read
        refine ⟨[], _, _, retailed, rfl, ?_⟩
        refine retold_slash meaning ended ends inside ?_
        simp only [writtenPath, List.length_append, List.length_cons] at enough_further ⊢
        omega

/-! ## The end of a choice -/

/-- The branches of a choice that comes to the end of a pattern. -/
theorem ways_retailed {first other length longer fuel further : Nat} {cursor after : Cursor}
    {found : List Term × List Term}
    (first_fits : (cursor.rest ++ '/' :: wild).length < first)
    (other_fits : (cursor.rest ++ writtenPath).length < other)
    (fits : (cursor.rest ++ '/' :: wild).length < length)
    (fits_longer : (cursor.rest ++ writtenPath).length < longer)
    (enough : (cursor.rest ++ '/' :: wild).length < fuel)
    (enough_further : (cursor.rest ++ writtenPath).length < further)
    (read : ways (group (pattern depth)) first length fuel (cursor.within 0 ('/' :: wild)) =
      .ok (found, after)) (nothing : after.rest = []) :
    ∃ old new told, Retailed old new ∧ Differ old new found told ∧
      Retold told after (ways (group (pattern depth)) other longer further
        (cursor.within 0 writtenPath)) := by
  induction fuel generalizing first other further cursor found with
  | zero => contradiction
  | succ fuel ih =>
      obtain ⟨further, rfl⟩ : ∃ other, further = other + 1 := ⟨further - 1, by omega⟩
      rw [ways] at read ⊢
      obtain ⟨terms, between, parts_read, read⟩ := bind_eq_ok_iff.mp read
      obtain ⟨_, last, blanks_read, read⟩ := bind_eq_ok_iff.mp read
      obtain ⟨others, stop, branches_read, read⟩ := bind_eq_ok_iff.mp read
      cases read
      have still := blanks_of_parts (agrees_pattern harmless_nil depth) first_fits parts_read
      rw [still] at blanks_read
      cases blanks_read
      by_cases done : between.rest = []
      · rw [branches_nil _ done] at branches_read
        cases branches_read
        obtain ⟨front, old, new, retailed, rfl, retold⟩ :=
          parts_retailed listed first_fits other_fits parts_read done
        refine ⟨old, new, _, retailed, .last front, retold.bind fun last ends => ?_⟩
        rw [bind_ok (blanks_nil ends.nothing), bind_ok (branches_nil _ ends.nothing _ _)]
        rfl
      · have parts_swap : Swaps True wild cursor (parts (group (pattern depth)) first)
            (parts (group (pattern depth)) other) :=
          swaps_parts listed (fun _ => swaps_group_pattern listed) (readsDots_group depth)
            (fun _ => alike_group harmless_nil (agrees_pattern harmless_nil depth)) first_fits
            other_fits
        obtain ⟨place, rfl, parts_inside⟩ :=
          (parts_swap terms between parts_read).resolve_right fun ended => done ended.2
        obtain ⟨start, start_eq, blanks_inside⟩ :=
          (swaps_blanks listed place () _ still).resolve_right fun ended => done ended.2
        rw [bind_ok parts_inside, bind_ok blanks_inside]
        have between_le := (onward_of_parts (agrees_pattern harmless_nil depth) first_fits
          parts_read).length_le
        rw [start_eq] at branches_read between_le done
        rw [branches_succ] at branches_read
        obtain ⟨accepted, behind, bar, branches_read⟩ := bind_eq_ok_iff.mp branches_read
        obtain ⟨goal, rfl, bar_inside⟩ :=
          (swaps_accept (by decide) start accepted behind bar).resolve_right (·.1)
        cases accepted with
        | false =>
            rw [eq_of_accept_false bar] at branches_read
            cases branches_read
            exact absurd nothing done
        | true =>
            obtain ⟨⟨second, more⟩, _, ways_read, branches_read⟩ := bind_eq_ok_iff.mp branches_read
            cases branches_read
            have shorter := congrArg List.length (rest_eq_of_accept bar)
            simp only [Cursor.within, List.length_cons, List.length_append] at shorter between_le
            obtain ⟨old, new, ⟨second', more'⟩, retailed, differ, retold⟩ : ∃ old new told,
                Retailed old new ∧ Differ old new (second, more) told ∧
                  Retold told after (ways (group (pattern depth)) longer longer further
                    (goal.within 0 writtenPath)) := by
              refine ih ?_ ?_ ?_ ?_ ?_ ?_ ways_read
              all_goals simp only [writtenPath, List.length_append, List.length_cons] at *
              all_goals omega
            refine ⟨old, new, _, retailed, .behind terms differ, ?_⟩
            have joined : Retold (Term.inSequence second' :: more') after
                (branches (group (pattern depth)) longer (further + 1)
                  (start.within 0 writtenPath)) := by
              rw [branches_succ, bind_ok bar_inside]
              exact retold.bind fun _ _ => rfl
            exact joined.bind fun _ _ => rfl

end Reader

/-! ## Whole patterns -/

/-- The text is read with groups referred to by number among groups with names. -/
def mixes (text : List Char) : Bool :=
  match Reader.pattern maxDepth { rest := text } with
  | .ok (_, after) => after.mixed
  | .error _ => false

open Reader

/-- What a pattern with a path in the place of a wildcard is read as. -/
theorem readPattern_path_of_wild {wild stem : List Char} (listed : wild ∈ wildTails)
    {written : Written} (read : readPattern (stem ++ '/' :: wild) = .ok written) :
    mixes (stem ++ '/' :: wild) = true ∧
        readPattern (stem ++ writtenPath) = .error .numberedAmongNamed ∨
      ∃ old new found told groups, Retailed old new ∧ Differ old new found told ∧
        written.term = Term.inChoice (Term.inSequence found.1) found.2 ∧
        readPattern (stem ++ writtenPath) =
          .ok ⟨Term.inChoice (Term.inSequence told.1) told.2, groups, written.referred⟩ := by
  obtain ⟨term, after, pattern_read, nothing, rfl⟩ := exists_of_readPattern read
  obtain ⟨terms, others, ways_read, rfl, apart⟩ := exists_ways_of_pattern pattern_read
  have wild_fits := Nat.lt_succ_self (stem ++ '/' :: wild).length
  have path_fits := Nat.lt_succ_self (stem ++ writtenPath).length
  let start : Cursor := { rest := stem }
  obtain ⟨old, new, told, retailed, differ, retold⟩ : ∃ old new told, Retailed old new ∧
      Differ old new (terms, others) told ∧
        Retold told after (ways (group (pattern (maxDepth - 1))) ((stem ++ writtenPath).length + 1)
          ((stem ++ writtenPath).length + 1) ((stem ++ writtenPath).length + 1)
          (start.within 0 writtenPath)) :=
    ways_retailed listed wild_fits path_fits wild_fits path_fits wild_fits path_fits ways_read
      nothing
  have path_eq : pattern maxDepth { rest := stem ++ writtenPath } =
      choiceBehind [] (group (pattern (maxDepth - 1))) ((stem ++ writtenPath).length + 1)
        ((stem ++ writtenPath).length + 1) (start.within 0 writtenPath) := by
    change choice _ _ = _
    rw [choice_eq]
    rfl
  rcases retold with ⟨mixed, faulty⟩ | ⟨last, ends, told_read⟩
  · left
    refine ⟨?_, ?_⟩
    · rw [mixes, pattern_read]
      exact mixed
    · rw [readPattern_eq, path_eq, choiceBehind, bind_error faulty]
      rfl
  · right
    refine ⟨old, new, _, told, last.groups, retailed, differ, rfl, ?_⟩
    rw [← ends.numbered, ← ends.names, differ.isEmpty] at apart
    have path_read := path_eq.trans (choiceBehind_of_ways told_read apart [])
    rw [readPattern_of_ok path_read ends.nothing, ends.referred]
    rfl

/-! ## Patterns that are accepted -/

section Unbounded

variable {limits : Limits} (unbounded : limits.Unbounded)
include unbounded

/-- The slash and the group of the path may stand in the place of a slash and a wildcard. -/
theorem replaces_of_retailed {old new : List Term} (retailed : Retailed old new) :
    Replaces limits old new := by
  have replaces {value : Term} {old : List Term} (meaning : value.OfSlash) (flags : Flags)
      (groups : Nat) (classic : old.all Term.classic = true → value.classic = true)
      (sound : ∀ referred, old.all (Term.sound limits referred) = true →
        value.sound limits referred = true)
      (beyond : ∀ referred, (Term.tailUnder flags groups).beyondClassical referred = false →
        old.all (fun term => !term.beyondClassical referred) = true) :
      Replaces limits old [value, .tailUnder flags groups] := by
    have tail_classic : (Term.tailUnder flags groups).classic = true := by
      rw [Term.tailUnder, Term.classic_group, Term.line, Term.classic_many]
      rfl
    have tail_sound (referred : List Nat) :
        (Term.tailUnder flags groups).sound limits referred = true :=
      sound_of_classic unbounded tail_classic
    refine ⟨fun all => ?_, fun referred all => ?_, fun referred all => ?_, fun opened _ => ?_⟩
    · simp [classic all, tail_classic]
    · simp [sound referred all, tail_sound]
    · exact beyond referred (by simpa using (List.all_eq_true.mp all) _ (by simp))
    · rcases meaning with rfl | ⟨_, rfl⟩ <;> rfl
  have unbeyond {value : Term} (meaning : value.OfSlash) (referred : List Nat) :
      value.beyondClassical referred = false := by
    rcases meaning with rfl | ⟨_, rfl⟩ <;> rfl
  cases retailed with
  | blank => exact ⟨id, fun _ => id, fun _ => id, fun _ => id⟩
  | dots flags least groups meaning =>
      refine replaces meaning flags groups ?_ ?_ fun referred _ => ?_
      · simp +contextual
      · simp +contextual
      · simp [unbeyond meaning, Term.beyondClassical, Term.dots]
  | grouped flags least groups meaning =>
      refine replaces meaning flags groups ?_ ?_ fun referred outside => ?_
      · simp +contextual
      · simp +contextual
      · rw [Term.tailUnder, Term.line] at outside
        simpa [unbeyond meaning, Term.beyondClassical, Term.dots] using outside
  | repeated flags least groups greedy meaning =>
      refine replaces meaning flags groups ?_ ?_ fun referred _ => ?_
      · simp +contextual [Term.classic_many]
      · simp +contextual [sound_many unbounded]
      · simp [unbeyond meaning, Term.beyondClassical]

/-- A pattern that is accepted with a wildcard at its end is accepted with a path there, too, unless
it refers to groups by number and has groups with names. -/
theorem isOk_prepare_path {wild stem : List Char} (listed : wild ∈ wildTails)
    {source path : String} (source_eq : source.toList = stem ++ '/' :: wild)
    (path_eq : path.toList = stem ++ writtenPath)
    (accepted : (prepareWithin limits source).isOk = true) :
    (prepareWithin limits path).isOk = true ∨
      mixes source.toList = true ∧ readPattern path.toList = .error .numberedAmongNamed := by
  rw [prepareWithin, source_eq] at accepted
  rw [prepareWithin, path_eq, source_eq]
  cases read : readPattern (stem ++ '/' :: wild) with
  | error fault =>
      rw [read] at accepted
      cases accepted
  | ok written =>
      rw [read] at accepted
      change (written.prepare limits).isOk = true at accepted
      rcases readPattern_path_of_wild listed read with
        ⟨mixed, faulty⟩ | ⟨old, new, found, told, groups, retailed, differ, term_eq, path_read⟩
      · exact .inr ⟨mixed, faulty⟩
      · rw [path_read]
        obtain ⟨term, opened, referred⟩ := written
        subst term_eq
        have replaces := replaces_of_retailed unbounded retailed
        exact .inl (isOk_prepare_of_differ unbounded replaces differ accepted)

end Unbounded

end Redirects.Regex
