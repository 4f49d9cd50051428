import Redirects.Proofs.Regex.Exchange.Groups

/-!
# Branches with a path in the place of a wildcard

A part is read alike before a wildcard and before the path that takes its place, or it goes on to
the end of both in a comment, or it takes the slash.  A pattern is read alike if it ends before the
slash (`swaps_pattern`).
-/

namespace Redirects.Regex

/-- What a part that takes the slash is read as: the slash, or a property that there is not. -/
def Term.OfSlash (term : Term) : Prop := term = .unreadable ∨ ∃ fold, term = .char fold '/'

theorem Term.OfSlash.not_blank {value : Term} (meaning : value.OfSlash) :
    value.isBlank = false := by
  rcases meaning with rfl | ⟨_, rfl⟩ <;> rfl

/-- What the end of a pattern is read as, and what with the path in the place of the wildcard. -/
inductive Retailed : List Term → List Term → Prop where
  /-- A comment goes on over both. -/
  | blank : Retailed [] []
  | dots {value : Term} (flags : Flags) (least groups : Nat) (meaning : value.OfSlash) :
      Retailed [value, .dots flags least] [value, .tailUnder flags groups]
  | grouped {value : Term} (flags : Flags) (least groups : Nat) (meaning : value.OfSlash) :
      Retailed [value, .group (groups + 1) (.dots flags least)] [value, .tailUnder flags groups]
  | repeated {value : Term} (flags : Flags) (least groups : Nat) (greedy : Bool)
      (meaning : value.OfSlash) :
      Retailed [.many value least none greedy] [value, .tailUnder flags groups]

/-- One place of reading is at the end of a pattern, and the same groups were referred to among the
same names as at another. -/
structure Cursor.Ends (last other : Cursor) : Prop where
  nothing : last.rest = []
  numbered : last.numbered = other.numbered
  names : last.names = other.names
  referred : last.referred = other.referred

namespace Reader

/-- The slash is taken, and what follows it is left of both patterns. -/
def Over (wild : List Char) (value : Term) (after : Cursor)
    (other : Except Fault (Term × Cursor)) : Prop :=
  value.OfSlash ∧ ∃ place : Cursor, place.rest = [] ∧ after = place.within 0 wild ∧
    other = .ok (value, place.within 0 writtenTail)

variable {wild : List Char} (listed : wild ∈ wildTails)
include listed

/-! ## Quantifiers -/

/-- What a reader takes before the wildcard, the other takes before the path, too, to the end of
both if it comes there. -/
def Keeps {α : Type} (wild : List Char) (cursor : Cursor) (reader other : Reader α) : Prop :=
  ∀ value after, reader (cursor.within 0 ('/' :: wild)) = .ok (value, after) →
    Parallel ('/' :: wild) writtenPath value after (other (cursor.within 0 writtenPath)) ∨
      Whole value after (other (cursor.within 0 writtenPath))

omit listed in
theorem Swaps.keeps {α : Type} {cursor : Cursor} {reader other : Reader α}
    (firm : Swaps False wild cursor reader other) : Keeps wild cursor reader other :=
  fun value after read => .inl ((firm value after read).resolve_right (·.1))

omit listed in
theorem Keeps.bind {α β : Type} {cursor : Cursor} {first inside : Reader α}
    {next others : α → Reader β} (front : Keeps wild cursor first inside)
    (back : ∀ value place, Keeps wild place (next value) (others value))
    (ends : ∀ value between stop, between.rest = [] → ∀ found after,
      next value between = .ok (found, after) →
        Whole found after (others value { between with position := stop })) :
    Keeps wild cursor (first >>= next) (inside >>= others) := by
  intro value after read
  obtain ⟨found, between, first_eq, next_eq⟩ := bind_eq_ok_iff.mp read
  rcases front found between first_eq with ⟨place, rfl, inside_eq⟩ | ⟨nothing, stop, inside_eq⟩
  · rw [bind_ok inside_eq]
    exact back found place value after next_eq
  · rw [bind_ok inside_eq]
    exact .inr (ends found between stop nothing value after next_eq)

theorem keeps_blanks (cursor : Cursor) : Keeps wild cursor blanks blanks :=
  fun _ _ read => blanks_exchanged listed read

/-- What a repetition is read as behind its count. -/
def counted (term : Term) (count : Count) : Reader Term := do
  let marked ← accept '?'
  let greedy := marked == (← flags).swapped
  let repeated : Term := .many term count.least count.most greedy
  if ← accept '+' then return .atomic repeated else return repeated

omit listed in
theorem swaps_counted (term : Term) (count : Count) (cursor : Cursor) :
    Swaps False wild cursor (counted term count) (counted term count) := by
  rw [counted]
  refine .bind (swaps_accept (by decide) _) fun marked _ => .flags ?_
  exact .bind (swaps_accept (by decide) _) fun possessive _ =>
    .ite (fun _ => .pure _) fun _ => .pure _

omit listed in
/-- Behind a count at the end of both patterns nothing is left. -/
theorem whole_counted {term found : Term} {count : Count} {cursor after : Cursor}
    (nothing : cursor.rest = []) (read : counted term count cursor = .ok (found, after))
    (stop : Nat) :
    Whole found after (counted term count { cursor with position := stop }) := by
  obtain ⟨rest, position, flags, groups, names, numbered, referred⟩ := cursor
  cases nothing
  cases read
  exact ⟨rfl, stop, rfl⟩

/-- What follows an atom is read alike, unless a comment goes on to the end of both patterns. -/
theorem keeps_quantified (term : Term) (cursor : Cursor) :
    Keeps wild cursor (quantified term) (quantified term) := by
  rw [quantified]
  refine (keeps_blanks listed cursor).bind (fun _ place => ?_) fun _ between stop nothing => ?_
  · intro found after read
    obtain ⟨_, _, ⟨⟩, read⟩ := bind_eq_ok_iff.mp read
    have get_eq : (get : Reader Cursor) (place.within 0 writtenPath) =
      .ok (place.within 0 writtenPath, place.within 0 writtenPath) := rfl
    rw [bind_ok get_eq, count?_within harmless_path]
    rw [count?_within (harmless_wild listed)] at read
    cases count_eq : count? place with
    | none =>
        rw [count_eq] at read
        cases read
        exact .inl ⟨place, rfl, rfl⟩
    | some count =>
        rw [count_eq] at read
        let behind : Cursor :=
          { place with rest := count.rest, position := count.lastPosition + 1 }
        have keeps : Keeps wild behind (do blanks; counted term count)
            (do blanks; counted term count) :=
          (keeps_blanks listed behind).bind
            (fun _ marking => (swaps_counted term count marking).keeps)
            fun _ between stop nothing found after read => whole_counted nothing read stop
        simp only [Option.map_some] at read ⊢
        cases repeatable : term.repeatable with
        | false =>
            rw [repeatable] at read
            cases read
        | true =>
            rw [repeatable] at read
            exact keeps found after read
  · intro found after read
    obtain ⟨rest, position, flags, groups, names, numbered, referred⟩ := between
    cases nothing
    cases read
    exact ⟨rfl, stop, rfl⟩

/-! ## Parts -/

section Group

variable {group : Reader Term}
  (swaps : ∀ cursor : Cursor, cursor.rest ≠ [] → Swaps False wild cursor group group)
include swaps

theorem swaps_atomAt (flags : Flags) {cursor : Cursor} {c : Char} {rest : List Char}
    (rest_eq : cursor.rest = c :: rest)
    (quoted : c = '\\' → ∃ d more, rest = d :: more ∧ (more = [] → d ≠ 'p' ∧ d ≠ 'P')) :
    Swaps False wild cursor (atomAt group flags c) (atomAt group flags c) := by
  have some_char : cursor.rest ≠ [] := by simp [rest_eq]
  have taken (term : Term) : Swaps False wild cursor (do skip 1; return term)
      (do skip 1; return term) :=
    .bind (.skip (List.length_pos_iff.mpr some_char)) fun _ _ => .pure _
  fun_cases atomAt group flags c with
  | case4 => exact swaps cursor some_char
  | case5 => exact swaps_bracket listed some_char
  | case6 =>
      obtain ⟨d, more, rfl, named⟩ := quoted rfl
      refine .bind (swaps_escape listed false rest_eq named) fun escaped _ => ?_
      cases escaped with
      | term term =>
          cases term with
          | again number => exact .bind (.modify fun _ => rfl) fun _ _ => .pure _
          | _ => exact .pure _
      | _ => exact .pure _
  | case7 => exact .pure _
  | _ => exact taken _

/-- An atom is read alike, or it takes the slash. -/
theorem visibleAtom_exchanged {cursor after : Cursor} {term : Term}
    (read : visibleAtom group (cursor.within 0 ('/' :: wild)) = .ok (term, after)) :
    Parallel ('/' :: wild) writtenPath term after
        (visibleAtom group (cursor.within 0 writtenPath)) ∨
      Over wild term after (visibleAtom group (cursor.within 0 writtenPath)) := by
  cases rest_eq : cursor.rest with
  | nil =>
      have slash_eq (tail : List Char) : (cursor.within 0 ('/' :: tail)).rest = '/' :: tail := by
        simp [Cursor.within, rest_eq]
      let behind : Cursor := { cursor with position := cursor.position + 1 }
      have taken (tail : List Char) : visibleAtom group (cursor.within 0 ('/' :: tail)) =
          .ok (.char cursor.flags.fold '/', behind.within 0 tail) := by
        rw [visibleAtom_cons group (slash_eq tail)]
        obtain ⟨rest, position, flags, groups, names, numbered, referred⟩ := cursor
        cases rest_eq
        rfl
      rw [taken] at read
      cases read
      exact .inr ⟨.inr ⟨_, rfl⟩, behind, rest_eq, rfl, taken _⟩
  | cons c rest =>
      have inside_eq (tail : List Char) : (cursor.within 0 tail).rest = c :: (rest ++ tail) := by
        simp [Cursor.within, rest_eq]
      have wild_eq : visibleAtom group (cursor.within 0 ('/' :: wild)) =
          atomAt group cursor.flags c (cursor.within 0 ('/' :: wild)) :=
        visibleAtom_cons group (inside_eq _)
      have path_eq : visibleAtom group (cursor.within 0 writtenPath) =
          atomAt group cursor.flags c (cursor.within 0 writtenPath) :=
        visibleAtom_cons group (inside_eq _)
      rw [wild_eq] at read
      rw [path_eq]
      by_cases cut : c = '\\' ∧ (rest = [] ∨ ∃ d, (d = 'p' ∨ d = 'P') ∧ rest = [d])
      · obtain ⟨rfl, short⟩ := cut
        have short : cursor.rest = ['\\'] ∨
            ∃ d, (d = 'p' ∨ d = 'P') ∧ cursor.rest = ['\\', d] := by
          rw [rest_eq]
          refine short.imp (congrArg _) ?_
          rintro ⟨d, letter, same⟩
          exact ⟨d, letter, congrArg _ same⟩
        obtain ⟨value, place, nothing, meaning, escaped⟩ := escape_over short
        have taken (tail : List Char) : atomAt group cursor.flags '\\'
            (cursor.within 0 ('/' :: tail)) = escapedTerm value (place.within 0 tail) :=
          bind_ok (escaped tail)
        rw [taken] at read
        rw [writtenPath, taken]
        rcases meaning with rfl | rfl
        · cases read
          exact .inr ⟨.inr ⟨_, rfl⟩, place, nothing, rfl, rfl⟩
        · cases read
          exact .inr ⟨.inl rfl, place, nothing, rfl, rfl⟩
      · left
        refine Or.resolve_right (swaps_atomAt listed swaps cursor.flags rest_eq ?_ term after read)
          (·.1)
        rintro rfl
        rw [not_and, not_or] at cut
        obtain ⟨some_char, unnamed⟩ := cut rfl
        obtain ⟨d, more, rfl⟩ := List.exists_cons_of_ne_nil some_char
        refine ⟨d, more, rfl, ?_⟩
        rintro rfl
        exact not_or.mp fun letter => unnamed ⟨d, letter, rfl⟩

/-- A part is read alike, or to the end of both patterns, or it takes the slash. -/
theorem part_exchanged {cursor after : Cursor} {term : Term}
    (read : part group (cursor.within 0 ('/' :: wild)) = .ok (term, after)) :
    Parallel ('/' :: wild) writtenPath term after (part group (cursor.within 0 writtenPath)) ∨
      Whole term after (part group (cursor.within 0 writtenPath)) ∨
      ∃ (value : Term) (place : Cursor), value.OfSlash ∧ place.rest = [] ∧
        quantified value (place.within 0 wild) = .ok (term, after) ∧
        part group (cursor.within 0 writtenPath) =
          quantified value (place.within 0 writtenTail) := by
  rw [part_eq, atom_eq] at read ⊢
  obtain ⟨first, between, atom_read, quantified_read⟩ := bind_eq_ok_iff.mp read
  obtain ⟨_, start, blanks_read, visible_read⟩ := bind_eq_ok_iff.mp atom_read
  rcases blanks_exchanged listed blanks_read with ⟨place, rfl, inside⟩ | ⟨nothing, stop, inside⟩
  · rcases visibleAtom_exchanged listed swaps visible_read with
      ⟨last, rfl, atom_inside⟩ | ⟨meaning, last, nothing, rfl, atom_inside⟩
    · rw [bind_ok ((bind_ok inside).trans atom_inside)]
      exact (keeps_quantified listed first last term after quantified_read).imp_right .inl
    · rw [bind_ok ((bind_ok inside).trans atom_inside)]
      exact .inr (.inr ⟨first, last, meaning, nothing, quantified_read, rfl⟩)
  · rw [visibleAtom_nil _ nothing] at visible_read
    cases visible_read
    rw [quantified_nil nothing] at quantified_read
    cases quantified_read
    have ended : ({ after with position := stop } : Cursor).rest = [] := nothing
    rw [bind_ok ((bind_ok inside).trans (visibleAtom_nil _ ended)), quantified_nil ended]
    exact .inr (.inl ⟨nothing, stop, rfl⟩)

/-! ## Nested patterns -/

omit swaps in
/-- What is left of the wildcard behind the slash repeats it, or is a repeated dot. -/
theorem quantified_wild {value : Term} (meaning : value.OfSlash) {cursor : Cursor}
    (rest_eq : cursor.rest = wild) :
    (∃ mark least, (mark, least) ∈ dotMarks ∧ (wild = ['.', mark] ∨ wild = ['(', '.', mark, ')']) ∧
      quantified value cursor = .ok (value, cursor)) ∨
    ∃ least greedy, quantified value cursor = .ok (.many value least none greedy,
      { cursor with rest := [], position := cursor.position + 1 }) := by
  obtain ⟨_, position, ⟨fold, multiline, dotAll, swapped, spaced⟩, groups, names, numbered,
    referred⟩ := cursor
  cases rest_eq
  simp only [wildTails, List.mem_cons, List.not_mem_nil, or_false] at listed
  rcases listed with rfl | rfl | rfl | rfl | rfl
  · refine .inl ⟨'*', 0, by decide, .inl rfl, ?_⟩
    cases spaced <;> rfl
  · refine .inl ⟨'+', 1, by decide, .inl rfl, ?_⟩
    cases spaced <;> rfl
  · refine .inr ⟨0, false == swapped, ?_⟩
    rcases meaning with rfl | ⟨_, rfl⟩ <;> cases spaced <;> rfl
  · refine .inr ⟨1, false == swapped, ?_⟩
    rcases meaning with rfl | ⟨_, rfl⟩ <;> cases spaced <;> rfl
  · refine .inl ⟨'+', 1, by decide, .inr rfl, ?_⟩
    cases spaced <;> rfl

/-- A dot in parentheses is read as a group, if it is read. -/
def ReadsDots (group : Reader Term) : Prop :=
  ∀ (cursor after : Cursor) (term : Term), cursor.rest = ['(', '.', '+', ')'] →
    part group cursor = .ok (term, after) →
      (term, after) = (.group (cursor.groups + 1) (.dots cursor.flags 1),
        { cursor with
          rest := [], position := cursor.position + 4, groups := cursor.groups + 1 })

section Nested

variable (dotted : ReadsDots group)
include dotted

omit swaps in
/-- A part at what is left of the wildcard takes it whole. -/
theorem part_wild {mark : Char} {least : Nat} (marked : (mark, least) ∈ dotMarks)
    (shape : wild = ['.', mark] ∨ wild = ['(', '.', mark, ')']) {cursor after : Cursor}
    {term : Term} (rest_eq : cursor.rest = wild) (read : part group cursor = .ok (term, after)) :
    (term = .dots cursor.flags least ∨
        term = .group (cursor.groups + 1) (.dots cursor.flags least)) ∧
      after.Ends cursor ∧ after.position ≠ cursor.position := by
  rcases shape with rfl | rfl
  · rw [part_dots marked group rest_eq (.inl rfl)] at read
    cases read
    exact ⟨.inl rfl, ⟨rfl, rfl, rfl, rfl⟩, by simp⟩
  · obtain ⟨rfl, rfl⟩ : mark = '+' ∧ least = 1 := by
      simp only [wildTails, List.mem_cons, List.not_mem_nil, or_false] at listed
      obtain rfl : mark = '+' := by simpa using listed
      simpa [dotMarks] using marked
    cases dotted cursor after term rest_eq read
    exact ⟨.inr rfl, ⟨rfl, rfl, rfl, rfl⟩, by simp⟩

omit swaps in
/-- What the slash and the wildcard are read as. -/
theorem retailed_of_quantified {value found : Term} {place between after : Cursor}
    {more : List Term} {fuel : Nat} (meaning : value.OfSlash) (nothing : place.rest = [])
    (read : quantified value (place.within 0 wild) = .ok (found, between))
    (enough : between.rest.length < fuel)
    (parts_read : parts group fuel between = .ok (more, after)) :
    Retailed (if found.isBlank then more else found :: more)
      [value, .tailUnder place.flags place.groups] ∧ after.Ends place := by
  have rest_eq : (place.within 0 wild).rest = wild := by simp [Cursor.within, nothing]
  rcases quantified_wild listed meaning rest_eq with
    ⟨mark, least, marked, shape, behind⟩ | ⟨least, greedy, behind⟩
  · rw [behind] at read
    cases read
    have some_char : (place.within 0 wild).rest ≠ [] := by
      rw [rest_eq]
      rcases shape with rfl | rfl <;> exact List.cons_ne_nil _ _
    obtain ⟨fuel, rfl⟩ : ∃ other, fuel = other + 1 := ⟨fuel - 1, by omega⟩
    obtain ⟨term, last, part_read, onward⟩ := exists_part_of_parts some_char parts_read
    obtain ⟨term_eq, ends, moved⟩ := part_wild listed dotted marked shape rest_eq part_read
    obtain ⟨-, others, others_read, rfl⟩ := onward.resolve_left fun stuck => moved stuck.1
    rw [parts_nil _ ends.nothing] at others_read
    cases others_read
    refine ⟨?_, ends.nothing, ends.numbered, ends.names, ends.referred⟩
    rw [meaning.not_blank]
    rcases term_eq with rfl | rfl
    · exact .dots place.flags least place.groups meaning
    · exact .grouped place.flags least place.groups meaning
  · rw [behind] at read
    cases read
    rw [parts_nil _ rfl] at parts_read
    cases parts_read
    exact ⟨.repeated place.flags least place.groups greedy meaning, rfl, rfl, rfl, rfl⟩

variable (alike : ∀ cursor : Cursor, cursor.rest ≠ [] → Alike 0 [] cursor group group)
include alike

omit listed swaps dotted in
theorem onward_of_alike_part {cursor after : Cursor} {term : Term}
    (read : part group cursor = .ok (term, after)) : cursor.Onward after :=
  (agrees_part harmless_nil alike cursor term after read).1

omit listed swaps dotted alike in
/-- Nothing follows a part that stays where it is. -/
theorem parts_of_stuck {cursor between : Cursor} {term : Term} (some_char : cursor.rest ≠ [])
    (part_read : part group cursor = .ok (term, between))
    (stays : between.position = cursor.position) (fuel : Nat) :
    parts group (fuel + 1) cursor = .ok ([], between) := by
  have position_eq : Reader.position cursor = .ok (cursor.position, cursor) := rfl
  have left_eq : left cursor = .ok (cursor.rest, cursor) := rfl
  have between_eq : Reader.position between = .ok (between.position, between) := rfl
  rw [parts, bind_ok position_eq, bind_ok left_eq, if_neg (by simpa using some_char),
    bind_ok part_read, bind_ok between_eq, if_pos (by simpa using stays)]
  rfl

omit listed swaps dotted alike in
/-- What takes the slash does not stay in front of it. -/
theorem moved_over_slash {value found : Term} {cursor place between : Cursor}
    (nothing : place.rest = [])
    (counting : quantified value (place.within 0 wild) = .ok (found, between))
    (passed : (cursor.within 0 ('/' :: wild)).Onward between) :
    between.position ≠ (cursor.within 0 ('/' :: wild)).position := by
  intro stays
  have same := passed.rest_eq_of_position stays
  have left_le := (onward_of_quantified counting).length_le
  rw [same] at left_le
  simp [Cursor.within, nothing] at left_le
  omega

/-- The parts of a branch are read alike, or to the end of the pattern. -/
theorem swaps_parts {fuel further : Nat} {cursor : Cursor}
    (enough : (cursor.rest ++ '/' :: wild).length < fuel)
    (enough_further : (cursor.rest ++ writtenPath).length < further) :
    Swaps True wild cursor (parts group fuel) (parts group further) := by
  induction fuel generalizing further cursor with
  | zero => contradiction
  | succ fuel ih =>
      obtain ⟨further, rfl⟩ : ∃ other, further = other + 1 := ⟨further - 1, by omega⟩
      intro terms after read
      have some_wild : (cursor.within 0 ('/' :: wild)).rest ≠ [] := by simp [Cursor.within]
      have some_path : (cursor.within 0 writtenPath).rest ≠ [] := by
        simp [Cursor.within, writtenPath]
      obtain ⟨term, between, part_read, onward⟩ := exists_part_of_parts some_wild read
      have passed := onward_of_alike_part alike part_read
      rcases part_exchanged listed swaps part_read with
        ⟨place, rfl, inside⟩ | ⟨ended, -⟩ | ⟨value, place, meaning, nothing, counting, -⟩
      · rcases onward with ⟨stays, rfl, rfl⟩ | ⟨moved, more, more_read, rfl⟩
        · exact .inl ⟨place, rfl, parts_of_stuck some_path inside stays further⟩
        · have shorter := passed.length_lt_of_position moved
          simp only [Cursor.within, List.length_append] at enough enough_further shorter
          have others : Swaps True wild place (parts group fuel) (parts group further) :=
            ih (by rw [List.length_append]; omega) (by rw [List.length_append]; omega)
          refine (others more after more_read).imp_left ?_
          rintro ⟨last, after_eq, more_inside⟩
          rw [parts_of_part some_path inside moved, bind_ok more_inside]
          exact ⟨last, after_eq, rfl⟩
      · refine .inr ⟨trivial, ?_⟩
        rcases onward with ⟨-, -, rfl⟩ | ⟨-, more, more_read, -⟩
        · exact ended
        · rw [parts_nil _ ended] at more_read
          cases more_read
          exact ended
      · obtain ⟨moved, more, more_read, -⟩ :=
          onward.resolve_left fun stuck => moved_over_slash nothing counting passed stuck.1
        have shorter := passed.length_lt_of_position moved
        have left_enough : between.rest.length < fuel := by
          simp only [Cursor.within] at shorter
          omega
        have ends := (retailed_of_quantified listed dotted meaning nothing counting left_enough
          more_read).2
        exact .inr ⟨trivial, ends.nothing⟩

theorem swaps_ways {first other length longer fuel further : Nat} {cursor : Cursor}
    (first_fits : (cursor.rest ++ '/' :: wild).length < first)
    (other_fits : (cursor.rest ++ writtenPath).length < other)
    (fits : (cursor.rest ++ '/' :: wild).length < length)
    (fits_longer : (cursor.rest ++ writtenPath).length < longer)
    (enough : (cursor.rest ++ '/' :: wild).length < fuel)
    (enough_further : (cursor.rest ++ writtenPath).length < further) :
    Swaps True wild cursor (ways group first length fuel) (ways group other longer further) := by
  induction fuel generalizing first other further cursor with
  | zero => contradiction
  | succ fuel ih =>
      obtain ⟨further, rfl⟩ : ∃ other, further = other + 1 := ⟨further - 1, by omega⟩
      have no_branch {terms : List Term} {cursor after : Cursor} {found : List Term × List Term}
          (nothing : cursor.rest = []) (read : (do
            let others ← branches group length (fuel + 1)
            return (terms, others)) cursor = .ok (found, after)) : after.rest = [] := by
        rw [bind_ok (branches_nil _ nothing _ _)] at read
        cases read
        exact nothing
      refine (swaps_parts listed swaps dotted alike first_fits other_fits).bind_stays ?_ ?_
      · intro terms between found after nothing read
        rw [bind_ok (blanks_nil nothing)] at read
        exact no_branch nothing read
      · intro terms between parts_read
        refine (swaps_blanks listed between).bind_stays ?_ ?_
        · intro _ place found after nothing read
          exact no_branch nothing read
        · intro _ place blanks_read
          have between_le := (agrees_parts harmless_nil alike first_fits first_fits _ _
            parts_read).1.length_le
          have place_le := (onward_of_blanks blanks_read).length_le
          rw [branches_succ, branches_succ]
          refine Swaps.bind_stays ?_ ?_ fun others last _ => .pure _
          · refine (swaps_accept (by decide) place).bind_read fun accepted behind bar =>
              .ite (fun yes => ?_) fun _ => .pure _
            have bar_eq : (place.within 0 ('/' :: wild)).rest =
                '|' :: (behind.within 0 ('/' :: wild)).rest := by
              rw [yes] at bar
              exact rest_eq_of_accept bar
            have shorter := congrArg List.length bar_eq
            simp only [Cursor.within, List.length_cons, List.length_append] at shorter
            simp only [Cursor.within, List.length_append] at between_le place_le
            simp only [List.length_cons, List.length_append] at fits fits_longer enough
            simp only [List.length_append] at enough_further
            have inner : Swaps True wild behind (ways group length length fuel)
                (ways group longer longer further) := by
              apply ih <;>
                simp only [writtenPath, List.length_append, List.length_cons] at * <;> omega
            refine inner.bind_stays ?_ fun found last _ => .pure _
            rintro found last _ _ nothing ⟨⟩
            exact nothing
          · rintro others last _ _ nothing ⟨⟩
            exact nothing

theorem swaps_choice (cursor : Cursor) :
    Swaps True wild cursor (choice group) (choice group) := by
  rw [choice_eq]
  have first_fits := Nat.lt_succ_self (cursor.rest ++ '/' :: wild).length
  have other_fits := Nat.lt_succ_self (cursor.rest ++ writtenPath).length
  refine .left ((swaps_ways listed swaps dotted alike first_fits other_fits first_fits other_fits
    first_fits other_fits).bind_stays ?_ fun found last _ => .get ?_)
  · intro found last term after nothing read
    obtain ⟨_, _, ⟨⟩, read⟩ := bind_eq_ok_iff.mp read
    dsimp only at read
    split at read
    · cases read
    · cases read
      exact nothing
  · exact .ite (fun _ => fun _ _ => nofun) fun _ => .pure _

end Nested

end Group

/-! ## Patterns -/

omit listed in
theorem exists_choice_of_pattern (depth : Nat) : ∃ inner, pattern depth = choice inner := by
  cases depth <;> exact ⟨_, rfl⟩

omit listed in
theorem onward_of_pattern {depth : Nat} {cursor after : Cursor} {term : Term}
    (read : pattern depth cursor = .ok (term, after)) : cursor.Onward after :=
  have agrees : Agrees ([] = []) 0 [] cursor (pattern depth) (pattern depth) :=
    agrees_pattern harmless_nil depth cursor
  (agrees term after read).1

omit listed in
theorem readsDots_group (depth : Nat) : ReadsDots (group (pattern depth)) := by
  intro cursor after term rest_eq read
  obtain ⟨inner, inner_eq⟩ := exists_choice_of_pattern depth
  rw [inner_eq, part_dots_group (by decide : ('+', 1) ∈ dotMarks) inner rest_eq] at read
  split at read
  · cases read
  · cases read
    rfl

/-- A pattern is read alike, unless reading comes to the end. -/
theorem swaps_pattern (depth : Nat) (cursor : Cursor) :
    Swaps True wild cursor (pattern depth) (pattern depth) := by
  induction depth generalizing cursor with
  | zero =>
      refine swaps_choice listed (fun _ _ => .fail _ _) ?_ (fun _ _ => .fail _ _) cursor
      rintro ⟨_, position, ⟨fold, multiline, dotAll, swapped, spaced⟩, groups, names, numbered,
        referred⟩ after term ⟨⟩ read
      cases spaced <;> cases read
  | succ depth ih =>
      exact swaps_choice listed
        (fun _ => swaps_group listed ih fun _ _ _ read => (onward_of_pattern read).rest_eq_nil)
        (readsDots_group depth)
        (fun _ => alike_group harmless_nil (agrees_pattern harmless_nil depth)) cursor

/-- A group is read alike. -/
theorem swaps_group_pattern {depth : Nat} {cursor : Cursor} (some_char : cursor.rest ≠ []) :
    Swaps False wild cursor (group (pattern depth)) (group (pattern depth)) :=
  swaps_group listed (swaps_pattern listed depth)
    (fun _ _ _ read => (onward_of_pattern read).rest_eq_nil) some_char

end Reader

end Redirects.Regex
