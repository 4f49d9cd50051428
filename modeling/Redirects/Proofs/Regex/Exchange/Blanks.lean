import Redirects.Proofs.Regex.Inside.Ending

/-!
# Reading with a path in the place of a wildcard

A pattern that ends in a slash and a wildcard is compared with the one that has a group for the rest
of the path in its place.  Up to the slash both are read alike.  A comment that goes on over the
slash goes on to the end of both patterns.
-/

namespace Redirects.Regex

/-- The wildcards in the place of which the rest of a path is taken, without the slash in front. -/
def wildTails : List (List Char) := [['.', '*'], ['.', '+'], ['*'], ['+'], ['(', '.', '+', ')']]

variable {wild : List Char} (listed : wild ∈ wildTails)
include listed

theorem harmless_wild : Harmless ('/' :: wild) where
  slash_of_head := by simp
  brace_not_mem := by
    have absent : ∀ wild ∈ wildTails, '\x7d' ∉ '/' :: wild := by decide
    exact absent wild listed

theorem newline_not_mem : '\n' ∉ '/' :: wild := by
  have absent : ∀ wild ∈ wildTails, '\n' ∉ '/' :: wild := by decide
  exact absent wild listed

theorem close_not_mem : ']' ∉ '/' :: wild := by
  have absent : ∀ wild ∈ wildTails, ']' ∉ '/' :: wild := by decide
  exact absent wild listed

theorem byteLength_wild_le : Text.byteLength ('/' :: wild) ≤ Text.byteLength writtenPath := by
  have shorter : ∀ wild ∈ wildTails,
      Text.byteLength ('/' :: wild) ≤ Text.byteLength writtenPath := by decide
  exact shorter wild listed

theorem length_wild_le : wild.length ≤ writtenTail.length := by
  have shorter : ∀ wild ∈ wildTails, wild.length ≤ writtenTail.length := by decide
  exact shorter wild listed

namespace Reader

/-- Before both ends reading goes on from one place. -/
def Parallel {α : Type} (first second : List Char) (value : α) (after : Cursor)
    (other : Except Fault (α × Cursor)) : Prop :=
  ∃ place : Cursor, after = place.within 0 first ∧ other = .ok (value, place.within 0 second)

/-- Reading comes to the end of both patterns. -/
def Whole {α : Type} (value : α) (after : Cursor) (other : Except Fault (α × Cursor)) : Prop :=
  after.rest = [] ∧ ∃ stop, other = .ok (value, { after with position := stop })

/-! ## Comments and blanks -/

omit listed in
/-- A comment that is not closed goes on over a slash behind it. -/
theorem pastComment_missed {text : List Char} {start fault : Nat}
    (missed : pastComment text start = .error fault) :
    ∃ stop, ∀ tail, pastComment (text ++ '/' :: tail) start = pastComment tail stop := by
  fun_induction pastComment text start with
  | case1 start => exact ⟨start + '/'.utf8Size, fun tail => by simp [pastComment]⟩
  | case2 => contradiction
  | case3 start => exact ⟨_, fun tail => rfl⟩
  | case4 c text start ih =>
      obtain ⟨stop, onward⟩ := ih missed
      exact ⟨stop, onward⟩
  | case5 c text start not_close not_last not_quote ih =>
      have not_backslash : c ≠ '\\' := by
        rintro rfl
        cases text with
        | nil => exact not_last rfl rfl
        | cons d text => exact not_quote d text rfl rfl
      obtain ⟨stop, onward⟩ := ih missed
      refine ⟨stop, fun tail => ?_⟩
      rw [List.cons_append, pastComment, onward]
      · exact not_close
      · exact fun same => absurd same not_backslash
      · exact fun _ _ same => absurd same not_backslash

/-- A comment is closed by a wildcard only at its end, and so by the path. -/
theorem pastComment_wild {start stop : Nat} {rest : List Char}
    (passed : pastComment wild start = .ok (rest, stop)) :
    rest = [] ∧ pastComment writtenTail start = .ok ([], stop) := by
  simp only [wildTails, List.mem_cons, List.not_mem_nil, or_false] at listed
  rcases listed with rfl | rfl | rfl | rfl | rfl
  all_goals simp [pastComment, writtenTail] at passed ⊢
  exact passed

omit listed in
/-- A comment ends with its line, or goes on over what follows. -/
theorem pastLine_before (text : List Char) (start : Nat) :
    (∃ rest stop, ∀ tail, pastLine (text ++ tail) start = (rest ++ tail, stop)) ∨
      ∀ tail, '\n' ∉ tail → ∃ stop, pastLine (text ++ tail) start = ([], stop) := by
  fun_induction pastLine text start with
  | case1 start =>
      right
      intro tail endless
      rw [List.nil_append]
      induction tail generalizing start with
      | nil => exact ⟨start, rfl⟩
      | cons c tail ih =>
          rw [List.mem_cons, not_or] at endless
          rw [pastLine, if_neg (by simpa using Ne.symm endless.1)]
          exact ih _ endless.2
  | case2 c text start line_end =>
      exact .inl ⟨text, start + 1, fun tail => by simp [pastLine, line_end]⟩
  | case3 c text start other ih =>
      simpa only [List.cons_append, pastLine, if_neg other] using ih

theorem pastBlanks_exchanged {spaced : Bool} {fuel further : Nat} {text rest : List Char}
    {start stop : Nat} (enough : (text ++ '/' :: wild).length < fuel)
    (enough_further : (text ++ writtenPath).length < further)
    (passed : pastBlanks spaced fuel (text ++ '/' :: wild) start = .ok (rest, stop)) :
    (∃ place, rest = place ++ '/' :: wild ∧
      pastBlanks spaced further (text ++ writtenPath) start = .ok (place ++ writtenPath, stop)) ∨
    rest = [] ∧ ∃ stop, pastBlanks spaced further (text ++ writtenPath) start = .ok ([], stop) := by
  have nothing (fuel start : Nat) : pastBlanks spaced fuel [] start = .ok ([], start) := by
    cases fuel <;> rfl
  -- what is not skipped before one end is not skipped before the other
  have kept {fuel further start : Nat} {text : List Char}
      (visible : startsBlank spaced text = false)
      (passed : pastBlanks spaced fuel (text ++ '/' :: wild) start = .ok (rest, stop)) :
      ∃ place, rest = place ++ '/' :: wild ∧
        pastBlanks spaced further (text ++ writtenPath) start =
          .ok (place ++ writtenPath, stop) := by
    rw [pastBlanks_of_visible (by rw [startsBlank_append (harmless_wild listed), visible])]
      at passed
    cases passed
    exact ⟨text, rfl, pastBlanks_of_visible
      (by rw [startsBlank_append harmless_path, visible]) _ _⟩
  obtain ⟨inner, inner_enough⟩ : ∃ inner, text.length < inner := ⟨_, Nat.lt_succ_self _⟩
  fun_induction pastBlanks spaced inner text start generalizing fuel further with
  | case1 => contradiction
  | case2 inner start text ih =>
      obtain ⟨fuel, rfl⟩ : ∃ other, fuel = other + 1 := ⟨fuel - 1, by omega⟩
      obtain ⟨further, rfl⟩ : ∃ other, further = other + 1 := ⟨further - 1, by omega⟩
      simp only [List.cons_append, pastBlanks] at passed enough enough_further ⊢
      simp only [List.length_cons, List.length_append] at enough enough_further inner_enough
      cases comment_eq : pastComment text (start + 3) with
      | error fault =>
          obtain ⟨stop', onward⟩ := pastComment_missed comment_eq
          rw [onward] at passed
          rw [writtenPath, onward]
          cases wild_eq : pastComment wild stop' with
          | error fault =>
              rw [wild_eq] at passed
              contradiction
          | ok found =>
              obtain ⟨rest', stop'⟩ := found
              obtain ⟨rfl, path_eq⟩ := pastComment_wild listed wild_eq
              rw [wild_eq] at passed
              rw [path_eq]
              obtain ⟨rfl, rfl⟩ : [] = rest ∧ stop' = stop := by
                have same := (nothing fuel stop').symm.trans passed
                cases same
                exact ⟨rfl, rfl⟩
              exact .inr ⟨rfl, _, nothing further _⟩
      | ok found =>
          obtain ⟨between, place⟩ := found
          obtain ⟨onward, more⟩ := pastComment_ok comment_eq
          have shorter := onward.suffix.length_le
          have wild_more : pastComment (text ++ '/' :: wild) (start + 3) = _ := more 0 _
          have path_more : pastComment (text ++ writtenPath) (start + 3) = _ := more 0 _
          rw [wild_more] at passed
          rw [path_more]
          exact ih between place (by simp; omega) (by simp; omega) passed (by omega)
  | case3 inner start text isSpaced between place line_eq ih =>
      obtain ⟨fuel, rfl⟩ : ∃ other, fuel = other + 1 := ⟨fuel - 1, by omega⟩
      obtain ⟨further, rfl⟩ : ∃ other, further = other + 1 := ⟨further - 1, by omega⟩
      simp only [List.cons_append, pastBlanks] at passed enough enough_further ⊢
      simp only [List.length_cons, List.length_append] at enough enough_further inner_enough
      rw [if_pos isSpaced] at passed
      rw [if_pos isSpaced]
      have shorter : between.length ≤ text.length := by
        have onward := pastLine_onward text (start + 1)
        rw [line_eq] at onward
        exact onward.suffix.length_le
      rcases pastLine_before text (start + 1) with ⟨left, stop', more⟩ | endless
      · obtain ⟨rfl, rfl⟩ : left = between ∧ stop' = place := by
          have alone := more []
          rw [List.append_nil, List.append_nil, line_eq] at alone
          cases alone
          exact ⟨rfl, rfl⟩
        rw [more] at passed ⊢
        exact ih (by simp; omega) (by simp; omega) passed (by omega)
      · obtain ⟨_, wild_eq⟩ := endless _ (newline_not_mem listed)
        obtain ⟨_, path_eq⟩ := endless writtenPath (by decide)
        rw [wild_eq, nothing] at passed
        cases passed
        rw [path_eq]
        exact .inr ⟨rfl, _, nothing _ _⟩
  | case4 inner start text unspaced => exact .inl (kept (by simp [startsBlank, unspaced]) passed)
  | case5 inner start c text not_comment not_line blank_char ih =>
      obtain ⟨fuel, rfl⟩ : ∃ other, fuel = other + 1 := ⟨fuel - 1, by omega⟩
      obtain ⟨further, rfl⟩ : ∃ other, further = other + 1 := ⟨further - 1, by omega⟩
      simp only [List.length_cons, List.length_append] at enough enough_further inner_enough
      have skipped {tail : List Char} (harmless : Harmless tail) (fuel : Nat) :
          pastBlanks spaced (fuel + 1) (c :: text ++ tail) start =
            pastBlanks spaced fuel (text ++ tail) (start + 1) := by
        rw [List.cons_append, pastBlanks, if_pos blank_char]
        · rintro more rfl text_eq
          obtain ⟨rest, rfl⟩ := harmless.cons_cons_of_append (by decide) text_eq
          exact not_comment rest rfl rfl
        · exact not_line
      rw [skipped (harmless_wild listed)] at passed
      rw [skipped harmless_path]
      exact ih (by simp; omega) (by simp; omega) passed (by omega)
  | case6 inner start c text not_comment not_line not_blank =>
      refine .inl (kept ?_ passed)
      rw [startsBlank]
      · simp_all
      · exact not_comment
  | case7 inner start => exact .inl (kept rfl passed)

omit listed in
theorem blanks_of_passed {cursor : Cursor} {rest : List Char} {stop : Nat}
    (blank : startsBlank cursor.flags.spaced cursor.rest = true)
    (passed : pastBlanks cursor.flags.spaced (cursor.rest.length + 1) cursor.rest cursor.position =
      .ok (rest, stop)) :
    blanks cursor = .ok ((), { cursor with rest, position := stop }) := by
  rw [blanks, if_pos blank, passed]

/-- Blanks are passed alike, unless a comment goes on to the end of both patterns. -/
theorem blanks_exchanged {cursor after : Cursor}
    (read : blanks (cursor.within 0 ('/' :: wild)) = .ok ((), after)) :
    Parallel ('/' :: wild) writtenPath () after (blanks (cursor.within 0 writtenPath)) ∨
      Whole () after (blanks (cursor.within 0 writtenPath)) := by
  have wild_starts : startsBlank (cursor.within 0 ('/' :: wild)).flags.spaced
      (cursor.within 0 ('/' :: wild)).rest = startsBlank cursor.flags.spaced cursor.rest :=
    startsBlank_append (harmless_wild listed) _ _
  have path_starts : startsBlank (cursor.within 0 writtenPath).flags.spaced
      (cursor.within 0 writtenPath).rest = startsBlank cursor.flags.spaced cursor.rest :=
    startsBlank_append harmless_path _ _
  rw [blanks, wild_starts] at read
  split at read
  · next blank =>
      rw [blank] at path_starts
      split at read
      · next rest stop passed =>
          cases read
          rcases pastBlanks_exchanged listed (Nat.lt_succ_self _) (Nat.lt_succ_self _) passed with
            ⟨place, rfl, path_passed⟩ | ⟨rfl, other, path_passed⟩
          · rw [blanks_of_passed path_starts path_passed]
            exact .inl ⟨{ cursor with rest := place, position := stop }, rfl, rfl⟩
          · rw [blanks_of_passed path_starts path_passed]
            exact .inr ⟨rfl, other, rfl⟩
      · cases read
  · next visible =>
      cases read
      rw [blanks, path_starts, if_neg visible]
      exact .inl ⟨cursor, rfl, rfl⟩

/-! ## Readers -/

omit listed

/-- What a reader takes before the wildcard, the other takes before the path, too, unless reading
comes to the end of the pattern and is free to do so. -/
def Swaps {α : Type} (free : Prop) (wild : List Char) (cursor : Cursor) (reader other : Reader α) :
    Prop :=
  ∀ value after, reader (cursor.within 0 ('/' :: wild)) = .ok (value, after) →
    Parallel ('/' :: wild) writtenPath value after (other (cursor.within 0 writtenPath)) ∨
      free ∧ after.rest = []

namespace Swaps

variable {α β : Type} {free : Prop} {cursor : Cursor}

theorem pure (value : α) : Swaps free wild cursor (pure value) (pure value) := by
  rintro _ _ ⟨⟩
  exact .inl ⟨cursor, rfl, rfl⟩

theorem fail (reason : Reason) (other : Reader α) :
    Swaps free wild cursor (Reader.fail reason) other := by
  rintro _ _ ⟨⟩

theorem failAt (position : Nat) (reason : Reason) (other : Reader α) :
    Swaps free wild cursor (Reader.failAt position reason) other := by
  rintro _ _ ⟨⟩

/-- A reader that stops short of the end may be followed by any other. -/
theorem bind_read {first inside : Reader α} {next others : α → Reader β}
    (front : Swaps False wild cursor first inside)
    (back : ∀ value place,
      first (cursor.within 0 ('/' :: wild)) = .ok (value, place.within 0 ('/' :: wild)) →
        Swaps free wild place (next value) (others value)) :
    Swaps free wild cursor (first >>= next) (inside >>= others) := by
  intro value after read
  obtain ⟨found, between, first_eq, next_eq⟩ := bind_eq_ok_iff.mp read
  obtain ⟨place, rfl, inside_eq⟩ := (front found between first_eq).resolve_right (·.1)
  exact (back found place first_eq value after next_eq).imp_left
    fun ⟨last, after_eq, others_eq⟩ =>
      ⟨last, after_eq, bind_eq_ok_iff.mpr ⟨found, _, inside_eq, others_eq⟩⟩

@[inherit_doc bind_read]
theorem bind {first inside : Reader α} {next others : α → Reader β}
    (front : Swaps False wild cursor first inside)
    (back : ∀ value place, Swaps free wild place (next value) (others value)) :
    Swaps free wild cursor (first >>= next) (inside >>= others) :=
  front.bind_read fun value place _ => back value place

/-- What fails at the end of a pattern may follow any reader. -/
theorem bind_fails {first inside : Reader α} {next others : α → Reader β}
    (front : Swaps True wild cursor first inside)
    (fails : ∀ value between after, between.rest = [] → next value between ≠ .ok after)
    (back : ∀ value place, Swaps free wild place (next value) (others value)) :
    Swaps free wild cursor (first >>= next) (inside >>= others) := by
  intro value after read
  obtain ⟨found, between, first_eq, next_eq⟩ := bind_eq_ok_iff.mp read
  obtain ⟨place, rfl, inside_eq⟩ | ⟨-, nothing⟩ := front found between first_eq
  · exact (back found place value after next_eq).imp_left fun ⟨last, after_eq, others_eq⟩ =>
      ⟨last, after_eq, bind_eq_ok_iff.mpr ⟨found, _, inside_eq, others_eq⟩⟩
  · exact absurd next_eq (fails found between _ nothing)

/-- What stays at the end of a pattern may follow what comes there. -/
theorem bind_stays {first inside : Reader α} {next others : α → Reader β}
    (front : Swaps True wild cursor first inside)
    (stays : ∀ value between found after, between.rest = [] →
      next value between = .ok (found, after) → after.rest = [])
    (back : ∀ value place,
      first (cursor.within 0 ('/' :: wild)) = .ok (value, place.within 0 ('/' :: wild)) →
        Swaps True wild place (next value) (others value)) :
    Swaps True wild cursor (first >>= next) (inside >>= others) := by
  intro value after read
  obtain ⟨found, between, first_eq, next_eq⟩ := bind_eq_ok_iff.mp read
  obtain ⟨place, rfl, inside_eq⟩ | ⟨-, nothing⟩ := front found between first_eq
  · exact (back found place first_eq value after next_eq).imp_left
      fun ⟨last, after_eq, others_eq⟩ =>
        ⟨last, after_eq, bind_eq_ok_iff.mpr ⟨found, _, inside_eq, others_eq⟩⟩
  · exact .inr ⟨trivial, stays found between value after nothing next_eq⟩

theorem ite {condition : Prop} [Decidable condition] {first inside second otherwise : Reader α}
    (yes : condition → Swaps free wild cursor first inside)
    (no : ¬condition → Swaps free wild cursor second otherwise) :
    Swaps free wild cursor (if condition then first else second)
      (if condition then inside else otherwise) := by
  split
  · exact yes ‹_›
  · exact no ‹_›

theorem left {next others : List Char → Reader α}
    (back : Swaps free wild cursor (next (cursor.rest ++ '/' :: wild))
      (others (cursor.rest ++ writtenPath))) :
    Swaps free wild cursor (left >>= next) (left >>= others) := back

theorem position {next others : Nat → Reader α}
    (back : Swaps free wild cursor (next cursor.position) (others cursor.position)) :
    Swaps free wild cursor (position >>= next) (position >>= others) := back

theorem flags {next others : Flags → Reader α}
    (back : Swaps free wild cursor (next cursor.flags) (others cursor.flags)) :
    Swaps free wild cursor (flags >>= next) (flags >>= others) := back

theorem get {next others : Cursor → Reader α}
    (back : Swaps free wild cursor (next (cursor.within 0 ('/' :: wild)))
      (others (cursor.within 0 writtenPath))) :
    Swaps free wild cursor (get >>= next) (get >>= others) := back

/-- Characters that stand before the end are passed over. -/
theorem skip_bind {count : Nat} (enough : count ≤ cursor.rest.length)
    {next others : Unit → Reader α}
    (back : Swaps free wild { cursor with
      rest := cursor.rest.drop count
      position := cursor.position + Text.byteLength (cursor.rest.take count) }
        (next ()) (others ())) :
    Swaps free wild cursor (skip count >>= next) (skip count >>= others) := by
  let place : Cursor := { cursor with
    rest := cursor.rest.drop count
    position := cursor.position + Text.byteLength (cursor.rest.take count) }
  have passed (tail : List Char) :
      skip count (cursor.within 0 tail) = .ok ((), place.within 0 tail) := by
    simp [Reader.skip, Cursor.within, place, List.drop_append_of_le_length enough,
      List.take_append_of_le_length enough]
  intro value after read
  rw [bind_ok (passed _)] at read ⊢
  exact back value after read

theorem skip {count : Nat} (enough : count ≤ cursor.rest.length) :
    Swaps free wild cursor (skip count) (skip count) := by
  have passed : Swaps free wild cursor (Reader.skip count >>= Pure.pure)
      (Reader.skip count >>= Pure.pure) := skip_bind enough (.pure ())
  rwa [bind_pure] at passed

theorem modify {change : Cursor → Cursor}
    (same : ∀ tail, change (cursor.within 0 tail) = (change cursor).within 0 tail) :
    Swaps free wild cursor (modify change) (modify change) := by
  rintro _ _ ⟨⟩
  refine .inl ⟨change cursor, same _, ?_⟩
  change Except.ok ((), change (cursor.within 0 writtenPath)) = _
  rw [same]

theorem weaken {reader other : Reader α} (firm : Swaps False wild cursor reader other) :
    Swaps free wild cursor reader other :=
  fun value after read => .inl ((firm value after read).resolve_right (·.1))

end Swaps

end Reader

end Redirects.Regex
