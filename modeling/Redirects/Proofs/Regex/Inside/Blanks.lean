import Redirects.Proofs.Regex.Guarded

/-!
# Reading inside a longer pattern

What a reader takes from a pattern it takes from a longer one, too, in which some bytes stand in
front and a text behind, as long as the text behind cannot be taken for a part of what precedes it.
Comments and blanks are passed alike unless a comment goes on to the end of the pattern.
-/

namespace Redirects.Regex

/-! ## Texts behind a pattern -/

/-- A text that can stand behind a pattern without being taken for a part of what precedes it: it is
empty or begins with a slash, and it closes no brace. -/
structure Harmless (tail : List Char) : Prop where
  slash_of_head : ∀ c ∈ tail.head?, c = '/'
  brace_not_mem : '\x7d' ∉ tail

namespace Harmless

variable {tail : List Char} (harmless : Harmless tail)
include harmless

theorem head?_append_beq (text : List Char) {c : Char} (not_slash : c ≠ '/') :
    ((text ++ tail).head? == some c) = (text.head? == some c) := by
  cases text with
  | cons d text => rfl
  | nil =>
      cases tail with
      | nil => rfl
      | cons d tail =>
          have slash := harmless.slash_of_head d rfl
          simp [slash, not_slash.symm]

theorem takeWhile_append {p : Char → Bool} (stops : p '/' = false) (text : List Char) :
    (text ++ tail).takeWhile p = text.takeWhile p := by
  rw [List.takeWhile_append]
  split
  · have whole := (List.takeWhile_prefix p).eq_of_length ‹_›
    cases tail with
    | nil => simp [whole]
    | cons d tail =>
        have slash := harmless.slash_of_head d rfl
        simp [slash, stops, whole]
  · rfl

theorem cons_of_append {text : List Char} {c : Char} {rest : List Char} (not_slash : c ≠ '/')
    (eq : text ++ tail = c :: rest) : ∃ more, text = c :: more := by
  cases text with
  | nil =>
      have slash := harmless.slash_of_head c (by rw [show tail = c :: rest from eq]; rfl)
      exact absurd slash not_slash
  | cons d more =>
      obtain ⟨rfl, -⟩ := List.cons.inj eq
      exact ⟨more, rfl⟩

theorem cons_cons_of_append {text : List Char} {c d : Char} {rest : List Char}
    (not_slash : c ≠ '/' ∧ d ≠ '/') (eq : text ++ tail = c :: d :: rest) :
    ∃ more, text = c :: d :: more := by
  match text, eq with
  | [], eq =>
      have slash := harmless.slash_of_head c (by rw [show tail = c :: d :: rest from eq]; rfl)
      exact absurd slash not_slash.1
  | [b], eq =>
      have slash := harmless.slash_of_head d (by
        rw [show tail = d :: rest from (List.cons.inj eq).2]
        rfl)
      exact absurd slash not_slash.2
  | b :: e :: more, eq =>
      obtain ⟨rfl, rest_eq⟩ := List.cons.inj eq
      obtain ⟨rfl, -⟩ := List.cons.inj rest_eq
      exact ⟨more, rfl⟩

end Harmless

/-! ## Places of reading -/

/-- From one place in a text to another some characters were passed. -/
def Passed (before : List Char) (start : Nat) (after : List Char) (stop : Nat) : Prop :=
  ∃ passed, before = passed ++ after ∧ stop = start + Text.byteLength passed

namespace Passed

theorem refl (text : List Char) (place : Nat) : Passed text place text place := ⟨[], rfl, rfl⟩

theorem trans {before between after : List Char} {start middle stop : Nat}
    (first : Passed before start between middle) (second : Passed between middle after stop) :
    Passed before start after stop := by
  obtain ⟨front, before_eq, middle_eq⟩ := first
  obtain ⟨back, between_eq, stop_eq⟩ := second
  refine ⟨front ++ back, ?_, ?_⟩
  · rw [before_eq, between_eq, List.append_assoc]
  · rw [stop_eq, middle_eq, Text.byteLength_append, Nat.add_assoc]

theorem char (c : Char) (text : List Char) (place : Nat) :
    Passed (c :: text) place text (place + c.utf8Size) :=
  ⟨[c], rfl, rfl⟩

/-- A character that takes one byte. -/
theorem byte {c : Char} (one_byte : c.utf8Size = 1) (text : List Char) (place : Nat) :
    Passed (c :: text) place text (place + 1) :=
  one_byte ▸ char c text place

theorem suffix {before after : List Char} {start stop : Nat}
    (passed : Passed before start after stop) : after <:+ before := by
  obtain ⟨front, before_eq, -⟩ := passed
  exact ⟨front, before_eq.symm⟩

end Passed

namespace Cursor

/-- The place of reading in a longer pattern, which has some bytes more in front and a text more
behind. -/
def within (shift : Nat) (tail : List Char) (cursor : Cursor) : Cursor :=
  { cursor with rest := cursor.rest ++ tail, position := cursor.position + shift }

theorem within_zero_nil (cursor : Cursor) : cursor.within 0 [] = cursor := by
  simp [within]

/-- From one place of reading to another some text was passed. -/
def Onward (before after : Cursor) : Prop :=
  Passed before.rest before.position after.rest after.position

namespace Onward

theorem length_le {before after : Cursor} (onward : Onward before after) :
    after.rest.length ≤ before.rest.length :=
  onward.suffix.length_le

theorem position_le {before after : Cursor} (onward : Onward before after) :
    before.position ≤ after.position := by
  obtain ⟨passed, -, position_eq⟩ := onward
  omega

/-- If the position stays, so does the text. -/
theorem rest_eq_of_position {before after : Cursor} (onward : Onward before after)
    (stays : after.position = before.position) : after.rest = before.rest := by
  obtain ⟨passed, rest_eq, position_eq⟩ := onward
  have nothing : passed = [] := Text.byteLength_eq_zero_iff.mp (by omega)
  rw [rest_eq, nothing, List.nil_append]

theorem length_lt_of_position {before after : Cursor} (onward : Onward before after)
    (moves : after.position ≠ before.position) : after.rest.length < before.rest.length := by
  obtain ⟨passed, rest_eq, position_eq⟩ := onward
  have some_char : passed ≠ [] := by
    rintro rfl
    exact moves position_eq
  have onward := List.length_pos_iff.mpr some_char
  rw [rest_eq, List.length_append]
  omega

/-- Behind the end of a pattern nothing is left either. -/
theorem rest_eq_nil {before after : Cursor} (onward : Onward before after)
    (nothing : before.rest = []) : after.rest = [] :=
  List.suffix_nil.mp (nothing ▸ onward.suffix)

theorem rest_ne_nil {before after : Cursor} (onward : Onward before after)
    (more : after.rest ≠ []) : before.rest ≠ [] :=
  fun nothing => more (onward.rest_eq_nil nothing)

end Onward

end Cursor

theorem bind_congr {σ α β : Type} {first : StateT σ (Except Fault) α}
    {next : α → StateT σ (Except Fault) β} {before other : σ} (same : first before = first other) :
    (first >>= next) before = (first >>= next) other := by
  change (first before >>= fun (value, after) => next value after) = _
  rw [same]
  rfl

/-- What was done is done from some state between. -/
theorem bind_eq_ok_iff {σ α β : Type} {first : StateT σ (Except Fault) α}
    {next : α → StateT σ (Except Fault) β} {before after : σ} {value : β} :
    (first >>= next) before = .ok (value, after) ↔
      ∃ found between, first before = .ok (found, between) ∧
        next found between = .ok (value, after) := by
  change (first before >>= fun (value, after) => next value after) = _ ↔ _
  cases first before with
  | error fault => simp [bind, Except.bind]
  | ok result =>
      obtain ⟨found, between⟩ := result
      simp only [Except.ok.injEq, Prod.mk.injEq]
      constructor
      · intro next_eq
        exact ⟨found, between, ⟨rfl, rfl⟩, next_eq⟩
      · rintro ⟨_, _, ⟨rfl, rfl⟩, next_eq⟩
        exact next_eq

namespace Reader

variable {shift : Nat} {tail : List Char}

/-- From a place on, one reader reads alone what the other reads in a longer pattern. -/
def Alike {α : Type} (shift : Nat) (tail : List Char) (cursor : Cursor)
    (alone inside : Reader α) : Prop :=
  ∀ value after, alone cursor = .ok (value, after) →
    cursor.Onward after ∧ inside (cursor.within shift tail) = .ok (value, after.within shift tail)

namespace Alike

variable {α β : Type} {cursor : Cursor}

theorem pure (value : α) : Alike shift tail cursor (pure value) (pure value) := by
  rintro _ _ ⟨⟩
  exact ⟨Passed.refl _ _, rfl⟩

theorem bind {first inside : Reader α} {next others : α → Reader β}
    (front : Alike shift tail cursor first inside)
    (back : ∀ value between, first cursor = .ok (value, between) →
      Alike shift tail between (next value) (others value)) :
    Alike shift tail cursor (first >>= next) (inside >>= others) := by
  intro value after read
  obtain ⟨found, between, first_eq, next_eq⟩ := bind_eq_ok_iff.mp read
  obtain ⟨onward, inside_eq⟩ := front found between first_eq
  obtain ⟨further, others_eq⟩ := back found between first_eq value after next_eq
  exact ⟨Passed.trans onward further, bind_eq_ok_iff.mpr ⟨found, _, inside_eq, others_eq⟩⟩

theorem ite {condition : Prop} [Decidable condition] {alone other inside otherwise : Reader α}
    (yes : condition → Alike shift tail cursor alone inside)
    (no : ¬condition → Alike shift tail cursor other otherwise) :
    Alike shift tail cursor (if condition then alone else other)
      (if condition then inside else otherwise) := by
  split
  · exact yes ‹_›
  · exact no ‹_›

theorem fail (reason : Reason) (inside : Reader α) :
    Alike shift tail cursor (Reader.fail reason) inside := by
  rintro _ _ ⟨⟩

theorem failAt (position : Nat) (reason : Reason) (inside : Reader α) :
    Alike shift tail cursor (Reader.failAt position reason) inside := by
  rintro _ _ ⟨⟩

theorem left {next others : List Char → Reader α}
    (back : Alike shift tail cursor (next cursor.rest) (others (cursor.rest ++ tail))) :
    Alike shift tail cursor (left >>= next) (left >>= others) := back

theorem position {next others : Nat → Reader α}
    (back : Alike shift tail cursor (next cursor.position) (others (cursor.position + shift))) :
    Alike shift tail cursor (position >>= next) (position >>= others) := back

theorem flags {next others : Flags → Reader α}
    (back : Alike shift tail cursor (next cursor.flags) (others cursor.flags)) :
    Alike shift tail cursor (flags >>= next) (flags >>= others) := back

theorem get {next others : Cursor → Reader α}
    (back : Alike shift tail cursor (next cursor) (others (cursor.within shift tail))) :
    Alike shift tail cursor (get >>= next) (get >>= others) := back

theorem skip {count : Nat} (enough : count ≤ cursor.rest.length) :
    Alike shift tail cursor (skip count) (skip count) := by
  rintro _ _ ⟨⟩
  refine ⟨⟨cursor.rest.take count, (List.take_append_drop _ _).symm, rfl⟩, ?_⟩
  simp [Reader.skip, Cursor.within, List.drop_append_of_le_length enough,
    List.take_append_of_le_length enough, Nat.add_right_comm]

/-- What is not read may change. -/
theorem modify {change : Cursor → Cursor}
    (same : ∀ cursor, (change cursor).rest = cursor.rest ∧
      (change cursor).position = cursor.position)
    (alike : ∀ cursor, change (cursor.within shift tail) = (change cursor).within shift tail) :
    Alike shift tail cursor (modify change) (modify change) := by
  rintro _ _ ⟨⟩
  refine ⟨⟨[], ?_, ?_⟩, ?_⟩
  · rw [(same cursor).1, List.nil_append]
  · rw [(same cursor).2]
    rfl
  · change Except.ok ((), change (cursor.within shift tail)) = _
    rw [alike]

end Alike

section Tail

variable (harmless : Harmless tail)
include harmless

theorem alike_accept {c : Char} (not_slash : c ≠ '/') (cursor : Cursor) :
    Alike shift tail cursor (accept c) (accept c) := by
  rw [accept]
  apply Alike.left
  cases rest_eq : cursor.rest with
  | nil =>
      cases tail with
      | nil => exact .pure false
      | cons d tail =>
          have slash := harmless.slash_of_head d rfl
          have differs : (c == d) = false := by simp [slash, not_slash]
          simp only [List.nil_append, differs]
          exact .pure false
  | cons d rest =>
      rw [List.cons_append]
      by_cases same : (c == d) = true
      · simp only [same, if_true]
        exact .bind (.skip (by simp [rest_eq])) fun _ _ _ => .pure true
      · simp only [same]
        exact .pure false

/-! ### Comments and blanks -/

omit harmless in
/-- A comment is passed up to its end, whatever follows. -/
theorem pastComment_ok {text rest : List Char} {start stop : Nat}
    (passed : pastComment text start = .ok (rest, stop)) :
    Passed text start rest stop ∧ ∀ (shift : Nat) (tail : List Char),
      pastComment (text ++ tail) (start + shift) = .ok (rest ++ tail, stop + shift) := by
  fun_induction pastComment text start with
  | case1 => contradiction
  | case2 text start =>
      cases passed
      refine ⟨.byte (by decide) _ _, fun shift tail => ?_⟩
      rw [List.cons_append, pastComment, Nat.add_right_comm]
  | case3 => contradiction
  | case4 c text start ih =>
      obtain ⟨onward, more⟩ := ih passed
      have quoted : Passed ('\\' :: c :: text) start text (start + 1 + c.utf8Size) :=
        .trans (.byte (by decide) _ _) (.char c _ _)
      refine ⟨quoted.trans onward, fun shift tail => ?_⟩
      rw [List.cons_append, List.cons_append, pastComment, ← more]
      congr 1
      omega
  | case5 c text start not_close not_last not_quote ih =>
      obtain ⟨onward, more⟩ := ih passed
      refine ⟨.trans (.char c _ _) onward, fun shift tail => ?_⟩
      have not_backslash : c ≠ '\\' := by
        rintro rfl
        cases text with
        | nil => exact not_last rfl rfl
        | cons d text => exact not_quote d text rfl rfl
      rw [List.cons_append, pastComment, ← more]
      · congr 1
        omega
      · exact not_close
      · exact fun same => absurd same not_backslash
      · exact fun _ _ same => absurd same not_backslash

omit harmless in
theorem pastComment_error {text : List Char} {start : Nat} {fault : Nat}
    (missed : pastComment text start = .error fault) {tail rest : List Char} {other stop : Nat}
    (passed : pastComment (text ++ tail) other = .ok (rest, stop)) : rest <:+ tail := by
  fun_induction pastComment text start generalizing other with
  | case1 start =>
      exact (pastComment_ok passed).1.suffix
  | case2 => contradiction
  | case3 start =>
      cases tail with
      | nil => contradiction
      | cons d tail =>
          have later : pastComment tail (other + 1 + d.utf8Size) = .ok (rest, stop) := passed
          exact (pastComment_ok later).1.suffix.trans (List.suffix_cons d tail)
  | case4 c text start ih => exact ih missed passed
  | case5 c text start not_close not_last not_quote ih =>
      have not_backslash : c ≠ '\\' := by
        rintro rfl
        cases text with
        | nil => exact not_last rfl rfl
        | cons d text => exact not_quote d text rfl rfl
      rw [List.cons_append, pastComment] at passed
      · exact ih missed passed
      · exact not_close
      · exact fun same => absurd same not_backslash
      · exact fun _ _ same => absurd same not_backslash

omit harmless in
/-- A comment up to the end of its line is passed. -/
theorem pastLine_onward (text : List Char) (start : Nat) :
    Passed text start (pastLine text start).1 (pastLine text start).2 := by
  fun_induction pastLine text start with
  | case1 start => exact .refl _ _
  | case2 c text start line_end =>
      obtain rfl := eq_of_beq line_end
      exact .byte (by decide) _ _
  | case3 c text start other ih => exact .trans (.char c _ _) ih

omit harmless in
/-- It is passed whatever follows, if there is more behind it. -/
theorem pastLine_append {text tail : List Char} {start : Nat}
    (more : (pastLine text start).1 ≠ [] ∨ tail = []) (shift : Nat) :
    pastLine (text ++ tail) (start + shift) =
      ((pastLine text start).1 ++ tail, (pastLine text start).2 + shift) := by
  fun_induction pastLine text start with
  | case1 start =>
      obtain rfl : tail = [] := more.resolve_left fun some_char => some_char rfl
      rfl
  | case2 c text start line_end => simp [pastLine, line_end, Nat.add_right_comm]
  | case3 c text start other ih =>
      rw [List.cons_append, pastLine, if_neg other, Nat.add_right_comm]
      exact ih more

omit harmless in
theorem pastLine_into_tail {text : List Char} {start : Nat} (whole : (pastLine text start).1 = [])
    (other : Nat) (tail : List Char) : (pastLine (text ++ tail) other).1 <:+ tail := by
  fun_induction pastLine text start generalizing other with
  | case1 => exact (pastLine_onward tail other).suffix
  | case2 c text start line_end =>
      have nothing : text = [] := whole
      simp [pastLine, line_end, nothing]
  | case3 c text start inside ih =>
      rw [List.cons_append, pastLine, if_neg inside]
      exact ih whole _

omit harmless in
/-- Comments and blanks are passed, and no more. -/
theorem pastBlanks_onward {spaced : Bool} {fuel : Nat} {text rest : List Char} {start stop : Nat}
    (passed : pastBlanks spaced fuel text start = .ok (rest, stop)) :
    Passed text start rest stop := by
  fun_induction pastBlanks spaced fuel text start with
  | case1 | case4 | case6 | case7 =>
      cases passed
      exact .refl _ _
  | case2 fuel start text ih =>
      cases comment_eq : pastComment text (start + 3) with
      | error fault =>
          rw [comment_eq] at passed
          contradiction
      | ok found =>
          obtain ⟨between, place⟩ := found
          rw [comment_eq] at passed
          have opened : Passed ('(' :: '?' :: '#' :: text) start text (start + 3) :=
            .trans (.byte (by decide) _ _) (.trans (.byte (by decide) _ _) (.byte (by decide) _ _))
          exact opened.trans ((pastComment_ok comment_eq).1.trans (ih between place passed))
  | case3 fuel start text isSpaced between place line_eq ih =>
      have line := pastLine_onward text (start + 1)
      rw [line_eq] at line
      exact .trans (.byte (by decide) _ _) (line.trans (ih passed))
  | case5 fuel start c text not_comment not_line blank_char ih =>
      have one_byte : c.utf8Size = 1 := by
        simp only [Bool.and_eq_true, Bool.or_eq_true, beq_iff_eq] at blank_char
        rcases blank_char with ⟨_, ((rfl | rfl) | rfl) | rfl⟩ <;> decide
      exact .trans (.byte one_byte _ _) (ih passed)

theorem startsBlank_append (spaced : Bool) (text : List Char) :
    startsBlank spaced (text ++ tail) = startsBlank spaced text := by
  fun_cases startsBlank spaced text with
  | case1 => rfl
  | case2 c text not_comment =>
      rw [List.cons_append, startsBlank]
      rintro rest rfl text_eq
      obtain ⟨more, rfl⟩ := harmless.cons_cons_of_append (by decide) text_eq
      exact not_comment more rfl rfl
  | case3 =>
      cases tail with
      | nil => rfl
      | cons c tail =>
          obtain rfl := harmless.slash_of_head c rfl
          simp [startsBlank]

omit harmless in
/-- Nothing is passed where nothing is skipped. -/
theorem pastBlanks_of_visible {spaced : Bool} {text : List Char}
    (visible : startsBlank spaced text = false) (fuel start : Nat) :
    pastBlanks spaced fuel text start = .ok (text, start) := by
  fun_cases pastBlanks spaced fuel text start with
  | case1 | case4 | case6 | case7 => rfl
  | case2 => contradiction
  | case3 => simp_all [startsBlank]
  | case5 fuel _ c text not_comment not_line blank_char =>
      rw [startsBlank] at visible
      · simp_all
      · exact not_comment

omit harmless in
/-- Behind blanks nothing is skipped. -/
theorem visible_of_pastBlanks {spaced : Bool} {fuel : Nat} {text rest : List Char} {start stop : Nat}
    (enough : text.length < fuel) (passed : pastBlanks spaced fuel text start = .ok (rest, stop)) :
    startsBlank spaced rest = false := by
  fun_induction pastBlanks spaced fuel text start with
  | case1 => contradiction
  | case2 fuel start text ih =>
      cases comment_eq : pastComment text (start + 3) with
      | error fault =>
          rw [comment_eq] at passed
          contradiction
      | ok found =>
          obtain ⟨between, place⟩ := found
          rw [comment_eq] at passed
          have shorter := (pastComment_ok comment_eq).1.suffix.length_le
          have enough_left : between.length < fuel := by
            simp only [List.length_cons] at enough
            omega
          exact ih between place enough_left passed
  | case3 fuel start text isSpaced between place line_eq ih =>
      have line := pastLine_onward text (start + 1)
      rw [line_eq] at line
      have shorter : between.length ≤ text.length := line.suffix.length_le
      exact ih (by simp only [List.length_cons] at enough; omega) passed
  | case4 fuel start text unspaced =>
      cases passed
      simp_all [startsBlank]
  | case5 fuel start c text not_comment not_line blank_char ih =>
      exact ih (by simpa using enough) passed
  | case6 fuel start c text not_comment not_line visible =>
      cases passed
      rw [startsBlank]
      · simp_all
      · exact not_comment
  | case7 =>
      cases passed
      rfl

/-- Comments and blanks are passed alike, unless a comment goes on to the end of its line there. -/
theorem pastBlanks_append {spaced : Bool} {fuel further : Nat} {text rest : List Char}
    {start stop : Nat} (enough : text.length < fuel)
    (enough_further : text.length + tail.length < further)
    (passed : pastBlanks spaced fuel text start = .ok (rest, stop))
    (apart : rest ≠ [] ∨ spaced = false ∨ tail = []) (shift : Nat) :
    pastBlanks spaced further (text ++ tail) (start + shift) =
      .ok (rest ++ tail, stop + shift) := by
  have kept {text : List Char} (visible : startsBlank spaced text = false) (fuel start : Nat) :
      pastBlanks spaced fuel (text ++ tail) start = .ok (text ++ tail, start) :=
    pastBlanks_of_visible (by rw [startsBlank_append harmless, visible]) fuel start
  fun_induction pastBlanks spaced fuel text start generalizing further with
  | case1 => contradiction
  | case2 fuel start text ih =>
      obtain ⟨further, rfl⟩ : ∃ other, further = other + 1 := ⟨further - 1, by omega⟩
      cases comment_eq : pastComment text (start + 3) with
      | error fault =>
          rw [comment_eq] at passed
          contradiction
      | ok found =>
          obtain ⟨between, place⟩ := found
          rw [comment_eq] at passed
          obtain ⟨onward, more⟩ := pastComment_ok comment_eq
          have inside := more shift tail
          have shorter := onward.suffix.length_le
          simp only [List.length_cons] at enough enough_further
          rw [Nat.add_right_comm] at inside
          simp only [List.cons_append, pastBlanks, inside]
          exact ih between place (by omega) (by omega) passed
  | case3 fuel start text isSpaced between place line_eq ih =>
      obtain ⟨further, rfl⟩ : ∃ other, further = other + 1 := ⟨further - 1, by omega⟩
      have more : (pastLine text (start + 1)).1 ≠ [] ∨ tail = [] := by
        rw [line_eq]
        rcases apart with more | unspaced | nothing
        · -- behind the end of the text nothing is left
          left
          rintro rfl
          exact more (List.suffix_nil.mp (pastBlanks_onward passed).suffix)
        · simp [isSpaced] at unspaced
        · exact .inr nothing
      have inside := pastLine_append more shift
      rw [line_eq, Nat.add_right_comm] at inside
      have shorter := (pastLine_onward text (start + 1)).suffix.length_le
      rw [line_eq] at shorter
      simp only [List.length_cons] at enough enough_further shorter
      simp only [List.cons_append, pastBlanks, isSpaced, if_true, inside]
      rw [← isSpaced]
      exact ih (by omega) (by omega) passed
  | case4 fuel start text unspaced =>
      cases passed
      exact kept (by simp [startsBlank, unspaced]) _ _
  | case5 fuel start c text not_comment not_line blank_char ih =>
      obtain ⟨further, rfl⟩ : ∃ other, further = other + 1 := ⟨further - 1, by omega⟩
      rw [List.length_cons] at enough enough_further
      rw [List.cons_append, pastBlanks, if_pos blank_char]
      · rw [Nat.add_right_comm]
        exact ih (by omega) (by omega) passed
      · rintro more rfl text_eq
        obtain ⟨rest, rfl⟩ := harmless.cons_cons_of_append (by decide) text_eq
        exact not_comment rest rfl rfl
      · exact not_line
  | case6 fuel start c text not_comment not_line not_blank =>
      cases passed
      refine kept ?_ _ _
      rw [startsBlank]
      · simp_all
      · exact not_comment
  | case7 fuel start =>
      cases passed
      exact kept rfl _ _

/-- Otherwise, whatever is left lies in the text behind. -/
theorem pastBlanks_into_tail {spaced : Bool} {fuel further : Nat} {text rest : List Char}
    {start shift stop : Nat} (enough : text.length < fuel)
    (enough_further : text.length + tail.length < further)
    (missed : ∀ rest stop, pastBlanks spaced fuel text start = .ok (rest, stop) → rest = [])
    (passed : pastBlanks spaced further (text ++ tail) (start + shift) = .ok (rest, stop)) :
    rest <:+ tail := by
  have later {fuel start : Nat} {text : List Char} (suffix : text <:+ tail)
      (passed : pastBlanks spaced fuel text start = .ok (rest, stop)) : rest <:+ tail := by
    exact (pastBlanks_onward passed).suffix.trans suffix
  fun_induction pastBlanks spaced fuel text start generalizing further with
  | case1 => contradiction
  | case2 fuel start text ih =>
      obtain ⟨further, rfl⟩ : ∃ other, further = other + 1 := ⟨further - 1, by omega⟩
      simp only [List.cons_append, pastBlanks] at passed
      rw [Nat.add_right_comm] at passed
      cases comment_eq : pastComment text (start + 3) with
      | error fault =>
          cases inside_eq : pastComment (text ++ tail) (start + 3 + shift) with
          | error other =>
              rw [inside_eq] at passed
              contradiction
          | ok found =>
              rw [inside_eq] at passed
              exact later (pastComment_error comment_eq inside_eq) passed
      | ok found =>
          obtain ⟨between, place⟩ := found
          obtain ⟨onward, more⟩ := pastComment_ok comment_eq
          have shorter := onward.suffix.length_le
          simp only [List.length_cons] at enough enough_further
          rw [more shift tail] at passed
          rw [comment_eq] at missed
          exact ih between place (by omega) (by omega) missed passed
  | case3 fuel start text isSpaced between place line_eq ih =>
      obtain ⟨further, rfl⟩ : ∃ other, further = other + 1 := ⟨further - 1, by omega⟩
      have shorter := (pastLine_onward text (start + 1)).suffix.length_le
      rw [line_eq] at shorter
      simp only [List.length_cons] at enough enough_further shorter
      simp only [List.cons_append, pastBlanks, isSpaced, if_true] at passed
      rw [← isSpaced] at passed
      by_cases whole : between = []
      · have inside := pastLine_into_tail (by rw [line_eq]; exact whole) (start + shift + 1) tail
        exact later inside passed
      · have more : (pastLine text (start + 1)).1 ≠ [] ∨ tail = [] := by
          rw [line_eq]
          exact .inl whole
        have inside := pastLine_append more shift
        rw [line_eq] at inside
        rw [Nat.add_right_comm, inside] at passed
        exact ih (by omega) (by omega) missed passed
  | case4 fuel start text unspaced => exact absurd (missed _ _ rfl) (List.cons_ne_nil _ _)
  | case5 fuel start c text not_comment not_line blank_char ih =>
      obtain ⟨further, rfl⟩ : ∃ other, further = other + 1 := ⟨further - 1, by omega⟩
      rw [List.length_cons] at enough enough_further
      rw [List.cons_append, pastBlanks, if_pos blank_char, Nat.add_right_comm] at passed
      · exact ih (by omega) (by omega) missed passed
      · rintro more rfl text_eq
        obtain ⟨rest, rfl⟩ := harmless.cons_cons_of_append (by decide) text_eq
        exact not_comment rest rfl rfl
      · exact not_line
  | case6 fuel start c text not_comment not_line not_blank =>
      exact absurd (missed _ _ rfl) (List.cons_ne_nil _ _)
  | case7 fuel start =>
      exact (pastBlanks_onward passed).suffix

end Tail

end Reader

end Redirects.Regex
