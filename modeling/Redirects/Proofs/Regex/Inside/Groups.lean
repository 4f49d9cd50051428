import Redirects.Proofs.Regex.Inside.Escapes

/-!
# Groups inside a longer pattern

A group is closed before the text behind begins, so it is read alike in a longer pattern if what
stands in it is.  Only at the very end of the pattern, where blanks may be skipped, does reading
alike need that no comment can go on (`Agrees`).
-/

namespace Redirects.Regex.Reader

variable {free : Prop} {shift : Nat} {tail : List Char}

/-- From a place on, one reader reads alone what the other reads in a longer pattern, as long as the
first does not come to the end of its own, or is free to. -/
def Agrees {α : Type} (free : Prop) (shift : Nat) (tail : List Char) (cursor : Cursor)
    (alone inside : Reader α) : Prop :=
  ∀ value after, alone cursor = .ok (value, after) →
    cursor.Onward after ∧ (after.rest ≠ [] ∨ free →
      inside (cursor.within shift tail) = .ok (value, after.within shift tail))

theorem Alike.agrees {α : Type} {cursor : Cursor} {alone inside : Reader α}
    (alike : Alike shift tail cursor alone inside) : Agrees free shift tail cursor alone inside := by
  intro value after read
  obtain ⟨onward, inside_eq⟩ := alike value after read
  exact ⟨onward, fun _ => inside_eq⟩

namespace Agrees

variable {α β : Type} {cursor : Cursor}

theorem bind {first inside : Reader α} {next others : α → Reader β}
    (front : Agrees free shift tail cursor first inside)
    (back : ∀ value between, first cursor = .ok (value, between) →
      Agrees free shift tail between (next value) (others value)) :
    Agrees free shift tail cursor (first >>= next) (inside >>= others) := by
  intro value after read
  obtain ⟨found, between, first_eq, next_eq⟩ := bind_eq_ok_iff.mp read
  obtain ⟨onward, inside_eq⟩ := front found between first_eq
  obtain ⟨further, others_eq⟩ := back found between first_eq value after next_eq
  refine ⟨Passed.trans onward further, fun more => ?_⟩
  have more_between : between.rest ≠ [] ∨ free :=
    more.imp_left (Cursor.Onward.rest_ne_nil further)
  exact bind_eq_ok_iff.mpr ⟨found, _, inside_eq more_between, others_eq more⟩

/-- What fails at the end of a pattern is read alike behind what does not come there. -/
theorem bind_alike {first inside : Reader α} {next others : α → Reader β}
    (front : Agrees free shift tail cursor first inside)
    (fails : ∀ value between after, between.rest = [] → next value between ≠ .ok after)
    (back : ∀ value between, first cursor = .ok (value, between) →
      Alike shift tail between (next value) (others value)) :
    Alike shift tail cursor (first >>= next) (inside >>= others) := by
  intro value after read
  obtain ⟨found, between, first_eq, next_eq⟩ := bind_eq_ok_iff.mp read
  obtain ⟨onward, inside_eq⟩ := front found between first_eq
  obtain ⟨further, others_eq⟩ := back found between first_eq value after next_eq
  have more : between.rest ≠ [] := fun nothing => fails found between _ nothing next_eq
  exact ⟨Passed.trans onward further,
    bind_eq_ok_iff.mpr ⟨found, _, inside_eq (.inl more), others_eq⟩⟩

theorem left {next others : List Char → Reader α}
    (back : Agrees free shift tail cursor (next cursor.rest) (others (cursor.rest ++ tail))) :
    Agrees free shift tail cursor (left >>= next) (left >>= others) := back

theorem position {next others : Nat → Reader α}
    (back : Agrees free shift tail cursor (next cursor.position) (others (cursor.position + shift))) :
    Agrees free shift tail cursor (position >>= next) (position >>= others) := back

theorem flags {next others : Flags → Reader α}
    (back : Agrees free shift tail cursor (next cursor.flags) (others cursor.flags)) :
    Agrees free shift tail cursor (flags >>= next) (flags >>= others) := back

theorem get {next others : Cursor → Reader α}
    (back : Agrees free shift tail cursor (next cursor) (others (cursor.within shift tail))) :
    Agrees free shift tail cursor (get >>= next) (get >>= others) := back

theorem pure (value : α) : Agrees free shift tail cursor (pure value) (pure value) :=
  (Alike.pure value).agrees

theorem ite {condition : Prop} [Decidable condition] {alone other inside otherwise : Reader α}
    (yes : condition → Agrees free shift tail cursor alone inside)
    (no : ¬condition → Agrees free shift tail cursor other otherwise) :
    Agrees free shift tail cursor (if condition then alone else other)
      (if condition then inside else otherwise) := by
  split
  · exact yes ‹_›
  · exact no ‹_›

end Agrees

section Tail

variable (harmless : Harmless tail)
include harmless

/-- Blanks are passed alike, unless a comment goes on to the end of its line there. -/
theorem blanks_within (shift : Nat) {cursor after : Cursor} (read : blanks cursor = .ok ((), after)) :
    cursor.Onward after ∧ (after.rest ≠ [] ∨ cursor.flags.spaced = false ∨ tail = [] →
      blanks (cursor.within shift tail) = .ok ((), after.within shift tail)) := by
  have starts : startsBlank (cursor.within shift tail).flags.spaced (cursor.within shift tail).rest =
      startsBlank cursor.flags.spaced cursor.rest :=
    startsBlank_append harmless cursor.flags.spaced cursor.rest
  by_cases blank : startsBlank cursor.flags.spaced cursor.rest = true
  · rw [blanks, if_pos blank] at read
    cases passed : pastBlanks cursor.flags.spaced (cursor.rest.length + 1) cursor.rest
        cursor.position with
    | error place =>
        rw [passed] at read
        contradiction
    | ok found =>
        obtain ⟨rest, stop⟩ := found
        rw [passed] at read
        cases read
        refine ⟨pastBlanks_onward passed, fun apart => ?_⟩
        have enough : cursor.rest.length + tail.length < (cursor.rest ++ tail).length + 1 := by
          rw [List.length_append]
          omega
        have inside := pastBlanks_append harmless (Nat.lt_succ_self _) enough passed apart shift
        rw [blanks, if_pos (starts.trans blank)]
        simp only [Cursor.within, inside]
  · rw [blanks, if_neg blank] at read
    cases read
    refine ⟨Passed.refl _ _, fun _ => ?_⟩
    rw [blanks, if_neg (by rwa [starts])]

theorem agrees_blanks (cursor : Cursor)
    (ends : free → cursor.flags.spaced = false ∨ tail = []) :
    Agrees free shift tail cursor blanks blanks := by
  intro value after read
  obtain ⟨onward, inside_eq⟩ := blanks_within harmless shift read
  exact ⟨onward, fun more => inside_eq (more.imp_right ends)⟩

omit harmless in
theorem blanks_nil {cursor : Cursor} (nothing : cursor.rest = []) :
    blanks cursor = .ok ((), cursor) := by
  rw [blanks, nothing]
  rfl

omit harmless in
/-- Nothing closes at the end of a pattern. -/
theorem closeGroup_nil {cursor : Cursor} (nothing : cursor.rest = []) :
    closeGroup cursor = .error (.writing cursor.position .unclosedGroup) := by
  have left_eq : left cursor = .ok ([], cursor) := by rw [← nothing]; rfl
  rw [closeGroup, bind_ok (blanks_nil nothing), bind_ok left_eq]
  rfl

theorem alike_closeGroup (cursor : Cursor) : Alike shift tail cursor closeGroup closeGroup := by
  rw [closeGroup]
  refine (agrees_blanks harmless cursor .inr).bind_alike ?_ fun _ between _ => .left ?_
  · intro _ between after nothing
    have left_eq : left between = .ok ([], between) := by rw [← nothing]; rfl
    rw [bind_ok left_eq]
    exact nofun
  · cases rest_eq : between.rest with
    | nil => exact .fail _ _
    | cons c rest =>
        rw [List.cons_append]
        exact .ite (fun _ => .skip (by simp [rest_eq])) fun _ => .fail _ _

/-- A pattern in parentheses is read alike. -/
theorem Agrees.closed {α β : Type} {cursor : Cursor} {first inside : Reader α}
    {next others : α → Reader β} (front : Agrees (tail = []) shift tail cursor first inside)
    (back : ∀ value between, Alike shift tail between (next value) (others value)) :
    Alike shift tail cursor (do let value ← first; closeGroup; next value)
      (do let value ← inside; closeGroup; others value) := by
  refine front.bind_alike ?_ fun value between _ =>
    .bind (alike_closeGroup harmless between) fun _ _ _ => back value _
  intro value between after nothing
  rw [bind_error (closeGroup_nil nothing)]
  exact nofun

/-! ## Groups -/

section Nested

variable {nested : Reader Term}
  (agrees : ∀ cursor, Agrees (tail = []) shift tail cursor nested nested)
include agrees

omit harmless agrees in
theorem alike_openGroup (cursor : Cursor) : Alike shift tail cursor openGroup openGroup := by
  rintro _ _ ⟨⟩
  exact ⟨Passed.refl _ _, rfl⟩

theorem alike_namedGroup (start other : Nat) (cursor : Cursor) :
    Alike shift tail cursor (namedGroup nested start) (namedGroup nested other) := by
  rw [namedGroup, namedGroup]
  refine .bind (alike_openGroup cursor) fun number between _ => .left ?_
  cases named : delimitedName? ['<'] ['>'] false between.rest with
  | none => exact .failAt _ _ _
  | some found =>
      obtain ⟨name, rest⟩ := found
      obtain ⟨rest_eq, inside⟩ := delimitedName?_append harmless _ _ _ named
      rw [inside]
      have enough : name.length + 2 ≤ between.rest.length := by
        simp [rest_eq]
      exact .bind (.skip enough) fun _ _ _ =>
        .bind (.modify (fun _ => ⟨rfl, rfl⟩) fun _ => rfl) fun _ _ _ =>
          (agrees _).closed harmless fun inner _ => .pure _

theorem alike_flagGroup {opened : List Char} {start : Nat} {outside : Flags} {fuel further : Nat}
    (enough : fuel ≤ further) (negated : Bool) (cursor : Cursor) :
    Alike shift tail cursor (flagGroup nested opened start outside fuel negated)
      (flagGroup nested (opened ++ tail) (start + shift) outside further negated) := by
  induction fuel generalizing further negated cursor with
  | zero => exact .fail _ _
  | succ fuel ih =>
      obtain ⟨further, rfl⟩ : ∃ other, further = other + 1 := ⟨further - 1, by omega⟩
      have enough : fuel ≤ further := Nat.le_of_succ_le_succ enough
      rw [flagGroup, flagGroup]
      refine (agrees_blanks harmless cursor .inr).bind_alike ?_ fun _ between _ => .get ?_
      · intro _ between after nothing
        obtain ⟨rest, position, flags, groups, names, numbered, referred⟩ := between
        cases nothing
        exact nofun
      · have here_eq (place : Nat) : ((between.within shift tail).position == place + shift) =
            (between.position == place) := by
          rw [Bool.eq_iff_iff]
          simp [Cursor.within]
        have behind_eq : start + shift + 1 = start + 1 + shift := Nat.add_right_comm _ _ _
        simp only [here_eq, behind_eq]
        cases rest_eq : between.rest with
        | nil => exact .fail _ _
        | cons c rest =>
            have one_left : 1 ≤ between.rest.length := by simp [rest_eq]
            have inside_eq : (between.within shift tail).rest = c :: (rest ++ tail) := by
              simp [Cursor.within, rest_eq]
            rw [inside_eq]
            by_cases hyphen : c = '-'
            · subst hyphen
              refine .ite (fun _ => .failAt _ _ _) fun _ => ?_
              exact .bind (.skip one_left) fun _ _ _ => ih enough _ _
            by_cases close : c = ')'
            · subst close
              exact .ite (fun _ => .failAt _ _ _) fun _ => .bind (.skip one_left) fun _ _ _ => .pure _
            by_cases colon : c = ':'
            · subst colon
              refine .ite (fun _ => .failAt _ _ _) fun _ => .bind (.skip one_left) fun _ _ _ => ?_
              exact (agrees _).closed harmless fun inner _ =>
                .bind (.modify (fun _ => ⟨rfl, rfl⟩) fun _ => rfl) fun _ _ _ => .pure _
            · have flags_eq : (between.within shift tail).flags = between.flags := rfl
              simp only [flags_eq]
              cases switched? between.flags c !negated with
              | none =>
                  by_cases always : (c == 'u') = true
                  · simp only [always, if_true]
                    exact .fail _ _
                  · simp only [always]
                    exact .failAt _ _ _
              | some flags =>
                  refine .bind ?_ fun _ switched between_eq => ?_
                  · rintro _ _ ⟨⟩
                    exact ⟨⟨[], rest_eq, rfl⟩, rfl⟩
                  · cases between_eq
                    exact .bind (.skip (Nat.succ_pos _)) fun _ _ _ => ih enough _ _

/-- What follows the condition: the branches, or nothing behind a reference. -/
theorem alike_conditionBranches (condition test : Term) (cursor : Cursor) :
    let behind : Reader Term := do
      let before ← position
      let branches ← nested
      if (← position) == before then
        if let .again _ := condition.bare then
          closeGroup
          return test
        else fail .expectedBranch
      else
        closeGroup
        let (yes, no) : Term × Term := match branches.bare with
          | .alt yes no => (yes, no)
          | term => (term, .empty)
        return if yes.isBlank && no.isBlank then test else .choose test yes no
    Alike shift tail cursor behind behind := by
  intro behind
  refine .position ((agrees cursor).bind_alike ?_ fun branches last _ => .position ?_)
  · intro branches last after nothing
    have position_eq : position last = .ok (last.position, last) := rfl
    rw [bind_ok position_eq]
    split
    · cases condition.bare with
      | again number =>
          dsimp only
          rw [bind_error (closeGroup_nil nothing)]
          exact nofun
      | _ => exact nofun
    · rw [bind_error (closeGroup_nil nothing)]
      exact nofun
  · have same : (last.position + shift == cursor.position + shift) =
        (last.position == cursor.position) := by
      rw [Bool.eq_iff_iff]
      simp
    simp only [same]
    refine .ite (fun _ => ?_) fun _ =>
      .bind (alike_closeGroup harmless last) fun _ _ _ => .pure _
    cases condition.bare with
    | again number => exact .bind (alike_closeGroup harmless last) fun _ _ _ => .pure _
    | _ => exact .fail _ _

theorem alike_conditional (cursor : Cursor) :
    Alike shift tail cursor (conditional nested) (conditional nested) := by
  rw [conditional]
  apply Alike.left
  cases rest_eq : cursor.rest with
  | nil => rintro _ _ ⟨⟩
  | cons c rest =>
      rw [List.cons_append]
      refine .ite (fun _ => ?_) fun _ => .ite (fun _ => ?_) fun _ => .ite (fun _ => ?_) fun _ => ?_
      · exact (alike_numberedReference harmless _).agrees.closed harmless fun condition between =>
          alike_conditionBranches harmless agrees condition _ between
      · exact (alike_namedReference harmless _ _ _ _).agrees.closed harmless fun condition between =>
          alike_conditionBranches harmless agrees condition _ between
      · exact (alike_namedReference harmless _ _ _ _).agrees.closed harmless fun condition between =>
          alike_conditionBranches harmless agrees condition _ between
      · exact (agrees _).closed harmless fun condition between =>
          alike_conditionBranches harmless agrees condition _ between

/-- What the characters behind an opening parenthesis open. -/
inductive Opening where
  | look (taken : Nat) (ahead wanted : Bool)
  | named (taken : Nat)
  | reference
  | atomic
  | condition
  | flags (opened : List Char)
  | capture

/-- What a group opens. -/
def opening : List Char → Opening
  | '?' :: '=' :: _ => .look 2 true true
  | '?' :: '!' :: _ => .look 2 true false
  | '?' :: '<' :: '=' :: _ => .look 3 false true
  | '?' :: '<' :: '!' :: _ => .look 3 false false
  | '?' :: '<' :: _ => .named 1
  | '?' :: 'P' :: '<' :: _ => .named 2
  | '?' :: 'P' :: '=' :: _ => .reference
  | '?' :: '>' :: _ => .atomic
  | '?' :: '(' :: _ => .condition
  | '?' :: opened => .flags opened
  | _ => .capture

/-- The number of characters that an opening passes over. -/
def Opening.taken : Opening → Nat
  | .look taken _ _ | .named taken => taken
  | .reference => 3
  | .atomic | .condition => 2
  | .flags _ => 1
  | .capture => 0

omit harmless agrees in
theorem taken_opening_le (text : List Char) : (opening text).taken ≤ text.length := by
  fun_cases opening text <;> simp [Opening.taken]

/-- The rest of a group behind its opening, which stands at a place. -/
def behindOpening (nested : Reader Term) (start : Nat) : Opening → Reader Term
  | .look taken ahead wanted => do
    skip taken
    let inner ← nested
    closeGroup
    return .look ahead wanted inner
  | .named taken => do
    skip taken
    namedGroup nested start
  | .reference => do
    skip 3
    namedReference [] [')'] false
  | .atomic => do
    skip 2
    let inner ← nested
    closeGroup
    return .atomic inner
  | .condition => do
    skip 2
    conditional nested
  | .flags opened => do
    skip 1
    flagGroup nested opened (start + 1) (← flags) (opened.length + 1) false
  | .capture => do
    let number ← openGroup
    let inner ← nested
    closeGroup
    return .group number inner

/-- The rest of a group behind its opening parenthesis. -/
def groupBody (nested : Reader Term) : Reader Term := do
  blanks
  let start ← position
  let text ← left
  behindOpening nested start (opening text)

omit harmless agrees in
theorem group_eq : group nested = (do
    skip 1
    groupBody nested) := by
  rw [group]
  refine congrArg _ (funext fun _ => congrArg _ (funext fun _ => congrArg _ (funext fun start =>
    congrArg _ (funext fun text => ?_))))
  dsimp only
  fun_cases opening text <;> simp only [behindOpening]

omit harmless agrees in
theorem opening_eq_capture {text : List Char} (not_mark : ∀ rest, text ≠ '?' :: rest) :
    opening text = .capture := by
  fun_cases opening text with
  | case11 => rfl
  | _ => exact absurd rfl (not_mark _)

omit agrees in
/-- A group opens alike in a longer pattern. -/
theorem opening_append (text : List Char) : opening (text ++ tail) =
    match opening text with
    | .flags opened => .flags (opened ++ tail)
    | other => other := by
  have first {c : Char} (not_slash : c ≠ '/') {text rest : List Char}
      (differs : ∀ rest, text ≠ c :: rest) (eq : text ++ tail = c :: rest) : False := by
    obtain ⟨more, rfl⟩ := harmless.cons_of_append not_slash eq
    exact differs more rfl
  fun_cases opening text with
  | case5 text not_ahead not_behind =>
      rw [List.cons_append, List.cons_append, opening]
      · exact fun rest => first (by decide) not_ahead
      · exact fun rest => first (by decide) not_behind
  | case10 text not_ahead not_bar not_behind not_wall not_angle not_named not_again not_atomic not_if =>
      have second {c d : Char} (not_slash : c ≠ '/' ∧ d ≠ '/')
          (differs : ∀ rest, text = c :: d :: rest → False) (rest : List Char)
          (eq : text ++ tail = c :: d :: rest) : False := by
        obtain ⟨more, text_eq⟩ := harmless.cons_cons_of_append not_slash eq
        exact differs more text_eq
      rw [List.cons_append, opening]
      · exact fun rest => first (by decide) not_ahead
      · exact fun rest => first (by decide) not_bar
      · exact second (by decide) not_behind
      · exact second (by decide) not_wall
      · exact fun rest => first (by decide) not_angle
      · exact second (by decide) not_named
      · exact second (by decide) not_again
      · exact fun rest => first (by decide) not_atomic
      · exact fun rest => first (by decide) not_if
  | case11 text _ _ _ _ _ _ _ _ _ not_mark =>
      exact opening_eq_capture fun rest => first (by decide) not_mark
  | _ => rfl

theorem alike_groupBody (cursor : Cursor) :
    Alike shift tail cursor (groupBody nested) (groupBody nested) := by
  refine (agrees_blanks harmless cursor .inr).bind_alike ?_ fun _ between _ => .position (.left ?_)
  · intro _ between after nothing read
    have capture_eq : opening between.rest = .capture :=
      opening_eq_capture fun rest => by rw [nothing]; nofun
    obtain ⟨value, after⟩ := after
    change behindOpening nested between.position (opening between.rest) between = _ at read
    rw [capture_eq] at read
    obtain ⟨number, inside, opened_eq, read⟩ := bind_eq_ok_iff.mp read
    obtain ⟨inner, last, inner_eq, closed⟩ := bind_eq_ok_iff.mp read
    cases opened_eq
    have onward := (agrees _ inner last inner_eq).1
    rw [bind_error (closeGroup_nil (onward.rest_eq_nil nothing))] at closed
    contradiction
  rw [opening_append harmless]
  have taken_le := taken_opening_le between.rest
  cases opening_eq : opening between.rest with
  | look taken ahead wanted =>
      rw [opening_eq] at taken_le
      exact .bind (.skip taken_le) fun _ _ _ => (agrees _).closed harmless fun inner _ => .pure _
  | named taken =>
      rw [opening_eq] at taken_le
      exact .bind (.skip taken_le) fun _ _ _ => alike_namedGroup harmless agrees _ _ _
  | reference =>
      rw [opening_eq] at taken_le
      exact .bind (.skip taken_le) fun _ _ _ => alike_namedReference harmless _ _ _ _
  | atomic =>
      rw [opening_eq] at taken_le
      exact .bind (.skip taken_le) fun _ _ _ => (agrees _).closed harmless fun inner _ => .pure _
  | condition =>
      rw [opening_eq] at taken_le
      exact .bind (.skip taken_le) fun _ _ _ => alike_conditional harmless agrees _
  | flags opened =>
      rw [opening_eq] at taken_le
      refine .bind (.skip taken_le) fun _ _ _ => .flags ?_
      rw [Nat.add_right_comm]
      exact alike_flagGroup harmless agrees (by simp) _ _
  | capture =>
      exact .bind (alike_openGroup _) fun _ _ _ =>
        (agrees _).closed harmless fun inner _ => .pure _

theorem alike_group {cursor : Cursor} (some_char : cursor.rest ≠ []) :
    Alike shift tail cursor (group nested) (group nested) := by
  rw [group_eq]
  exact .bind (.skip (List.length_pos_iff.mpr some_char)) fun _ _ _ =>
    alike_groupBody harmless agrees _

end Nested

end Tail

end Redirects.Regex.Reader
