import Redirects.Proofs.Regex.Inside.Groups

/-!
# Branches inside a longer pattern

What a pattern has before its end is read alike in a longer pattern: its atoms and parts, its
branches, and all that stands in parentheses.
-/

namespace Redirects.Regex.Reader

variable {free : Prop} {shift : Nat} {tail : List Char}

/-- The atom that an escape is read as. -/
def escapedTerm : Escaped → Reader Term
  | .char fold c => return .char fold c
  | .set members => return .set members
  | .hexDigit negated => return .set (hexDigits.negatedIf negated)
  | .unreadable => return .unreadable
  | .term term => do
    if let .again number := term then
      modify fun cursor => { cursor with referred := number :: cursor.referred }
    return term

/-- The atom that begins with a character. -/
def atomAt (group : Reader Term) (flags : Flags) (c : Char) : Reader Term :=
  match c with
  | '.' => do
    skip 1
    return .set (if flags.dotAll then .all else (Unicode.CharSet.one '\n').complement)
  | '^' => do
    skip 1
    return .edge (if flags.multiline then .lineStart else .textStart)
  | '$' => do
    skip 1
    return .edge (if flags.multiline then .lineEnd else .textEnd)
  | '(' => group
  | '[' => bracket
  | '\\' => escape false >>= escapedTerm
  | c =>
    if c == '+' || c == '*' || c == '?' || c == '|' || c == ')' then return .empty
    else do
      skip 1
      return .char flags.fold c

/-- The atom at the place of reading. -/
def visibleAtom (group : Reader Term) : Reader Term := fun cursor =>
  match cursor.rest with
  | [] => .ok (.empty, cursor)
  | c :: _ => atomAt group cursor.flags c cursor

/-- An atom stands behind blanks. -/
theorem atom_eq (group : Reader Term) : atom group = (do blanks; visibleAtom group) := by
  have visible_eq : visibleAtom group = (do
      let flags ← flags
      let text ← left
      match text with
      | [] => return .empty
      | c :: _ => atomAt group flags c) := by
    funext cursor
    obtain ⟨rest, position, flags, groups, names, numbered, referred⟩ := cursor
    cases rest <;> rfl
  rw [visible_eq, atom]
  refine congrArg _ (funext fun _ => congrArg _ (funext fun flags =>
    congrArg _ (funext fun text => ?_)))
  cases text with
  | nil => rfl
  | cons c text =>
      dsimp only
      fun_cases atomAt group flags c with
      | case7 | case8 => simp_all
      | _ => rfl

theorem visibleAtom_nil (group : Reader Term) {cursor : Cursor} (nothing : cursor.rest = []) :
    visibleAtom group cursor = .ok (.empty, cursor) := by
  rw [visibleAtom, nothing]

theorem visibleAtom_cons (group : Reader Term) {cursor : Cursor} {c : Char} {rest : List Char}
    (rest_eq : cursor.rest = c :: rest) :
    visibleAtom group cursor = atomAt group cursor.flags c cursor := by
  rw [visibleAtom, rest_eq]

/-- Positions are the same inside a longer pattern exactly if they are alone. -/
theorem position_beq (shift first second : Nat) :
    (first + shift == second + shift) = (first == second) := by
  rw [Bool.eq_iff_iff]
  simp

/-- A character that was accepted stood at the front. -/
theorem rest_eq_of_accept {c : Char} {cursor after : Cursor}
    (accepted : accept c cursor = .ok (true, after)) : cursor.rest = c :: after.rest := by
  obtain ⟨rest, position, flags, groups, names, numbered, referred⟩ := cursor
  cases rest with
  | nil => cases accepted
  | cons d rest =>
      change (if c == d then _ else _ : Reader Bool) _ = _ at accepted
      split at accepted
      · next same =>
          cases accepted
          rw [eq_of_beq same]
          rfl
      · cases accepted

/-- A character that was not accepted was not passed over. -/
theorem eq_of_accept_false {c : Char} {cursor after : Cursor}
    (refused : accept c cursor = .ok (false, after)) : after = cursor := by
  obtain ⟨rest, position, flags, groups, names, numbered, referred⟩ := cursor
  cases rest with
  | nil =>
      cases refused
      rfl
  | cons d rest =>
      change (if c == d then _ else _ : Reader Bool) _ = _ at refused
      split at refused <;> cases refused
      rfl

theorem Agrees.length_le {α : Type} {cursor after : Cursor} {alone inside : Reader α} {value : α}
    (agrees : Agrees (tail = []) shift tail cursor alone inside)
    (read : alone cursor = .ok (value, after)) :
    after.rest.length ≤ cursor.rest.length :=
  (agrees value after read).1.length_le

theorem flags_of_blanks {cursor after : Cursor} (read : blanks cursor = .ok ((), after)) :
    after.flags = cursor.flags := by
  rw [blanks] at read
  split at read
  · split at read
    · cases read
      rfl
    · cases read
  · cases read
    rfl

theorem flags_of_accept {c : Char} {cursor after : Cursor} {accepted : Bool}
    (read : accept c cursor = .ok (accepted, after)) : after.flags = cursor.flags := by
  obtain ⟨rest, position, flags, groups, names, numbered, referred⟩ := cursor
  cases rest with
  | nil => cases read; rfl
  | cons d rest =>
      change (if c == d then _ else _ : Reader Bool) _ = _ at read
      split at read <;> cases read <;> rfl

/-- What follows an atom in its part. -/
def quantified (term : Term) : Reader Term := do
  blanks
  match count? (← get) with
  | none => return term
  | some count =>
    if !term.repeatable then failAt count.lastPosition .badRepeat
    moveTo count.rest (count.lastPosition + 1)
    blanks
    let marked ← accept '?'
    let greedy := marked == (← flags).swapped
    let repeated : Term := .many term count.least count.most greedy
    if ← accept '+' then return .atomic repeated else return repeated

theorem part_eq (group : Reader Term) : part group = atom group >>= quantified := rfl

/-! ## Branches in turn -/

/-- The parts of a branch and the branches behind it, the branch having at most so many parts and the
others at most so many each. -/
def ways (group : Reader Term) (first length fuel : Nat) : Reader (List Term × List Term) := do
  let terms ← parts group first
  blanks
  let others ← branches group length fuel
  return (terms, others)

theorem branches_succ (group : Reader Term) (length fuel : Nat) :
    branches group length (fuel + 1) = (do
      if ← accept '|' then
        let (terms, others) ← ways group length length fuel
        return Term.inSequence terms :: others
      else return []) := by
  simp only [branches, ways, branch, bind_assoc, pure_bind]

/-- What is read of a choice, the parts of its first branch standing behind others. -/
def choiceBehind (lead : List Term) (group : Reader Term) (first length : Nat) : Reader Term := do
  let (terms, others) ← ways group first length length
  let cursor ← get
  if others.isEmpty && cursor.numbered && !cursor.names.isEmpty then
    throw .numberedAmongNamed
  return Term.inChoice (Term.inSequence (lead ++ terms)) others

theorem choice_eq (group : Reader Term) : choice group = (do
    let text ← left
    choiceBehind [] group (text.length + 1) (text.length + 1)) := by
  simp only [choice, choiceBehind, ways, branch, bind_assoc, pure_bind, List.nil_append]

/-! ## Reading in a longer pattern -/

section Tail

variable (harmless : Harmless tail)
include harmless

omit harmless in
theorem alike_escapedTerm (escaped : Escaped) (cursor : Cursor) :
    Alike shift tail cursor (escapedTerm escaped) (escapedTerm escaped) := by
  cases escaped with
  | term term =>
      cases term with
      | again number =>
          exact .bind (.modify (fun _ => ⟨rfl, rfl⟩) fun _ => rfl) fun _ _ _ => .pure _
      | _ => exact .pure _
  | _ => exact .pure _

/-- A quantifier is read alike, unless a comment goes on to the end of its line there. -/
theorem agrees_quantified (term : Term) (cursor : Cursor)
    (ends : free → cursor.flags.spaced = false ∨ tail = []) :
    Agrees free shift tail cursor (quantified term) (quantified term) := by
  rw [quantified]
  refine (agrees_blanks harmless cursor ends).bind fun _ place blanks_eq => .get ?_
  rw [count?_within harmless]
  cases counted : count? place with
  | none => exact .pure _
  | some count =>
      refine .ite (fun _ => (Alike.failAt _ _ _).agrees) fun _ => .bind ?_ fun _ behind behind_eq => ?_
      · rintro _ _ ⟨⟩
        refine ⟨count?_onward counted, fun _ => ?_⟩
        simp [moveTo, Cursor.within, Count.within, Nat.add_right_comm]
      · have place_flags := flags_of_blanks blanks_eq
        have flags_eq : behind.flags = cursor.flags := by
          cases behind_eq
          exact place_flags
        refine (agrees_blanks harmless behind (flags_eq ▸ ends)).bind fun _ marking _ =>
          (alike_accept harmless (by decide) marking).agrees.bind fun marked possessing _ => .flags ?_
        exact (alike_accept harmless (by decide) possessing).agrees.bind fun possessive _ _ =>
          .ite (fun _ => .pure _) fun _ => .pure _

section Group

variable {group : Reader Term}
  (alike : ∀ cursor : Cursor, cursor.rest ≠ [] → Alike shift tail cursor group group)
include alike

theorem alike_atomAt (flags : Flags) {cursor : Cursor} {c : Char} {rest : List Char}
    (rest_eq : cursor.rest = c :: rest) :
    Alike shift tail cursor (atomAt group flags c) (atomAt group flags c) := by
  have some_char : cursor.rest ≠ [] := by simp [rest_eq]
  have taken (term : Term) : Alike shift tail cursor (do skip 1; return term)
      (do skip 1; return term) :=
    .bind (.skip (List.length_pos_iff.mpr some_char)) fun _ _ _ => .pure _
  fun_cases atomAt group flags c with
  | case4 => exact alike cursor some_char
  | case5 => exact alike_bracket harmless some_char
  | case6 =>
      exact .bind (alike_escape harmless false cursor) fun escaped _ _ =>
        alike_escapedTerm escaped _
  | case7 => exact .pure _
  | _ => exact taken _

theorem alike_visibleAtom {cursor : Cursor} (some_char : cursor.rest ≠ []) :
    Alike shift tail cursor (visibleAtom group) (visibleAtom group) := by
  obtain ⟨c, rest, rest_eq⟩ := List.exists_cons_of_ne_nil some_char
  intro term after read
  have within_eq : (cursor.within shift tail).rest = c :: (rest ++ tail) := by
    simp [Cursor.within, rest_eq]
  rw [visibleAtom_cons group rest_eq] at read
  rw [visibleAtom_cons group within_eq]
  exact alike_atomAt harmless alike cursor.flags rest_eq term after read

theorem agrees_visibleAtom (cursor : Cursor) :
    Agrees (tail = []) shift tail cursor (visibleAtom group) (visibleAtom group) := by
  by_cases some_char : cursor.rest = []
  · intro term after read
    rw [visibleAtom_nil group some_char] at read
    cases read
    refine ⟨Passed.refl _ _, fun more => visibleAtom_nil group ?_⟩
    have nothing : tail = [] := more.resolve_left fun more => more some_char
    simp [Cursor.within, some_char, nothing]
  · exact (alike_visibleAtom harmless alike some_char).agrees

theorem agrees_atom (cursor : Cursor) :
    Agrees (tail = []) shift tail cursor (atom group) (atom group) := by
  rw [atom_eq]
  exact (agrees_blanks harmless cursor .inr).bind fun _ between _ =>
    agrees_visibleAtom harmless alike between

theorem agrees_part (cursor : Cursor) :
    Agrees (tail = []) shift tail cursor (part group) (part group) := by
  rw [part_eq]
  exact (agrees_atom harmless alike cursor).bind fun term between _ =>
    agrees_quantified harmless term between .inr

theorem agrees_parts {fuel further : Nat} {cursor : Cursor} (enough : cursor.rest.length < fuel)
    (enough_further : cursor.rest.length < further) :
    Agrees (tail = []) shift tail cursor (parts group fuel) (parts group further) := by
  induction fuel generalizing further cursor with
  | zero => contradiction
  | succ fuel ih =>
      obtain ⟨further, rfl⟩ : ∃ other, further = other + 1 := ⟨further - 1, by omega⟩
      rw [parts, parts]
      refine .position (.left ?_)
      cases rest_eq : cursor.rest with
      | nil =>
          rintro _ _ ⟨⟩
          refine ⟨Passed.refl _ _, fun more => ?_⟩
          have nothing : tail = [] := more.resolve_left fun some_char => some_char rest_eq
          rw [nothing]
          rfl
      | cons c rest =>
          refine (agrees_part harmless alike cursor).bind fun term between part_eq => .position ?_
          have between_eq := position_beq shift between.position cursor.position
          simp only [between_eq]
          refine .ite (fun _ => .pure _) fun moved => ?_
          have onward := (agrees_part harmless alike cursor term between part_eq).1
          have shorter := onward.length_lt_of_position (by simpa using moved)
          exact (ih (by omega) (by omega)).bind fun terms _ _ => .pure _

theorem agrees_ways {first other length longer fuel further : Nat} {cursor : Cursor}
    (first_fits : cursor.rest.length < first) (other_fits : cursor.rest.length < other)
    (fits : cursor.rest.length < length) (fits_longer : cursor.rest.length < longer)
    (enough : cursor.rest.length < fuel) (enough_further : cursor.rest.length < further) :
    Agrees (tail = []) shift tail cursor (ways group first length fuel)
      (ways group other longer further) := by
  induction fuel generalizing first other further cursor with
  | zero => contradiction
  | succ fuel ih =>
      obtain ⟨further, rfl⟩ : ∃ other, further = other + 1 := ⟨further - 1, by omega⟩
      have parts_agree : Agrees (tail = []) shift tail cursor (parts group first)
          (parts group other) := agrees_parts harmless alike first_fits other_fits
      refine parts_agree.bind fun terms between parts_read => ?_
      have blanks_agree : Agrees (tail = []) shift tail between blanks blanks :=
        agrees_blanks harmless between .inr
      refine blanks_agree.bind fun _ place blanks_read => ?_
      have between_le := parts_agree.length_le parts_read
      have place_le := blanks_agree.length_le blanks_read
      rw [branches_succ, branches_succ]
      refine Agrees.bind ?_ fun others _ _ => .pure _
      refine (alike_accept harmless (by decide) place).agrees.bind fun accepted behind bar =>
        .ite (fun yes => ?_) fun _ => .pure _
      have bar_eq : place.rest = '|' :: behind.rest := by
        rw [yes] at bar
        exact rest_eq_of_accept bar
      have shorter : behind.rest.length < place.rest.length := by simp [bar_eq]
      exact (ih (by omega) (by omega) (by omega) (by omega) (by omega) (by omega)).bind
        fun _ _ _ => .pure _

theorem agrees_choice (cursor : Cursor) :
    Agrees (tail = []) shift tail cursor (choice group) (choice group) := by
  rw [choice_eq]
  refine .left ?_
  have longer : cursor.rest.length < (cursor.rest ++ tail).length + 1 := by
    rw [List.length_append]
    omega
  have here := Nat.lt_succ_self cursor.rest.length
  refine (agrees_ways harmless alike here longer here longer here longer).bind
    fun found last _ => .get ?_
  refine .ite (fun _ => ?_) fun _ => .pure _
  rintro _ _ ⟨⟩

end Group

/-- A pattern is read alike before a text that cannot be taken for a part of it, as long as it does
not come to its end there. -/
theorem agrees_pattern (depth : Nat) (cursor : Cursor) :
    Agrees (tail = []) shift tail cursor (pattern depth) (pattern depth) := by
  induction depth generalizing cursor with
  | zero => exact agrees_choice harmless (fun _ _ => .fail _ _) cursor
  | succ depth ih => exact agrees_choice harmless (fun _ => alike_group harmless ih) cursor

end Tail

end Redirects.Regex.Reader
