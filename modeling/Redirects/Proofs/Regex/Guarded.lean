import Redirects.Proofs.Text.Occurrence
import Redirects.Regex.Escape
import Redirects.Regex.Reading

/-!
# Guarded texts

A guarded text is a row of plain characters with texts between them that must not follow where they
are written.  Each character is written so that it stands for itself, and a text that must not
follow is written between parentheses; what is written is read back sign by sign.
-/

namespace Redirects.Regex

/-- A sign of a guarded text. -/
inductive Sign where
  /-- A character that stands for itself. -/
  | plain (c : Char)
  /-- A text that must not follow. -/
  | barred (text : List Char)
deriving DecidableEq, Repr

namespace Sign

/-- The characters of a pattern that write a sign. -/
def written : Sign → List Char
  | .plain c => escapeChar c
  | .barred text => '(' :: '?' :: '!' :: (text.flatMap escapeChar ++ [')'])

/-- What a sign is read as. -/
def term : Sign → Term
  | .plain c => .char false c
  | .barred text => .look true false (Term.inSequence (text.map (Term.char false)))

end Sign

/-- What is done next starts from what was done before. -/
theorem bind_ok {σ α β : Type} {first : StateT σ (Except Fault) α}
    {next : α → StateT σ (Except Fault) β} {before after : σ} {value : α}
    (first_eq : first before = .ok (value, after)) :
    (first >>= next) before = next value after := by
  change (first before >>= fun (value, after) => next value after) = _
  rw [first_eq]
  rfl

/-- What is done next does not start if what was to be done before failed. -/
theorem bind_error {σ α β : Type} {first : StateT σ (Except Fault) α}
    {next : α → StateT σ (Except Fault) β} {before : σ} {fault : Fault}
    (first_eq : first before = .error fault) : (first >>= next) before = .error fault := by
  change (first before >>= fun (value, after) => next value after) = _
  rw [first_eq]
  rfl

namespace Reader

/-- The place of reading before some text, no flags being set and no group being open. -/
def before (rest : List Char) (position : Nat) : Cursor := { rest, position }

theorem flags_before (rest : List Char) (position : Nat) :
    flags (before rest position) = .ok ({}, before rest position) := rfl

theorem left_before (rest : List Char) (position : Nat) :
    left (before rest position) = .ok (rest, before rest position) := rfl

theorem position_before (rest : List Char) (start : Nat) :
    position (before rest start) = .ok (start, before rest start) := rfl

/-- A text with which a part of a pattern can be followed: it begins neither with a quantifier nor
with what is skipped. -/
def Follows (rest : List Char) : Prop :=
  startsBlank false rest = false ∧ ∀ position, count? (before rest position) = none

theorem follows_nil : Follows [] := ⟨rfl, fun _ => rfl⟩

theorem follows_close (rest : List Char) : Follows (')' :: rest) := ⟨rfl, fun _ => rfl⟩

/-- The signs of patterns are special, so any other character stands for itself. -/
theorem not_special_iff {c : Char} : ¬isSpecial c = true ↔
    c ≠ '.' ∧ c ≠ '*' ∧ c ≠ '+' ∧ c ≠ '?' ∧ c ≠ '^' ∧ c ≠ '$' ∧ c ≠ '\x7b' ∧ c ≠ '\x7d' ∧ c ≠ '(' ∧
      c ≠ ')' ∧ c ≠ '|' ∧ c ≠ '[' ∧ c ≠ ']' ∧ c ≠ '\\' := by
  simp [isSpecial]

theorem follows_written (sign : Sign) (rest : List Char) : Follows (sign.written ++ rest) := by
  cases sign with
  | barred text => exact ⟨rfl, fun _ => rfl⟩
  | plain c =>
      by_cases special : isSpecial c = true
      · rw [Sign.written, escapeChar, if_pos special]
        exact ⟨rfl, fun _ => rfl⟩
      · rw [Sign.written, escapeChar, if_neg special]
        obtain ⟨_, star, plus, mark, _, _, brace, _, paren, _⟩ := not_special_iff.mp special
        constructor
        · rw [List.singleton_append, startsBlank]
          · rfl
          · exact fun _ same => absurd same paren
        · intro position
          simp [count?, before, star, plus, mark, brace]

theorem blanks_before {rest : List Char} (visible : startsBlank false rest = false)
    (position : Nat) : blanks (before rest position) = .ok ((), before rest position) := by
  simp [blanks, before, visible]

theorem atom_plain (group : Reader Term) (c : Char) (rest : List Char) (position : Nat) :
    atom group (before (escapeChar c ++ rest) position) =
      .ok (.char false c, before rest (position + Text.byteLength (escapeChar c))) := by
  by_cases special : isSpecial c = true
  · have listed := special
    rw [escapeChar, if_pos special]
    simp only [isSpecial, List.contains_iff_mem, List.mem_cons, List.not_mem_nil, or_false]
      at listed
    rcases listed with rfl | rfl | rfl | rfl | rfl | rfl | rfl | rfl | rfl | rfl | rfl | rfl |
      rfl | rfl <;> rfl
  · have follows := follows_written (.plain c) rest
    rw [Sign.written, escapeChar, if_neg special] at follows
    obtain ⟨_, star, plus, mark, _, _, _, _, _, close, bar, _, _, _⟩ := not_special_iff.mp special
    rw [escapeChar, if_neg special, atom, bind_ok (blanks_before follows.1 position),
      bind_ok (flags_before _ _), bind_ok (left_before _ _), List.singleton_append]
    simp [star, plus, mark, close, bar]
    rfl

/-- Where no part can begin, no atom is taken. -/
theorem atom_close (group : Reader Term) (rest : List Char) (position : Nat) :
    atom group (before (')' :: rest) position) = .ok (.empty, before (')' :: rest) position) := rfl

/-- A group reads a sign. -/
def ReadsSign (group : Reader Term) (sign : Sign) : Prop :=
  ∀ rest position, atom group (before (sign.written ++ rest) position) =
    .ok (sign.term, before rest (position + Text.byteLength sign.written))

/-- An atom that nothing repeats is a part. -/
theorem part_of_atom {group : Reader Term} {text rest : List Char} {start stop : Nat} {term : Term}
    (read : atom group (before text start) = .ok (term, before rest stop))
    (follows : Follows rest) :
    part group (before text start) = .ok (term, before rest stop) := by
  rw [part, bind_ok read, bind_ok (blanks_before follows.1 stop)]
  have cursor_eq : (get : Reader Cursor) (before rest stop) =
      .ok (before rest stop, before rest stop) := rfl
  rw [bind_ok cursor_eq, follows.2]
  rfl

/-- The end of a pattern or of a group. -/
inductive Closes : List Char → Prop where
  | finish : Closes []
  | close (rest : List Char) : Closes (')' :: rest)

theorem Closes.follows {rest : List Char} (closes : Closes rest) : Follows rest := by
  cases closes with
  | finish => exact follows_nil
  | close rest => exact follows_close rest

theorem follows_signs (signs : List Sign) {rest : List Char} (follows : Follows rest) :
    Follows (signs.flatMap Sign.written ++ rest) := by
  cases signs with
  | nil => exact follows
  | cons sign signs =>
      rw [List.flatMap_cons, List.append_assoc]
      exact follows_written sign _

theorem written_ne_nil (sign : Sign) : sign.written ≠ [] := by
  cases sign with
  | barred text => exact List.cons_ne_nil _ _
  | plain c =>
      rw [Sign.written, escapeChar]
      split <;> exact List.cons_ne_nil _ _

theorem length_le_length_written (signs : List Sign) :
    signs.length ≤ (signs.flatMap Sign.written).length := by
  induction signs with
  | nil => exact Nat.le_refl 0
  | cons sign signs ih =>
      have onward := List.length_pos_iff.mpr (written_ne_nil sign)
      rw [List.flatMap_cons, List.length_append, List.length_cons]
      omega

theorem isBlank_term (sign : Sign) : sign.term.isBlank = false := by
  cases sign <;> rfl

theorem parts_close (group : Reader Term) {rest : List Char} (closes : Closes rest)
    (fuel position : Nat) :
    parts group fuel (before rest position) = .ok ([], before rest position) := by
  cases fuel with
  | zero => rfl
  | succ fuel =>
      cases closes with
      | finish => rfl
      | close rest =>
          have read := part_of_atom (atom_close group rest position) (follows_close rest)
          rw [parts, bind_ok (position_before _ _), bind_ok (left_before _ _), List.isEmpty_cons,
            if_neg Bool.false_ne_true, bind_ok read, bind_ok (position_before _ _),
            if_pos (beq_self_eq_true position)]
          rfl

/-- The parts of a guarded text and of what follows it are its signs and the parts that follow. -/
theorem parts_signs_append {group : Reader Term} {signs : List Sign}
    (readable : ∀ sign ∈ signs, ReadsSign group sign) {rest : List Char} (follows : Follows rest)
    (fuel position : Nat) :
    parts group (signs.length + fuel) (before (signs.flatMap Sign.written ++ rest) position) =
      (do
        let terms ← parts group fuel
        return signs.map Sign.term ++ terms)
        (before rest (position + Text.byteLength (signs.flatMap Sign.written))) := by
  induction signs generalizing position with
  | nil => simp
  | cons sign signs ih =>
      have nonempty : (sign.written ++ (signs.flatMap Sign.written ++ rest)).isEmpty = false := by
        simp [written_ne_nil]
      have moved : (position + Text.byteLength sign.written == position) = false := by
        simp [Text.byteLength_eq_zero_iff, written_ne_nil]
      -- what follows a sign never repeats it, and the sign moved the position
      have read := part_of_atom (readable sign List.mem_cons_self _ position)
        (follows_signs signs follows)
      have others := ih (fun other other_mem => readable other (List.mem_cons_of_mem _ other_mem))
        (position + Text.byteLength sign.written)
      rw [List.flatMap_cons, List.append_assoc, List.length_cons, Nat.add_right_comm, parts,
        bind_ok (position_before _ _), bind_ok (left_before _ _), nonempty,
        if_neg Bool.false_ne_true, bind_ok read, bind_ok (position_before _ _), moved,
        if_neg Bool.false_ne_true, isBlank_term, Text.byteLength_append, ← Nat.add_assoc]
      cases rest_eq : parts group fuel (before rest (position + Text.byteLength sign.written +
          Text.byteLength (signs.flatMap Sign.written))) with
      | ok result =>
          rw [bind_ok rest_eq] at others ⊢
          rw [bind_ok others]
          rfl
      | error fault =>
          rw [bind_error rest_eq] at others ⊢
          rw [bind_error others]

/-- The parts of a guarded text are its signs. -/
theorem parts_signs {group : Reader Term} {signs : List Sign}
    (readable : ∀ sign ∈ signs, ReadsSign group sign) {rest : List Char} (closes : Closes rest)
    {fuel : Nat} (enough : signs.length < fuel) (position : Nat) :
    parts group fuel (before (signs.flatMap Sign.written ++ rest) position) =
      .ok (signs.map Sign.term,
        before rest (position + Text.byteLength (signs.flatMap Sign.written))) := by
  obtain ⟨fuel, rfl⟩ : ∃ more, fuel = signs.length + more := ⟨fuel - signs.length, by omega⟩
  rw [parts_signs_append readable closes.follows, bind_ok (parts_close group closes fuel _),
    List.append_nil]
  rfl

/-- A guarded text is read as its signs in sequence. -/
theorem choice_signs {group : Reader Term} {signs : List Sign}
    (readable : ∀ sign ∈ signs, ReadsSign group sign) {rest : List Char} (closes : Closes rest)
    (position : Nat) :
    choice group (before (signs.flatMap Sign.written ++ rest) position) =
      .ok (Term.inSequence (signs.map Sign.term),
        before rest (position + Text.byteLength (signs.flatMap Sign.written))) := by
  let text := signs.flatMap Sign.written ++ rest
  let stop := position + Text.byteLength (signs.flatMap Sign.written)
  have enough : signs.length < text.length + 1 := by
    have shorter := length_le_length_written signs
    simp only [text, List.length_append]
    omega
  have first : branch group (text.length + 1) (before text position) =
      .ok (Term.inSequence (signs.map Sign.term), before rest stop) := by
    rw [branch, bind_ok (parts_signs readable closes enough position)]
    rfl
  have others : branches group (text.length + 1) (text.length + 1) (before rest stop) =
      .ok ([], before rest stop) := by
    cases closes <;> rfl
  rw [choice, bind_ok (left_before _ _), bind_ok first,
    bind_ok (blanks_before closes.follows.1 stop), bind_ok others]
  rfl

/-- A plain character is read without a group. -/
theorem readsSign_plain (group : Reader Term) (c : Char) : ReadsSign group (.plain c) :=
  atom_plain group c

/-- A text that must not follow is read as what stands in its parentheses. -/
theorem readsSign_group (group : Reader Term) (sign : Sign) :
    ReadsSign (Reader.group (choice group)) sign := by
  cases sign with
  | plain c => exact readsSign_plain _ c
  | barred text =>
      intro rest position
      have body_eq : text.flatMap escapeChar = (text.map Sign.plain).flatMap Sign.written := by
        rw [List.flatMap_map]
        rfl
      have terms_eq : text.map (Term.char false) = (text.map Sign.plain).map Sign.term := by
        rw [List.map_map]
        rfl
      have inner := choice_signs (fun sign (sign_mem : sign ∈ text.map Sign.plain) => by
        obtain ⟨c, _, rfl⟩ := List.mem_map.mp sign_mem
        exact readsSign_plain group c) (.close rest) (position + 3)
      have written_eq : Sign.written (.barred text) ++ rest =
          '(' :: '?' :: '!' :: ((text.map Sign.plain).flatMap Sign.written ++ ')' :: rest) := by
        rw [Sign.written, body_eq]
        simp
      have closed (stop : Nat) : closeGroup (before (')' :: rest) stop) =
          .ok ((), before rest (stop + 1)) := rfl
      have opened (text : List Char) :
          atom (Reader.group (choice group)) (before ('(' :: '?' :: '!' :: text) position) =
            (do let inner ← choice group; closeGroup; return Term.look true false inner)
              (before text (position + 3)) := rfl
      rw [written_eq, opened, bind_ok inner, bind_ok (closed _), Sign.term, terms_eq,
        Sign.written, body_eq]
      have bytes_eq : position + 3 +
            Text.byteLength ((text.map Sign.plain).flatMap Sign.written) + 1 =
          position + Text.byteLength
            ('(' :: '?' :: '!' :: ((text.map Sign.plain).flatMap Sign.written ++ [')'])) := by
        simp only [Text.byteLength_cons, Text.byteLength_append, Text.byteLength_nil]
        have one_byte : '('.utf8Size = 1 ∧ '?'.utf8Size = 1 ∧ '!'.utf8Size = 1 ∧
            ')'.utf8Size = 1 := by decide
        omega
      rw [bytes_eq]
      rfl

end Reader

/-- What a pattern is read as, which has to end where the text ends. -/
def finished (found : Term × Cursor) : Except Fault Written :=
  if found.2.rest.isEmpty then .ok ⟨found.1, found.2.groups, found.2.referred⟩
  else .error (.writing found.2.position .leftover)

theorem readPattern_eq (text : List Char) :
    readPattern text = Reader.pattern maxDepth { rest := text } >>= finished := rfl

theorem readPattern_of_ok {text : List Char} {term : Term} {after : Cursor}
    (read : Reader.pattern maxDepth { rest := text } = .ok (term, after))
    (whole : after.rest = []) :
    readPattern text = .ok ⟨term, after.groups, after.referred⟩ := by
  rw [readPattern_eq, read]
  change finished (term, after) = _
  rw [finished, whole]
  rfl

/-- A guarded text is read back sign by sign. -/
theorem readPattern_signs (signs : List Sign) :
    readPattern (signs.flatMap Sign.written) =
      .ok ⟨Term.inSequence (signs.map Sign.term), 0, []⟩ := by
  have readable : ∀ sign ∈ signs,
      Reader.ReadsSign (Reader.group (Reader.pattern (maxDepth - 1))) sign :=
    fun sign _ => Reader.readsSign_group (Reader.group (Reader.pattern (maxDepth - 2))) sign
  have read := Reader.choice_signs readable .finish 0
  rw [List.append_nil] at read
  exact readPattern_of_ok read rfl

end Redirects.Regex
