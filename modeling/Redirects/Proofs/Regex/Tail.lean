import Redirects.Proofs.Regex.Finding
import Std.Data.TreeSet.Lemmas

/-!
# A needle and the rest of its line

A needle with a group behind it that takes the rest of the line, as a path is captured.  Such a
pattern is classical: its automaton spells the needle and goes round a loop along the line.  It is
found at the first place where the needle stands, and the group takes what the line has behind it.
-/

namespace Redirects.Regex

open Unicode (CharSet)

/-- The characters that a dot takes. -/
def dot : CharSet := (CharSet.one '\n').complement

theorem has_dot {c : Char} : dot.has c = true ↔ c ≠ '\n' := by
  have code_le : c.toNat ≤ Unicode.lastCode := by
    have valid : c.toNat.isValidChar := c.valid
    rw [Unicode.lastCode]
    rcases valid with low | ⟨_, high⟩ <;> omega
  have newline : c = '\n' ↔ c.toNat = 10 := by
    rw [← Char.toNat_inj]
    rfl
  have spans_eq : dot.spans = [⟨0, 9⟩, ⟨11, 1114111⟩] := by decide
  rw [Unicode.lastCode] at code_le
  simp only [CharSet.has, CharSet.holds, spans_eq, ne_eq, newline]
  simp [CharSet.inSpans]
  omega

/-! ## Reading -/

/-- Characters that a dot takes under some flags, so many at least. -/
def Term.dots (flags : Flags) (least : Nat) : Term :=
  .many (.set (if flags.dotAll then .all else dot)) least none (false == flags.swapped)

/-- The rest of a line, as it is read under some flags. -/
def Term.line (flags : Flags) : Term :=
  .many (.set (if flags.dotAll then .all else dot)) 0 none (false == flags.swapped)

/-- The group that takes the rest of a line, behind some groups. -/
def Term.tailUnder (flags : Flags) (groups : Nat) : Term := .group (groups + 1) (.line flags)

/-- The group that takes the rest of a line. -/
def Term.tail : Term := .group 1 (.many (.set dot) 0 none true)

/-- How the group that takes the rest of a line is written. -/
def writtenTail : List Char := ['(', '.', '*', ')']

namespace Reader

/-- The marks that repeat a dot without a bound, and how often they do at least. -/
def dotMarks : List (Char × Nat) := [('*', 0), ('+', 1)]

section Dots

variable {mark : Char} {least : Nat} (marked : (mark, least) ∈ dotMarks)
include marked

/-- A repeated dot is read whole. -/
theorem part_dots (group : Reader Term) {cursor : Cursor} {rest : List Char}
    (rest_eq : cursor.rest = '.' :: mark :: rest) (ends : rest = [] ∨ rest = [')']) :
    part group cursor = .ok (.dots cursor.flags least,
      { cursor with rest, position := cursor.position + 2 }) := by
  obtain ⟨_, position, ⟨fold, multiline, dotAll, swapped, spaced⟩, groups, names, numbered,
    referred⟩ := cursor
  cases rest_eq
  simp only [dotMarks, List.mem_cons, Prod.mk.injEq, List.not_mem_nil, or_false] at marked
  rcases marked with ⟨rfl, rfl⟩ | ⟨rfl, rfl⟩ <;> rcases ends with rfl | rfl <;> cases spaced <;> rfl

/-- What stands in the parentheses is read as a repetition, unless groups are referred to by number
among groups with names. -/
theorem choice_dots (group : Reader Term) {cursor : Cursor}
    (rest_eq : cursor.rest = ['.', mark, ')']) :
    choice group cursor =
      if cursor.numbered && !cursor.names.isEmpty then .error .numberedAmongNamed
      else
        .ok (.dots cursor.flags least,
          { cursor with rest := [')'], position := cursor.position + 2 }) := by
  have dotted := part_dots marked group rest_eq (.inr rfl)
  obtain ⟨_, position, ⟨fold, multiline, dotAll, swapped, spaced⟩, groups, names, numbered,
    referred⟩ := cursor
  cases rest_eq
  let flags : Flags := ⟨fold, multiline, dotAll, swapped, spaced⟩
  let start : Cursor := ⟨['.', mark, ')'], position, flags, groups, names, numbered, referred⟩
  let stop : Cursor := ⟨[')'], position + 2, flags, groups, names, numbered, referred⟩
  have none_left : part group stop = .ok (.empty, stop) := by cases spaced <;> rfl
  have position_start : Reader.position start = .ok (position, start) := rfl
  have position_stop : Reader.position stop = .ok (position + 2, stop) := rfl
  have left_start : left start = .ok (['.', mark, ')'], start) := rfl
  have left_stop : left stop = .ok ([')'], stop) := rfl
  have moved : (position + 2 == position) = false := by simp
  have last : parts group 3 stop = .ok ([], stop) := by
    rw [parts, bind_ok position_stop, bind_ok left_stop, List.isEmpty_cons,
      if_neg Bool.false_ne_true, bind_ok none_left, bind_ok position_stop,
      if_pos (beq_self_eq_true _)]
    rfl
  have first : parts group 4 start = .ok ([.dots flags least], stop) := by
    rw [parts, bind_ok position_start, bind_ok left_start, List.isEmpty_cons,
      if_neg Bool.false_ne_true, bind_ok dotted, bind_ok position_stop, moved,
      if_neg Bool.false_ne_true, bind_ok last]
    rfl
  have read : branch group 4 start = .ok (.dots flags least, stop) := by
    rw [branch, bind_ok first]
    rfl
  change choice group start = _
  rw [choice, bind_ok left_start]
  change (branch group 4 >>= _) start = _
  rw [bind_ok read]
  cases spaced <;> cases numbered <;> cases names <;> rfl

/-- A repeated dot in parentheses is read as a group. -/
theorem part_dots_group (inner : Reader Term) {cursor : Cursor}
    (rest_eq : cursor.rest = ['(', '.', mark, ')']) :
    part (Reader.group (choice inner)) cursor =
      if cursor.numbered && !cursor.names.isEmpty then .error .numberedAmongNamed
      else .ok (.group (cursor.groups + 1) (.dots cursor.flags least),
        { cursor with
          rest := [], position := cursor.position + 4, groups := cursor.groups + 1 }) := by
  obtain ⟨_, position, ⟨fold, multiline, dotAll, swapped, spaced⟩, groups, names, numbered,
    referred⟩ := cursor
  cases rest_eq
  let flags : Flags := ⟨fold, multiline, dotAll, swapped, spaced⟩
  let start : Cursor :=
    ⟨['(', '.', mark, ')'], position, flags, groups, names, numbered, referred⟩
  let inside : Cursor :=
    ⟨['.', mark, ')'], position + 1, flags, groups + 1, names, numbered, referred⟩
  have opened : atom (Reader.group (choice inner)) start =
      (do let inner ← choice inner; closeGroup; return Term.group (groups + 1) inner) inside := by
    cases spaced <;> rfl
  have line : choice inner inside = _ := choice_dots marked inner rfl
  change part _ start = _
  by_cases mixed : (numbered && !names.isEmpty) = true
  · rw [if_pos mixed] at line
    rw [if_pos mixed, part]
    exact bind_error (opened.trans (bind_error line))
  · rw [if_neg mixed] at line
    have closed : atom (Reader.group (choice inner)) start =
        .ok (.group (groups + 1) (.dots flags least),
          ⟨[], position + 4, flags, groups + 1, names, numbered, referred⟩) := by
      refine opened.trans ((bind_ok line).trans ?_)
      cases spaced <;> rfl
    rw [if_neg mixed, part, bind_ok closed]
    cases spaced <;> rfl

end Dots

theorem follows_tail : Follows writtenTail := ⟨rfl, fun _ => rfl⟩

theorem parts_tail (inner : Reader Term) {cursor : Cursor} (rest_eq : cursor.rest = writtenTail)
    (fuel : Nat) :
    parts (Reader.group (choice inner)) (fuel + 2) cursor =
      if cursor.numbered && !cursor.names.isEmpty then .error .numberedAmongNamed
      else .ok ([.tailUnder cursor.flags cursor.groups],
        { cursor with
          rest := [], position := cursor.position + 4, groups := cursor.groups + 1 }) := by
  have read : part (Reader.group (choice inner)) cursor = _ :=
    part_dots_group (List.mem_cons_self : ('*', 0) ∈ dotMarks) inner rest_eq
  obtain ⟨_, position, flags, groups, names, numbered, referred⟩ := cursor
  cases rest_eq
  let start : Cursor := ⟨writtenTail, position, flags, groups, names, numbered, referred⟩
  have position_start : Reader.position start = .ok (position, start) := rfl
  have left_start : left start = .ok (writtenTail, start) := rfl
  have nonempty : writtenTail.isEmpty = false := rfl
  change part _ start = _ at read
  change parts _ _ start = _
  rw [parts, bind_ok position_start, bind_ok left_start, nonempty, if_neg Bool.false_ne_true]
  by_cases mixed : (numbered && !names.isEmpty) = true
  · rw [if_pos mixed] at read
    rw [if_pos mixed]
    exact bind_error read
  · rw [if_neg mixed] at read
    rw [if_neg mixed]
    have position_stop :
        Reader.position ⟨[], position + 4, flags, groups + 1, names, numbered, referred⟩ =
          .ok (position + 4, ⟨[], position + 4, flags, groups + 1, names, numbered, referred⟩) := rfl
    have moved : (position + 4 == position) = false := by simp
    rw [bind_ok read, bind_ok position_stop, moved]
    rfl

/-- A guarded text with the group behind it is read as its signs and the group in sequence. -/
theorem choice_tailed {group : Reader Term} {signs : List Sign}
    (readable : ∀ sign ∈ signs, ReadsSign (Reader.group (choice group)) sign) :
    ∃ position, choice (Reader.group (choice group))
        (before (signs.flatMap Sign.written ++ writtenTail) 0) =
      .ok (Term.inSequence (signs.map Sign.term ++ [.tail]),
        { rest := [], position, groups := 1 }) := by
  let text := signs.flatMap Sign.written ++ writtenTail
  let stop := 0 + Text.byteLength (signs.flatMap Sign.written)
  obtain ⟨fuel, enough⟩ : ∃ fuel, text.length + 1 = signs.length + (fuel + 2) := by
    have shorter := length_le_length_written signs
    have text_length : text.length = (signs.flatMap Sign.written).length + 4 := by
      simp [text, writtenTail]
    exact ⟨text.length - 1 - signs.length, by omega⟩
  have all : parts (Reader.group (choice group)) (text.length + 1) (before text 0) =
      .ok (signs.map Sign.term ++ [.tail], { rest := [], position := stop + 4, groups := 1 }) := by
    rw [enough, parts_signs_append readable follows_tail, bind_ok (parts_tail group rfl fuel)]
    rfl
  have read : branch (Reader.group (choice group)) (text.length + 1) (before text 0) =
      .ok (Term.inSequence (signs.map Sign.term ++ [.tail]),
        { rest := [], position := stop + 4, groups := 1 }) := by
    rw [branch, bind_ok all]
    rfl
  refine ⟨stop + 4, ?_⟩
  rw [choice, bind_ok (left_before _ _), bind_ok read]
  rfl

end Reader

/-- A guarded text with the group behind it is read as its signs and the group in sequence. -/
theorem readPattern_tailed (signs : List Sign) :
    readPattern (signs.flatMap Sign.written ++ writtenTail) =
      .ok ⟨Term.inSequence (signs.map Sign.term ++ [.tail]), 1, []⟩ := by
  let inner := Reader.group (Reader.pattern (maxDepth - 2))
  have readable : ∀ sign ∈ signs, Reader.ReadsSign (Reader.group (Reader.choice inner)) sign :=
    fun sign _ => Reader.readsSign_group inner sign
  obtain ⟨position, read⟩ := Reader.choice_tailed readable
  exact readPattern_of_ok read rfl

/-! ## The automaton -/

namespace Classical

/-- The group that takes the rest of a line. -/
def tail : Classical := .group (.many (.set dot) 0 none true)

/-- One character after another, and a pattern behind them. -/
def spelledBefore (last : Classical) : List Char → Classical
  | [] => last
  | c :: chars => .seq (.set (.one c)) (spelledBefore last chars)

end Classical

theorem Term.classical?_tailed (vast : Bool) (chars : List Char) :
    (inSequence (chars.map (Term.char false) ++ [.tail])).classical? vast =
      some (Classical.spelledBefore .tail chars) := by
  induction chars with
  | nil => cases vast <;> rfl
  | cons c chars ih =>
      rw [List.map_cons, List.cons_append, inSequence_cons (by simp), classical?, ih]
      rfl

namespace Classical

/-- From a move on, the automaton takes the characters of a text and comes to another move. -/
def SpellsTo (moves : Array Move) (target : Nat) : Nat → List Char → Prop
  | entry, [] => entry = target
  | entry, c :: chars =>
    ∃ next, moves[entry]? = some (.take (.one c) next) ∧ SpellsTo moves target next chars

theorem getElem?_push_of_some {moves : Array Move} {index : Nat} {old : Move}
    (old_eq : moves[index]? = some old) (move : Move) : (moves.push move)[index]? = some old := by
  obtain ⟨inside, found⟩ := Array.getElem?_eq_some_iff.mp old_eq
  rw [Array.getElem?_push_lt inside, found]

theorem SpellsTo.push {moves : Array Move} {target entry : Nat} {chars : List Char}
    (spells : SpellsTo moves target entry chars) (move : Move) :
    SpellsTo (moves.push move) target entry chars := by
  induction chars generalizing entry with
  | nil => exact spells
  | cons c chars ih =>
      obtain ⟨next, take_eq, rest⟩ := spells
      exact ⟨next, getElem?_push_of_some take_eq move, ih rest⟩

/-- The moves of the group that takes the rest of a line, up to acceptance. -/
structure HasTail (moves : Array Move) : Prop where
  opens : moves[4]? = some (.note 2 2)
  loops : moves[2]? = some (.fork 3 1)
  takes : moves[3]? = some (.take dot 2)
  closes : moves[1]? = some (.note 3 0)
  accepts : moves[0]? = some .accept

theorem HasTail.push {moves : Array Move} (has : HasTail moves) (move : Move) :
    HasTail (moves.push move) where
  opens := getElem?_push_of_some has.opens move
  loops := getElem?_push_of_some has.loops move
  takes := getElem?_push_of_some has.takes move
  closes := getElem?_push_of_some has.closes move
  accepts := getElem?_push_of_some has.accepts move

theorem layOut_spelledBefore (chars : List Char) :
    let layout := (spelledBefore .tail chars).layOut 1 ⟨#[.accept], 0⟩
    HasTail layout.moves ∧ SpellsTo layout.moves 4 layout.entry chars ∧
      layout.moves.size = chars.length + 5 := by
  induction chars with
  | nil => exact ⟨⟨rfl, rfl, rfl, rfl, rfl⟩, rfl, rfl⟩
  | cons c chars ih =>
      obtain ⟨has, spells, size_eq⟩ := ih
      refine ⟨has.push _, ⟨_, Array.getElem?_push_size, spells.push _⟩, ?_⟩
      rw [List.length_cons, Nat.add_right_comm, ← size_eq]
      exact Array.size_push _

theorem groups_spelledBefore (chars : List Char) : (spelledBefore .tail chars).groups = 1 := by
  induction chars with
  | nil => rfl
  | cons c chars ih => simp [spelledBefore, groups, ih]

/-! ## The size -/

/-- The group at the end takes so many bytes with the states around the pattern. -/
theorem fits_spelledBefore {limit : Nat} {chars : List Char} :
    (spelledBefore .tail chars).fits limit = true ↔
      stateBytes * Text.byteLength chars + 1184 ≤ limit := by
  have bytes_eq (backward : Bool) : (spelledBefore .tail chars).bytes backward false =
      stateBytes * Text.byteLength chars + Classical.tail.bytes backward false := by
    have one (c : Char) : setBytes backward (.one c) = stateBytes * c.utf8Size := by
      simp [setBytes, CharSet.one, length_encodedBytes]
    induction chars with
    | nil => simp [spelledBefore]
    | cons c chars ih => simp [spelledBefore, bytes, one, ih, Nat.mul_add, Nat.add_assoc]
  have forward : Classical.tail.bytes false false = 528 := by decide +kernel
  have backward : Classical.tail.bytes true false = 1040 := by decide +kernel
  simp [fits, bytes_eq, forward, backward, frameBytes, stateBytes, forkBytes, rangeBytes]
  omega

theorem nesting_spelledBefore_items (chars : List Char) :
    (spelledBefore .tail chars).nesting .items = 2 := by
  induction chars with
  | nil => rfl
  | cons c chars ih => simp [spelledBefore, nesting, ih]

theorem nesting_spelledBefore (chars : List Char) :
    (spelledBefore .tail chars).nesting .whole ≤ 3 := by
  cases chars with
  | nil => decide
  | cons c chars => simp [spelledBefore, nesting, nesting_spelledBefore_items]

end Classical

/-! ## The run -/

/-- What a text has before its first line feed. -/
def lineOf (text : List Char) : List Char := text.takeWhile (· != '\n')

/-- A text is its first line and what begins with a line feed, if there is more. -/
theorem exists_lineOf (text : List Char) :
    ∃ rest, text = lineOf text ++ rest ∧ (∀ c ∈ lineOf text, c ≠ '\n') ∧
      ∀ c, rest.head? = some c → c = '\n' := by
  refine ⟨text.dropWhile (· != '\n'), List.takeWhile_append_dropWhile.symm, ?_, ?_⟩
  · intro c c_mem
    simpa using List.all_eq_true.mp (List.all_takeWhile (l := text)) c c_mem
  · intro c head_eq
    have refused := List.head?_dropWhile_not (· != '\n') text
    rw [head_eq] at refused
    simpa using refused

theorem length_lineOf_le (text : List Char) : (lineOf text).length ≤ text.length :=
  (List.takeWhile_prefix _).length_le

theorem getElem?_eq_head?_drop (text : Array Char) (position : Nat) :
    text[position]? = (text.toList.drop position).head? := by
  rw [List.head?_drop, Array.getElem?_toList]

namespace Automaton

variable {automaton : Automaton} {text : Array Char} {met : Met}

/-- A run goes along the text as long as the automaton spells it. -/
theorem explore_spellsTo {move target : Nat} {chars : List Char}
    (spells : Classical.SpellsTo automaton.moves target move chars) (fuel position : Nat)
    (slots : Slots) :
    explore automaton text (chars.length + fuel) met [⟨move, position, slots⟩] =
      if standsAt text chars position then
        explore automaton text fuel met [⟨target, position + chars.length, slots⟩]
      else (none, met) := by
  induction chars generalizing move position with
  | nil =>
      have same : move = target := spells
      simp [standsAt, same]
  | cons c chars ih =>
      obtain ⟨next, take_eq, rest⟩ := spells
      rw [List.length_cons, Nat.add_right_comm, explore, take_eq]
      cases here : text[position]? with
      | none => simp [here, standsAt]
      | some d =>
          by_cases same : d = c
          · subst same
            simp [here, has_one, standsAt, ih rest, Nat.add_right_comm, Nat.add_assoc]
          · have refused : (CharSet.one c).has d = false := by simpa using mt has_one.mp same
            simp [here, refused, standsAt, same]

/-- The loop over a line was not met from a position on. -/
def Unmet (automaton : Automaton) (met : Met) (position : Nat) : Prop :=
  ∀ later ≥ position, met.contains (later * automaton.moves.size + 2) = false

theorem Unmet.insert {position : Nat} (unmet : automaton.Unmet met position)
    (some_move : 0 < automaton.moves.size) :
    automaton.Unmet (met.insert (position * automaton.moves.size + 2)) (position + 1) := by
  intro later le
  have apart : position * automaton.moves.size < later * automaton.moves.size :=
    Nat.mul_lt_mul_of_pos_right le some_move
  have elsewhere := unmet later (Nat.le_of_succ_le le)
  rw [Std.TreeSet.contains_insert, elsewhere, Bool.or_false, beq_eq_false_iff_ne,
    Ne, Nat.compare_eq_eq]
  omega

/-- From its loop on, a run takes the line to its end. -/
theorem explore_line (has : Classical.HasTail automaton.moves) {line rest : List Char}
    (fuel : Nat) {position : Nat} (slots : Slots) (ways : List Way)
    (text_eq : text.toList.drop position = line ++ rest) (inside : ∀ c ∈ line, c ≠ '\n')
    (ends : ∀ c, rest.head? = some c → c = '\n') (unmet : automaton.Unmet met position) :
    (explore automaton text (2 * line.length + 5 + fuel) met (⟨2, position, slots⟩ :: ways)).1 =
      some ⟨0, position + line.length,
        slots.setIfInBounds 3 (some (position + line.length))⟩ := by
  induction line generalizing position met ways with
  | nil =>
      have refused : ∀ c, text[position]? = some c → dot.has c = false := by
        intro c here
        rw [getElem?_eq_head?_drop, text_eq] at here
        exact Bool.eq_false_iff.mpr fun taken => has_dot.mp taken (ends c here)
      have steps_eq : 2 * ([] : List Char).length + 5 + fuel = fuel + 1 + 1 + 1 + 1 + 1 := by
        rw [List.length_nil]
        omega
      rw [steps_eq, explore, has.loops]
      simp only [unmet position (Nat.le_refl _)]
      cases here : text[position]? with
      | none => simp [explore, here, has.takes, has.closes, has.accepts]
      | some c => simp [explore, here, refused c here, has.takes, has.closes, has.accepts]
  | cons c line ih =>
      have here : text[position]? = some c := by
        rw [getElem?_eq_head?_drop, text_eq]
        rfl
      have taken : dot.has c = true := has_dot.mpr (inside c List.mem_cons_self)
      have some_move : 0 < automaton.moves.size := (Array.getElem?_eq_some_iff.mp has.accepts).1
      have next_eq : text.toList.drop (position + 1) = line ++ rest := by
        rw [← List.drop_drop, text_eq]
        rfl
      have onward := ih (⟨1, position, slots⟩ :: ways) next_eq
        (fun d d_mem => inside d (List.mem_cons_of_mem _ d_mem)) (unmet.insert some_move)
      have steps_eq : 2 * (c :: line).length + 5 + fuel = 2 * line.length + 5 + fuel + 1 + 1 := by
        rw [List.length_cons]
        omega
      rw [steps_eq, explore, has.loops]
      simp only [unmet position (Nat.le_refl _)]
      simp only [Bool.false_eq_true, if_false, explore, has.takes, here, taken, if_true]
      rw [onward, List.length_cons, Nat.add_right_comm, Nat.add_assoc]

/-- The slots of a run that took a needle and the rest of a line, from one position to another. -/
def tailSlots (start stop : Nat) : Slots := #[none, none, some start, some stop]

variable (has : Classical.HasTail automaton.moves) {chars : List Char}
  (spells : Classical.SpellsTo automaton.moves 4 automaton.start chars)
  (groups_eq : automaton.groups = 1) (long : chars.length + 5 ≤ automaton.moves.size)
include has spells groups_eq long

omit has spells groups_eq in
theorem exists_patience_eq (text : Array Char) :
    ∃ fuel, automaton.patience text = chars.length + (2 * text.size + 5 + fuel + 1) := by
  have pairs : 2 ≤ 2 * (automaton.moves.size + 1) * (automaton.moves.size + 1) := by
    rw [Nat.mul_assoc]
    exact Nat.le_mul_of_pos_right 2 (Nat.mul_pos (Nat.succ_pos _) (Nat.succ_pos _))
  have steps := Nat.mul_le_mul_right (text.size + 2) pairs
  refine ⟨automaton.patience text - (chars.length + (2 * text.size + 5 + 1)), ?_⟩
  rw [patience]
  omega

/-- A run from a place takes the needle, if it stands there, and the rest of the line. -/
theorem runFrom_tailed (text : Array Char) (place : Nat) :
    let start := place + chars.length
    let stop := start + (lineOf (text.toList.drop start)).length
    if standsAt text chars place then
      (automaton.runFrom text ∅ place).1 = some ⟨0, stop, tailSlots start stop⟩
    else automaton.runFrom text ∅ place = (none, ∅) := by
  intro start stop
  obtain ⟨fuel, patience_eq⟩ := exists_patience_eq long text
  rw [runFrom, patience_eq, explore_spellsTo spells, groups_eq]
  by_cases stands : standsAt text chars place = true
  · obtain ⟨rest, text_eq, inside, ends⟩ := exists_lineOf (text.toList.drop start)
    have unmet : automaton.Unmet ∅ start := fun _ _ => Std.TreeSet.contains_emptyc
    have short : (lineOf (text.toList.drop start)).length ≤ text.size :=
      Nat.le_trans (length_lineOf_le _) (by simp)
    obtain ⟨more, more_eq⟩ : ∃ more, 2 * text.size + 5 + fuel =
        2 * (lineOf (text.toList.drop start)).length + 5 + more :=
      ⟨2 * text.size + fuel - 2 * (lineOf (text.toList.drop start)).length, by omega⟩
    have line := explore_line has more
      ((Array.replicate (2 * (1 + 1)) none).setIfInBounds 2 (some start)) [] text_eq inside ends
      unmet
    simp only [stands, if_true]
    rw [explore, has.opens, more_eq]
    exact line
  · simp only [stands]
    rfl

/-- The automaton is found at the first place where the needle stands. -/
theorem leftmost?_tailed (count place : Nat) :
    automaton.leftmost? text count ∅ place =
      ((List.range' place count).find? fun place => standsAt text chars place).map fun place =>
        let start := place + chars.length
        let stop := start + (lineOf (text.toList.drop start)).length
        (place, ⟨0, stop, tailSlots start stop⟩) := by
  induction count generalizing place with
  | zero => rfl
  | succ count ih =>
      have run := runFrom_tailed has spells groups_eq long text place
      rw [leftmost?, List.range'_succ, List.find?_cons]
      by_cases stands : standsAt text chars place = true
      · simp only [stands, if_true] at run
        cases found : automaton.runFrom text ∅ place with
        | mk way? met =>
            rw [found] at run
            cases way? with
            | none => contradiction
            | some way =>
                cases run
                simp [stands]
      · simp only [stands] at run
        rw [if_neg Bool.false_ne_true] at run
        simp only [run, stands]
        exact ih (place + 1)

end Automaton

theorem find?_tailed (chars : List Char) (text : Array Char) :
    (Classical.spelledBefore .tail chars).automaton.find? text =
      ((List.range (text.size + 1)).find? fun place => standsAt text chars place).map fun place =>
        let start := place + chars.length
        let stop := start + (lineOf (text.toList.drop start)).length
        (place, ⟨0, stop, Automaton.tailSlots start stop⟩) := by
  obtain ⟨has, spells, size_eq⟩ := Classical.layOut_spelledBefore chars
  rw [Automaton.find?, List.range_eq_range']
  exact Automaton.leftmost?_tailed has spells (Classical.groups_spelledBefore chars)
    (Nat.le_of_eq size_eq.symm) _ 0

/-! ## Preparation -/

/-- The leftmost match of a pattern in a text. A pattern with a fault has none. -/
def firstMatch? (pattern text : String) : Option Match :=
  match prepare pattern with
  | .ok prepared => prepared.find? text.toList.toArray
  | .error _ => none

theorem matchesIn_eq_isSome (pattern text : String) :
    matchesIn pattern text = (firstMatch? pattern text).isSome := by
  rw [matchesIn, firstMatch?]
  cases prepare pattern <;> rfl

/-- The pattern that writes signs and the group behind them. -/
def tailedText (signs : List Sign) : String :=
  String.ofList (signs.flatMap Sign.written ++ writtenTail)

/-- The match that begins at a place with so many characters and takes the rest of their line. -/
def tailMatch (text : List Char) (place length : Nat) : Match :=
  let start := place + length
  let stop := start + (lineOf (text.drop start)).length
  ⟨place, stop, [some (place, stop), some (start, stop)]⟩

theorem danglingFrom_tailed (signs : List Sign) (opened : Nat) :
    (Term.inSequence (signs.map Sign.term ++ [.tail])).danglingFrom opened =
      (false, opened + 1) := by
  induction signs with
  | nil => rfl
  | cons sign signs ih =>
      have settled : sign.term.danglingFrom opened = (false, opened) :=
        danglingFrom_signs [sign] opened
      rw [List.map_cons, List.cons_append, Term.inSequence_cons (by simp), Term.danglingFrom]
      simp only [settled, ih, Bool.or_self]

theorem beyondClassical_tailed (signs : List Sign) :
    (Term.inSequence (signs.map Sign.term ++ [.tail])).beyondClassical [] =
      signs.any Sign.isBarred := by
  induction signs with
  | nil => rfl
  | cons sign signs ih =>
      rw [List.map_cons, List.cons_append, Term.inSequence_cons (by simp), Term.beyondClassical,
        ih, sign.beyondClassical_term, List.any_cons]

theorem prepareWithin_tailedText (limits : Limits) (signs : List Sign) :
    prepareWithin limits (tailedText signs) =
      if signs.any Sign.isBarred then do
        let (plan, slots) ← ((Term.inSequence (signs.map Sign.term ++ [.tail])).plan limits []
          (.alone false)).run 4
        return .planned plan slots 1
      else do
        return .classical (← Planner.classical limits
          (Term.inSequence (signs.map Sign.term ++ [.tail]))).automaton := by
  have settled :
      (Term.inSequence (signs.map Sign.term ++ [.tail])).hasDanglingReference = false := by
    rw [Term.hasDanglingReference, danglingFrom_tailed]
  rw [prepareWithin, tailedText, String.toList_ofList, readPattern_tailed]
  change Written.prepare limits ⟨Term.inSequence (signs.map Sign.term ++ [.tail]), 1, []⟩ = _
  rw [Written.prepare, settled, if_neg Bool.false_ne_true, beyondClassical_tailed]
  rfl

/-! ## A needle and the rest of its line -/

/-- The most bytes of a needle whose automaton, with the group behind it, fits into the usual
limits. -/
def Limits.usualTailedBytes : Nat := 327643

/-- A needle and the rest of its line are found at the first place where the needle stands, if it is
not too long. -/
theorem firstMatch?_tailed (needle : List Char) (text : String) :
    firstMatch? (tailedText (needle.map .plain)) text =
      if Text.byteLength needle ≤ Limits.usualTailedBytes then
        ((List.range (text.toList.length + 1)).find? fun place =>
          standsAt text.toList.toArray needle place).map fun place =>
            tailMatch text.toList place needle.length
      else none := by
  have fits_iff : ({} : Limits).size.all (Classical.spelledBefore .tail needle).fits = true ↔
      Text.byteLength needle ≤ Limits.usualTailedBytes := by
    refine Classical.fits_spelledBefore.trans ?_
    simp only [stateBytes, Limits.usualTailedBytes, Nat.pow_eq]
    omega
  have classical_eq := Planner.classical_of_shallow
    (Term.classical?_tailed ({} : Limits).vast needle)
    (Nat.le_trans (Classical.nesting_spelledBefore needle) (by decide))
  rw [firstMatch?, prepare, prepareWithin_tailedText, Sign.any_isBarred_plain,
    if_neg Bool.false_ne_true, Sign.map_term_plain, classical_eq]
  by_cases fits : Text.byteLength needle ≤ Limits.usualTailedBytes
  · rw [if_pos fits, if_pos (fits_iff.mpr fits)]
    change Prepared.findWithin? {} _ (.classical _) = _
    have groups_eq : (Classical.spelledBefore .tail needle).automaton.groups = 1 :=
      Classical.groups_spelledBefore needle
    rw [Prepared.findWithin?, find?_tailed, groups_eq, Option.map_map]
    congr 1
    funext place
    have start_le : place ≤ place + needle.length +
        (lineOf (text.toList.drop (place + needle.length))).length := by omega
    simp only [Function.comp, matchOf, Nat.min_eq_left start_le]
    rfl
  · rw [if_neg fits, if_neg (mt fits_iff.mp fits)]
    rfl

end Redirects.Regex
