import Redirects.Proofs.Text.Occurrence
import Redirects.Regex.Search

/-!
# Automata that spell a text

A pattern of plain characters becomes an automaton without forks, which spells the characters one
after another.  Such an automaton is found exactly where the text occurs, and its size grows with
the bytes of the text.
-/

namespace Redirects.Regex

open Unicode (CharSet)

theorem has_one {c d : Char} : (CharSet.one c).has d = true ↔ d = c := by
  rw [← Char.toNat_inj]
  simp only [CharSet.has, CharSet.holds, CharSet.one, CharSet.inSpans]
  split
  · simp
    omega
  · split <;> simp <;> omega

namespace Classical

/-- The pattern of one character after another. -/
def spelling : List Char → Classical
  | [] => .empty
  | [c] => .set (.one c)
  | c :: chars => .seq (.set (.one c)) (spelling chars)

end Classical

/-- The pattern of plain characters spells them. -/
theorem Term.classical?_inSequence (vast : Bool) (chars : List Char) :
    (inSequence (chars.map (Term.char false))).classical? vast =
      some (Classical.spelling chars) := by
  fun_induction Classical.spelling chars with
  | case1 => rfl
  | case2 c => rfl
  | case3 c chars more ih =>
      obtain ⟨d, rest, rfl⟩ := List.exists_cons_of_ne_nil more
      change
        (Term.seq (.char false c) (inSequence ((d :: rest).map (.char false)))).classical? vast = _
      rw [classical?, ih]
      rfl

namespace Classical

/-! ## The moves -/

/-- From a move on, the automaton takes the characters of a text and accepts. -/
def Spells (moves : Array Move) : Nat → List Char → Prop
  | entry, [] => moves[entry]? = some .accept
  | entry, c :: chars =>
    ∃ next, moves[entry]? = some (.take (.one c) next) ∧ Spells moves next chars

theorem Spells.push {moves : Array Move} {entry : Nat} {chars : List Char}
    (spells : Spells moves entry chars) (move : Move) : Spells (moves.push move) entry chars := by
  have kept {index : Nat} {old : Move} (old_eq : moves[index]? = some old) :
      (moves.push move)[index]? = some old := by
    obtain ⟨inside, found⟩ := Array.getElem?_eq_some_iff.mp old_eq
    rw [Array.getElem?_push_lt inside, found]
  induction chars generalizing entry with
  | nil => exact kept spells
  | cons c chars ih =>
      obtain ⟨next, take_eq, rest⟩ := spells
      exact ⟨next, kept take_eq, ih rest⟩

/-- A character that is laid out in front is spelled first. -/
theorem Spells.before {layout : Layout} {chars : List Char}
    (spells : Spells layout.moves layout.entry chars) (c : Char) :
    Spells (layout.before (.take (.one c))).moves (layout.before (.take (.one c))).entry
      (c :: chars) := by
  refine ⟨layout.entry, ?_, spells.push _⟩
  simp [Layout.before]

theorem spells_layOut (chars : List Char) (number : Nat) {moves : Array Move} {entry : Nat}
    {rest : List Char} (spells : Spells moves entry rest) :
    Spells ((spelling chars).layOut number ⟨moves, entry⟩).moves
      ((spelling chars).layOut number ⟨moves, entry⟩).entry (chars ++ rest) := by
  fun_induction spelling chars generalizing number with
  | case1 => exact spells
  | case2 c => exact Spells.before spells c
  | case3 c chars _ ih => exact (ih _).before c

theorem spells_automaton (chars : List Char) :
    Spells (spelling chars).automaton.moves (spelling chars).automaton.start chars := by
  have accepting : Spells #[.accept] 0 [] := rfl
  have laid := spells_layOut chars 1 accepting
  rwa [List.append_nil] at laid

theorem size_layOut (chars : List Char) (number : Nat) (layout : Layout) :
    ((spelling chars).layOut number layout).moves.size = chars.length + layout.moves.size := by
  fun_induction spelling chars generalizing number with
  | case1 => simp [layOut]
  | case2 c => simp [layOut, Layout.before, Nat.add_comm]
  | case3 c chars _ ih => simp [layOut, Layout.before, ih, Nat.add_right_comm]

end Classical

/-! ## The run -/

namespace Automaton

variable {automaton : Automaton} {text : Array Char} {met : Met}

@[simp]
theorem explore_nil (fuel : Nat) : explore automaton text fuel met [] = (none, met) := by
  cases fuel <;> rfl

/-- A run goes along the text as long as the automaton spells it. -/
theorem explore_spells {move fuel : Nat} {chars : List Char}
    (spells : Classical.Spells automaton.moves move chars) (patient : chars.length < fuel)
    (text : Array Char) (met : Met) (position : Nat) (slots : Slots) :
    ∃ last, explore automaton text fuel met [⟨move, position, slots⟩] =
      (if standsAt text chars position then some ⟨last, position + chars.length, slots⟩ else none,
        met) := by
  obtain ⟨fuel, rfl⟩ : ∃ rest, fuel = rest + 1 := ⟨fuel - 1, by omega⟩
  induction chars generalizing move position fuel with
  | nil =>
      have accepts : automaton.moves[move]? = some .accept := spells
      exact ⟨move, by simp [explore, accepts, standsAt]⟩
  | cons c chars ih =>
      obtain ⟨next, take_eq, rest⟩ := spells
      rw [List.length_cons] at patient
      obtain ⟨fuel, rfl⟩ : ∃ rest, fuel = rest + 1 := ⟨fuel - 1, by omega⟩
      obtain ⟨last, rest_eq⟩ := ih rest (position + 1) fuel (by omega)
      refine ⟨last, ?_⟩
      rw [explore, take_eq]
      cases here : text[position]? with
      | none => simp [here, standsAt]
      | some d =>
          by_cases same : d = c
          · subst same
            simp [here, has_one, standsAt, rest_eq, Nat.add_right_comm, Nat.add_assoc]
          · have refused : (CharSet.one c).has d = false := by simpa using mt has_one.mp same
            simp [here, refused, standsAt, same]

theorem leftmost?_isSome_of_spells {chars : List Char}
    (spells : Classical.Spells automaton.moves automaton.start chars)
    (patient : chars.length < automaton.patience text) {count place : Nat} :
    (automaton.leftmost? text count met place).isSome = true ↔
      ∃ offset < count, standsAt text chars (place + offset) = true := by
  induction count generalizing place with
  | zero => simp [leftmost?]
  | succ count ih =>
      obtain ⟨last, run_eq⟩ := explore_spells spells patient text met place
        (Array.replicate (2 * (automaton.groups + 1)) none)
      rw [leftmost?, runFrom, run_eq]
      by_cases here : standsAt text chars place = true
      · simp only [here, if_pos, Option.isSome_some, true_iff]
        exact ⟨0, Nat.succ_pos _, here⟩
      · rw [if_neg here]
        refine ih.trans ⟨?_, ?_⟩
        · rintro ⟨offset, lt, stands⟩
          exact ⟨offset + 1, by omega, by rwa [Nat.add_comm offset, ← Nat.add_assoc]⟩
        · rintro ⟨offset, lt, stands⟩
          cases offset with
          | zero => exact absurd stands here
          | succ offset =>
              exact ⟨offset, by omega, by rwa [Nat.add_right_comm]⟩

/-- An automaton that spells a text is found exactly where the text occurs. -/
theorem find?_isSome_of_spells {chars : List Char}
    (spells : Classical.Spells automaton.moves automaton.start chars)
    (patient : chars.length < automaton.patience text) :
    (automaton.find? text).isSome = true ↔ chars <:+: text.toList := by
  rw [find?, leftmost?_isSome_of_spells spells patient, Text.infix_iff_exists_drop]
  simp only [standsAt_iff, Nat.zero_add, Nat.lt_succ_iff, Array.length_toList]

end Automaton

theorem length_lt_patience (chars : List Char) (text : Array Char) :
    chars.length < (Classical.spelling chars).automaton.patience text := by
  have moves_size : (Classical.spelling chars).automaton.moves.size = chars.length + 1 :=
    Classical.size_layOut chars 1 _
  rw [Automaton.patience, moves_size]
  omega

/-! ## The size -/

theorem length_encodedBytes (c : Char) : (Text.encodedBytes c.toNat).length = c.utf8Size := by
  have size_eq : c.utf8Size = if c.toNat ≤ 0x7F then 1 else if c.toNat ≤ 0x7FF then 2
      else if c.toNat ≤ 0xFFFF then 3 else 4 := by
    simp [Char.utf8Size, UInt32.le_iff_toNat_le]
  rw [size_eq, Text.encodedBytes]
  simp only [apply_ite List.length, ← Nat.lt_succ_iff]
  rfl

namespace Classical

/-- A pattern of plain characters takes one state for each byte. -/
theorem bytes_spelling (backward : Bool) (chars : List Char) :
    (spelling chars).bytes backward false = stateBytes * max 1 (Text.byteLength chars) := by
  have one (c : Char) : setBytes backward (.one c) = stateBytes * c.utf8Size := by
    simp [setBytes, CharSet.one, length_encodedBytes]
  fun_induction spelling chars with
  | case1 => rfl
  | case2 c =>
      have some_byte : max 1 c.utf8Size = c.utf8Size := Nat.max_eq_right c.utf8Size_pos
      simp [bytes, one, some_byte]
  | case3 c chars more ih =>
      have more_bytes : max 1 (Text.byteLength chars) = Text.byteLength chars :=
        Nat.max_eq_right (Nat.pos_of_ne_zero (mt Text.byteLength_eq_zero_iff.mp more))
      have all_bytes : max 1 (c.utf8Size + Text.byteLength chars) =
          c.utf8Size + Text.byteLength chars :=
        Nat.max_eq_right (Nat.le_add_right_of_le c.utf8Size_pos)
      simp [bytes, one, ih, more_bytes, all_bytes, Nat.mul_add]

/-- A pattern of plain characters fits if its states and those around it take no more bytes than
allowed. -/
theorem fits_spelling {limit : Nat} {chars : List Char} :
    (spelling chars).fits limit = true ↔
      stateBytes * max 1 (Text.byteLength chars) + 208 ≤ limit := by
  simp [fits, bytes_spelling, frameBytes, stateBytes, forkBytes, rangeBytes]
  omega

theorem nesting_spelling_items (chars : List Char) : (spelling chars).nesting .items = 0 := by
  fun_induction spelling chars with
  | case1 => rfl
  | case2 => rfl
  | case3 c chars _ ih => simp [nesting, ih]

theorem nesting_spelling (chars : List Char) : (spelling chars).nesting .whole ≤ 1 := by
  fun_cases spelling chars with
  | case1 => simp [nesting]
  | case2 => simp [nesting]
  | case3 c chars _ => simp [nesting, nesting_spelling_items]

end Classical

end Redirects.Regex
