import Redirects.Proofs.Regex.Inside.Blanks

/-!
# Quantifiers inside a longer pattern

A quantifier is counted alike in a longer pattern: the text behind closes no brace, so a brace that
is open at the end of the pattern stays open.
-/

namespace Redirects.Regex.Reader

variable {shift : Nat} {tail : List Char}

section Tail

variable (harmless : Harmless tail)
include harmless

/-- A number, if there is one at the front, and what follows. -/
def number? (text : List Char) (position : Nat) : Option Nat × List Char × Nat :=
  match decimal? text with
  | some (value, rest) => (some value, rest, position + (text.length - rest.length))
  | none => (none, text, position)

/-- The end of a count behind its upper bound. -/
def countEnd? (least : Nat) (most : Option Nat) (text : List Char) (position : Nat) :
    Option Count :=
  match text with
  | '\x7d' :: rest => some ⟨least, bound? most, position, rest⟩
  | _ => none

/-- The rest of a count behind its comma. -/
def countHigh? (spaced : Bool) (least : Nat) (text : List Char) (position : Nat) :
    Option Count := do
  let (text, position) ← braceBlanks? spaced text position
  let (most, text, position) := number? text position
  let (text, position) ← braceBlanks? spaced text position
  countEnd? least most text position

/-- The rest of a count behind its lower bound. -/
def countLow? (spaced : Bool) (low : Option Nat) (text : List Char) (position : Nat) :
    Option Count := do
  if low.isNone && text.head? != some ',' then none
  let (text, position) ← braceBlanks? spaced text position
  match text with
  | '\x7d' :: rest => some ⟨low.getD 0, bound? (low.getD 0), position, rest⟩
  | ',' :: rest => countHigh? spaced (low.getD 0) rest (position + 1)
  | _ => none

omit harmless in
theorem braceCount?_eq (spaced : Bool) (text : List Char) (position : Nat) :
    braceCount? spaced text position = (do
      let (text, position) ← braceBlanks? spaced text position
      let (low, text, position) := number? text position
      countLow? spaced low text position) := by
  rfl

/-- The count of a quantifier in a longer pattern. -/
def Count.within (shift : Nat) (tail : List Char) (count : Count) : Count :=
  { count with lastPosition := count.lastPosition + shift, rest := count.rest ++ tail }

omit harmless in
theorem byteLength_digits {digits : List Char} (all_digits : ∀ c ∈ digits, c.isDigit = true) :
    Text.byteLength digits = digits.length := by
  induction digits with
  | nil => rfl
  | cons c digits ih =>
      have one_byte : c.utf8Size = 1 := by
        have digit := all_digits c List.mem_cons_self
        simp only [Char.isDigit, ge_iff_le, Bool.and_eq_true, decide_eq_true_eq] at digit
        rw [Char.utf8Size, if_pos (UInt32.le_trans digit.2 (by decide))]
      have others := ih fun d d_mem => all_digits d (List.mem_cons_of_mem _ d_mem)
      rw [Text.byteLength_cons, one_byte, others, List.length_cons, Nat.add_comm]

omit harmless in
theorem decimal?_onward {text rest : List Char} {value : Nat}
    (number_eq : decimal? text = some (value, rest)) (position : Nat) :
    Passed text position rest (position + (text.length - rest.length)) := by
  rw [decimal?] at number_eq
  split at number_eq
  · contradiction
  · cases number_eq
    have digits_prefix : text.takeWhile Char.isDigit <+: text := List.takeWhile_prefix _
    have digits_le := digits_prefix.length_le
    refine ⟨text.takeWhile Char.isDigit, (List.prefix_iff_eq_append.mp digits_prefix).symm, ?_⟩
    rw [byteLength_digits fun c c_mem => List.all_eq_true.mp List.all_takeWhile c c_mem,
      List.length_drop]
    omega

theorem decimal?_append (text : List Char) :
    decimal? (text ++ tail) = (decimal? text).map fun (value, rest) => (value, rest ++ tail) := by
  have digits_eq := harmless.takeWhile_append (p := Char.isDigit) (by decide) text
  have digits_le : (text.takeWhile Char.isDigit).length ≤ text.length :=
    (List.takeWhile_prefix _).length_le
  simp only [decimal?, digits_eq, List.drop_append_of_le_length digits_le]
  split <;> rfl

omit harmless in
theorem number?_onward (text : List Char) (position : Nat) :
    Passed text position (number? text position).2.1 (number? text position).2.2 := by
  rw [number?]
  cases number_eq : decimal? text with
  | none => exact .refl _ _
  | some found => exact decimal?_onward number_eq position

theorem number?_append (text : List Char) (position : Nat) :
    number? (text ++ tail) (position + shift) =
      let (value, rest, stop) := number? text position
      (value, rest ++ tail, stop + shift) := by
  rw [number?, number?, decimal?_append harmless]
  cases number_eq : decimal? text with
  | none => rfl
  | some found =>
      simp only [Option.map_some, List.length_append, Nat.add_sub_add_right, Nat.add_right_comm]

omit harmless in
theorem braceBlanks?_onward {spaced : Bool} {text rest : List Char} {position stop : Nat}
    (passed : braceBlanks? spaced text position = some (rest, stop)) :
    Passed text position rest stop := by
  rw [braceBlanks?] at passed
  cases found : pastBlanks spaced (text.length + 1) text position with
  | error fault =>
      rw [found] at passed
      contradiction
  | ok place =>
      rw [found] at passed
      cases passed
      exact pastBlanks_onward found

/-- Inside braces, comments and blanks are passed alike, or neither way is there a closing brace
behind them. -/
theorem braceBlanks?_append (spaced : Bool) (text : List Char) (position shift : Nat) :
    (∃ rest stop, braceBlanks? spaced text position = some (rest, stop) ∧
      braceBlanks? spaced (text ++ tail) (position + shift) = some (rest ++ tail, stop + shift)) ∨
    (∀ rest stop, braceBlanks? spaced text position = some (rest, stop) → '\x7d' ∉ rest) ∧
      ∀ rest stop, braceBlanks? spaced (text ++ tail) (position + shift) = some (rest, stop) →
        '\x7d' ∉ rest := by
  have found_iff {text : List Char} {position : Nat} {rest : List Char} {stop : Nat} :
      braceBlanks? spaced text position = some (rest, stop) ↔
        pastBlanks spaced (text.length + 1) text position = .ok (rest, stop) := by
    rw [braceBlanks?]
    cases pastBlanks spaced (text.length + 1) text position <;> simp [Except.toOption]
  have further_lt : text.length + tail.length < (text ++ tail).length + 1 := by simp
  by_cases found : ∃ rest stop,
      pastBlanks spaced (text.length + 1) text position = .ok (rest, stop) ∧ rest ≠ []
  · left
    obtain ⟨rest, stop, passed, more⟩ := found
    exact ⟨rest, stop, found_iff.mpr passed, found_iff.mpr
      (pastBlanks_append harmless (Nat.lt_succ_self _) further_lt passed (.inl more) shift)⟩
  · right
    have missed : ∀ rest stop,
        pastBlanks spaced (text.length + 1) text position = .ok (rest, stop) → rest = [] :=
      fun rest stop passed => Classical.byContradiction fun more =>
        found ⟨rest, stop, passed, more⟩
    constructor
    · intro rest stop passed
      rw [missed rest stop (found_iff.mp passed)]
      exact List.not_mem_nil
    · intro rest stop passed mem
      have suffix := pastBlanks_into_tail harmless (Nat.lt_succ_self _) further_lt missed
        (found_iff.mp passed)
      exact harmless.brace_not_mem (suffix.mem mem)

/-! The stages of a count end in a closing brace, and they read alike. -/

omit harmless in
theorem countEnd?_onward {least : Nat} {most : Option Nat} {text : List Char} {position : Nat}
    {count : Count} (counted : countEnd? least most text position = some count) :
    Passed text position ('\x7d' :: count.rest) count.lastPosition := by
  unfold countEnd? at counted
  split at counted
  · cases counted
    exact .refl _ _
  · contradiction

omit harmless in
theorem countHigh?_onward {spaced : Bool} {least : Nat} {text : List Char} {position : Nat}
    {count : Count} (counted : countHigh? spaced least text position = some count) :
    Passed text position ('\x7d' :: count.rest) count.lastPosition := by
  rw [countHigh?] at counted
  obtain ⟨⟨text', position'⟩, first, counted⟩ := Option.bind_eq_some_iff.mp counted
  obtain ⟨⟨text'', position''⟩, second, counted⟩ := Option.bind_eq_some_iff.mp counted
  exact (braceBlanks?_onward first).trans ((number?_onward _ _).trans
    ((braceBlanks?_onward second).trans (countEnd?_onward counted)))

omit harmless in
theorem countLow?_onward {spaced : Bool} {low : Option Nat} {text : List Char} {position : Nat}
    {count : Count} (counted : countLow? spaced low text position = some count) :
    Passed text position ('\x7d' :: count.rest) count.lastPosition := by
  unfold countLow? at counted
  split at counted
  · contradiction
  · obtain ⟨⟨text', position'⟩, first, counted⟩ := Option.bind_eq_some_iff.mp counted
    refine (braceBlanks?_onward first).trans ?_
    dsimp only at counted
    split at counted
    · cases counted
      exact .refl _ _
    · exact .trans (.byte (by decide) _ _) (countHigh?_onward counted)
    · contradiction

theorem countEnd?_append (least : Nat) (most : Option Nat) (text : List Char) (position : Nat) :
    countEnd? least most (text ++ tail) (position + shift) =
      (countEnd? least most text position).map (Count.within shift tail) := by
  cases text with
  | nil =>
      cases tail with
      | nil => rfl
      | cons c tail =>
          obtain rfl := harmless.slash_of_head c rfl
          simp [countEnd?]
  | cons c text =>
      by_cases close : c = '\x7d'
      · subst close
        rfl
      · simp [countEnd?, close]

omit harmless in
/-- No count goes on in a text without a closing brace. -/
theorem eq_none_of_brace_not_mem {counted? : Option Count} {text : List Char} {position : Nat}
    (onward : ∀ count, counted? = some count →
      Passed text position ('\x7d' :: count.rest) count.lastPosition)
    (absent : '\x7d' ∉ text) : counted? = none := by
  cases counted? with
  | none => rfl
  | some count => exact absurd ((onward count rfl).suffix.mem List.mem_cons_self) absent

/-- A count behind a stage of blanks reads alike if what follows the blanks does. -/
theorem bind_braceBlanks?_append (spaced : Bool) (text : List Char) (position : Nat)
    {next : List Char × Nat → Option Count}
    (onward : ∀ text position count, next (text, position) = some count →
      Passed text position ('\x7d' :: count.rest) count.lastPosition)
    (alike : ∀ text position, next (text ++ tail, position + shift) =
      (next (text, position)).map (Count.within shift tail)) :
    (braceBlanks? spaced (text ++ tail) (position + shift)).bind next =
      ((braceBlanks? spaced text position).bind next).map (Count.within shift tail) := by
  rcases braceBlanks?_append harmless spaced text position shift with
    ⟨rest, stop, alone_eq, inside_eq⟩ | ⟨alone, inside⟩
  · rw [alone_eq, inside_eq]
    exact alike rest stop
  · have alone_eq : (braceBlanks? spaced text position).bind next = none := by
      rw [Option.bind_eq_none_iff]
      rintro ⟨rest, stop⟩ passed
      exact eq_none_of_brace_not_mem (onward rest stop) (alone rest stop passed)
    have inside_eq :
        (braceBlanks? spaced (text ++ tail) (position + shift)).bind next = none := by
      rw [Option.bind_eq_none_iff]
      rintro ⟨rest, stop⟩ passed
      exact eq_none_of_brace_not_mem (onward rest stop) (inside rest stop passed)
    rw [alone_eq, inside_eq]
    rfl

variable (shift) in
theorem countHigh?_append (spaced : Bool) (least : Nat) (text : List Char) (position : Nat) :
    countHigh? spaced least (text ++ tail) (position + shift) =
      (countHigh? spaced least text position).map (Count.within shift tail) := by
  apply bind_braceBlanks?_append harmless
  · intro text position count counted
    obtain ⟨⟨between, place⟩, passed, ended⟩ := Option.bind_eq_some_iff.mp counted
    exact (number?_onward _ _).trans ((braceBlanks?_onward passed).trans (countEnd?_onward ended))
  · intro text position
    simp only [number?_append harmless]
    apply bind_braceBlanks?_append harmless
    · exact fun _ _ _ => countEnd?_onward
    · exact fun text position => countEnd?_append harmless _ _ text position

theorem countLow?_append (spaced : Bool) (low : Option Nat) (text : List Char) (position : Nat) :
    countLow? spaced low (text ++ tail) (position + shift) =
      (countLow? spaced low text position).map (Count.within shift tail) := by
  unfold countLow?
  rw [bne, bne, harmless.head?_append_beq text (by decide)]
  split
  · rfl
  · apply bind_braceBlanks?_append harmless
    · intro text position count counted
      dsimp only at counted
      split at counted
      · cases counted
        exact .refl _ _
      · exact .trans (.byte (by decide) _ _) (countHigh?_onward counted)
      · contradiction
    · intro text position
      cases text with
      | nil =>
          cases tail with
          | nil => rfl
          | cons c tail =>
              obtain rfl := harmless.slash_of_head c rfl
              simp
      | cons c text =>
          by_cases close : c = '\x7d'
          · subst close
            rfl
          · by_cases comma : c = ','
            · subst comma
              have high := countHigh?_append shift harmless spaced (low.getD 0) text
                (position + 1)
              rw [Nat.add_right_comm] at high
              exact high
            · simp [close, comma]

variable (shift) in
theorem braceCount?_append (spaced : Bool) (text : List Char) (position : Nat) :
    braceCount? spaced (text ++ tail) (position + shift) =
      (braceCount? spaced text position).map (Count.within shift tail) := by
  rw [braceCount?_eq, braceCount?_eq]
  apply bind_braceBlanks?_append harmless
  · exact fun _ _ _ counted => (number?_onward _ _).trans (countLow?_onward counted)
  · intro text position
    simp only [number?_append harmless]
    exact countLow?_append harmless spaced _ _ _

omit harmless in
theorem braceCount?_onward {spaced : Bool} {text : List Char} {position : Nat} {count : Count}
    (counted : braceCount? spaced text position = some count) :
    Passed text position ('\x7d' :: count.rest) count.lastPosition := by
  rw [braceCount?_eq] at counted
  obtain ⟨⟨between, place⟩, passed, ended⟩ := Option.bind_eq_some_iff.mp counted
  exact (braceBlanks?_onward passed).trans ((number?_onward _ _).trans (countLow?_onward ended))

/-- A quantifier is counted alike. -/
theorem count?_within (cursor : Cursor) :
    count? (cursor.within shift tail) = (count? cursor).map (Count.within shift tail) := by
  have braces := braceCount?_append shift harmless cursor.flags.spaced
  obtain ⟨rest, position, flags, groups, names, numbered, referred⟩ := cursor
  match rest with
  | [] =>
      cases tail with
      | nil => rfl
      | cons c tail =>
          obtain rfl := harmless.slash_of_head c rfl
          rfl
  | c :: text =>
      by_cases brace : c = '\x7b'
      · subst brace
        have counted := braces text (position + 1)
        rw [Nat.add_right_comm] at counted
        exact counted
      · by_cases mark : c = '?'
        · subst mark
          rfl
        · by_cases star : c = '*'
          · subst star
            rfl
          · by_cases plus : c = '+'
            · subst plus
              rfl
            · simp [count?, Cursor.within, brace, mark, star, plus]

omit harmless in
theorem count?_onward {cursor : Cursor} {count : Count} (counted : count? cursor = some count) :
    Passed cursor.rest cursor.position count.rest (count.lastPosition + 1) := by
  unfold count? at counted
  split at counted
  · cases counted
    rw [‹cursor.rest = _›]
    exact .byte (by decide) _ _
  · cases counted
    rw [‹cursor.rest = _›]
    exact .byte (by decide) _ _
  · cases counted
    rw [‹cursor.rest = _›]
    exact .byte (by decide) _ _
  · rw [‹cursor.rest = _›]
    exact .trans (.byte (by decide) _ _)
      (.trans (braceCount?_onward counted) (.byte (by decide) _ _))
  · contradiction

end Tail

end Redirects.Regex.Reader
