import Mathlib.Data.List.TakeWhile
import Redirects.Proofs.Json.Scalars

/-!
# The passages of strings and numbers

What is read as a string ends with its closing mark, and what is read as a number ends where nothing
goes on with it.  So each is read from a passage of its own, and is read from it again wherever the
passage stands.
-/

namespace Redirects.Json

/-! ## Strings -/

theorem hexUnit?_eq_some_iff {text rest : List Char} {unit : Nat} :
    hexUnit? text = some (unit, rest) ↔
      ∃ digits, text = digits ++ rest ∧ digits.length = 4 ∧ Text.ofHex? digits = some unit := by
  constructor
  · intro read
    rw [hexUnit?.eq_def] at read
    split at read
    · next a b c d rest =>
        simp only [Option.map_eq_some_iff, Prod.mk.injEq] at read
        obtain ⟨_, hex, rfl, rfl⟩ := read
        exact ⟨[a, b, c, d], rfl, rfl, hex⟩
    · contradiction
  · rintro ⟨digits, rfl, four, hex⟩
    obtain ⟨a, b, c, d, rfl⟩ := List.length_eq_four.mp four
    simp [hexUnit?, hex]

/-- No hexadecimal number holds a quotation mark. -/
theorem quote_not_mem_of_ofHex? {digits : List Char} {unit : Nat}
    (hex : Text.ofHex? digits = some unit) : '"' ∉ digits := by
  intro listed
  obtain ⟨front, back, rfl⟩ := List.append_of_mem listed
  have no_digit : Text.hexDigit? '"' = none := by decide
  simp only [Text.ofHex?, List.foldlM_append, List.foldlM_cons, no_digit, Option.map_none] at hex
  simp at hex

/-- Four digits that stand before a closing mark stand before it whatever is behind the mark. -/
theorem hexUnit?_inside {body rest others : List Char} {unit : Nat}
    (read : hexUnit? (body ++ '"' :: rest) = some (unit, others)) :
    ∃ digits inner, body = digits ++ inner ∧ others = inner ++ '"' :: rest ∧
      ∀ behind, hexUnit? (digits ++ behind) = some (unit, behind) := by
  obtain ⟨digits, split, four, hex⟩ := hexUnit?_eq_some_iff.mp read
  refine ⟨digits, ?_⟩
  rcases List.append_eq_append_iff.mp split with ⟨inner, rfl, tail⟩ | ⟨inner, rfl, rfl⟩
  · cases inner with
    | nil =>
        refine ⟨[], by simp, by simpa using tail.symm, fun behind => ?_⟩
        exact hexUnit?_eq_some_iff.mpr ⟨_, rfl, four, hex⟩
    | cons c inner =>
        obtain ⟨rfl, -⟩ := List.cons.inj tail
        exact absurd (List.mem_append_right _ List.mem_cons_self) (quote_not_mem_of_ofHex? hex)
  · exact ⟨inner, rfl, rfl, fun behind => hexUnit?_eq_some_iff.mpr ⟨_, rfl, four, hex⟩⟩

/-- An escape of a unit that stands before a closing mark begins before it. -/
theorem eq_escape_of_append_quote {body rest more : List Char}
    (escape : body ++ '"' :: rest = '\\' :: 'u' :: more) :
    ∃ inner, body = '\\' :: 'u' :: inner ∧ more = inner ++ '"' :: rest := by
  match body with
  | [] => simp at escape
  | [_] => simp at escape
  | _ :: _ :: inner =>
      obtain ⟨rfl, rfl, rfl⟩ : _ = '\\' ∧ _ = 'u' ∧ _ = more := by simpa using escape
      exact ⟨inner, rfl, rfl⟩

theorem unitEscape?_inside {text body rest : List Char} {c : Option Char}
    (read : unitEscape? text = some (c, body ++ '"' :: rest)) :
    ∃ digits, text = digits ++ (body ++ '"' :: rest) ∧ ∀ behind,
      unitEscape? (digits ++ (body ++ '"' :: behind)) = some (c, body ++ '"' :: behind) := by
  rw [unitEscape?] at read
  split at read
  · contradiction
  next unit after first =>
  obtain ⟨digits, rfl, four, hex⟩ := hexUnit?_eq_some_iff.mp first
  have again (behind : List Char) : hexUnit? (digits ++ behind) = some (unit, behind) :=
    hexUnit?_eq_some_iff.mpr ⟨_, rfl, four, hex⟩
  by_cases high : isHighSurrogate unit = true
  · rw [if_pos high] at read
    by_cases escape : ∃ more, after = '\\' :: 'u' :: more
    · obtain ⟨more, rfl⟩ := escape
      obtain ⟨⟨second, others⟩, pair⟩ : ∃ found, hexUnit? more = some found := by
        cases pair : hexUnit? more with
        | none => simp [pair] at read
        | some found => exact ⟨found, rfl⟩
      simp only [pair] at read
      split at read
      · next low =>
          obtain ⟨rfl, rfl⟩ := Prod.mk.inj (Option.some.inj read)
          obtain ⟨inner, rfl, four', hex'⟩ := hexUnit?_eq_some_iff.mp pair
          refine ⟨digits ++ '\\' :: 'u' :: inner, by simp, fun behind => ?_⟩
          have pair_again : hexUnit? (inner ++ (body ++ '"' :: behind)) =
              some (second, body ++ '"' :: behind) := hexUnit?_eq_some_iff.mpr ⟨_, rfl, four', hex'⟩
          simp only [List.append_assoc, List.cons_append]
          simp [unitEscape?, again, high, low, pair_again]
      · next low =>
          obtain ⟨rfl, split⟩ := Prod.mk.inj (Option.some.inj read)
          obtain ⟨inner, rfl, rfl⟩ := eq_escape_of_append_quote split.symm
          -- the unit behind was looked at, and stands before the closing mark as well
          obtain ⟨digits', inner, rfl, -, pair_again⟩ := hexUnit?_inside pair
          refine ⟨digits, rfl, fun behind => ?_⟩
          simp [unitEscape?, again, high, low, pair_again]
    · have alone : some (none, after) = some (c, body ++ '"' :: rest) := by
        split at read
        · next more => exact absurd ⟨more, rfl⟩ escape
        · exact read
      obtain ⟨rfl, rfl⟩ := Prod.mk.inj (Option.some.inj alone)
      refine ⟨digits, rfl, fun behind => ?_⟩
      rw [unitEscape?, again]
      simp only [high, if_true]
      split
      · next more found =>
          obtain ⟨inner, rfl, -⟩ := eq_escape_of_append_quote found
          exact absurd ⟨_, rfl⟩ escape
      · rfl
  · rw [if_neg high] at read
    split at read
    · next low =>
        obtain ⟨rfl, rfl⟩ := Prod.mk.inj (Option.some.inj read)
        exact ⟨digits, rfl, fun behind => by simp [unitEscape?, again, high, low]⟩
    · next low =>
        obtain ⟨rfl, rfl⟩ := Prod.mk.inj (Option.some.inj read)
        exact ⟨digits, rfl, fun behind => by simp [unitEscape?, again, high, low]⟩

/-- What a string says stands before its closing mark, and is read whatever is behind the mark. -/
theorem readChars_inside {fuel : Nat} {text rest : List Char} {value : Option (List Char)}
    (read : readChars fuel text = some (value, rest)) :
    ∃ body, text = body ++ '"' :: rest ∧ ∀ behind fuel, body.length < fuel →
      readChars fuel (body ++ '"' :: behind) = some (value, behind) := by
  fun_induction readChars fuel text generalizing value with
  | case1 => contradiction
  | case2 => contradiction
  | case3 =>
      obtain ⟨rfl, rfl⟩ := Prod.mk.inj (Option.some.inj read)
      refine ⟨[], rfl, fun behind fuel enough => ?_⟩
      obtain ⟨fuel, rfl⟩ := Nat.exists_eq_add_one_of_ne_zero (Nat.ne_zero_of_lt enough)
      rfl
  | case4 => contradiction
  | case5 _ _ _ _ escape ih =>
      obtain ⟨⟨text, _⟩, inner, text_eq⟩ := Option.map_eq_some_iff.mp read
      obtain ⟨rfl, rfl⟩ := Prod.mk.inj text_eq
      obtain ⟨body, rfl, again⟩ := ih inner
      obtain ⟨digits, rfl, escape_again⟩ := unitEscape?_inside escape
      refine ⟨'\\' :: 'u' :: (digits ++ body), by simp, fun behind fuel enough => ?_⟩
      obtain ⟨fuel, rfl⟩ := Nat.exists_eq_add_one_of_ne_zero (Nat.ne_zero_of_lt enough)
      simp only [List.length_cons, List.length_append] at enough
      simp only [List.cons_append, List.append_assoc]
      simp [readChars, escape_again, again behind fuel (by omega)]
  | case6 => contradiction
  | case7 _ letter _ plain c escape ih =>
      obtain ⟨⟨text, _⟩, inner, text_eq⟩ := Option.map_eq_some_iff.mp read
      obtain ⟨rfl, rfl⟩ := Prod.mk.inj text_eq
      obtain ⟨body, rfl, again⟩ := ih inner
      refine ⟨'\\' :: letter :: body, rfl, fun behind fuel enough => ?_⟩
      obtain ⟨fuel, rfl⟩ := Nat.exists_eq_add_one_of_ne_zero (Nat.ne_zero_of_lt enough)
      simp only [List.length_cons] at enough
      simp only [List.cons_append]
      rw [readChars.eq_def]
      simp [escape, again behind fuel (by omega)]
  | case8 => contradiction
  | case9 _ c _ unquoted _ _ allowed ih =>
      obtain ⟨⟨text, _⟩, inner, text_eq⟩ := Option.map_eq_some_iff.mp read
      obtain ⟨rfl, rfl⟩ := Prod.mk.inj text_eq
      obtain ⟨body, rfl, again⟩ := ih inner
      refine ⟨c :: body, rfl, fun behind fuel enough => ?_⟩
      obtain ⟨fuel, rfl⟩ := Nat.exists_eq_add_one_of_ne_zero (Nat.ne_zero_of_lt enough)
      simp only [List.length_cons] at enough
      have straight : c ≠ '\\' := by
        rintro rfl
        exact allowed rfl
      simp only [List.cons_append]
      rw [readChars.eq_def]
      simp [straight, allowed, again behind fuel (by omega)]

theorem readString_inside {text rest : List Char} {value : Option String}
    (read : readString text = some (value, rest)) :
    ∃ body, text = body ++ '"' :: rest ∧
      ∀ behind, readString (body ++ '"' :: behind) = some (value, behind) := by
  obtain ⟨⟨chars, _⟩, inner, value_eq⟩ := Option.map_eq_some_iff.mp read
  obtain ⟨rfl, rfl⟩ := Prod.mk.inj value_eq
  obtain ⟨body, rfl, again⟩ := readChars_inside inner
  refine ⟨body, rfl, fun behind => ?_⟩
  have enough : body.length < (body ++ '"' :: behind).length + 1 := by
    rw [List.length_append]
    omega
  rw [readString, again behind _ enough]
  rfl

/-! ## Numbers -/

/-- What follows digits does not go on with them. -/
def Stops (rest : List Char) : Prop := ∀ c ∈ rest.head?, c.isDigit = false

theorem Ends.stops {rest : List Char} (ends : Ends rest) : Stops rest :=
  fun c first => (ends c first).1

theorem readDigits_front (text : List Char) :
    ∃ digits, text = digits ++ (readDigits text).2 ∧ Stops (readDigits text).2 ∧
      (∀ c ∈ digits, c.isDigit = true) ∧
      (readDigits text).1 = digits.map (fun c => c.toNat - '0'.toNat) ∧
      ∀ behind, Stops behind → readDigits (digits ++ behind) = ((readDigits text).1, behind) := by
  have whole : text.takeWhile Char.isDigit ++ text.dropWhile Char.isDigit = text :=
    List.takeWhile_append_dropWhile
  have dropped : text.drop (text.takeWhile Char.isDigit).length = text.dropWhile Char.isDigit :=
    calc
      text.drop (text.takeWhile Char.isDigit).length =
          (text.takeWhile Char.isDigit ++ text.dropWhile Char.isDigit).drop
            (text.takeWhile Char.isDigit).length := by rw [whole]
      _ = text.dropWhile Char.isDigit := List.drop_left
  refine ⟨text.takeWhile Char.isDigit, ?_, fun c first => ?_, fun c => List.mem_takeWhile_imp, rfl,
    ?_⟩
  · rw [readDigits, dropped, List.takeWhile_append_dropWhile]
  · have refused := List.head?_dropWhile_not Char.isDigit text
    rw [readDigits, dropped, Option.mem_def] at first
    rwa [first] at refused
  · intro behind stops
    have taken : (text.takeWhile Char.isDigit ++ behind).takeWhile Char.isDigit =
        text.takeWhile Char.isDigit := by
      rw [List.takeWhile_append_of_pos fun c => List.mem_takeWhile_imp]
      cases behind with
      | nil => simp
      | cons c behind => simp [stops c rfl]
    rw [readDigits, taken, List.drop_left, readDigits]

/-- The digits behind a point at the front, if there is one, and what follows. -/
def readFraction : List Char → Option (List Nat × List Char)
  | '.' :: rest =>
    let (fraction, rest) := readDigits rest
    if fraction.isEmpty then none else some (fraction, rest)
  | text => some ([], text)

/-- The number behind a sign. -/
def readUnsigned (negative : Bool) (text : List Char) : Option (Numeral × List Char) :=
  let (whole, text) := readDigits text
  if whole.isEmpty || (whole.head? == some 0 && whole.length != 1) then none
  else
    (readFraction text).bind fun (fraction, text) =>
      (readExponent text).map fun (exponent, text) =>
        ({ negative, whole, fraction, exponent }, text)

theorem readNumeral_eq (text : List Char) :
    readNumeral text = readUnsigned (text.head? == some '-')
      (if text.head? == some '-' then text.drop 1 else text) := by
  simp only [readNumeral, readUnsigned]
  generalize readDigits _ = found
  obtain ⟨whole, after⟩ := found
  by_cases bad : (whole.isEmpty || (whole.head? == some 0 && whole.length != 1)) = true
  · simp [bad]
  simp only [bad, Bool.false_eq_true, if_false]
  by_cases point : ∃ rest, after = '.' :: rest
  · obtain ⟨rest, rfl⟩ := point
    by_cases no_digits : (readDigits rest).1.isEmpty = true
    · simp [readFraction, no_digits]
    · simp only [readFraction, no_digits, Option.map_eq_bind]
      rfl
  · have none_left : readFraction after = some ([], after) := by
      rw [readFraction.eq_def]
      split
      · next rest => exact absurd ⟨rest, rfl⟩ point
      · rfl
    rw [none_left]
    split
    · next rest => exact absurd ⟨rest, rfl⟩ point
    · rw [Option.bind_some, Option.map_eq_bind]
      rfl

theorem readFraction_of_no_point {text : List Char} (no_point : text.head? ≠ some '.') :
    readFraction text = some ([], text) := by
  rw [readFraction.eq_def]
  split
  · exact absurd rfl no_point
  · rfl

theorem readFraction_front {text rest : List Char} {fraction : List Nat}
    (read : readFraction text = some (fraction, rest)) :
    ∃ front, text = front ++ rest ∧ (∀ c ∈ front.head?, c = '.') ∧ ∀ behind, Stops behind →
      behind.head? ≠ some '.' → readFraction (front ++ behind) = some (fraction, behind) := by
  by_cases point : text.head? = some '.'
  · obtain ⟨inner, rfl⟩ := List.head?_eq_some_iff.mp point
    obtain ⟨digits, inner_eq, -, -, -, again⟩ := readDigits_front inner
    simp only [readFraction, Option.ite_none_left_eq_some, Option.some.injEq, Prod.mk.injEq] at read
    obtain ⟨some_digits, rfl, rfl⟩ := read
    refine ⟨'.' :: digits, by rw [List.cons_append, ← inner_eq], by simp, fun behind stops _ => ?_⟩
    simp only [List.cons_append, readFraction, again behind stops, some_digits]
    rfl
  · rw [readFraction_of_no_point point] at read
    obtain ⟨rfl, rfl⟩ := Prod.mk.inj (Option.some.inj read)
    exact ⟨[], rfl, by simp, fun behind _ no_point => readFraction_of_no_point no_point⟩

theorem readExponent_of_no_mark {text : List Char}
    (no_mark : ∀ c ∈ text.head?, c ≠ 'e' ∧ c ≠ 'E') :
    readExponent text = some (none, text) := by
  cases text with
  | nil => rfl
  | cons c text =>
      obtain ⟨small, large⟩ := no_mark c rfl
      simp [readExponent, small, large]

/-- The digits of an exponent, and whether they are negative. -/
def readPower (text : List Char) : Option (Option (Bool × List Nat) × List Char) :=
  let sign := text.head?
  let (digits, rest) :=
    readDigits (if sign == some '+' || sign == some '-' then text.drop 1 else text)
  if digits.isEmpty then none else some (some (sign == some '-', digits), rest)

theorem readExponent_mark {mark : Char} (is_mark : mark = 'e' ∨ mark = 'E') (text : List Char) :
    readExponent (mark :: text) = readPower text := by
  rcases is_mark with rfl | rfl <;> rfl

theorem readPower_front {text rest : List Char} {exponent : Option (Bool × List Nat)}
    (read : readPower text = some (exponent, rest)) :
    ∃ front, text = front ++ rest ∧ ∀ behind, Stops behind →
      readPower (front ++ behind) = some (exponent, behind) := by
  rw [readPower] at read
  simp only [Option.ite_none_left_eq_some, Option.some.injEq, Prod.mk.injEq] at read
  obtain ⟨some_digits, rfl, rfl⟩ := read
  by_cases signed : (text.head? == some '+' || text.head? == some '-') = true
  · rw [if_pos signed] at some_digits ⊢
    match text, signed with
    | sign :: inner, signed =>
      obtain ⟨digits, inner_eq, -, -, -, again⟩ := readDigits_front inner
      rw [List.drop_one, List.tail_cons] at some_digits ⊢
      refine ⟨sign :: digits, by rw [List.cons_append, ← inner_eq], fun behind stops => ?_⟩
      rw [List.head?_cons] at signed
      simp only [List.cons_append, readPower, List.head?_cons, signed, if_true, List.drop_one,
        List.tail_cons, again behind stops, some_digits]
      rfl
  · rw [if_neg signed] at some_digits ⊢
    obtain ⟨digits, text_eq, -, all_digits, digits_eq, again⟩ := readDigits_front text
    refine ⟨digits, text_eq, fun behind stops => ?_⟩
    have nonempty : digits ≠ [] := by
      rintro rfl
      exact some_digits (by rw [digits_eq]; rfl)
    have head_eq : (digits ++ behind).head? = text.head? := by
      conv_rhs => rw [text_eq]
      rw [List.head?_append_of_ne_nil _ nonempty, List.head?_append_of_ne_nil _ nonempty]
    rw [readPower, head_eq, if_neg signed, again behind stops]
    simp only [some_digits]
    rfl

theorem readExponent_front {text rest : List Char} {exponent : Option (Bool × List Nat)}
    (read : readExponent text = some (exponent, rest)) :
    ∃ front, text = front ++ rest ∧ (∀ c ∈ front.head?, c = 'e' ∨ c = 'E') ∧
      ∀ behind, Ends behind → readExponent (front ++ behind) = some (exponent, behind) := by
  by_cases no_mark : ∀ c ∈ text.head?, c ≠ 'e' ∧ c ≠ 'E'
  · rw [readExponent_of_no_mark no_mark] at read
    obtain ⟨rfl, rfl⟩ := Prod.mk.inj (Option.some.inj read)
    refine ⟨[], rfl, by simp, fun behind ends => readExponent_of_no_mark fun c first => ?_⟩
    exact (ends c first).2.2
  · obtain ⟨mark, first, is_mark⟩ :
        ∃ mark, text.head? = some mark ∧ (mark = 'e' ∨ mark = 'E') := by
      by_contra none_found
      exact no_mark fun c first => not_or.mp fun is_mark => none_found ⟨c, first, is_mark⟩
    obtain ⟨inner, rfl⟩ := List.head?_eq_some_iff.mp first
    rw [readExponent_mark is_mark] at read
    obtain ⟨front, rfl, again⟩ := readPower_front read
    refine ⟨mark :: front, rfl, by simpa using is_mark, fun behind ends => ?_⟩
    rw [List.cons_append, readExponent_mark is_mark, again behind ends.stops]

theorem readUnsigned_front {negative : Bool} {text rest : List Char} {numeral : Numeral}
    (read : readUnsigned negative text = some (numeral, rest)) :
    ∃ c front, text = c :: front ++ rest ∧ c.isDigit = true ∧ ∀ behind, Ends behind →
      readUnsigned negative (c :: front ++ behind) = some (numeral, behind) := by
  obtain ⟨digits, text_eq, -, all_digits, digits_eq, again⟩ := readDigits_front text
  rw [readUnsigned] at read
  simp only [Option.ite_none_left_eq_some, Option.bind_eq_some_iff, Option.map_eq_some_iff,
    Prod.exists, Prod.mk.injEq] at read
  obtain ⟨sound, fraction, after, fraction_read, exponent, after', exponent_read, rfl, rfl⟩ := read
  obtain ⟨point, after_eq, point_first, fraction_again⟩ := readFraction_front fraction_read
  obtain ⟨power, after_eq', power_first, exponent_again⟩ := readExponent_front exponent_read
  cases digits with
  | nil => simp [digits_eq] at sound
  | cons c digits =>
      refine ⟨c, digits ++ (point ++ power), ?_, all_digits c List.mem_cons_self, ?_⟩
      · rw [text_eq, after_eq, after_eq']
        simp
      · intro behind ends
        have power_stops : ∀ d ∈ (power ++ behind).head?, d.isDigit = false ∧ d ≠ '.' := by
          intro d first
          cases power with
          | nil => exact ⟨(ends d first).1, (ends d first).2.1⟩
          | cons e power =>
              obtain rfl : e = d := by simpa using first
              rcases power_first e rfl with rfl | rfl <;> decide
        have point_stops : Stops (point ++ (power ++ behind)) := by
          intro d first
          cases point with
          | nil => exact (power_stops d first).1
          | cons e point =>
              obtain rfl : e = d := by simpa using first
              rw [point_first e rfl]
              decide
        have whole_again := again (point ++ (power ++ behind)) point_stops
        have fraction_again' := fraction_again (power ++ behind)
          (fun d first => (power_stops d first).1) fun first => (power_stops '.' first).2 rfl
        have text_again : c :: (digits ++ (point ++ power)) ++ behind =
            c :: digits ++ (point ++ (power ++ behind)) := by simp
        rw [text_again, readUnsigned, whole_again]
        simp only [sound, Bool.false_eq_true, if_false, fraction_again', Option.bind_some,
          exponent_again behind ends, Option.map_some]

theorem readNumeral_minus (text : List Char) :
    readNumeral ('-' :: text) = readUnsigned true text := readNumeral_eq ('-' :: text)

theorem readNumeral_plain {text : List Char} (plain : text.head? ≠ some '-') :
    readNumeral text = readUnsigned false text := by
  have no_sign : (text.head? == some '-') = false := by simpa using plain
  rw [readNumeral_eq]
  simp only [no_sign, Bool.false_eq_true, if_false]

/-- A number is read from its own characters, whatever does not go on with it stands behind. -/
theorem readNumeral_front {text rest : List Char} {numeral : Numeral}
    (read : readNumeral text = some (numeral, rest)) :
    ∃ c front, text = c :: front ++ rest ∧ (c = '-' ∨ c.isDigit = true) ∧ ∀ behind, Ends behind →
      readNumeral (c :: front ++ behind) = some (numeral, behind) := by
  by_cases minus : text.head? = some '-'
  · obtain ⟨inner, rfl⟩ := List.head?_eq_some_iff.mp minus
    rw [readNumeral_minus] at read
    obtain ⟨c, front, rfl, -, again⟩ := readUnsigned_front read
    refine ⟨'-', c :: front, rfl, .inl rfl, fun behind ends => ?_⟩
    rw [List.cons_append, readNumeral_minus, again behind ends]
  · rw [readNumeral_plain minus] at read
    obtain ⟨c, front, rfl, digit, again⟩ := readUnsigned_front read
    refine ⟨c, front, rfl, .inr digit, fun behind ends => ?_⟩
    have plain : (c :: front ++ behind).head? ≠ some '-' := minus
    rw [readNumeral_plain plain, again behind ends]

end Redirects.Json
