import Mathlib.Algebra.Order.Ring.Nat
import Mathlib.Data.List.TakeWhile
import Redirects.Config.Number
import Redirects.CommandLine.Words
import Redirects.Proofs.Text.Lowercase

/-!
# The texts of variables

The text of a variable is read as a truth value or a number where it writes one.  Asked for as a
text again it is the text only if it was written as the program writes the value, as every path of more
than one part is, and asked for as a number it is the number only if that survives on its way
through a float.
-/

namespace Redirects

namespace Text

theorem slash_mem_lowercaseChars {text : List Char} (slash : '/' ∈ text) :
    '/' ∈ lowercaseChars text := by
  obtain ⟨front, back, rfl⟩ := List.append_of_mem slash
  have kept : lowercaseAt (front.reverse ++ []) '/' back = ['/'] :=
    lowercaseAt_of_ne (by decide) _ _
  rw [lowercaseChars, lowercaseAfter_append, lowercaseAfter, kept]
  simp

end Text

namespace Setting

/-! ## Texts -/

/-- If the text writes a truth value or a number, it is written as the program writes it. -/
structure IsUsual (text : String) : Prop where
  truth : ∀ value : Bool, Text.lowercase text = toString value → text = toString value
  integer : ∀ value, integerOf? text.toList = some value → text = toString value
  float : integerOf? text.toList = none → ∀ value, floatOf? text.toList = some value →
    text = value.toText

theorem ofVariable_of_truth {text : String} {value : Bool}
    (truth : Text.lowercase text = toString value) : ofVariable text = .bool value := by
  cases value <;> simp [ofVariable, truth, toString]

theorem ofVariable_of_no_truth {text : String}
    (no_truth : ∀ value : Bool, Text.lowercase text ≠ toString value) :
    ofVariable text =
      match integerOf? text.toList, floatOf? text.toList with
      | some value, _ => .integer value
      | none, some value => .float value
      | none, none => .text text := by
  have not_true : Text.lowercase text ≠ "true" := no_truth true
  have not_false : Text.lowercase text ≠ "false" := no_truth false
  rw [ofVariable]
  exact (if_neg not_true).trans (if_neg not_false)

theorem isUsual_toString (value : Bool) : IsUsual (toString value) := by
  have no_integer : integerOf? (toString value).toList = none := by
    cases value <;> decide
  have no_float : floatOf? (toString value).toList = none := by
    cases value <;> decide
  have small : ∀ other : Bool, Text.lowercase (toString value) = toString other →
      toString value = toString other := by
    cases value <;> decide +kernel
  exact ⟨small, by simp [no_integer], by simp [no_float]⟩

/-- A text is asked for as it was given exactly if it is a usual one. -/
theorem text?_ofVariable_eq_iff (text : String) :
    (ofVariable text).text? = some text ↔ IsUsual text := by
  by_cases truth : ∃ value : Bool, Text.lowercase text = toString value
  · obtain ⟨value, truth⟩ := truth
    have read : (ofVariable text).text? = some (toString value) := by
      rw [ofVariable_of_truth truth]
      cases value <;> rfl
    rw [read, Option.some.injEq]
    constructor
    · rintro rfl
      exact isUsual_toString value
    · intro usual
      exact (usual.truth value truth).symm
  · have no_truth : ∀ value : Bool, Text.lowercase text ≠ toString value := not_exists.mp truth
    rw [ofVariable_of_no_truth no_truth]
    cases integer : integerOf? text.toList with
    | some value =>
        rw [text?, Option.some.injEq]
        constructor
        · intro same
          refine ⟨fun value truth => absurd truth (no_truth value), fun other found => ?_,
            by simp [integer]⟩
          rw [← same, Option.some.inj (integer.symm.trans found)]
        · intro usual
          exact (usual.integer value integer).symm
    | none =>
        cases float : floatOf? text.toList with
        | some value =>
            rw [text?, Option.some.injEq]
            constructor
            · intro same
              refine ⟨fun value truth => absurd truth (no_truth value), by simp [integer],
                fun _ other found => ?_⟩
              rw [← same, Option.some.inj (float.symm.trans found)]
            · intro usual
              exact (usual.float integer value float).symm
        | none =>
            simp only [text?, true_iff]
            exact ⟨fun value truth => absurd truth (no_truth value), by simp [integer],
              by simp [float]⟩

/-! ## Paths of more than one part -/

section Slash

variable {text : List Char} (slash : '/' ∈ text)

include slash

theorem slash_mem_splitSign : '/' ∈ (splitSign text).2 := by
  rw [splitSign.eq_def]
  split
  · simpa using slash
  · simpa using slash
  · exact slash

theorem slash_mem_drop_digits : '/' ∈ text.drop (text.takeWhile Char.isDigit).length := by
  rw [← List.prefix_iff_eq_append.mp (List.takeWhile_prefix Char.isDigit (l := text)),
    List.mem_append] at slash
  exact slash.resolve_left fun digit => absurd (List.mem_takeWhile_imp digit) (by decide)

theorem all_isDigit_of_slash : text.all Char.isDigit = false :=
  List.all_eq_false.mpr ⟨'/', slash, by decide⟩

theorem integerOf?_of_slash : integerOf? text = none := by
  simp [integerOf?, all_isDigit_of_slash (slash_mem_splitSign slash)]

theorem exponentOf?_of_slash : exponentOf? text = none := by
  cases text with
  | nil => contradiction
  | cons mark rest =>
      rw [exponentOf?]
      split_ifs with marked
      · have other : '/' ≠ mark := by
          rintro rfl
          contradiction
        have behind := (List.mem_cons.mp slash).resolve_left other
        simp [all_isDigit_of_slash (slash_mem_splitSign behind)]
      · rfl

theorem ofList_map_toLower_ne_of_slash (word : String) (no_slash : '/' ∉ word.toList) :
    String.ofList (text.map Char.toLower) ≠ word := by
  rintro rfl
  rw [String.toList_ofList] at no_slash
  exact no_slash (List.mem_map.mpr ⟨'/', slash, rfl⟩)

theorem floatOf?_of_slash : floatOf? text = none := by
  have unsigned := slash_mem_splitSign slash
  have no_inf := ofList_map_toLower_ne_of_slash unsigned "inf" (by decide)
  have no_infinity := ofList_map_toLower_ne_of_slash unsigned "infinity" (by decide)
  have no_nan := ofList_map_toLower_ne_of_slash unsigned "nan" (by decide)
  have behind_whole := slash_mem_drop_digits unsigned
  simp only [floatOf?, no_inf, no_infinity, no_nan, decide_false, Bool.or_self, Bool.false_eq_true,
    if_false]
  -- The slash stands behind all digits, where nothing but an exponent may stand.
  generalize (splitSign text).2.takeWhile Char.isDigit = whole at behind_whole ⊢
  generalize (splitSign text).2.drop whole.length = others at behind_whole ⊢
  have no_exponent {exponent : List Char} (slash : '/' ∈ exponent) (fraction : List Char) :
      floatOfParts? (splitSign text).1 whole fraction exponent = none := by
    rw [floatOfParts?, exponentOf?_of_slash slash, Option.map_none]
  by_cases point : ∃ behind, others = '.' :: behind
  · obtain ⟨behind, rfl⟩ := point
    have behind_point := (List.mem_cons.mp behind_whole).resolve_left (by decide)
    simp [no_exponent (slash_mem_drop_digits behind_point)]
  · have no_point : (others.head? == some '.') = false := by
      simpa [List.head?_eq_some_iff] using point
    simp only [no_point, Bool.false_eq_true, if_false, no_exponent behind_whole, ite_self]

end Slash

/-- A path of more than one part is a usual text. -/
theorem isUsual_of_slash {text : String} (slash : '/' ∈ text.toList) : IsUsual text := by
  have no_integer := integerOf?_of_slash slash
  have no_float := floatOf?_of_slash slash
  refine ⟨fun value truth => ?_, by simp [no_integer], by simp [no_float]⟩
  have kept := Text.slash_mem_lowercaseChars slash
  rw [Text.lowercase, ← String.toList_inj, String.toList_ofList] at truth
  rw [truth] at kept
  cases value <;> contradiction

/-! ## Numbers -/

/-- The digits of a number, and its value. -/
structure Digits (digits : List Char) (value : Nat) : Prop where
  nonempty : digits ≠ []
  all_digits : ∀ c ∈ digits, c.isDigit = true
  decimal_eq : decimal digits = value

theorem numberOf?_eq (text : String) :
    ∃ digits, (text.toList = digits ∨ text.toList = '+' :: digits) ∧
      CommandLine.numberOf? text =
        if digits.isEmpty || !digits.all Char.isDigit then none
        else if decimal digits < UInt64.size then some (decimal digits) else none := by
  by_cases plus : ∃ rest, text.toList = '+' :: rest
  · obtain ⟨rest, text_eq⟩ := plus
    refine ⟨rest, .inr text_eq, ?_⟩
    rw [CommandLine.numberOf?, text_eq]
    rfl
  · refine ⟨text.toList, .inl rfl, ?_⟩
    rw [CommandLine.numberOf?]
    split
    · next rest text_eq => exact absurd ⟨rest, text_eq⟩ plus
    · rfl

theorem exists_digits_of_numberOf? {text : String} {value : Nat}
    (written : CommandLine.numberOf? text = some value) :
    value < 2 ^ 64 ∧ ∃ digits, Digits digits value ∧
      (text.toList = digits ∨ text.toList = '+' :: digits) := by
  obtain ⟨digits, signed, number_eq⟩ := numberOf?_eq text
  simp only [number_eq, Option.ite_none_left_eq_some, Option.ite_none_right_eq_some,
    Option.some.injEq, Bool.or_eq_true, List.isEmpty_iff, Bool.not_eq_true', not_or,
    Bool.not_eq_false, List.all_eq_true] at written
  obtain ⟨⟨nonempty, all_digits⟩, bounded, rfl⟩ := written
  exact ⟨bounded, digits, ⟨nonempty, all_digits, rfl⟩, signed⟩

theorem toLower_of_digit {c : Char} (digit : c.isDigit = true) : c.toLower = c := by
  have no_capital : ¬(c.val ≥ 'A'.val ∧ c.val ≤ 'Z'.val) := by
    simp only [Char.isDigit, Bool.and_eq_true, decide_eq_true_eq, ge_iff_le,
      UInt32.le_iff_toNat_le] at digit
    rintro ⟨above, -⟩
    rw [ge_iff_le, UInt32.le_iff_toNat_le] at above
    have first_capital : 65 ≤ c.val.toNat := above
    have last_digit : c.val.toNat ≤ 57 := digit.2
    omega
  exact dif_neg no_capital

theorem lowercaseAt_digit {c : Char} (digit : c.isDigit = true) (after : List Char) :
    Text.lowercaseAt [] c after = [c] := by
  have no_sigma : c ≠ 'Σ' := by
    rintro rfl
    contradiction
  have no_dotted : c ≠ 'İ' := by
    rintro rfl
    contradiction
  have ascii : c.val < 128 := by
    simp only [Char.isDigit, Bool.and_eq_true, decide_eq_true_eq, UInt32.le_iff_toNat_le] at digit
    have last_digit : c.val.toNat ≤ 57 := digit.2
    rw [UInt32.lt_iff_toNat_lt]
    exact Nat.lt_of_le_of_lt last_digit (by decide)
  simp [Text.lowercaseAt, no_sigma, no_dotted, Unicode.lower, ascii, toLower_of_digit digit]

theorem Digits.map_toLower {digits : List Char} {value : Nat} (written : Digits digits value) :
    digits.map Char.toLower = digits :=
  (List.map_congr_left fun c listed => toLower_of_digit (written.all_digits c listed)).trans
    (List.map_id digits)

/-- Digits are no word. -/
theorem Digits.ne_of_letter {digits : List Char} {value : Nat} (written : Digits digits value)
    (word : String) (letter : ∃ c ∈ word.toList, c.isDigit = false) :
    String.ofList digits ≠ word := by
  rintro rfl
  obtain ⟨c, listed, no_digit⟩ := letter
  rw [String.toList_ofList] at listed
  rw [written.all_digits c listed] at no_digit
  contradiction

theorem nearest_digits {digits : List Char} {value : Nat} (written : Digits digits value)
    (positive : 0 < value) {rounded : Binary64} (rounds : Binary64.round? value 1 = some rounded) :
    nearest false digits 0 = .finite false rounded := by
  have not_small :
      (decide (value = 0) || decide ((0 : Int) < -(400 + (digits.length : Int)))) = false := by
    rw [Bool.or_eq_false_iff, decide_eq_false_iff_not, decide_eq_false_iff_not]
    omega
  have not_great : ¬(400 + (digits.length : Int) < 0) := by omega
  have scaled : value * Nat.pow 10 (0 : Int).toNat = value := Nat.mul_one value
  simp only [nearest, written.decimal_eq, not_small, Bool.false_eq_true, if_false,
    if_neg not_great, if_pos (Int.le_refl 0), scaled, rounds]

section Digits

variable {digits text : List Char} {value : Nat} (written : Digits digits value)
  (signed : text = digits ∨ text = '+' :: digits)

include written signed

theorem splitSign_of_digits : splitSign text = (false, digits) := by
  rcases signed with rfl | rfl
  · obtain ⟨c, rest, rfl⟩ := List.exists_cons_of_ne_nil written.nonempty
    have digit := written.all_digits c List.mem_cons_self
    rw [splitSign.eq_def]
    split
    · next first => obtain ⟨rfl, -⟩ := List.cons.inj first; contradiction
    · next first => obtain ⟨rfl, -⟩ := List.cons.inj first; contradiction
    · rfl
  · rfl

theorem integerOf?_of_digits : integerOf? text = signed? false value := by
  have some_digits : (digits.isEmpty || !digits.all Char.isDigit) = false := by
    simpa using ⟨written.nonempty, written.all_digits⟩
  rw [integerOf?, splitSign_of_digits written signed]
  simp only [some_digits, written.decimal_eq, Bool.false_eq_true, if_false]

theorem floatOf?_of_digits (positive : 0 < value) {rounded : Binary64}
    (rounds : Binary64.round? value 1 = some rounded) :
    floatOf? text = some (.finite false rounded) := by
  have taken : digits.takeWhile Char.isDigit = digits :=
    List.takeWhile_eq_self_iff.mpr written.all_digits
  have no_inf := written.ne_of_letter "inf" ⟨'i', by decide, rfl⟩
  have no_infinity := written.ne_of_letter "infinity" ⟨'i', by decide, rfl⟩
  have no_nan := written.ne_of_letter "nan" ⟨'n', by decide, rfl⟩
  rw [← nearest_digits written positive rounds, floatOf?, splitSign_of_digits written signed]
  simp [written.map_toLower, no_inf, no_infinity, no_nan, taken, written.nonempty, floatOfParts?,
    exponentOf?]

/-- Digits with or without a sign write no truth value. -/
theorem lowercaseChars_ne_of_digits (truth : Bool) :
    Text.lowercaseChars text ≠ (toString truth).toList := by
  obtain ⟨digit, rest, rfl⟩ := List.exists_cons_of_ne_nil written.nonempty
  have first : (Text.lowercaseChars text).head? = some digit ∨
      (Text.lowercaseChars text).head? = some '+' := by
    rcases signed with rfl | rfl
    · rw [Text.lowercaseChars, Text.lowercaseAfter,
        lowercaseAt_digit (written.all_digits digit List.mem_cons_self)]
      exact .inl rfl
    · exact .inr rfl
  have is_digit := written.all_digits digit List.mem_cons_self
  have letter : ∃ c, (toString truth).toList.head? = some c ∧ c.isDigit = false ∧ c ≠ '+' := by
    cases truth
    · exact ⟨'f', by decide, by decide, by decide⟩
    · exact ⟨'t', by decide, by decide, by decide⟩
  obtain ⟨c, head_eq, no_digit, no_plus⟩ := letter
  intro same
  rw [same, head_eq, Option.some.injEq, Option.some.injEq] at first
  rcases first with rfl | rfl
  · rw [is_digit] at no_digit
    contradiction
  · exact no_plus rfl

end Digits

theorem roundToNat_eq (mantissa power : Nat) :
    Binary64.roundToNat ⟨mantissa, power⟩ = mantissa * 2 ^ power := by
  have up : Binary64.powerOfTwo (power : Int) = (2 ^ power, 1) := by
    simp [Binary64.powerOfTwo]
  simp only [Binary64.roundToNat, Binary64.toFraction, up]
  omega

/-- Words of the upper half are rounded to 53 of their 64 binary digits. -/
theorem round?_of_great {value : Nat} (great : 2 ^ 63 ≤ value) (word : value < 2 ^ 64) :
    Binary64.round? value 1 =
      some (if Binary64.roundQuotient value 2048 = 2 ^ 53 then ⟨2 ^ 52, 12⟩
        else ⟨Binary64.roundQuotient value 2048, 11⟩) := by
  have nonzero : value ≠ 0 := by omega
  have log_eq : value.log2 = 63 := (Nat.log2_eq_iff nonzero).mpr ⟨great, word⟩
  have log_one : Nat.log2 1 = 0 := by decide
  have up : Binary64.powerOfTwo 11 = (2048, 1) := rfl
  have full : ¬Binary64.floorUnder value 1 11 < Nat.pow 2 52 := by
    simp only [Binary64.floorUnder, up, Nat.pow_eq]
    omega
  have guess : ((63 : Nat) : Int) - (0 : Nat) - 52 = 11 := by decide
  have greatest : max (11 : Int) Binary64.minExponent = 11 := by decide
  simp only [Binary64.round?, if_neg nonzero, log_eq, log_one, guess, if_neg full, greatest, up,
    Nat.mul_one, Nat.one_mul, Nat.pow_eq, Binary64.maxExponent]
  split_ifs <;> first | rfl | contradiction

/-- A word from the upper half is rounded to the nearest multiple of 2048, if that is a word. -/
theorem toWord_round? {value : Nat} (great : 2 ^ 63 ≤ value) (word : value < 2 ^ 64) :
    ∃ rounded, Binary64.round? value 1 = some rounded ∧
      (FloatSetting.finite false rounded).toWord =
        min (Binary64.roundQuotient value 2048 * 2048) (2 ^ 64 - 1) := by
  refine ⟨_, round?_of_great great word, ?_⟩
  have rounded_eq (mantissa power : Nat) : (FloatSetting.finite false ⟨mantissa, power⟩).toWord =
      min (mantissa * 2 ^ power) (2 ^ 64 - 1) := by
    rw [FloatSetting.toWord, roundToNat_eq]
    rfl
  split_ifs with carries
  · rw [carries]
    exact rounded_eq (2 ^ 52) 12
  · exact rounded_eq _ 11

/-- No float rounds the word to another: it is read as an integer, it is a float, or it is the last
word, at which a float that is too large ends up. -/
def IsKept (value : Nat) : Prop := value < 2 ^ 63 ∨ 2048 ∣ value ∨ value = 2 ^ 64 - 1

/-- The word that a text writes is read from it again exactly if no float rounds it to another. -/
theorem word?_ofVariable_eq_iff {text : String} {value : Nat}
    (written : CommandLine.numberOf? text = some value) :
    (ofVariable text).word? = some value ↔ IsKept value := by
  obtain ⟨word, digits, number, signed⟩ := exists_digits_of_numberOf? written
  have no_truth : ∀ truth : Bool, Text.lowercase text ≠ toString truth := by
    intro truth same
    refine lowercaseChars_ne_of_digits number signed truth ?_
    rw [← same, Text.lowercase, String.toList_ofList]
  rw [ofVariable_of_no_truth no_truth, integerOf?_of_digits number signed, IsKept]
  by_cases small : value < 2 ^ 63
  · have integer : signed? false value = some (value : Int) :=
      (if_neg Bool.false_ne_true).trans (if_pos small)
    have in_range :
        (decide ((0 : Int) ≤ value) && decide ((value : Int) < (UInt64.size : Nat))) = true := by
      rw [Bool.and_eq_true, decide_eq_true_iff, decide_eq_true_iff]
      exact ⟨Int.natCast_nonneg value, Int.ofNat_lt.mpr word⟩
    simp only [integer, word?, if_pos in_range, Int.toNat_natCast, true_iff]
    exact .inl small
  · have no_integer : signed? false value = none :=
      (if_neg Bool.false_ne_true).trans (if_neg small)
    obtain ⟨rounded, rounds, toWord_eq⟩ := toWord_round? (Nat.le_of_not_lt small) word
    rw [no_integer, floatOf?_of_digits number signed (by omega) rounds]
    simp only [word?, toWord_eq, Option.some.injEq, Binary64.roundQuotient, Bool.or_eq_true,
      Bool.and_eq_true, decide_eq_true_eq, beq_iff_eq]
    split_ifs <;> omega

end Setting

end Redirects
