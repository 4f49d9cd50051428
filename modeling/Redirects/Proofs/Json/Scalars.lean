import Mathlib.Data.List.Basic
import Redirects.Json.Decode
import Redirects.Json.Printer

/-!
# Texts and numbers survive printing

What is printed for a text is read back as the text, whatever follows its closing mark; what is
printed for a natural number is read back as its digits, which have the number as their value.
-/

namespace Redirects.Json

/-! ## Texts -/

theorem ofHex?_control (code : Nat) (control : code < 32) :
    Text.ofHex? ['0', '0', Text.hexDigit (code / 16), Text.hexDigit (code % 16)] = some code := by
  revert code
  decide

/-- What is printed for a character is read back as the character. -/
theorem readChars_escapeChar (fuel : Nat) (c : Char) (rest : List Char) :
    readChars (fuel + 1) (escapeChar c ++ rest) =
      (readChars fuel rest).map fun (text, rest) => (before (some c) text, rest) := by
  rw [escapeChar]
  split_ifs with quote backslash newline carriage tab backspace feed control
  · subst quote; rfl
  · subst backslash; rfl
  · subst newline; rfl
  · subst carriage; rfl
  · subst tab; rfl
  · subst backspace; rfl
  · subst feed; rfl
  · have high : isHighSurrogate c.toNat = false := by
      simp [isHighSurrogate]
      omega
    have low : isLowSurrogate c.toNat = false := by
      simp [isLowSurrogate]
      omega
    have escaped : unitEscape? ('0' :: '0' :: Text.hexDigit (c.toNat / 16) ::
        Text.hexDigit (c.toNat % 16) :: rest) = some (some c, rest) := by
      simp [unitEscape?, hexUnit?, ofHex?_control _ control, high, low]
    simp only [List.cons_append, List.nil_append]
    rw [readChars, escaped]
  · simp only [List.cons_append, List.nil_append]
    rw [readChars.eq_def]
    simp [backslash, control]

theorem readChars_escaped (text rest : List Char) {fuel : Nat} (enough : text.length < fuel) :
    readChars fuel (text.flatMap escapeChar ++ '"' :: rest) = some (some text, rest) := by
  induction text generalizing fuel with
  | nil =>
      obtain ⟨fuel, rfl⟩ := Nat.exists_eq_add_one_of_ne_zero (Nat.ne_of_gt enough)
      rfl
  | cons c text ih =>
      obtain ⟨fuel, rfl⟩ := Nat.exists_eq_add_one_of_ne_zero (Nat.ne_zero_of_lt enough)
      rw [List.flatMap_cons, List.append_assoc, readChars_escapeChar,
        ih (Nat.lt_of_succ_lt_succ enough)]
      rfl

/-- Every character takes at least one to print. -/
theorem length_le_escaped (text : List Char) : text.length ≤ (text.flatMap escapeChar).length := by
  induction text with
  | nil => exact Nat.le_refl 0
  | cons c text ih =>
      have printed : 1 ≤ (escapeChar c).length := by
        rw [escapeChar]
        split_ifs <;> simp
      rw [List.flatMap_cons, List.length_append, List.length_cons]
      omega

theorem readString_quote (text : String) (rest : List Char) :
    readString (text.toList.flatMap escapeChar ++ '"' :: rest) = some (some text, rest) := by
  have enough :
      text.toList.length < (text.toList.flatMap escapeChar ++ '"' :: rest).length + 1 := by
    have printed := length_le_escaped text.toList
    rw [List.length_append]
    omega
  rw [readString, readChars_escaped _ _ enough]
  simp

/-! ## Numbers -/

/-- What follows a number does not go on with it. -/
def Ends (rest : List Char) : Prop :=
  ∀ c ∈ rest.head?, c.isDigit = false ∧ c ≠ '.' ∧ c ≠ 'e' ∧ c ≠ 'E'

theorem digitChar_of_isDigit {c : Char} (digit : c.isDigit = true) :
    digitChar (c.toNat - '0'.toNat) = c := by
  rw [Char.isDigit, Bool.and_eq_true, decide_eq_true_eq, decide_eq_true_eq] at digit
  have low : '0'.toNat ≤ c.toNat := digit.1
  rw [digitChar, Nat.add_sub_cancel' low, Char.ofNat_toNat]

/-- The digits of a number are printed as usual. -/
theorem map_digitChar_digits (value : Nat) :
    (digits value).map digitChar = Nat.toDigits 10 value := by
  rw [digits, List.map_map]
  conv_rhs => rw [← List.map_id (Nat.toDigits 10 value)]
  refine List.map_congr_left fun c listed => ?_
  exact digitChar_of_isDigit (Nat.isDigit_of_mem_toDigits (by decide) (by decide) listed)

theorem digits_ne_nil (value : Nat) : digits value ≠ [] := by
  simp [digits]

theorem digits_eq_if (value : Nat) :
    digits value = if value < 10 then [value] else digits (value / 10) ++ [value % 10] := by
  have last : ∀ digit < 10, (Nat.digitChar digit).toNat - '0'.toNat = digit := by decide
  rw [digits, Nat.toDigits_eq_if (by decide)]
  split
  · next small => rw [List.map_singleton, last value small]
  · rw [List.map_append, List.map_singleton, last _ (Nat.mod_lt value (by decide)), digits]

/-- Only zero starts with a zero. -/
theorem eq_zero_of_digits_head? {value : Nat} (leading : (digits value).head? = some 0) :
    value = 0 := by
  induction value using Nat.strongRecOn with
  | ind value ih =>
      rw [digits_eq_if] at leading
      split at leading
      · simpa using leading
      · next large =>
          rw [List.head?_append_of_ne_nil _ (digits_ne_nil _)] at leading
          have shorter := ih (value / 10) (by omega) leading
          omega

@[simp]
theorem valueOf_digits (value : Nat) : valueOf (digits value) = value := by
  conv_rhs => rw [← Nat.ofDigitChars_ten_toDigits (n := value)]
  rw [valueOf, digits, List.foldl_map, Nat.ofDigitChars_eq_foldl]

theorem readDigits_toDigits (value : Nat) {rest : List Char} (ends : Ends rest) :
    readDigits (Nat.toDigits 10 value ++ rest) = (digits value, rest) := by
  have all_digits : ∀ c ∈ Nat.toDigits 10 value, c.isDigit = true :=
    fun c listed => Nat.isDigit_of_mem_toDigits (by decide) (by decide) listed
  have no_more : rest.takeWhile Char.isDigit = [] := by
    cases rest with
    | nil => rfl
    | cons c rest => simp [(ends c rfl).1]
  have taken : (Nat.toDigits 10 value ++ rest).takeWhile Char.isDigit = Nat.toDigits 10 value := by
    rw [List.takeWhile_append_of_pos all_digits, no_more, List.append_nil]
  rw [readDigits, taken, List.drop_left]
  rfl

theorem readNumeral_toDigits (value : Nat) {rest : List Char} (ends : Ends rest) :
    readNumeral (Nat.toDigits 10 value ++ rest) = some ({ whole := digits value }, rest) := by
  have unsigned : ((Nat.toDigits 10 value ++ rest).head? == some '-') = false := by
    rw [List.head?_append_of_ne_nil _ Nat.toDigits_ne_nil, beq_eq_false_iff_ne]
    intro sign
    have digit := Nat.isDigit_of_mem_toDigits (by decide) (by decide) (List.mem_of_head? sign)
    contradiction
  have regular : ((digits value).isEmpty ||
      ((digits value).head? == some 0 && (digits value).length != 1)) = false := by
    by_cases leading : (digits value).head? = some 0
    · rw [eq_zero_of_digits_head? leading]
      rfl
    · simp [leading, digits_ne_nil]
  have no_fraction : ∀ more, rest ≠ '.' :: more := by
    rintro more rfl
    exact (ends '.' rfl).2.1 rfl
  have no_exponent : readExponent rest = some (none, rest) := by
    cases rest with
    | nil => rfl
    | cons c rest =>
        obtain ⟨-, -, small, large⟩ := ends c rfl
        simp [readExponent, small, large]
  simp only [readNumeral, unsigned, readDigits_toDigits value ends, regular, if_false,
    Bool.false_eq_true]
  rw [Option.bind_eq_bind, Option.bind_some, no_exponent]
  rfl

theorem le_foldl_digits (taken : Nat) (digits : List Nat) :
    taken ≤ digits.foldl (fun value digit => 10 * value + digit) taken := by
  induction digits generalizing taken with
  | nil => exact Nat.le_refl taken
  | cons digit digits ih =>
      have further := ih (10 * taken + digit)
      rw [List.foldl_cons]
      omega

/-- Digits are taken on as long as they fit. -/
theorem accumulate_of_lt {taken : Nat} {digits : List Nat}
    (fits : digits.foldl (fun value digit => 10 * value + digit) taken < Numeral.wordBound) :
    Numeral.accumulate taken digits =
      (digits.foldl (fun value digit => 10 * value + digit) taken, []) := by
  induction digits generalizing taken with
  | nil => rfl
  | cons digit digits ih =>
      rw [List.foldl_cons] at fits ⊢
      have fits_now := Nat.lt_of_le_of_lt (le_foldl_digits _ digits) fits
      rw [Numeral.accumulate, if_neg (Nat.not_le_of_lt fits_now), ih fits]

/-- A number of 32 bits is the value of its digits. -/
theorem word?_ofNat (word : UInt32) : word? (.ofNat word.toNat) = some word := by
  have small : word.toNat < UInt32.size := word.toNat_lt_size
  have fits : valueOf (digits word.toNat) < Numeral.wordBound := by
    rw [valueOf_digits]
    exact Nat.lt_trans small (by decide)
  have taken : Numeral.accumulate 0 (digits word.toNat) = (word.toNat, []) := by
    rw [accumulate_of_lt fits]
    exact congrArg (·, []) (valueOf_digits word.toNat)
  simp [word?, ofNat, Numeral.value?, taken, small]

end Redirects.Json
