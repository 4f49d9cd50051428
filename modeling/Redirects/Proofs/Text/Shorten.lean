import Mathlib.Data.Nat.PSub
import Redirects.Text.Shorten

/-!
# What is kept of a shortened text

A text that is wider than it may be keeps its start and its end around an ellipsis, and takes the
whole width.  So what was shortened once fits, and is left alone the second time.  The differences
by which the two ends are measured are never below zero: the computation in which such a difference
fails (`shortenExactly?`) always succeeds.
-/

namespace Redirects.Text

/-- At most `width` characters of a text, where no difference may be below zero. -/
def shortenExactly? (width : Nat) (text : List Char) : Option (List Char) :=
  if text.length ≤ width then some text
  else if width ≤ 1 then some ([ellipsis].take width)
  else do
    let kept ← width.psub 1
    let front := (kept + 1) / 2
    let back ← kept.psub front
    let passed ← text.length.psub back
    return text.take front ++ ellipsis :: text.drop passed

variable {width : Nat} {text : List Char}

theorem shortenExactly?_eq (width : Nat) (text : List Char) :
    shortenExactly? width text = some (shortenChars width text) := by
  rw [shortenExactly?, shortenChars]
  split_ifs with fits narrow
  · rfl
  · rfl
  · have front_le : (width - 1 + 1) / 2 ≤ width - 1 := by omega
    have back_le : width - 1 - (width - 1 + 1) / 2 ≤ text.length := by omega
    have kept_eq : width.psub 1 = some (width - 1) := Nat.psub_eq_sub (by omega)
    simp only [kept_eq, Nat.psub_eq_sub front_le, Nat.psub_eq_sub back_le, Option.bind_eq_bind,
      Option.bind_some, Option.pure_def]

theorem shortenChars_of_le (fits : text.length ≤ width) : shortenChars width text = text :=
  if_pos fits

/-- With room for the ellipsis, the two ends of a text share the rest of the width, and the start
has the odd character. -/
theorem shortenChars_of_lt (wide : width < text.length) (room : 1 ≤ width) :
    shortenChars width text =
      text.take ((width - 1 + 1) / 2) ++ ellipsis :: text.drop (text.length - (width - 1) / 2) := by
  rw [shortenChars, if_neg (Nat.not_le.mpr wide)]
  rcases Nat.eq_or_lt_of_le room with rfl | more
  · simp
  · have back_eq : width - 1 - (width - 1 + 1) / 2 = (width - 1) / 2 := by omega
    simp only [if_neg (Nat.not_le.mpr more), back_eq]

/-- What is left out lies between the two ends. -/
theorem exists_ends_of_lt (wide : width < text.length) (room : 1 ≤ width) :
    ∃ front middle back, text = front ++ middle ++ back ∧
      shortenChars width text = front ++ ellipsis :: back ∧
      front.length = (width - 1 + 1) / 2 ∧ back.length = (width - 1) / 2 := by
  have ends_eq : (width - 1 + 1) / 2 + (width - 1) / 2 = width - 1 := by omega
  have passed_eq : (width - 1 + 1) / 2 + (text.length - (width - 1)) =
      text.length - (width - 1) / 2 := by omega
  refine ⟨text.take ((width - 1 + 1) / 2),
    (text.drop ((width - 1 + 1) / 2)).take (text.length - (width - 1)),
    text.drop (text.length - (width - 1) / 2), ?_, shortenChars_of_lt wide room, ?_, ?_⟩
  · rw [← passed_eq, ← List.drop_drop, List.append_assoc, List.take_append_drop,
      List.take_append_drop]
  · rw [List.length_take]
    omega
  · rw [List.length_drop]
    omega

theorem length_shortenChars (width : Nat) (text : List Char) :
    (shortenChars width text).length = min text.length width := by
  rcases Nat.lt_or_ge width text.length with wide | fits
  · rw [Nat.min_eq_right (Nat.le_of_lt wide)]
    rcases Nat.eq_zero_or_pos width with rfl | room
    · simp [shortenChars]
    · obtain ⟨front, middle, back, -, shortened, front_length, back_length⟩ :=
        exists_ends_of_lt wide room
      rw [shortened, List.length_append, List.length_cons]
      omega
  · rw [shortenChars_of_le fits, Nat.min_eq_left fits]

theorem length_shorten (text : String) (width : Nat) :
    (shorten text width).length = min text.length width := by
  rw [shorten, String.length_ofList, length_shortenChars, String.length_toList]

theorem shorten_of_le {text : String} (fits : text.length ≤ width) : shorten text width = text := by
  rw [shorten, shortenChars_of_le (by rwa [String.length_toList]), String.ofList_toList]

/-- A shortened text takes the whole width, if it was wider, and else is the text.  With room for
the ellipsis, that stands between the first characters of the text, half the rest of the width
rounded up, and its last ones, half of it rounded down; no difference that measures them is below
zero.  What was shortened is not shortened again. -/
theorem shorten_keeps_both_ends (text : String) (width : Nat) :
    (shorten text width).length = min text.length width ∧
      (text.length ≤ width → shorten text width = text) ∧
      (width < text.length → 1 ≤ width → ∃ front middle back,
        text.toList = front ++ middle ++ back ∧
          (shorten text width).toList = front ++ ellipsis :: back ∧
          front.length = (width - 1 + 1) / 2 ∧ back.length = (width - 1) / 2) ∧
      shortenExactly? width text.toList = some (shorten text width).toList ∧
      shorten (shorten text width) width = shorten text width := by
  refine ⟨length_shorten text width, shorten_of_le, fun wide room => ?_, ?_, ?_⟩
  · rw [shorten, String.toList_ofList]
    exact exists_ends_of_lt (by rwa [String.length_toList]) room
  · rw [shortenExactly?_eq, shorten, String.toList_ofList]
  · exact shorten_of_le (length_shorten text width ▸ Nat.min_le_right _ _)

/-- Of a width of six, three characters are left for the start and two for the end. -/
theorem shorten_keeps_both_ends_of_ten :
    6 < "abcdefghij".length ∧ ∃ front middle back,
      "abcdefghij".toList = front ++ middle ++ back ∧
        (shorten "abcdefghij" 6).toList = front ++ ellipsis :: back ∧
        front.length = 3 ∧ back.length = 2 := by
  obtain ⟨-, -, ends, -⟩ := shorten_keeps_both_ends "abcdefghij" 6
  exact ⟨by decide, ends (by decide) (by decide)⟩

example : shorten "abcdefghij" 6 = "abc…ij" ∧ shorten "äöü" 1 = "…" := by decide

end Redirects.Text
