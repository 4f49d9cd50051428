import Redirects.Regex.Machine
import Redirects.Text.Search
import Redirects.Text.Utf8

/-!
# Where texts stand

A text stands at a place of another if what follows there begins with it, and it occurs in the other
if it stands at some place.  Offsets in bytes cut a text between characters only, and a text loses
its last slashes without losing an occurrence of a text that has none.
-/

namespace Redirects

namespace Regex

theorem standsAt_iff {text : Array Char} {chars : List Char} {position : Nat} :
    standsAt text chars position = true ↔ chars <+: text.toList.drop position := by
  induction chars generalizing position with
  | nil => simp [standsAt]
  | cons c chars ih =>
      have head_eq : (text.toList.drop position).head? = text[position]? := by
        rw [List.head?_drop, Array.getElem?_toList]
      rw [standsAt, Bool.and_eq_true, beq_iff_eq, ih, ← head_eq, ← List.tail_drop]
      cases text.toList.drop position with
      | nil => simp
      | cons d rest => simp [eq_comm]

end Regex

namespace Text

/-- A text occurs exactly if it stands somewhere. -/
theorem infix_iff_exists_drop {needle text : List Char} :
    needle <:+: text ↔ ∃ position ≤ text.length, needle <+: text.drop position := by
  constructor
  · rintro ⟨before, after, rfl⟩
    exact ⟨before.length, by simp, by simp⟩
  · rintro ⟨position, _, stands⟩
    exact stands.isInfix.trans (List.drop_suffix position text).isInfix

/-! ## Bytes -/

@[simp]
theorem byteLength_nil : byteLength [] = 0 := rfl

@[simp]
theorem byteLength_cons (c : Char) (text : List Char) :
    byteLength (c :: text) = c.utf8Size + byteLength text := rfl

@[simp]
theorem byteLength_append (front back : List Char) :
    byteLength (front ++ back) = byteLength front + byteLength back := by
  induction front with
  | nil => simp
  | cons c front ih => simp [ih, Nat.add_assoc]

theorem byteLength_le (text : List Char) : byteLength text ≤ 4 * text.length := by
  induction text with
  | nil => simp
  | cons c text ih =>
      have few_bytes := c.utf8Size_le_four
      rw [byteLength_cons, List.length_cons]
      omega

theorem length_le_byteLength (text : List Char) : text.length ≤ byteLength text := by
  induction text with
  | nil => simp
  | cons c text ih =>
      have some_byte := c.utf8Size_pos
      rw [byteLength_cons, List.length_cons]
      omega

theorem byteLength_eq_zero_iff {text : List Char} : byteLength text = 0 ↔ text = [] := by
  cases text with
  | nil => simp
  | cons c text =>
      have some_byte := c.utf8Size_pos
      simp
      omega

/-- A text is cut at a byte offset where a part of so many bytes ends. -/
theorem dropBytes?_eq_some_iff {count : Nat} {text back : List Char} :
    dropBytes? count text = some back ↔
      ∃ front, text = front ++ back ∧ byteLength front = count := by
  fun_induction dropBytes? count text with
  | case1 text => simp [byteLength_eq_zero_iff]
  | case2 count => simp
  | case3 count c text fits ih =>
      rw [ih]
      constructor
      · rintro ⟨front, rfl, bytes_eq⟩
        refine ⟨c :: front, rfl, ?_⟩
        rw [byteLength_cons, bytes_eq, Nat.add_sub_cancel' fits]
      · rintro ⟨front, text_eq, bytes_eq⟩
        cases front with
        | nil => simp at bytes_eq
        | cons d front =>
            obtain ⟨rfl, rfl⟩ := List.cons.inj text_eq
            rw [byteLength_cons] at bytes_eq
            exact ⟨front, rfl, by omega⟩
  | case4 count c text wide =>
      simp only [reduceCtorEq, false_iff, not_exists, not_and]
      rintro front text_eq bytes_eq
      cases front with
      | nil => simp at bytes_eq
      | cons d front =>
          obtain ⟨rfl, -⟩ := List.cons.inj text_eq
          rw [byteLength_cons] at bytes_eq
          omega

/-! ## Characters at the end -/

/-- A text is what is left of it without a character at its end, and that character repeated. -/
theorem exists_dropTrailing_append (c : Char) (text : List Char) :
    ∃ count, text = dropTrailing c text ++ List.replicate count c := by
  let run := text.reverse.takeWhile (· == c)
  have run_eq : run = List.replicate run.length c := by
    apply List.eq_replicate_of_mem
    intro d d_mem
    simpa using List.all_eq_true.mp (List.all_takeWhile (l := text.reverse)) d d_mem
  refine ⟨run.length, ?_⟩
  rw [← List.reverse_replicate, ← run_eq, dropTrailing, ← List.reverse_append,
    List.takeWhile_append_dropWhile, List.reverse_reverse]

theorem isPrefix_dropTrailing (c : Char) (text : List Char) : dropTrailing c text <+: text := by
  obtain ⟨count, text_eq⟩ := exists_dropTrailing_append c text
  exact ⟨_, text_eq.symm⟩

theorem getLast?_dropTrailing_ne (c : Char) (text : List Char) :
    (dropTrailing c text).getLast? ≠ some c := by
  rw [dropTrailing, List.getLast?_reverse]
  intro head_eq
  have refused := List.head?_dropWhile_not (· == c) text.reverse
  rw [head_eq] at refused
  simp at refused

/-- A text that does not end in a character occurs before any run of it, if it occurs with the
run. -/
theorem infix_of_infix_replicate {needle text : List Char} {c : Char}
    (last_ne : needle.getLast? ≠ some c) {count : Nat}
    (occurs : needle <:+: text ++ List.replicate count c) : needle <:+: text := by
  induction count with
  | zero => simpa using occurs
  | succ count ih =>
      rw [List.replicate_succ', ← List.append_assoc, List.infix_concat_iff] at occurs
      rcases occurs with at_end | inside
      · rcases List.suffix_concat_iff.mp at_end with rfl | ⟨front, rfl, _⟩
        · exact List.nil_infix
        · simp at last_ne
      · exact ih inside

/-- An occurrence is not lost with the characters at the ends. -/
theorem isInfix_dropTrailing {needle text : List Char} (c : Char) (occurs : needle <:+: text) :
    dropTrailing c needle <:+: dropTrailing c text := by
  obtain ⟨count, text_eq⟩ := exists_dropTrailing_append c text
  have with_run : dropTrailing c needle <:+: dropTrailing c text ++ List.replicate count c := by
    rw [← text_eq]
    exact (isPrefix_dropTrailing c needle).isInfix.trans occurs
  exact infix_of_infix_replicate (getLast?_dropTrailing_ne c needle) with_run

end Text

end Redirects
