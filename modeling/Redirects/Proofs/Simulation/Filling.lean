import Redirects.Engine.Simulation

/-!
# Filling templates

A template is filled from the left, and a place is a backslash with a digit behind it, whatever
stands before the backslash.  So a template can be cut anywhere but between these two, and its parts
filled apart.  A text in which no place is found is filled to itself; one with a place is not, where
the groups are empty.
-/

namespace Redirects

open Regex

namespace Template

variable {c d : Char} {number : Nat} {front back rest template : List Char}

/-! ## Places -/

theorem digit?_eq_some_iff :
    digit? d = some number ↔ d.isDigit = true ∧ number = d.toNat - '0'.toNat := by
  rw [digit?]
  split
  · next is_digit => simp [is_digit, eq_comm]
  · next no_digit => simp [no_digit]

/-- A place begins where a backslash has a digit behind it. -/
theorem hasPlace_cons : hasPlace (c :: rest) = true ↔
    (c = '\\' ∧ ∃ d back, d.isDigit = true ∧ rest = d :: back) ∨ hasPlace rest = true := by
  rw [hasPlace, Bool.or_eq_true, Bool.and_eq_true, beq_iff_eq, Option.isSome_iff_exists]
  cases rest with
  | nil => simp
  | cons d back => simp [digit?_eq_some_iff]

theorem hasPlace_iff : hasPlace template = true ↔
    ∃ front d back, d.isDigit = true ∧ template = front ++ '\\' :: d :: back := by
  induction template with
  | nil => simp [hasPlace]
  | cons c template ih =>
      rw [hasPlace_cons, ih]
      constructor
      · rintro (⟨rfl, d, back, is_digit, rfl⟩ | ⟨front, d, back, is_digit, rfl⟩)
        · exact ⟨[], d, back, is_digit, rfl⟩
        · exact ⟨c :: front, d, back, is_digit, rfl⟩
      · rintro ⟨_ | ⟨first, front⟩, d, back, is_digit, template_eq⟩
        · obtain ⟨rfl, rfl⟩ := List.cons.inj template_eq
          exact .inl ⟨rfl, d, back, is_digit, rfl⟩
        · obtain ⟨rfl, rfl⟩ := List.cons.inj template_eq
          exact .inr ⟨front, d, back, is_digit, rfl⟩

theorem hasPlace_append_slash (text : List Char) : hasPlace (text ++ ['/']) = hasPlace text := by
  induction text with
  | nil => rfl
  | cons c text ih =>
      have no_digit : digit? '/' = none := rfl
      rw [List.cons_append, hasPlace, hasPlace, ih]
      cases text with
      | nil => simp [no_digit]
      | cons d text => rfl

/-! ## Filling -/

variable (group : Nat → List Char)

theorem fill_place (is_digit : digit? d = some number) (back : List Char) :
    fill group ('\\' :: d :: back) = group number ++ fill group back := by
  simp [fill, is_digit]

/-- A character with which no place begins is kept. -/
theorem fill_cons (placeless : c = '\\' → rest.head?.bind digit? = none) :
    fill group (c :: rest) = c :: fill group rest := by
  cases rest with
  | nil => by_cases c_eq : c = '\\' <;> simp [fill, c_eq]
  | cons d rest =>
      rw [fill]
      intro number same digit_eq
      simp [same, digit_eq] at placeless

/-- A template can be cut anywhere but inside a place. -/
theorem fill_append (uncut : front.getLast? = some '\\' → back.head?.bind digit? = none) :
    fill group (front ++ back) = fill group front ++ fill group back := by
  induction front using fill.induct with
  | case1 => rfl
  | case2 =>
      rw [List.singleton_append, fill_cons group fun _ => uncut rfl]
      rfl
  | case3 d rest number is_digit ih =>
      have rest_filled := ih fun last => uncut (by simp [List.getLast?_cons, last])
      rw [List.cons_append, List.cons_append, fill_place group is_digit,
        fill_place group is_digit, rest_filled, List.append_assoc]
  | case4 c d rest placeless ih =>
      have rest_filled := ih fun last => uncut (by simpa [List.getLast?_cons] using last)
      have kept : c = '\\' → digit? d = none := fun same =>
        Option.eq_none_iff_forall_ne_some.mpr fun number => placeless number same
      rw [List.cons_append, fill_cons group kept, fill_cons group kept, rest_filled]
      rfl
  | case5 c c_ne =>
      rw [List.singleton_append, fill_cons group fun same => (c_ne same).elim,
        fill_cons group fun same => (c_ne same).elim]
      rfl

/-- A place is filled whatever stands before its backslash. -/
theorem fill_append_place (front back : List Char) (is_digit : d.isDigit = true) :
    fill group (front ++ '\\' :: d :: back) =
      fill group front ++ group (d.toNat - '0'.toNat) ++ fill group back := by
  have uncut : ('\\' :: d :: back).head?.bind digit? = none := rfl
  rw [fill_append group fun _ => uncut,
    fill_place group (digit?_eq_some_iff.mpr ⟨is_digit, rfl⟩), List.append_assoc]

/-- Where no place is found, nothing is filled. -/
theorem fill_of_placeless (placeless : hasPlace template = false) :
    fill group template = template := by
  induction template with
  | nil => rfl
  | cons c rest ih =>
      obtain ⟨kept, rest_placeless⟩ := Bool.or_eq_false_iff.mp placeless
      rw [fill_cons group, ih rest_placeless]
      rintro rfl
      simpa using kept

/-- Empty groups leave less of a template that has a place. -/
theorem length_fill_le (template : List Char) :
    (fill (fun _ => []) template).length ≤ template.length := by
  fun_induction fill (fun _ => []) template with
  | case3 d rest number is_digit ih =>
      simp only [List.nil_append, List.length_cons]
      omega
  | case4 c d rest placeless ih => simpa using ih
  | _ => simp

theorem fill_ne_of_hasPlace (placed : hasPlace template = true) :
    fill (fun _ => []) template ≠ template := by
  obtain ⟨front, d, back, is_digit, rfl⟩ := hasPlace_iff.mp placed
  intro unchanged
  have lengths := congrArg List.length unchanged
  have front_le := length_fill_le front
  have back_le := length_fill_le back
  rw [fill_append_place _ front back is_digit] at lengths
  simp only [List.length_append, List.length_cons, List.length_nil] at lengths
  omega

end Template

/-! ## The groups of a match -/

/-- The text of a group of a match. -/
def Regex.Match.group (found : Match) (text : List Char) (number : Nat) : List Char :=
  match found.spans[number]?.join with
  | some (start, stop) => (text.take stop).drop start
  | none => []

/-- A filled template takes the place of what was matched. -/
theorem substitute_eq (text : Array Char) (found : Match) (template : String) :
    substitute text found template =
      String.ofList (text.toList.take found.start ++
        Template.fill (found.group text.toList) template.toList ++
          text.toList.drop found.stop) := by
  have whole : text.toList.take text.size = text.toList := List.take_length
  rw [substitute, slice, slice, whole, List.drop_zero]
  rfl

/-- A pattern without groups that matched nothing in front of a text. -/
theorem group_matchOf_nothing (text : List Char) :
    (matchOf 0 0 0 #[]).group text = fun _ => [] := by
  funext number
  cases number <;> rfl

end Redirects
