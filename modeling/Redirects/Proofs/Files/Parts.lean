import Redirects.Proofs.Files.Walk

/-!
# The parts of a path

A path is cut at its slashes, so the parts of two texts with a slash between them are those of the
one and those of the other.  A path that is put together from parts has these parts again, and leads
where they lead one after another.
-/

namespace Redirects.Path

/-! ## Parts of texts -/

/-- The parts of a text: what stands between slashes and is not empty. -/
def partsOf (text : List Char) : List (List Char) := (pieces text).filter (!·.isEmpty)

theorem written_eq (path : String) : written path = (partsOf path.toList).map String.ofList := rfl

theorem pieces_eq_splitOn (text : List Char) : pieces text = text.splitOn '/' := by
  induction text with
  | nil => rfl
  | cons c text ih =>
      have filled : text.splitOn '/' ≠ [] := List.splitOn_ne_nil _ _
      obtain ⟨piece, others, split_eq⟩ := List.exists_cons_of_ne_nil filled
      rw [pieces, ih, List.splitOn_cons_eq_if_modifyHead, split_eq]
      rfl

/-- Everything about the parts of a text follows from this equation. -/
theorem partsOf_append_slash (before rest : List Char) :
    partsOf (before ++ '/' :: rest) = partsOf before ++ partsOf rest := by
  simp only [partsOf, pieces_eq_splitOn, List.splitOn_append_cons_self, List.filter_append]

theorem partsOf_slash (rest : List Char) : partsOf ('/' :: rest) = partsOf rest :=
  partsOf_append_slash [] rest

theorem slash_not_mem_pieces {text piece : List Char} (listed : piece ∈ pieces text) :
    '/' ∉ piece := by
  induction text generalizing piece with
  | nil =>
      rw [pieces, List.mem_singleton] at listed
      simp [listed]
  | cons c text ih =>
      rw [pieces] at listed
      split at listed
      · next none_left =>
          rw [pieces_eq_splitOn] at none_left
          exact absurd none_left (List.splitOn_ne_nil _ _)
      · next first others pieces_eq =>
          rw [pieces_eq] at ih
          split at listed
          · rcases List.mem_cons.mp listed with rfl | inner
            · exact List.not_mem_nil
            · exact ih inner
          · next letter =>
              rcases List.mem_cons.mp listed with rfl | inner
              · have first_free := ih (List.mem_cons_self ..)
                rw [List.mem_cons, not_or]
                exact ⟨fun slash => letter (by rw [← slash, beq_self_eq_true]), first_free⟩
              · exact ih (List.mem_cons_of_mem _ inner)

/-- A text that is one part. -/
structure Whole (part : List Char) : Prop where
  filled : part ≠ []
  closed : '/' ∉ part

theorem whole_of_mem_partsOf {text part : List Char} (listed : part ∈ partsOf text) :
    Whole part where
  filled := by simpa using (List.mem_filter.mp listed).2
  closed := slash_not_mem_pieces (List.mem_filter.mp listed).1

theorem Whole.partsOf_eq {part : List Char} (whole : Whole part) : partsOf part = [part] := by
  rw [partsOf, pieces_eq_splitOn, List.splitOn_eq_singleton whole.closed]
  simp [whole.filled]

/-- What follows a slash, or starts a text, is a part of its own. -/
theorem partsOf_append {before part : List Char}
    (opened : before = [] ∨ before.getLast? = some '/') (whole : Whole part) :
    partsOf (before ++ part) = partsOf before ++ [part] := by
  rcases opened with rfl | slash
  · exact whole.partsOf_eq
  · obtain ⟨front, rfl⟩ := List.getLast?_eq_some_iff.mp slash
    rw [List.append_assoc, List.singleton_append, partsOf_append_slash, partsOf_append_slash,
      whole.partsOf_eq]
    simp [partsOf, pieces]

/-! ## Paths made of parts -/

theorem partsOf_intercalate (parts : List (List Char)) (whole : ∀ part ∈ parts, Whole part) :
    partsOf (['/'].intercalate parts) = parts := by
  by_cases none : parts = []
  · rw [none]
    rfl
  · rw [partsOf, pieces_eq_splitOn,
      List.splitOn_intercalate '/' (fun part listed => (whole part listed).closed) none,
      List.filter_eq_self]
    intro part listed
    simpa using (whole part listed).filled

theorem head?_intercalate_ne_slash (parts : List (List Char))
    (whole : ∀ part ∈ parts, Whole part) : (['/'].intercalate parts).head? ≠ some '/' := by
  cases parts with
  | nil => exact nofun
  | cons part parts =>
      obtain ⟨filled, closed⟩ := whole part (List.mem_cons_self ..)
      obtain ⟨c, rest, rfl⟩ := List.exists_cons_of_ne_nil filled
      have letter : c ≠ '/' := fun slash => closed (slash ▸ List.mem_cons_self ..)
      cases parts <;> simp [letter]

variable {parts : List String}

theorem toList_ofParts (absolute : Bool) (parts : List String) :
    (ofParts absolute parts).toList =
      (if absolute then ['/'] else []) ++ ['/'].intercalate (parts.map String.toList) := by
  rw [ofParts, String.toList_append, String.toList_intercalate]
  cases absolute <;> rfl

theorem written_ofParts (absolute : Bool) (whole : ∀ part ∈ parts, Whole part.toList) :
    written (ofParts absolute parts) = parts := by
  have parts_eq : partsOf (ofParts absolute parts).toList = parts.map String.toList := by
    have inner := partsOf_intercalate (parts.map String.toList) (by simpa using whole)
    rw [toList_ofParts]
    cases absolute with
    | false => exact inner
    | true => exact (partsOf_slash _).trans inner
  rw [written_eq, parts_eq, List.map_map]
  simp

theorem isAbsolute_ofParts (absolute : Bool) (whole : ∀ part ∈ parts, Whole part.toList) :
    isAbsolute (ofParts absolute parts) = absolute := by
  rw [isAbsolute, toList_ofParts]
  cases absolute with
  | true => rfl
  | false =>
      have letter := head?_intercalate_ne_slash (parts.map String.toList)
        (by simpa using whole)
      simpa using letter

/-- A path that is put together from parts leads where they lead one after another. -/
theorem placeFrom_ofParts (current : Place) (absolute : Bool)
    (whole : ∀ part ∈ parts, Whole part.toList) :
    placeFrom current (ofParts absolute parts) =
      parts.foldl after (if absolute then [] else current) := by
  rw [placeFrom_eq_foldl_written, written_ofParts absolute whole, isAbsolute_ofParts absolute whole]

theorem whole_of_mem_written {path part : String} (listed : part ∈ written path) :
    Whole part.toList := by
  rw [written_eq] at listed
  obtain ⟨text, within, rfl⟩ := List.mem_map.mp listed
  rw [String.toList_ofList]
  exact whole_of_mem_partsOf within

end Redirects.Path
