import Mathlib.Data.List.TakeWhile
import Redirects.Proofs.Files.Parts
import Redirects.Proofs.Files.Replacement

/-!
# The draft stands beside the file

The draft of a file has the path of the file up to the name at its end, and there a name that ends
in `.json.tmp`, which is never the name of the file.  Where the path has no name, or one that would
be a step upwards without its ending, nothing can be written to the draft.  So a draft that was
written changes nothing about the text at the path.
-/

namespace Redirects

namespace Path

/-! ## The name at the end of a text -/

/-- A text after which a part can start. -/
def Opened (before : List Char) : Prop := before = [] ∨ before.getLast? = some '/'

theorem dropIdle_eq_self {text : List Char} (no_slash : ∀ rest, text ≠ '/' :: rest)
    (no_dot : ∀ rest, text ≠ '.' :: '/' :: rest) : dropIdle text = text := by
  rw [dropIdle]
  · exact no_slash
  · exact no_dot

theorem dropIdle_filled (text : List Char) :
    (∀ rest, dropIdle text ≠ '/' :: rest) ∧ ∀ rest, dropIdle text ≠ '.' :: '/' :: rest := by
  fun_induction dropIdle text with
  | case1 rest ih => exact ih
  | case2 rest ih => exact ih
  | case3 text no_slash no_dot => exact ⟨no_slash, no_dot⟩

theorem dropIdle_suffix (text : List Char) : dropIdle text <:+ text := by
  fun_induction dropIdle text with
  | case1 rest ih => exact ih.trans (List.suffix_cons ..)
  | case2 rest ih => exact ih.trans ((List.suffix_cons ..).trans (List.suffix_cons ..))
  | case3 text => exact List.suffix_rfl

/-- It does not matter how much of what names nothing is cut off before. -/
theorem dropIdle_drop {text : List Char} {count : Nat}
    (idle : count + (dropIdle text).length ≤ text.length) :
    dropIdle (text.drop count) = dropIdle text := by
  fun_induction dropIdle text generalizing count with
  | case1 rest ih =>
      cases count with
      | zero => rw [List.drop_zero, dropIdle]
      | succ count =>
          rw [List.length_cons] at idle
          rw [List.drop_succ_cons, ih (by omega)]
  | case2 rest ih =>
      match count with
      | 0 => rw [List.drop_zero, dropIdle]
      | 1 => rw [List.drop_succ_cons, List.drop_zero, dropIdle]
      | count + 2 =>
          rw [List.length_cons, List.length_cons] at idle
          rw [List.drop_succ_cons, List.drop_succ_cons, ih (by omega)]
  | case3 text no_slash no_dot =>
      obtain rfl : count = 0 := by omega
      exact dropIdle_eq_self no_slash no_dot

/-- What names nothing at the end of a text is single dots. -/
theorem partsOf_dropIdle (text : List Char) :
    ∃ dots, (∀ dot ∈ dots, dot = ['.']) ∧
      partsOf text.reverse = partsOf (dropIdle text).reverse ++ dots := by
  fun_induction dropIdle text with
  | case1 rest ih =>
      have slash : partsOf ('/' :: rest).reverse = partsOf rest.reverse := by
        rw [List.reverse_cons, partsOf_append_slash]
        exact List.append_nil _
      rwa [slash]
  | case2 rest ih =>
      obtain ⟨dots, only_dots, parts_eq⟩ := ih
      have dot : partsOf ('.' :: '/' :: rest).reverse = partsOf rest.reverse ++ [['.']] := by
        rw [List.reverse_cons, List.reverse_cons, List.append_assoc, List.singleton_append,
          partsOf_append_slash]
        rfl
      refine ⟨dots ++ [['.']], ?_, by rw [dot, parts_eq, List.append_assoc]⟩
      simpa [or_imp, forall_and] using only_dots
  | case3 text => exact ⟨[], nofun, (List.append_nil _).symm⟩

/-- A text whose end names something is cut into what is before the name, and the name. -/
theorem splitEnd?_of_dropIdle {text before name : List Char} (opened : Opened before)
    (whole : Whole name) (idle : dropIdle text.reverse = (before ++ name).reverse) :
    splitEnd? text =
      if name = ['.'] ∨ name = ['.', '.'] then none else some (before, name) := by
  have inside : ∀ c ∈ name.reverse, (c != '/') = true := by
    intro c within
    rw [bne_iff_ne]
    rintro rfl
    exact whole.closed (List.mem_reverse.mp within)
  have outside : before.reverse.takeWhile (· != '/') = [] := by
    rcases opened with rfl | slash
    · rfl
    · obtain ⟨front, rfl⟩ := List.getLast?_eq_some_iff.mp slash
      rw [List.reverse_append]
      rfl
  have name_eq : (dropIdle text.reverse).takeWhile (· != '/') = name.reverse := by
    rw [idle, List.reverse_append, List.takeWhile_append_of_pos inside, outside, List.append_nil]
  have before_eq : (dropIdle text.reverse).drop name.length = before.reverse := by
    rw [idle, List.reverse_append, ← List.length_reverse, List.drop_left]
  rw [splitEnd?, name_eq, List.reverse_reverse, before_eq, List.reverse_reverse]
  simp [whole.filled]

/-- Every text ends in a piece without a slash, which stands at its start or behind a slash. -/
theorem exists_last_piece (text : List Char) :
    ∃ before piece, text = (before ++ piece).reverse ∧ Opened before ∧ '/' ∉ piece := by
  by_cases slash : '/' ∈ text
  · obtain ⟨piece, before, rfl, closed⟩ := List.eq_append_cons_of_mem slash
    exact ⟨before.reverse ++ ['/'], piece.reverse, by simp, .inr (by simp), by simpa using closed⟩
  · exact ⟨[], text.reverse, by simp, .inl rfl, by simpa using slash⟩

/-- A path without a name at its end: but for single dots it has no parts, or ends with a step
upwards. -/
def Nameless (path : String) : Prop :=
  ∃ front dots, written path = front ++ dots ∧ (∀ dot ∈ dots, dot = ".") ∧
    (front = [] ∨ front.getLast? = some "..")

theorem Nameless.of_partsOf {path : String} {front dots : List (List Char)}
    (parts_eq : partsOf path.toList = front ++ dots) (only_dots : ∀ dot ∈ dots, dot = ['.'])
    (last : front = [] ∨ front.getLast? = some ['.', '.']) : Nameless path := by
  refine ⟨front.map String.ofList, dots.map String.ofList, ?_, ?_, ?_⟩
  · rw [written_eq, parts_eq, List.map_append]
  · simpa using fun dot within => congrArg String.ofList (only_dots dot within)
  · rcases last with rfl | last
    · exact .inl rfl
    · exact .inr (by rw [List.getLast?_map, last]; rfl)

/-- The end of a path names nothing, or a name behind which only single dots stand. -/
theorem splitEnd?_cases (path : String) :
    (splitEnd? path.toList = none ∧ Nameless path) ∨
      ∃ before name dots, splitEnd? path.toList = some (before, name) ∧ Opened before ∧
        Whole name ∧ name ≠ ['.'] ∧ name ≠ ['.', '.'] ∧
          dropIdle path.toList.reverse = (before ++ name).reverse ∧
            (∀ dot ∈ dots, dot = ['.']) ∧
              partsOf path.toList = partsOf before ++ name :: dots := by
  obtain ⟨before, piece, idle, opened, closed⟩ := exists_last_piece (dropIdle path.toList.reverse)
  obtain ⟨dots, only_dots, parts_eq⟩ := partsOf_dropIdle path.toList.reverse
  obtain ⟨no_slash, no_dot⟩ := dropIdle_filled path.toList.reverse
  rw [List.reverse_reverse, idle, List.reverse_reverse] at parts_eq
  have start (alone : ∀ rest, dropIdle path.toList.reverse ≠ piece.reverse ++ '/' :: rest) :
      before = [] := by
    rcases opened with start | slash
    · exact start
    · obtain ⟨front, rfl⟩ := List.getLast?_eq_some_iff.mp slash
      exact absurd (by rw [idle]; simp) (alone front.reverse)
  by_cases empty : piece = []
  · subst empty
    obtain rfl := start no_slash
    exact .inl ⟨by simp [splitEnd?, idle], .of_partsOf parts_eq only_dots (.inl rfl)⟩
  have whole : Whole piece := ⟨empty, closed⟩
  have split_eq := splitEnd?_of_dropIdle opened whole idle
  by_cases stay : piece = ['.']
  · subst stay
    obtain rfl := start no_dot
    change partsOf path.toList = [] ++ ['.'] :: dots at parts_eq
    exact .inl ⟨split_eq, .of_partsOf parts_eq (by simpa using only_dots) (.inl rfl)⟩
  rw [partsOf_append opened whole] at parts_eq
  by_cases up : piece = ['.', '.']
  · subst up
    exact .inl ⟨split_eq, .of_partsOf parts_eq only_dots (.inr (by simp))⟩
  · rw [if_neg (not_or.mpr ⟨stay, up⟩)] at split_eq
    rw [List.append_assoc] at parts_eq
    exact .inr ⟨before, piece, dots, split_eq, opened, whole, stay, up, idle, only_dots, parts_eq⟩

/-! ## The ending of a name -/

/-- The last dot of a name is the start of its ending, unless it is the start of the name. -/
theorem splitName_append (stem : List Char) {ending : List Char} (dotless : '.' ∉ ending) :
    splitName (stem ++ '.' :: ending) =
      if stem = [] then ('.' :: ending, none) else (stem, some ending) := by
  have inside : ∀ c ∈ ending.reverse, (c != '.') = true := by
    intro c within
    rw [bne_iff_ne]
    rintro rfl
    exact dotless (List.mem_reverse.mp within)
  have ending_eq : (stem ++ '.' :: ending).reverse.takeWhile (· != '.') = ending.reverse := by
    rw [List.reverse_append, List.reverse_cons, List.append_assoc,
      List.takeWhile_append_of_pos inside]
    simp
  have length_eq : (stem ++ '.' :: ending).length = ending.length + 1 + stem.length := by
    rw [List.length_append, List.length_cons, Nat.add_comm]
  have stem_eq : (stem ++ '.' :: ending).take
      ((stem ++ '.' :: ending).length - ending.length - 1) = stem := by
    rw [length_eq, Nat.add_assoc, Nat.add_sub_cancel_left, Nat.add_sub_cancel_left, List.take_left]
  have shorter : ending.length ≠ (stem ++ '.' :: ending).length := by omega
  rw [splitName, ending_eq, List.reverse_reverse, stem_eq, beq_eq_false_iff_ne.mpr shorter]
  by_cases start : stem = [] <;> simp [start]

/-- A name has no ending, or one behind its last dot. -/
theorem splitName_cases (name : List Char) :
    splitName name = (name, none) ∨
      ∃ stem ending, stem ≠ [] ∧ '.' ∉ ending ∧ name = stem ++ '.' :: ending := by
  by_cases dotted : '.' ∈ name.reverse
  · obtain ⟨ending, stem, name_eq, dotless⟩ := List.eq_append_cons_of_mem dotted
    rw [List.reverse_eq_iff, List.reverse_append, List.reverse_cons, List.append_assoc,
      List.singleton_append] at name_eq
    rw [← List.mem_reverse] at dotless
    by_cases start : stem.reverse = []
    · rw [start, List.nil_append] at name_eq
      rw [name_eq]
      exact .inl (splitName_append [] dotless)
    · exact .inr ⟨_, _, start, dotless, name_eq⟩
  · have all_kept : name.reverse.takeWhile (· != '.') = name.reverse := by
      rw [List.takeWhile_eq_self_iff]
      intro c within
      rw [bne_iff_ne]
      rintro rfl
      exact dotted within
    exact .inl (by simp [splitName, all_kept])

/-! ## The path of the draft -/

/-- The ending of a draft. -/
def draftEnding : List Char := ['j', 's', 'o', 'n', '.', 't', 'm', 'p']

theorem setEnding_of_splitEnd? {text before name : List Char} (ending : List Char)
    (split_eq : splitEnd? text = some (before, name)) :
    setEnding text ending = before ++ (splitName name).1 ++ '.' :: ending := by
  rw [setEnding, split_eq]

/-- Where the end of a path names nothing, an ending has nothing to be put behind. -/
theorem setEnding_of_none {text : List Char} (ending : List Char)
    (nothing : splitEnd? text = none) : setEnding text ending = text := by
  rw [setEnding, nothing]

theorem nameless_of_splitEnd? {path : String} (nothing : splitEnd? path.toList = none) :
    Nameless path := by
  rcases splitEnd?_cases path with ⟨-, nameless⟩ | ⟨_, _, _, split_eq, -⟩
  · exact nameless
  · rw [nothing] at split_eq
    contradiction

theorem dropIdle_reverse_append {before name : List Char} (whole : Whole name)
    (stay : name ≠ ['.']) : dropIdle (before ++ name).reverse = (before ++ name).reverse := by
  rw [List.reverse_append]
  have filled : name.reverse ≠ [] := by simpa using whole.filled
  obtain ⟨last, others, reverse_eq⟩ := List.exists_cons_of_ne_nil filled
  have closed : '/' ∉ last :: others := by
    rw [← reverse_eq, List.mem_reverse]
    exact whole.closed
  rw [List.mem_cons, not_or] at closed
  rw [reverse_eq, List.cons_append]
  refine dropIdle_eq_self ?_ ?_
  · rintro rest same
    exact closed.1 (List.cons.inj same).1.symm
  · rintro rest same
    obtain ⟨rfl, behind⟩ := List.cons.inj same
    cases others with
    | nil =>
        rw [List.reverse_eq_iff] at reverse_eq
        exact stay reverse_eq
    | cons second others =>
        obtain ⟨rfl, -⟩ := List.cons.inj behind
        exact closed.2 (List.mem_cons_self ..)

/-- As much is cut off a text as the ending of its name is long.  Dots and slashes behind the name
come off first, so what is left ends with the name up to its last dot and a part of the ending. -/
theorem exists_dropIdle_take {text before stem ending : List Char}
    (whole : Whole (stem ++ '.' :: ending)) (filled : stem ≠ []) (dotless : '.' ∉ ending)
    (idle : dropIdle text.reverse = (before ++ (stem ++ '.' :: ending)).reverse) :
    ∃ rest, '.' ∉ rest ∧ Whole (stem ++ '.' :: rest) ∧
      dropIdle (text.take (text.length - ending.length)).reverse =
        (before ++ (stem ++ '.' :: rest)).reverse := by
  obtain ⟨tail, tail_eq⟩ := dropIdle_suffix text.reverse
  have length_eq := congrArg List.length tail_eq
  have named_length := congrArg List.length idle
  simp only [List.length_append, List.length_reverse, List.length_cons] at length_eq named_length
  have kept_eq : (text.take (text.length - ending.length)).reverse =
      text.reverse.drop ending.length := by
    rw [List.reverse_take]
    congr 1
    omega
  rw [kept_eq]
  -- Either only dots and slashes behind the name come off, or all of them and a part of the ending.
  by_cases enough : ending.length ≤ tail.length
  · refine ⟨ending, dotless, whole, ?_⟩
    rw [dropIdle_drop (by rw [List.length_reverse]; omega), idle]
  · have cut_eq : text.reverse.drop ending.length =
        (before ++ (stem ++ '.' :: (ending.reverse.drop (ending.length - tail.length)).reverse)
          ).reverse := by
      rw [← tail_eq, List.drop_append, List.drop_eq_nil_of_le (by omega), idle]
      simp only [List.reverse_append, List.reverse_cons, List.append_assoc, List.nil_append,
        List.reverse_reverse]
      rw [List.drop_append_of_le_length (by rw [List.length_reverse]; omega)]
    have fewer : ∀ c ∈ (ending.reverse.drop (ending.length - tail.length)).reverse, c ∈ ending :=
      fun c within => List.mem_reverse.mp (List.mem_of_mem_drop (List.mem_reverse.mp within))
    have still_whole : Whole
        (stem ++ '.' :: (ending.reverse.drop (ending.length - tail.length)).reverse) := by
      refine ⟨by simp, fun slash => whole.closed ?_⟩
      rw [List.mem_append, List.mem_cons] at slash ⊢
      exact slash.imp_right (Or.imp_right (fewer '/'))
    refine ⟨_, fun dot => dotless (fewer '.' dot), still_whole, ?_⟩
    rw [cut_eq]
    refine dropIdle_reverse_append still_whole fun same => ?_
    rw [List.append_eq_singleton_iff] at same
    simp [filled] at same

theorem draftPath_eq (path : String) :
    Files.draftPath path = String.ofList (setEnding
      (path.toList.take (path.toList.length - ((endingOf? path.toList).getD []).length))
        draftEnding) := rfl

/-- Another name is put in place of that of the file, unless what is left of the name without its
ending is a step upwards. -/
theorem draftPath_of_splitEnd? {path : String} {before name : List Char} (opened : Opened before)
    (whole : Whole name) (split_eq : splitEnd? path.toList = some (before, name))
    (idle : dropIdle path.toList.reverse = (before ++ name).reverse) :
    (Files.draftPath path).toList = before ++ (splitName name).1 ++ '.' :: draftEnding ∨
      Nameless (Files.draftPath path) := by
  have ending_eq : endingOf? path.toList = (splitName name).2 := by
    rw [endingOf?, split_eq]
    rfl
  rw [draftPath_eq, ending_eq]
  rcases splitName_cases name with no_ending | ⟨stem, ending, filled, dotless, rfl⟩
  · refine .inl ?_
    rw [no_ending, String.toList_ofList, Option.getD_none, List.length_nil, Nat.sub_zero,
      List.take_length, setEnding_of_splitEnd? _ split_eq, no_ending]
  · obtain ⟨rest, rest_dotless, still_whole, left⟩ :=
      exists_dropIdle_take whole filled dotless idle
    have kept_split := splitEnd?_of_dropIdle opened still_whole left
    rw [splitName_append stem dotless, if_neg filled, Option.getD_some]
    -- What is left of `..ext` is a step upwards; any other rest keeps the stem.
    split at kept_split
    · rw [setEnding_of_none _ kept_split]
      refine .inr (nameless_of_splitEnd? ?_)
      rwa [String.toList_ofList]
    · refine .inl ?_
      rw [String.toList_ofList, setEnding_of_splitEnd? _ kept_split,
        splitName_append stem rest_dotless, if_neg filled]

theorem draftPath_of_none {path : String} (nothing : splitEnd? path.toList = none) :
    Files.draftPath path = path := by
  rw [draftPath_eq, endingOf?, nothing, Option.bind_none, Option.getD_none, List.length_nil,
    Nat.sub_zero, List.take_length, setEnding_of_none _ nothing, String.ofList_toList]

/-- The name of a draft, for that of its file. -/
def draftName (name : List Char) : List Char := (splitName name).1 ++ '.' :: draftEnding

theorem draftName_ne (name : List Char) : draftName name ≠ name := by
  intro same
  rcases splitName_cases name with no_ending | ⟨stem, ending, filled, dotless, rfl⟩
  · rw [draftName, no_ending] at same
    exact absurd same (by simp)
  · rw [draftName, splitName_append stem dotless, if_neg filled, List.append_cancel_left_eq] at same
    rw [← (List.cons.inj same).2] at dotless
    exact dotless (by decide)

theorem whole_draftName {name : List Char} (whole : Whole name) : Whole (draftName name) := by
  have ending_closed : '/' ∉ '.' :: draftEnding := by decide
  refine ⟨by simp [draftName], fun slash => ?_⟩
  rcases List.mem_append.mp slash with in_stem | in_ending
  · rcases splitName_cases name with no_ending | ⟨stem, ending, filled, dotless, rfl⟩
    · rw [no_ending] at in_stem
      exact whole.closed in_stem
    · rw [splitName_append stem dotless, if_neg filled] at in_stem
      exact whole.closed (List.mem_append_left _ in_stem)
  · exact ending_closed in_ending

theorem length_draftName (name : List Char) :
    (draftName name).length = (splitName name).1.length + 9 := by
  rw [draftName, List.length_append]
  rfl

theorem getLast?_append_draftName (before name : List Char) :
    (before ++ draftName name).getLast? = some 'p' := by
  rw [draftName, draftEnding, List.getLast?_append, List.getLast?_append]
  rfl

/-- A path starts at the root if what stands before a part of it does. -/
theorem isAbsolute_eq {path : String} {before part rest : List Char} (whole : Whole part)
    (path_eq : path.toList = before ++ part ++ rest) :
    isAbsolute path = (before.head? == some '/') := by
  rw [isAbsolute, path_eq]
  cases before with
  | cons c before => rfl
  | nil =>
      obtain ⟨c, letters, rfl⟩ := List.exists_cons_of_ne_nil whole.filled
      have letter : c ≠ '/' := fun slash => whole.closed (slash ▸ List.mem_cons_self ..)
      simpa using letter

/-- Two paths that differ in the names at their ends, behind the first of which single dots may
stand. -/
structure Beside (path draft : String) (front : List String) (name other : String)
    (dots : List String) : Prop where
  written_path : written path = front ++ name :: dots
  idle : ∀ dot ∈ dots, dot = "."
  written_draft : written draft = front ++ [other]
  start : isAbsolute draft = isAbsolute path
  closed : endsOpen draft = false
  stay : name ≠ "."
  up : name ≠ ".."
  other_stay : other ≠ "."
  other_up : other ≠ ".."
  apart : other ≠ name

/-- A draft stands beside its file, unless its path has no name at its end. -/
theorem beside_draftPath (path : String) :
    (∃ front name other dots, Beside path (Files.draftPath path) front name other dots) ∨
      Nameless (Files.draftPath path) := by
  rcases splitEnd?_cases path with ⟨nothing, nameless⟩ |
    ⟨before, name, dots, split_eq, opened, whole, stay, up, idle, only_dots, parts_eq⟩
  · exact .inr ((draftPath_of_none nothing).symm ▸ nameless)
  rcases draftPath_of_splitEnd? opened whole split_eq idle with draft_eq | nameless
  · refine .inl ⟨(partsOf before).map String.ofList, String.ofList name,
      String.ofList (draftName name), dots.map String.ofList, ?_⟩
    rw [List.append_assoc] at draft_eq
    change (Files.draftPath path).toList = before ++ draftName name at draft_eq
    have ofList_ne {text other : List Char} (differ : text ≠ other) :
        String.ofList text ≠ String.ofList other := fun same => differ (String.ofList_inj.mp same)
    have longer {text : List Char} (short : text.length < 9) : draftName name ≠ text := by
      rintro rfl
      rw [length_draftName] at short
      omega
    obtain ⟨tail, path_eq⟩ := dropIdle_suffix path.toList.reverse
    rw [idle, ← List.reverse_reverse tail, ← List.reverse_append, List.reverse_inj] at path_eq
    exact
      { written_path := by rw [written_eq, parts_eq, List.map_append]; rfl
        idle := by simpa using fun dot within => congrArg String.ofList (only_dots dot within)
        written_draft := by
          rw [written_eq, draft_eq, partsOf_append opened (whole_draftName whole), List.map_append]
          rfl
        start := by
          rw [isAbsolute_eq whole path_eq.symm, isAbsolute_eq (whole_draftName whole)
            (draft_eq.trans (List.append_nil _).symm)]
        closed := by
          rw [endsOpen, draft_eq, getLast?_append_draftName]
          rfl
        stay := ofList_ne stay
        up := ofList_ne up
        other_stay := ofList_ne (longer (by decide))
        other_up := ofList_ne (longer (by decide))
        apart := ofList_ne (draftName_ne name) }
  · exact .inr nameless

end Path

namespace Files

variable {files other after : Files} {there : Place} {dots : List String}

/-! ## What is read at the end of a walk -/

theorem readText_of_place_error {path : String} {fault : FileFault} (failed : files.place path = .error fault) :
    files.readText path = .error fault := by
  rw [readText, failed]
  rfl

theorem readText_of_missing {path : String} (leads : files.place path = .ok there)
    (missing : files.at? there = none) : files.readText path = .error .notFound := by
  rw [readText, leads]
  simp only [bind, Except.bind, missing]

theorem readText_congr {path : String} (same_place : other.place path = files.place path)
    (same : ∀ there, files.place path = .ok there → other.at? there = files.at? there) :
    other.readText path = files.readText path := by
  cases leads : files.place path with
  | error fault =>
      rw [readText_of_place_error leads, readText_of_place_error (same_place.trans leads)]
  | ok there =>
      rw [readText, readText, same_place, leads]
      simp only [bind, Except.bind]
      rw [same there leads]

/-! ## Writing the draft -/

/-- Where a path has no name at its end, nothing but a directory can be. -/
theorem Sound.directory_of_nameless (sound : files.Sound) {path : String}
    (nameless : Path.Nameless path) (leads : files.place path = .ok there) :
    files.at? there = some .directory := by
  obtain ⟨front, dots, written_eq, only_dots, last⟩ := nameless
  obtain ⟨idle, only_idle, steps_eq⟩ := Path.exists_steps_eq path
  have start : files.at? (files.origin path) = some .directory := by
    rw [origin]
    split
    · rfl
    · exact sound.current
  have walked := (place_eq_ok_iff.mp leads).2
  rw [steps_eq, written_eq, List.append_assoc] at walked
  obtain ⟨middle, to_middle, onward⟩ := walk_append_ok walked
  have stays : there = middle := by
    rw [walk_eq_foldl onward]
    refine Path.foldl_after_dots fun dot within => ?_
    exact (List.mem_append.mp within).elim (only_dots dot) (only_idle dot)
  rw [stays]
  rcases last with rfl | last
  · cases to_middle
    exact start
  · obtain ⟨upper, rfl⟩ := List.getLast?_eq_some_iff.mp last
    obtain ⟨below, -, up⟩ := walk_append_ok to_middle
    obtain ⟨passable, -, ⟨⟩⟩ := walk_cons_eq_ok_iff.mp up
    exact sound.parent below _ passable

/-- A draft that was written stands beside its file, in a directory. -/
structure Drafted (files : Files) (path : String) (directory : Place) (name other : String)
    (dots : List String) : Prop where
  front : ∃ front, files.walk (files.origin path) front = .ok directory ∧
    Path.steps path = front ++ name :: dots
  passable : files.at? directory = some .directory
  idle : ∀ dot ∈ dots, dot = "."
  stay : name ≠ "."
  up : name ≠ ".."
  draft_eq : files.draftPlace path = directory ++ [other]
  apart : other ≠ name

theorem drafted_of_write (sound : files.Sound) {path : String} {content : Content}
    (wrote : files.write (draftPath path) content = .ok after) :
    ∃ directory name other dots, files.Drafted path directory name other dots := by
  obtain ⟨there, leads, free, rfl⟩ := write_eq_ok wrote
  rcases Path.beside_draftPath path with ⟨front, name, other, dots, beside⟩ | nameless
  · obtain ⟨idle, only_idle, steps_eq⟩ := Path.exists_steps_eq path
    have draft_steps : Path.steps (draftPath path) = front ++ [other] := by
      rw [Path.steps, beside.closed, ← beside.written_draft]
      rfl
    have start : files.origin (draftPath path) = files.origin path := by
      rw [origin, origin, beside.start]
    -- The walk to the draft has come to the directory in which the path ends.
    have walked := (place_eq_ok_iff.mp leads).2
    rw [draft_steps, start] at walked
    obtain ⟨directory, to_directory, last⟩ := walk_append_ok walked
    obtain ⟨passable, -, ⟨⟩⟩ := walk_cons_eq_ok_iff.mp last
    refine ⟨directory, name, other, dots ++ idle, ⟨front, to_directory, ?_⟩, passable, ?_,
      beside.stay, beside.up, ?_, beside.apart⟩
    · rw [steps_eq, beside.written_path, List.append_assoc, List.cons_append]
    · exact fun dot within => (List.mem_append.mp within).elim (beside.idle dot) (only_idle dot)
    · rw [draftPlace, ← eq_placeFrom_of_place leads,
        Path.after_name beside.other_up beside.other_stay]
  · exact absurd (sound.directory_of_nameless nameless leads) free

namespace Drafted

variable {path : String} {directory : Place} {name other : String}

theorem placeFrom_eq (drafted : files.Drafted path directory name other dots) :
    Path.placeFrom files.current path = directory ++ [name] := by
  obtain ⟨front, to_directory, steps_eq⟩ := drafted.front
  change (Path.steps path).foldl Path.after (files.origin path) = _
  rw [steps_eq, List.foldl_append, ← walk_eq_foldl to_directory, List.foldl_cons,
    Path.after_name drafted.up drafted.stay, Path.foldl_after_dots drafted.idle]

theorem draftPlace_ne (drafted : files.Drafted path directory name other dots) :
    files.draftPlace path ≠ Path.placeFrom files.current path := by
  rw [drafted.draft_eq, drafted.placeFrom_eq, Ne, List.append_cancel_left_eq]
  simpa using drafted.apart

end Drafted

/-- What is read at a path stays as it is when its draft is written. -/
theorem readText_write_draft (sound : files.Sound) {path : String} {content : Content}
    (wrote : files.write (draftPath path) content = .ok after) :
    after.readText path = files.readText path := by
  obtain ⟨directory, name, other, dots, drafted⟩ := drafted_of_write sound wrote
  obtain ⟨front, to_directory, steps_eq⟩ := drafted.front
  have more := directoriesIn_write wrote
  have same_current := current_write wrote
  have same_file : after.at? (directory ++ [name]) = files.at? (directory ++ [name]) := by
    rw [← drafted.placeFrom_eq]
    exact at?_write_of_ne wrote drafted.draftPlace_ne.symm
  have same_last : after.walk directory (name :: dots) = files.walk directory (name :: dots) := by
    have passable := drafted.passable
    have still_passable := more directory passable
    rcases Nat.lt_or_ge maxName name.utf8ByteSize with long | short
    · rw [walk_cons_of_long passable drafted.stay drafted.up long,
        walk_cons_of_long still_passable drafted.stay drafted.up long]
    · rw [walk_cons_of_passable passable (.inr (.inr short)),
        walk_cons_of_passable still_passable (.inr (.inr short)),
        Path.after_name drafted.up drafted.stay, walk_dots_congr drafted.idle same_file]
  have same_place : after.place path = files.place path := by
    have same_origin : after.origin path = files.origin path := by
      rw [origin, origin, same_current]
    rw [place, place, same_origin, steps_eq, walk_append_eq to_directory,
      walk_append_eq (walk_of_directoriesIn more to_directory), same_last]
  refine readText_congr same_place fun there leads => ?_
  rwa [eq_placeFrom_of_place leads, drafted.placeFrom_eq]

end Files

end Redirects
