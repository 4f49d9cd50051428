import Redirects.Proofs.Files.Draft

/-!
# Making the directories of a path

Directories are made only at places that the path runs through before it names its file.  What is
read at the path stays as it is, unless the path strays: a directory on its way is missing, and
behind it the path goes upwards again or has a name that cannot be looked up.  There it was nowhere,
and leads on once the missing directory is made.
-/

namespace Redirects

namespace Path

variable {path : String} {place current : Place}

/-- The path leads to the place, and goes on to name something else. -/
def RunsThrough (current : Place) (path : String) (place : Place) : Prop :=
  ∃ front back, steps path = front ++ back ∧ (∃ step ∈ back, step ≠ ".") ∧
    place = front.foldl after (if isAbsolute path then [] else current)

theorem foldl_after_filter (steps : List String) (place : Place) :
    (steps.filter (· != ".")).foldl after place = steps.foldl after place := by
  induction steps generalizing place with
  | nil => rfl
  | cons step steps ih =>
      by_cases dot : step = "."
      · rw [dot]
        exact ih place
      · rw [List.filter_cons_of_pos (by simpa using dot)]
        exact ih _

/-- Steps without one upwards lead downwards. -/
theorem foldl_after_down {steps : List String} (down : ∀ step ∈ steps, step ≠ "..")
    (place : Place) : steps.foldl after place = place ++ steps.filter (· != ".") := by
  induction steps generalizing place with
  | nil => exact (List.append_nil place).symm
  | cons step steps ih =>
      rw [List.forall_mem_cons] at down
      rw [List.foldl_cons, ih down.2]
      by_cases dot : step = "."
      · rw [dot]
        rfl
      · rw [after_name down.1 dot, List.filter_cons_of_pos (by simpa using dot), List.append_assoc,
          List.singleton_append]

/-- What comes before a name among the names of a path comes before it in the path. -/
theorem exists_split_of_filter {written named rest : List String} {name : String}
    (filtered : written.filter (· != ".") = named ++ name :: rest) :
    ∃ front back, written = front ++ back ∧ (∃ step ∈ back, step ≠ ".") ∧
      ∀ place, front.foldl after place = named.foldl after place := by
  obtain ⟨front, back, rfl, front_eq, back_eq⟩ := List.filter_eq_append_iff.mp filtered
  have within : name ∈ back.filter (· != ".") := by
    rw [back_eq]
    exact List.mem_cons_self ..
  rw [List.mem_filter, bne_iff_ne] at within
  refine ⟨front, back, rfl, ⟨name, within.1, within.2⟩, fun place => ?_⟩
  rw [← front_eq, foldl_after_filter]

theorem exists_split_of_parts {named rest : List String} {name : String} (filled : named ≠ [])
    (parts_eq : parts path = named ++ name :: rest) :
    ∃ front back, written path = front ++ back ∧ (∃ step ∈ back, step ≠ ".") ∧
      ∀ place, front.foldl after place = named.foldl after place := by
  rw [parts] at parts_eq
  split at parts_eq
  · next others written_eq =>
      have behind_dot {named : List String}
          (filtered : others.filter (· != ".") = named ++ name :: rest) :
          ∃ front back, written path = front ++ back ∧ (∃ step ∈ back, step ≠ ".") ∧
            ∀ place, front.foldl after place = named.foldl after place := by
        obtain ⟨front, back, rfl, onward, same⟩ := exists_split_of_filter filtered
        exact ⟨"." :: front, back, written_eq, onward, same⟩
      split at parts_eq
      · exact behind_dot parts_eq
      · obtain ⟨first, named, rfl⟩ := List.exists_cons_of_ne_nil filled
        obtain ⟨rfl, filtered⟩ := List.cons.inj parts_eq
        obtain ⟨front, back, split_eq, onward, same⟩ := behind_dot filtered
        exact ⟨front, back, split_eq, onward, same⟩
  · exact exists_split_of_filter parts_eq

theorem mem_written_of_mem_parts {part : String} (listed : part ∈ parts path) :
    part ∈ written path := by
  rw [parts] at listed
  split at listed
  · next others written_eq =>
      rw [written_eq]
      split at listed
      · exact List.mem_cons_of_mem _ ((List.mem_filter.mp listed).1)
      · rcases List.mem_cons.mp listed with rfl | inner
        · exact List.mem_cons_self ..
        · exact List.mem_cons_of_mem _ ((List.mem_filter.mp inner).1)
  · exact (List.mem_filter.mp listed).1

/-- The path of a first few of the parts before the last leads where the path runs through. -/
theorem runsThrough_of_prefix {named : List String} (filled : named ≠ [])
    (before : named <+: (parts path).dropLast) :
    RunsThrough current path (placeFrom current (ofParts (isAbsolute path) named)) := by
  have some_parts : parts path ≠ [] := by
    intro none
    rw [none] at before
    exact filled (List.prefix_nil.mp before)
  obtain ⟨rest, dropLast_eq⟩ := before
  have parts_eq : parts path = named ++ (rest ++ [(parts path).getLast some_parts]) := by
    rw [← List.append_assoc, dropLast_eq, List.dropLast_concat_getLast]
  obtain ⟨name, others, rest_eq⟩ : ∃ name others,
      rest ++ [(parts path).getLast some_parts] = name :: others :=
    List.exists_cons_of_ne_nil (by simp)
  rw [rest_eq] at parts_eq
  obtain ⟨front, back, written_eq, ⟨step, within, onward⟩, same⟩ :=
    exists_split_of_parts filled parts_eq
  obtain ⟨idle, -, steps_eq⟩ := exists_steps_eq path
  refine ⟨front, back ++ idle, ?_, ⟨step, List.mem_append_left _ within, onward⟩, ?_⟩
  · rw [steps_eq, written_eq, List.append_assoc]
  · rw [placeFrom_ofParts, same]
    intro part listed
    have among : part ∈ parts path := by
      rw [parts_eq]
      exact List.mem_append_left _ listed
    exact whole_of_mem_written (mem_written_of_mem_parts among)

end Path

namespace Files

variable {files other : Files} {path : String} {place there gap : Place} {front back : List String}

/-! ## Where directories are made -/

theorem at?_makeDirectory_of_ne (made : files.makeDirectory path = .ok other)
    (apart : place ≠ Path.placeFrom files.current path) : other.at? place = files.at? place := by
  obtain ⟨there, leads, made⟩ := bind_ok_iff.mp made
  split at made
  · contradiction
  · cases made
    rw [at?_put_of_ne]
    rwa [eq_placeFrom_of_place leads]

theorem at?_makeDirectories_of_ne {absolute : Bool} {parts : List String}
    (apart : ∀ named, named ≠ [] → named <+: parts.reverse →
      place ≠ Path.placeFrom files.current (Path.ofParts absolute named)) :
    (files.makeDirectories absolute parts).2.at? place = files.at? place := by
  induction parts with
  | nil => rfl
  | cons name parents ih =>
      have whole_apart := apart (name :: parents).reverse (by simp) List.prefix_rfl
      have parents_kept := ih fun named filled before =>
        apart named filled (before.trans (by rw [List.reverse_cons]; exact List.prefix_append ..))
      have same_current := (grown_makeDirectories files absolute parents).current
      rw [makeDirectories]
      split
      · next made => exact at?_makeDirectory_of_ne made whole_apart
      · split
        · next made_parents =>
            rw [made_parents] at parents_kept same_current
            split
            · next made =>
                rw [← same_current] at whole_apart
                exact (at?_makeDirectory_of_ne made whole_apart).trans parents_kept
            · exact parents_kept
        · exact parents_kept
      · rfl

/-- Directories are made only where the path runs through. -/
theorem at?_makeParents_of_not_runsThrough (apart : ¬Path.RunsThrough files.current path place) :
    (files.makeParents path).2.at? place = files.at? place := by
  rw [makeParents, Path.parent?]
  split
  · next absolute parts parent_eq =>
      split at parent_eq
      · contradiction
      · obtain ⟨rfl, rfl⟩ := Prod.mk.inj (Option.some.inj parent_eq)
        refine at?_makeDirectories_of_ne fun named filled before => ?_
        rw [List.reverse_reverse] at before
        rintro rfl
        exact apart (Path.runsThrough_of_prefix filled before)
  · rfl

/-! ## What is read at a path whose directories are made -/

/-- Only the first steps of a path find something: the rest of them stands behind a place where
nothing is. -/
structure Gap (files : Files) (path : String) (front back : List String) (gap : Place) : Prop where
  steps_eq : Path.steps path = front ++ back
  walked : files.walk (files.origin path) front = .ok gap
  missing : files.at? gap = none

/-- A path strays if it goes upwards behind a missing directory, or has a name there that is too
long to be looked up. -/
def Strays (files : Files) (path : String) : Prop :=
  ∃ front back gap, files.Gap path front back gap ∧
    ∃ step ∈ back, step = ".." ∨ maxName < step.utf8ByteSize

/-- A path without steps upwards whose names are not too long does not stray. -/
theorem not_strays_of_steps
    (straight : ∀ step ∈ Path.steps path, step ≠ ".." ∧ step.utf8ByteSize ≤ maxName) :
    ¬files.Strays path := by
  rintro ⟨front, back, gap, at_gap, step, within, astray⟩
  have listed : step ∈ Path.steps path := by
    rw [at_gap.steps_eq]
    exact List.mem_append_right _ within
  rcases astray with up | long
  · exact (straight step listed).1 up
  · exact absurd (straight step listed).2 (Nat.not_le_of_lt long)

/-- A walk ends the same way when directories are made, unless it comes to where nothing is. -/
theorem walk_of_grown (grown : files.Grown other) (place : Place) (steps : List String) :
    other.walk place steps = files.walk place steps ∨
      ∃ front back gap, steps = front ++ back ∧ files.walk place front = .ok gap ∧
        files.at? gap = none := by
  induction steps generalizing place with
  | nil => exact .inl rfl
  | cons step steps ih =>
      cases here : files.at? place with
      | none => exact .inr ⟨[], step :: steps, place, rfl, rfl, here⟩
      | some node =>
          have still_here := grown.kept place node here
          cases node with
          | file content =>
              refine .inl ?_
              rw [walk, walk, here, still_here]
          | directory =>
              by_cases short : step = "." ∨ step = ".." ∨ step.utf8ByteSize ≤ maxName
              · rw [walk_cons_of_passable here short, walk_cons_of_passable still_here short]
                rcases ih (Path.after place step) with same | ⟨front, back, gap, rfl, walked, missing⟩
                · exact .inl same
                · exact .inr ⟨step :: front, back, gap, rfl,
                    walk_cons_eq_ok_iff.mpr ⟨here, short, walked⟩, missing⟩
              · rw [not_or, not_or, Nat.not_le] at short
                refine .inl ?_
                rw [walk_cons_of_long here short.1 short.2.1 short.2.2,
                  walk_cons_of_long still_here short.1 short.2.1 short.2.2]

/-- A walk downwards where no files are comes to its end or to where nothing is. -/
theorem walk_down (no_files : ∀ below content, place <+: below →
      files.at? below ≠ some (.file content)) {steps : List String}
    (straight : ∀ step ∈ steps, step ≠ ".." ∧ step.utf8ByteSize ≤ maxName) :
    files.walk place steps = .error .notFound ∨ ∃ there, files.walk place steps = .ok there := by
  induction steps generalizing place with
  | nil => exact .inr ⟨place, rfl⟩
  | cons step steps ih =>
      rw [List.forall_mem_cons] at straight
      cases here : files.at? place with
      | none =>
          refine .inl ?_
          rw [walk, here]
      | some node =>
          cases node with
          | file content => exact absurd here (no_files place content List.prefix_rfl)
          | directory =>
              rw [walk_cons_of_passable here (.inr (.inr straight.1.2))]
              refine ih (fun below content inside => no_files below content ?_) straight.2
              refine List.IsPrefix.trans ?_ inside
              by_cases dot : step = "."
              · rw [dot]
                exact List.prefix_rfl
              · rw [Path.after_name straight.1.1 dot]
                exact List.prefix_append ..

namespace Gap

theorem place_eq (at_gap : files.Gap path front back gap) (checked : checkPath path = .ok ()) :
    files.place path = files.walk gap back := by
  rw [place, checked, at_gap.steps_eq, ← walk_append_eq at_gap.walked]
  rfl

theorem readText_eq (at_gap : files.Gap path front back gap) (checked : checkPath path = .ok ()) :
    files.readText path = .error .notFound := by
  cases back with
  | nil => exact readText_of_missing (at_gap.place_eq checked) at_gap.missing
  | cons step back =>
      refine readText_of_place_error ?_
      rw [at_gap.place_eq checked, walk, at_gap.missing]

/-- Nothing is below a place where nothing is. -/
theorem at?_below (at_gap : files.Gap path front back gap) (sound : files.Sound) {below : Place}
    (inside : gap <+: below) : files.at? below = none := by
  by_cases same : gap = below
  · rw [← same]
    exact at_gap.missing
  · cases present : files.at? below with
    | none => rfl
    | some node =>
        have directory := sound.directory_of_below inside same present
        rw [at_gap.missing] at directory
        contradiction

theorem placeFrom_eq (at_gap : files.Gap path front back gap) (down : ∀ step ∈ back, step ≠ "..") :
    Path.placeFrom files.current path = gap ++ back.filter (· != ".") := by
  change (Path.steps path).foldl Path.after (files.origin path) = _
  rw [at_gap.steps_eq, List.foldl_append, ← walk_eq_foldl at_gap.walked, Path.foldl_after_down down]

/-- A path that goes on downwards where nothing is never comes by the place it leads to. -/
theorem not_runsThrough (at_gap : files.Gap path front back gap) (sound : files.Sound)
    (down : ∀ step ∈ back, step ≠ "..") :
    ¬Path.RunsThrough files.current path (Path.placeFrom files.current path) := by
  have end_eq := at_gap.placeFrom_eq down
  rintro ⟨first, onward, steps_eq, ⟨step, within, named⟩, first_eq⟩
  change _ = first.foldl Path.after (files.origin path) at first_eq
  -- The place is behind the gap, so the rest of the path would name nothing.
  have behind (middle : List String) (first_is : first = front ++ middle)
      (back_is : back = middle ++ onward) : False := by
    have middle_down : ∀ step ∈ middle, step ≠ ".." := fun step listed =>
      down step (back_is ▸ List.mem_append_left _ listed)
    rw [first_is, List.foldl_append, ← walk_eq_foldl at_gap.walked,
      Path.foldl_after_down middle_down, end_eq, back_is, List.filter_append,
      List.append_cancel_left_eq, List.append_right_eq_self, List.filter_eq_nil_iff] at first_eq
    exact first_eq step within (by simpa using named)
  rcases List.append_eq_append_iff.mp (at_gap.steps_eq.symm.trans steps_eq) with
    ⟨middle, first_is, back_is⟩ | ⟨middle, front_is, onward_is⟩
  · exact behind middle first_is back_is
  · cases middle with
    | nil => exact behind [] (by simpa using front_is.symm) onward_is.symm
    | cons passed middle =>
        -- The walk to the gap goes on from the place, where nothing is.
        have walked := at_gap.walked
        rw [front_is] at walked
        obtain ⟨there, to_there, beyond⟩ := walk_append_ok walked
        obtain ⟨passable, -⟩ := walk_cons_eq_ok_iff.mp beyond
        rw [walk_eq_foldl to_there, ← first_eq, end_eq,
          at_gap.at?_below sound (List.prefix_append ..)] at passable
        contradiction

/-- Making the directories of a path that goes on downwards makes nothing at its end. -/
theorem readText_makeParents (at_gap : files.Gap path front back gap) (sound : files.Sound)
    (checked : checkPath path = .ok ())
    (straight : ∀ step ∈ back, step ≠ ".." ∧ step.utf8ByteSize ≤ maxName) :
    (files.makeParents path).2.readText path = .error .notFound := by
  have grown := grown_makeParents files path
  have no_files : ∀ below content, gap <+: below →
      (files.makeParents path).2.at? below ≠ some (.file content) := by
    intro below content inside held
    rw [grown.file_iff, at_gap.at?_below sound inside] at held
    contradiction
  have down : ∀ step ∈ back, step ≠ ".." := fun step within => (straight step within).1
  have place_eq : (files.makeParents path).2.place path =
      (files.makeParents path).2.walk gap back := by
    have walked := walk_of_directoriesIn grown.directoriesIn at_gap.walked
    rw [place, checked, origin, grown.current, at_gap.steps_eq, ← walk_append_eq walked]
    rfl
  -- Directories may have been made on the way, but none at its end.
  rcases walk_down no_files straight with stopped | ⟨there, arrived⟩
  · exact readText_of_place_error (place_eq.trans stopped)
  · have leads := place_eq.trans arrived
    refine readText_of_missing leads ?_
    rw [eq_placeFrom_of_place leads, grown.current,
      at?_makeParents_of_not_runsThrough (at_gap.not_runsThrough sound down),
      at_gap.placeFrom_eq down]
    exact at_gap.at?_below sound (List.prefix_append ..)

end Gap

/-- What is read at a path that does not stray stays as it is when its directories are made. -/
theorem readText_makeParents (sound : files.Sound) (keeps_on : ¬files.Strays path) :
    (files.makeParents path).2.readText path = files.readText path := by
  have grown := grown_makeParents files path
  cases checked : checkPath path with
  | error fault =>
      have unchecked (tree : Files) : tree.place path = .error fault := by
        rw [place, checked]
        rfl
      rw [readText_of_place_error (unchecked _), readText_of_place_error (unchecked _)]
  | ok =>
      -- A path that comes to where nothing is leads nowhere before and after.
      have nowhere {front back : List String} {gap : Place}
          (at_gap : files.Gap path front back gap) :
          (files.makeParents path).2.readText path = files.readText path := by
        have straight : ∀ step ∈ back, step ≠ ".." ∧ step.utf8ByteSize ≤ maxName :=
          fun step within =>
            ⟨fun up => keeps_on ⟨front, back, gap, at_gap, step, within, .inl up⟩,
              Nat.le_of_not_lt fun long =>
                keeps_on ⟨front, back, gap, at_gap, step, within, .inr long⟩⟩
        rw [at_gap.readText_eq checked, at_gap.readText_makeParents sound checked straight]
      rcases walk_of_grown grown (files.origin path) (Path.steps path) with
        same | ⟨front, back, gap, steps_eq, walked, missing⟩
      · have same_place : (files.makeParents path).2.place path = files.place path := by
          rw [place, place, origin, grown.current]
          exact congrArg (checkPath path >>= fun _ => ·) same
        by_cases at_end : ∃ there, files.place path = .ok there ∧ files.at? there = none
        · obtain ⟨there, leads, missing⟩ := at_end
          exact nowhere ⟨(List.append_nil _).symm, (place_eq_ok_iff.mp leads).2, missing⟩
        · refine readText_congr same_place fun there leads => ?_
          obtain ⟨node, here⟩ := Option.ne_none_iff_exists'.mp fun missing =>
            at_end ⟨there, leads, missing⟩
          rw [here, grown.kept there node here]
      · exact nowhere ⟨steps_eq, walked, missing⟩

end Files

end Redirects
