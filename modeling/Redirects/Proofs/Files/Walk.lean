import Mathlib.Data.List.Induction
import Redirects.Files.Tree

/-!
# Where paths lead

A walk along a path that comes through ends at a place that the path alone decides, and it comes
through in every tree with at least the same directories.  In a sound tree everything lies in a
directory, so a walk ends in a directory and nothing lies below a file.
-/

namespace Redirects

/-- What succeeds in two parts succeeds in each. -/
theorem bind_ok_iff {ε α β : Type} {first : Except ε α} {next : α → Except ε β} {value : β} :
    (first >>= next) = .ok value ↔ ∃ found, first = .ok found ∧ next found = .ok value := by
  cases first with
  | error fault => simp [bind, Except.bind]
  | ok found => simp [bind, Except.bind]

/-! ## The place of a path -/

namespace Path

/-- Where a step leads. -/
def after (place : Place) (step : String) : Place :=
  if step == "." then place else if step == ".." then place.dropLast else place ++ [step]

/-- The place that a path names, seen from a directory. -/
def placeFrom (current : Place) (path : String) : Place :=
  (steps path).foldl after (if isAbsolute path then [] else current)

theorem after_name {place : Place} {name : String} (up : name ≠ "..") (stay : name ≠ ".") :
    after place name = place ++ [name] := by
  simp [after, up, stay]

/-- Single dots do not lead away. -/
theorem foldl_after_dots {place : Place} {dots : List String} (only_dots : ∀ dot ∈ dots, dot = ".") :
    dots.foldl after place = place := by
  induction dots with
  | nil => rfl
  | cons dot dots ih =>
      rw [List.forall_mem_cons] at only_dots
      rw [only_dots.1]
      exact ih only_dots.2

/-- A slash at the end of a path adds nothing but a single dot to its parts. -/
theorem exists_steps_eq (path : String) :
    ∃ idle, (∀ dot ∈ idle, dot = ".") ∧ steps path = written path ++ idle := by
  rw [steps]
  split
  · exact ⟨["."], by simp, rfl⟩
  · exact ⟨[], by simp, (List.append_nil _).symm⟩

/-- A slash at the end of a path does not change the place that it names. -/
theorem placeFrom_eq_foldl_written (current : Place) (path : String) :
    placeFrom current path =
      (written path).foldl after (if isAbsolute path then [] else current) := by
  obtain ⟨idle, only_idle, steps_eq⟩ := exists_steps_eq path
  rw [placeFrom, steps_eq, List.foldl_append, foldl_after_dots only_idle]

end Path

namespace Files

variable {files other : Files} {place there middle : Place} {node : Node}
  {front back dots : List String}

/-! ## What is at a place -/

@[simp]
theorem at?_root (files : Files) : files.at? [] = some .directory := rfl

@[simp]
theorem current_put (files : Files) (place : Place) (node : Node) :
    (files.put place node).current = files.current := rfl

theorem isDirectoryAt_iff :
    files.isDirectoryAt place = true ↔ files.at? place = some .directory := by
  rw [isDirectoryAt, beq_iff_eq]

theorem at?_of_ne_root (inner : place ≠ []) :
    files.at? place = (files.entries.find? (·.1 == place)).map (·.2) := by
  rw [at?, if_neg (by simpa using inner)]

theorem at?_put_self (inner : place ≠ []) : (files.put place node).at? place = some node := by
  have gone : (files.entries.filter (·.1 != place)).find? (·.1 == place) = none := by simp
  rw [at?_of_ne_root inner, put, List.find?_append, gone]
  simp

/-- Taking other entries out changes nothing at a place. -/
theorem find?_filter_of_kept {keeps : Place × Node → Bool} {entries : List (Place × Node)}
    (kept : ∀ entry, entry.1 = place → keeps entry = true) :
    (entries.filter keeps).find? (·.1 == place) = entries.find? (·.1 == place) := by
  rw [List.find?_filter]
  congr 1
  funext entry
  by_cases here : entry.1 = place <;> simp [here, kept]

theorem at?_put_of_ne (apart : there ≠ place) :
    (files.put place node).at? there = files.at? there := by
  by_cases root : there = []
  · rw [root, at?_root, at?_root]
  · have kept : (files.entries.filter (·.1 != place)).find? (·.1 == there) =
        files.entries.find? (·.1 == there) :=
      find?_filter_of_kept fun entry here => by simp [here, apart]
    rw [at?_of_ne_root root, at?_of_ne_root root, put, List.find?_append, kept]
    simp [apart.symm]

theorem at?_remove_of_not_below (apart : ¬place <+: there) :
    (files.remove place).at? there = files.at? there := by
  by_cases root : there = []
  · rw [root, at?_root, at?_root]
  · have kept : (files.entries.filter fun entry => !place.isPrefixOf entry.1).find?
        (·.1 == there) = files.entries.find? (·.1 == there) :=
      find?_filter_of_kept fun entry here => by
        simpa [here, List.isPrefixOf_iff_prefix, ← Bool.not_eq_true] using apart
    rw [at?_of_ne_root root, at?_of_ne_root root, remove, kept]

theorem at?_remove_of_below (inner : there ≠ []) (below : place <+: there) :
    (files.remove place).at? there = none := by
  rw [at?_of_ne_root inner, remove, Option.map_eq_none_iff, List.find?_eq_none]
  rintro entry listed here
  rw [beq_iff_eq] at here
  have not_below := (List.mem_filter.mp listed).2
  rw [here, List.isPrefixOf_iff_prefix.mpr below] at not_below
  contradiction

/-! ## Walks -/

theorem walk_cons (files : Files) (place : Place) (step : String) (steps : List String) :
    files.walk place (step :: steps) =
      match files.at? place with
      | none => .error .notFound
      | some (.file _) => .error .notDirectory
      | some .directory =>
        if step == "." then files.walk place steps
        else if step == ".." then files.walk place.dropLast steps
        else if maxName < step.utf8ByteSize then .error .nameTooLong
        else files.walk (place ++ [step]) steps := rfl

/-- A walk goes on from a directory only, with a step that is no name or a name that is not too
long. -/
theorem walk_cons_eq_ok_iff {step : String} {steps : List String} :
    files.walk place (step :: steps) = .ok there ↔
      files.at? place = some .directory ∧
        (step = "." ∨ step = ".." ∨ step.utf8ByteSize ≤ maxName) ∧
          files.walk (Path.after place step) steps = .ok there := by
  rw [walk_cons]
  split
  · next missing => simp [missing]
  · next blocked => simp [blocked]
  · next passable =>
      by_cases stay : step = "."
      · simp [passable, stay, Path.after]
      · by_cases up : step = ".."
        · simp [passable, up, Path.after]
        · by_cases long : maxName < step.utf8ByteSize
          · simp [stay, up, long, Nat.not_le_of_lt long]
          · simp [passable, stay, up, long, Nat.le_of_not_lt, Path.after_name]

/-- Where a walk ends is decided by its steps. -/
theorem walk_eq_foldl {steps : List String} (walked : files.walk place steps = .ok there) :
    there = steps.foldl Path.after place := by
  induction steps generalizing place with
  | nil =>
      cases walked
      rfl
  | cons step steps ih =>
      obtain ⟨-, -, onward⟩ := walk_cons_eq_ok_iff.mp walked
      exact ih onward

/-- Every directory of one tree is one of the other. -/
def DirectoriesIn (files other : Files) : Prop :=
  ∀ place, files.at? place = some .directory → other.at? place = some .directory

theorem walk_of_directoriesIn (more : files.DirectoriesIn other) {steps : List String}
    (walked : files.walk place steps = .ok there) : other.walk place steps = .ok there := by
  induction steps generalizing place with
  | nil => exact walked
  | cons step steps ih =>
      obtain ⟨passable, short, onward⟩ := walk_cons_eq_ok_iff.mp walked
      exact walk_cons_eq_ok_iff.mpr ⟨more place passable, short, ih onward⟩

theorem walk_cons_of_passable {step : String} (passable : files.at? place = some .directory)
    (short : step = "." ∨ step = ".." ∨ step.utf8ByteSize ≤ maxName) :
    files.walk place (step :: back) = files.walk (Path.after place step) back := by
  rw [walk_cons, passable]
  dsimp only
  by_cases stay : step = "."
  · simp [stay, Path.after]
  · by_cases up : step = ".."
    · simp [up, Path.after]
    · have fits := (short.resolve_left stay).resolve_left up
      simp [stay, up, Nat.not_lt_of_le fits, Path.after_name]

/-- A walk stops at a name that is too long. -/
theorem walk_cons_of_long {name : String} (passable : files.at? place = some .directory)
    (stay : name ≠ ".") (up : name ≠ "..") (long : maxName < name.utf8ByteSize) :
    files.walk place (name :: back) = .error .nameTooLong := by
  rw [walk_cons, passable]
  simp [stay, up, long]

theorem walk_append_eq (first : files.walk place front = .ok middle) :
    files.walk place (front ++ back) = files.walk middle back := by
  induction front generalizing place with
  | nil =>
      cases first
      rfl
  | cons step front ih =>
      obtain ⟨passable, short, onward⟩ := walk_cons_eq_ok_iff.mp first
      rw [List.cons_append, walk_cons_of_passable passable short, ih onward]

theorem walk_append_ok (walked : files.walk place (front ++ back) = .ok there) :
    ∃ middle, files.walk place front = .ok middle ∧ files.walk middle back = .ok there := by
  induction front generalizing place with
  | nil => exact ⟨place, rfl, walked⟩
  | cons step front ih =>
      obtain ⟨passable, short, onward⟩ := walk_cons_eq_ok_iff.mp walked
      obtain ⟨middle, first, second⟩ := ih onward
      exact ⟨middle, walk_cons_eq_ok_iff.mpr ⟨passable, short, first⟩, second⟩

/-- How a walk along single dots ends is decided by what is at its start. -/
theorem walk_dots_congr (only_dots : ∀ dot ∈ dots, dot = ".")
    (same : other.at? place = files.at? place) : other.walk place dots = files.walk place dots := by
  induction dots with
  | nil => rfl
  | cons dot dots ih =>
      rw [List.forall_mem_cons] at only_dots
      rw [walk_cons, walk_cons, same, only_dots.1]
      split
      · rfl
      · rfl
      · exact ih only_dots.2

/-! ## Paths -/

section Paths

variable {path : String}

theorem place_eq_ok_iff :
    files.place path = .ok there ↔
      checkPath path = .ok () ∧ files.walk (files.origin path) (Path.steps path) = .ok there := by
  rw [place, bind_ok_iff]
  constructor
  · rintro ⟨⟨⟩, checked, walked⟩
    exact ⟨checked, walked⟩
  · rintro ⟨checked, walked⟩
    exact ⟨(), checked, walked⟩

theorem eq_placeFrom_of_place (leads : files.place path = .ok there) :
    there = Path.placeFrom files.current path :=
  walk_eq_foldl (place_eq_ok_iff.mp leads).2

theorem place_of_directoriesIn (more : files.DirectoriesIn other)
    (same_current : other.current = files.current) (leads : files.place path = .ok there) :
    other.place path = .ok there := by
  obtain ⟨checked, walked⟩ := place_eq_ok_iff.mp leads
  have origin_eq : other.origin path = files.origin path := by
    rw [origin, origin, same_current]
  rw [place_eq_ok_iff, origin_eq]
  exact ⟨checked, walk_of_directoriesIn more walked⟩

/-- The path ends in a name, in a directory. -/
structure EndsIn (files : Files) (path : String) (directory : Place) (name : String) : Prop where
  checked : checkPath path = .ok ()
  walked : files.walk (files.origin path) (Path.written path).dropLast = .ok directory
  passable : files.at? directory = some .directory
  last : (Path.written path).getLast? = some name
  stay : name ≠ "."
  up : name ≠ ".."

theorem endsIn_of_home {directory : Place} {name : String}
    (found : files.home path = .ok (directory, some name)) : files.EndsIn path directory name := by
  obtain ⟨⟨⟩, checked, found⟩ := bind_ok_iff.mp found
  obtain ⟨place, walked, found⟩ := bind_ok_iff.mp found
  split at found
  · simp [pure, Except.pure] at found
  · next last_name last =>
      split at found
      · contradiction
      · contradiction
      · next passable =>
          by_cases named : last_name = "." ∨ last_name = ".."
          · simp [pure, Except.pure, named] at found
          · simp only [pure, Except.pure, Bool.or_eq_true, beq_iff_eq, named, if_false,
              Except.ok.injEq, Prod.mk.injEq, Option.some.injEq] at found
            obtain ⟨rfl, rfl⟩ := found
            rw [not_or] at named
            exact ⟨checked, walked, passable, last, named.1, named.2⟩

namespace EndsIn

variable {directory : Place} {name : String}

theorem written_eq (ends : files.EndsIn path directory name) :
    Path.written path = (Path.written path).dropLast ++ [name] := by
  obtain ⟨front, written_eq⟩ := List.getLast?_eq_some_iff.mp ends.last
  rw [written_eq, List.dropLast_concat]

/-- The path names what has the name in the directory. -/
theorem placeFrom_eq (ends : files.EndsIn path directory name) :
    Path.placeFrom files.current path = directory ++ [name] := by
  rw [Path.placeFrom_eq_foldl_written, ends.written_eq, List.foldl_append]
  change Path.after (List.foldl Path.after (files.origin path) _) name = _
  rw [← walk_eq_foldl ends.walked, Path.after_name ends.up ends.stay]

/-- A walk along the path comes through in every tree with at least the same directories, if the
name is not too long and no slash asks for a directory. -/
theorem place_eq (ends : files.EndsIn path directory name) (more : files.DirectoriesIn other)
    (same_current : other.current = files.current) (short : name.utf8ByteSize ≤ maxName)
    (closed : Path.endsOpen path = false) : other.place path = .ok (directory ++ [name]) := by
  have origin_eq : other.origin path = files.origin path := by
    rw [origin, origin, same_current]
  have steps_eq : Path.steps path = (Path.written path).dropLast ++ [name] := by
    rw [Path.steps, closed, ← ends.written_eq]
    rfl
  rw [place_eq_ok_iff, origin_eq, steps_eq]
  refine ⟨ends.checked, (walk_append_eq (walk_of_directoriesIn more ends.walked)).trans ?_⟩
  rw [walk_cons_eq_ok_iff, Path.after_name ends.up ends.stay]
  exact ⟨more _ ends.passable, .inr (.inr short), rfl⟩

end EndsIn

end Paths

/-! ## Sound trees -/

/-- Everything in the tree lies in a directory, and so does the current directory. -/
structure Sound (files : Files) : Prop where
  current : files.at? files.current = some .directory
  parent : ∀ place node, files.at? place = some node → files.at? place.dropLast = some .directory

namespace Sound

/-- A walk that starts in a directory ends in one. -/
theorem parent_of_walk (sound : files.Sound) {steps : List String}
    (start : files.at? place.dropLast = some .directory)
    (walked : files.walk place steps = .ok there) : files.at? there.dropLast = some .directory := by
  induction steps generalizing place with
  | nil =>
      cases walked
      exact start
  | cons step steps ih =>
      obtain ⟨passable, -, onward⟩ := walk_cons_eq_ok_iff.mp walked
      refine ih ?_ onward
      rw [Path.after]
      split
      · exact start
      · split
        · exact sound.parent _ _ start
        · rwa [List.dropLast_concat]

theorem parent_of_place (sound : files.Sound) {path : String}
    (leads : files.place path = .ok there) : files.at? there.dropLast = some .directory := by
  refine sound.parent_of_walk ?_ (place_eq_ok_iff.mp leads).2
  rw [origin]
  split
  · rfl
  · exact sound.parent _ _ sound.current

/-- What something lies below is a directory. -/
theorem directory_of_below (sound : files.Sound) {below : Place} (inside : place <+: below)
    (differ : place ≠ below) (present : files.at? below = some node) :
    files.at? place = some .directory := by
  obtain ⟨rest, rfl⟩ := inside
  induction rest using List.reverseRecOn generalizing node with
  | nil => simp at differ
  | append_singleton rest name ih =>
      have parent := sound.parent _ _ present
      rw [← List.append_assoc, List.dropLast_concat] at parent
      by_cases whole : place = place ++ rest
      · rwa [← whole] at parent
      · exact ih whole parent

end Sound

/-! ## The empty directory -/

/-- In an empty directory there is nothing but the directories that lead to it. -/
theorem at?_empty (current place : Place) :
    (empty current).at? place = if place <+: current then some .directory else none := by
  by_cases root : place = []
  · rw [root, at?_root, if_pos List.nil_prefix]
  · rw [at?_of_ne_root root, empty, List.find?_map, Option.map_map]
    split
    · next above =>
        have place_eq := List.prefix_iff_eq_take.mp above
        have length_le := above.length_le
        have inner := List.length_pos_iff.mpr root
        obtain ⟨_, found⟩ : ∃ length, (List.range current.length).find?
            ((fun entry : Place × Node => entry.1 == place) ∘
              fun length => (current.take (length + 1), Node.directory)) = some length := by
          rw [← Option.isSome_iff_exists, List.find?_isSome]
          refine ⟨place.length - 1, List.mem_range.mpr (by omega), ?_⟩
          simp only [Function.comp_apply, beq_iff_eq]
          rw [Nat.sub_add_cancel inner, ← place_eq]
        rw [found]
        rfl
    · next beside =>
        rw [Option.map_eq_none_iff, List.find?_eq_none]
        intro length _ here
        simp only [Function.comp_apply, beq_iff_eq] at here
        exact beside (here ▸ List.take_prefix _ _)

theorem sound_empty (current : Place) : (empty current).Sound where
  current := by rw [at?_empty]; exact if_pos List.prefix_rfl
  parent place node present := by
    rw [at?_empty] at present ⊢
    split at present
    · next above => exact if_pos ((List.dropLast_prefix place).trans above)
    · contradiction

end Files

end Redirects
