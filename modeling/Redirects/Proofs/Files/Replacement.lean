import Redirects.Proofs.Files.Walk

/-!
# Replacing a file

A file is replaced in three steps: the directories that its path runs through are made, the new text
is written to a draft beside it, and the draft takes its place.  Whichever step fails, only the draft
was touched; and if none does, the file holds the new text and the draft is gone.
-/

namespace Redirects.Files

variable {files other after : Files} {place there : Place} {node : Node} {path text : String}

/-! ## Sound changes -/

theorem ne_root_of_file {content : Content} (held : files.at? place = some (.file content)) :
    place ≠ [] := by
  rintro rfl
  simp at held

theorem Sound.put (sound : files.Sound) (inner : place ≠ [])
    (parent : files.at? place.dropLast = some .directory)
    (free : files.at? place ≠ some .directory) (node : Node) : (files.put place node).Sound := by
  have kept : ∀ other, files.at? other = some .directory →
      (files.put place node).at? other = some .directory := by
    intro other directory
    rwa [at?_put_of_ne]
    rintro rfl
    exact free directory
  refine ⟨kept _ sound.current, fun other found present => ?_⟩
  by_cases here : other = place
  · rw [here]
    exact kept _ parent
  · rw [at?_put_of_ne here] at present
    exact kept _ (sound.parent other found present)

/-- Taking a file away changes nothing elsewhere, since nothing lies below it. -/
theorem Sound.at?_remove (sound : files.Sound) {content : Content}
    (held : files.at? place = some (.file content)) (apart : there ≠ place) :
    (files.remove place).at? there = files.at? there := by
  by_cases below : place <+: there
  · have inner : there ≠ [] := by
      rintro rfl
      exact ne_root_of_file held (List.prefix_nil.mp below)
    rw [at?_remove_of_below inner below]
    cases present : files.at? there with
    | none => rfl
    | some node =>
        have directory := sound.directory_of_below below apart.symm present
        simp [held] at directory
  · exact at?_remove_of_not_below below

theorem Sound.remove (sound : files.Sound) {content : Content}
    (held : files.at? place = some (.file content)) : (files.remove place).Sound := by
  have inner := ne_root_of_file held
  have kept : ∀ other, files.at? other = some .directory →
      (files.remove place).at? other = some .directory := by
    intro other directory
    rwa [sound.at?_remove held]
    rintro rfl
    simp [held] at directory
  refine ⟨kept _ sound.current, fun other found present => ?_⟩
  by_cases here : other = place
  · rw [here, at?_remove_of_below inner List.prefix_rfl] at present
    contradiction
  · rw [sound.at?_remove held here] at present
    exact kept _ (sound.parent other found present)

/-! ## Making directories -/

/-- Nothing changed, but that directories were made where nothing was. -/
structure Grown (files other : Files) : Prop where
  current : other.current = files.current
  kept : ∀ place node, files.at? place = some node → other.at? place = some node
  made : ∀ place node, other.at? place = some node →
    files.at? place = some node ∨ node = .directory
  sound : files.Sound → other.Sound

namespace Grown

theorem refl (files : Files) : files.Grown files where
  current := rfl
  kept _ _ present := present
  made _ _ present := .inl present
  sound sound := sound

theorem trans (first : files.Grown other) (second : other.Grown after) : files.Grown after where
  current := second.current.trans first.current
  kept place node present := second.kept place node (first.kept place node present)
  made place node present := by
    rcases second.made place node present with before | directory
    · exact first.made place node before
    · exact .inr directory
  sound sound := second.sound (first.sound sound)

theorem directoriesIn (grown : files.Grown other) : files.DirectoriesIn other :=
  fun place => grown.kept place .directory

theorem file_iff (grown : files.Grown other) {content : Content} :
    other.at? place = some (.file content) ↔ files.at? place = some (.file content) := by
  constructor
  · intro held
    rcases grown.made place _ held with before | directory
    · exact before
    · contradiction
  · exact grown.kept place _

end Grown

theorem grown_of_makeDirectory (made : files.makeDirectory path = .ok other) :
    files.Grown other := by
  obtain ⟨place, leads, made⟩ := bind_ok_iff.mp made
  split at made
  · contradiction
  · next free =>
      cases made
      have absent : files.at? place = none := by simpa using free
      have inner : place ≠ [] := by
        rintro rfl
        simp at absent
      refine ⟨rfl, fun other node present => ?_, fun other node present => ?_, fun sound => ?_⟩
      · rwa [at?_put_of_ne]
        rintro rfl
        simp [absent] at present
      · by_cases here : other = place
        · rw [here, at?_put_self inner] at present
          exact .inr (Option.some.inj present).symm
        · exact .inl (by rwa [at?_put_of_ne here] at present)
      · exact sound.put inner (sound.parent_of_place leads) (by simp [absent]) .directory

theorem grown_makeDirectories (files : Files) (absolute : Bool) (parts : List String) :
    files.Grown (files.makeDirectories absolute parts).2 := by
  induction parts with
  | nil => exact .refl files
  | cons name parents ih =>
      rw [makeDirectories]
      split
      · next made => exact grown_of_makeDirectory made
      · split
        · next made_parents =>
            rw [made_parents] at ih
            split
            · next made => exact ih.trans (grown_of_makeDirectory made)
            · exact ih
        · exact ih
      · exact .refl files

theorem grown_makeParents (files : Files) (path : String) :
    files.Grown (files.makeParents path).2 := by
  rw [makeParents]
  split
  · exact grown_makeDirectories files _ _
  · exact .refl files

/-! ## Writing and renaming -/

/-- What is written ends up where its path leads. -/
theorem write_eq_ok {content : Content} (wrote : files.write path content = .ok after) :
    ∃ there, files.place path = .ok there ∧ files.at? there ≠ some .directory ∧
      after = files.put there (.file content) := by
  obtain ⟨⟨_, name⟩, -, wrote⟩ := bind_ok_iff.mp wrote
  dsimp only at wrote
  split at wrote
  · contradiction
  · obtain ⟨there, leads, wrote⟩ := bind_ok_iff.mp wrote
    split at wrote
    · contradiction
    · next free =>
        cases wrote
        exact ⟨there, leads, by simpa [isDirectoryAt_iff] using free, rfl⟩

/-- What is renamed leaves its place for the one at the end of the other path. -/
theorem rename_eq_ok {source target : String} (renamed : files.rename source target = .ok after) :
    ∃ start node directory name, files.place source = .ok start ∧ files.at? start = some node ∧
      files.EndsIn target directory name ∧ name.utf8ByteSize ≤ maxName ∧
        Path.endsOpen target = false ∧ files.at? (directory ++ [name]) ≠ some .directory ∧
          after = (files.remove start).put (directory ++ [name]) node := by
  obtain ⟨⟨_, source_name⟩, -, renamed⟩ := bind_ok_iff.mp renamed
  obtain ⟨⟨directory, target_name⟩, target_home, renamed⟩ := bind_ok_iff.mp renamed
  cases source_name with
  | none => contradiction
  | some source_name =>
      cases target_name with
      | none => contradiction
      | some name =>
          obtain ⟨start, leads, renamed⟩ := bind_ok_iff.mp renamed
          split at renamed
          · contradiction
          · next node present =>
              simp only [isDirectoryAt_iff] at renamed
              split_ifs at renamed with long opened occupied
              cases renamed
              exact ⟨start, node, directory, name, leads, present, endsIn_of_home target_home,
                Nat.le_of_not_lt long, by simpa using opened, occupied, rfl⟩

/-- A file is written to a place where no directory is. -/
theorem directoriesIn_put (free : files.at? place ≠ some .directory) :
    files.DirectoriesIn (files.put place node) := by
  intro other directory
  rwa [at?_put_of_ne]
  rintro rfl
  exact free directory

theorem current_write {content : Content} (wrote : files.write path content = .ok after) :
    after.current = files.current := by
  obtain ⟨_, -, -, rfl⟩ := write_eq_ok wrote
  rfl

theorem directoriesIn_write {content : Content} (wrote : files.write path content = .ok after) :
    files.DirectoriesIn after := by
  obtain ⟨there, -, free, rfl⟩ := write_eq_ok wrote
  exact directoriesIn_put free

theorem sound_write {content : Content} (sound : files.Sound)
    (wrote : files.write path content = .ok after) : after.Sound := by
  obtain ⟨there, leads, free, rfl⟩ := write_eq_ok wrote
  refine sound.put ?_ (sound.parent_of_place leads) free _
  rintro rfl
  exact free (at?_root files)

theorem at?_write_of_ne {content : Content} (wrote : files.write path content = .ok after)
    (apart : place ≠ Path.placeFrom files.current path) : after.at? place = files.at? place := by
  obtain ⟨there, leads, -, rfl⟩ := write_eq_ok wrote
  rw [at?_put_of_ne]
  rwa [eq_placeFrom_of_place leads]

/-! ## Replacing -/

/-- The place of the draft of a file. -/
def draftPlace (files : Files) (path : String) : Place :=
  Path.placeFrom files.current (draftPath path)

/-- What replacing a file comes to: the draft cannot be written, or it cannot take the place of the
file, or it does. -/
theorem replaceText_cases (files : Files) (path text : String) :
    (∃ fault, files.replaceText path text = (.error fault, (files.makeParents path).2)) ∨
      ∃ drafted, (files.makeParents path).2.write (draftPath path) (.text text) = .ok drafted ∧
        ((∃ fault, files.replaceText path text = (.error fault, drafted)) ∨
          ∃ after, drafted.rename (draftPath path) path = .ok after ∧
            files.replaceText path text = (.ok (), after)) := by
  rw [replaceText]
  split
  · next fault grown made =>
      exact .inl ⟨.parents fault, by rw [made]⟩
  · next grown made =>
      rw [made]
      dsimp only
      split
      · next fault _ => exact .inl ⟨.write _ fault, rfl⟩
      · next drafted wrote =>
          refine .inr ⟨drafted, wrote, ?_⟩
          split
          · next fault _ => exact .inl ⟨.rename fault, rfl⟩
          · next after renamed => exact .inr ⟨after, renamed, rfl⟩

/-- The text of a file was replaced: no other file but the draft was touched. -/
structure Replaced (files : Files) (path text : String) (after : Files) : Prop where
  current : after.current = files.current
  directories : files.DirectoriesIn after
  sound : after.Sound
  holds : after.readText path = .ok text
  /-- The draft is gone, unless it is the file itself. -/
  gone : files.draftPlace path ≠ Path.placeFrom files.current path →
    after.at? (files.draftPlace path) = none
  elsewhere : ∀ place content, place ≠ Path.placeFrom files.current path →
    place ≠ files.draftPlace path →
      (after.at? place = some (.file content) ↔ files.at? place = some (.file content))

theorem readText_eq_ok_iff :
    files.readText path = .ok text ↔
      ∃ there, files.place path = .ok there ∧ files.at? there = some (.file (.text text)) := by
  rw [readText, bind_ok_iff]
  refine exists_congr fun there => and_congr_right fun _ => ?_
  split <;> simp_all

/-- The draft takes the place of the file. -/
theorem replaced_of_rename {drafted : Files} (sound : drafted.Sound)
    (held : drafted.at? (drafted.draftPlace path) = some (.file (.text text)))
    (renamed : drafted.rename (draftPath path) path = .ok after) :
    drafted.Replaced path text after := by
  obtain ⟨start, node, directory, name, leads, present, ends, short, closed, free, rfl⟩ :=
    rename_eq_ok renamed
  have start_eq : start = drafted.draftPlace path := eq_placeFrom_of_place leads
  rw [start_eq, held, Option.some.injEq] at present
  rw [start_eq, ← present]
  have target_eq := ends.placeFrom_eq
  have moved : ∀ place, place ≠ drafted.draftPlace path →
      (drafted.remove (drafted.draftPlace path)).at? place = drafted.at? place :=
    fun place apart => sound.at?_remove held apart
  have vacated : (drafted.remove (drafted.draftPlace path)).at? (drafted.draftPlace path) = none :=
    at?_remove_of_below (ne_root_of_file held) List.prefix_rfl
  have directory_kept : ∀ place, drafted.at? place = some .directory →
      (drafted.remove (drafted.draftPlace path)).at? place = some .directory := by
    intro place here
    rwa [moved]
    intro same
    simp [same, held] at here
  have still_free : (drafted.remove (drafted.draftPlace path)).at? (directory ++ [name]) ≠
      some .directory := by
    by_cases same : directory ++ [name] = drafted.draftPlace path
    · rw [same, vacated]
      exact Option.some_ne_none _ |>.symm
    · rwa [moved _ same]
  have more : drafted.DirectoriesIn ((drafted.remove (drafted.draftPlace path)).put
      (directory ++ [name]) (.file (.text text))) :=
    fun place here => directoriesIn_put still_free place (directory_kept place here)
  refine
    { current := rfl
      directories := more
      sound := (sound.remove held).put (by simp) ?_ still_free _
      holds := ?_
      gone := ?_
      elsewhere := ?_ }
  · rw [List.dropLast_concat]
    exact directory_kept _ ends.passable
  · exact readText_eq_ok_iff.mpr ⟨_, ends.place_eq more rfl short closed, at?_put_self (by simp)⟩
  · intro apart
    rw [target_eq] at apart
    rw [at?_put_of_ne apart]
    exact vacated
  · intro place content not_file not_draft
    rw [target_eq] at not_file
    rw [at?_put_of_ne not_file, moved place not_draft]

theorem replaced_of_ok (sound : files.Sound)
    (replaced : files.replaceText path text = (.ok (), after)) :
    files.Replaced path text after := by
  have grown := grown_makeParents files path
  rcases replaceText_cases files path text with
    ⟨_, failed⟩ | ⟨drafted, wrote, ⟨_, failed⟩ | ⟨renamed_to, renamed, done⟩⟩
  · simp [failed] at replaced
  · simp [failed] at replaced
  · obtain rfl : renamed_to = after := by simpa [done] using replaced
    have drafted_sound := sound_write (grown.sound sound) wrote
    have same_current : drafted.current = files.current := (current_write wrote).trans grown.current
    have same_draft : drafted.draftPlace path = files.draftPlace path := by
      rw [draftPlace, draftPlace, same_current]
    have held : drafted.at? (drafted.draftPlace path) = some (.file (.text text)) := by
      obtain ⟨there, leads, free, rfl⟩ := write_eq_ok wrote
      rw [draftPlace, current_put, ← eq_placeFrom_of_place leads]
      exact at?_put_self fun root => free (by simp [root])
    have moved := replaced_of_rename drafted_sound held renamed
    refine
      { current := moved.current.trans same_current
        directories := fun place here =>
          moved.directories place (directoriesIn_write wrote place (grown.directoriesIn place here))
        sound := moved.sound
        holds := moved.holds
        gone := by
          rw [← same_draft, ← same_current]
          exact moved.gone
        elsewhere := fun place content not_file not_draft => ?_ }
    rw [← same_current] at not_file
    rw [← same_draft] at not_draft
    rw [moved.elsewhere place content not_file not_draft, ← grown.file_iff]
    rw [at?_write_of_ne wrote]
    rwa [draftPlace, same_current, ← grown.current] at not_draft

end Redirects.Files
