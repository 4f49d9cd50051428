import Redirects.Proofs.Files.Contents

/-!
# Files of the current directory

A single name leads to a file of the current directory.  Replacing it makes no directories, so
nothing but a directory in its place, or in the place of its draft, can keep it from being replaced;
and where that fails nothing but the draft is touched.
-/

namespace Redirects

namespace Path

/-- A single name. -/
structure Plain (name : String) : Prop where
  written : written name = [name]
  relative : isAbsolute name = false
  closed : endsOpen name = false
  stay : name ≠ "."
  up : name ≠ ".."
  checked : Files.checkPath name = .ok ()
  short : name.utf8ByteSize ≤ Files.maxName

instance (name : String) : Decidable (Plain name) :=
  decidable_of_iff
    (Path.written name = [name] ∧ isAbsolute name = false ∧ endsOpen name = false ∧ name ≠ "." ∧
      name ≠ ".." ∧ Files.checkPath name = .ok () ∧ name.utf8ByteSize ≤ Files.maxName)
    ⟨fun ⟨written, relative, closed, stay, up, checked, short⟩ =>
        ⟨written, relative, closed, stay, up, checked, short⟩,
      fun plain => ⟨plain.written, plain.relative, plain.closed, plain.stay, plain.up,
        plain.checked, plain.short⟩⟩

namespace Plain

variable {name : String}

theorem steps_eq (plain : Plain name) : steps name = [name] := by
  rw [steps, plain.closed, plain.written]
  rfl

theorem placeFrom_eq (plain : Plain name) (current : Place) :
    placeFrom current name = current ++ [name] := by
  rw [placeFrom, plain.steps_eq, plain.relative]
  exact after_name plain.up plain.stay

/-- No directories lead to the file. -/
theorem parent?_eq (plain : Plain name) : parent? name = some (false, []) := by
  have parts_eq : parts name = [name] := by
    rw [parts, plain.written]
    split
    · next same => exact absurd (List.cons.inj same).1 plain.stay
    · simp [plain.stay]
  rw [parent?, parts_eq, plain.relative]
  rfl

end Plain

end Path

namespace Files

variable {files after : Files} {name text : String}

theorem makeParents_plain (plain : Path.Plain name) (files : Files) :
    files.makeParents name = (.ok (), files) := by
  rw [makeParents, plain.parent?_eq]
  rfl

/-- Where a file of the current directory cannot be replaced, only its draft was touched. -/
theorem at?_replaceText_of_error (plain : Path.Plain name) {fault : ReplaceFault}
    (failed : (files.replaceText name text).1 = .error fault) {place : Place}
    (apart : place ≠ files.draftPlace name) :
    (files.replaceText name text).2.at? place = files.at? place := by
  have no_parents : (files.makeParents name).2 = files := by rw [makeParents_plain plain]
  rcases replaceText_cases files name text with
    ⟨_, replaced⟩ | ⟨drafted, wrote, ⟨_, replaced⟩ | ⟨_, -, replaced⟩⟩
  · rw [replaced, no_parents]
  · rw [no_parents] at wrote
    rw [replaced]
    exact at?_write_of_ne wrote apart
  · simp [replaced] at failed

theorem place_plain (plain : Path.Plain name)
    (passable : files.at? files.current = some .directory) :
    files.place name = .ok (files.current ++ [name]) := by
  rw [place_eq_ok_iff, plain.steps_eq, origin, plain.relative, if_neg Bool.false_ne_true]
  refine ⟨plain.checked, walk_cons_eq_ok_iff.mpr ⟨passable, .inr (.inr plain.short), ?_⟩⟩
  rw [Path.after_name plain.up plain.stay]
  rfl

theorem home_plain (plain : Path.Plain name)
    (passable : files.at? files.current = some .directory) :
    files.home name = .ok (files.current, some name) := by
  rw [home, plain.checked, plain.written, origin, plain.relative]
  simp [bind, Except.bind, walk, passable, plain.stay, plain.up, pure, Except.pure]

/-- A file of the current directory takes the place of another. -/
theorem rename_plain {source target : String} {content : Content}
    (source_plain : Path.Plain source) (target_plain : Path.Plain target)
    (passable : files.at? files.current = some .directory)
    (held : files.at? (files.current ++ [source]) = some (.file content))
    (free : files.at? (files.current ++ [target]) ≠ some .directory) :
    files.rename source target =
      .ok ((files.remove (files.current ++ [source])).put (files.current ++ [target])
        (.file content)) := by
  rw [rename, home_plain source_plain passable, home_plain target_plain passable]
  simp [bind, Except.bind, place_plain source_plain passable, held, target_plain.closed,
    Nat.not_lt_of_le target_plain.short, isDirectoryAt_iff, free]

theorem write_plain (plain : Path.Plain name) (content : Content)
    (passable : files.at? files.current = some .directory)
    (free : files.at? (files.current ++ [name]) ≠ some .directory) :
    files.write name content = .ok (files.put (files.current ++ [name]) (.file content)) := by
  rw [write, home_plain plain passable]
  simp [bind, Except.bind, place_plain plain passable, plain.closed, isDirectoryAt_iff, free]

/-- The tree after the draft of a file of the current directory took the file's place. -/
def replaced (files : Files) (name text : String) : Files :=
  let draft := files.current ++ [draftPath name]
  ((files.put draft (.file (.text text))).remove draft).put (files.current ++ [name])
    (.file (.text text))

theorem at?_replaced (files : Files) (name text other : String) :
    (files.replaced name text).at? (files.current ++ [other]) =
      if other = name then some (.file (.text text))
      else if other = draftPath name then none
      else files.at? (files.current ++ [other]) := by
  rw [replaced]
  split
  · next same =>
      rw [same]
      exact at?_put_self (by simp)
  · next apart =>
      rw [at?_put_of_ne (by simpa using apart)]
      split
      · next draft =>
          rw [draft]
          exact at?_remove_of_below (by simp) List.prefix_rfl
      · next not_draft =>
          have beside : ¬files.current ++ [draftPath name] <+: files.current ++ [other] := by
            rw [List.prefix_append_right_inj]
            simpa using Ne.symm not_draft
          rw [at?_remove_of_not_below beside, at?_put_of_ne (by simpa using not_draft)]

theorem at?_replaced_current (files : Files) (name text : String) :
    (files.replaced name text).at? files.current = files.at? files.current := by
  have above : ¬files.current ++ [draftPath name] <+: files.current := by
    intro inside
    have longer := inside.length_le
    rw [List.length_append, List.length_singleton] at longer
    omega
  rw [replaced, at?_put_of_ne (by simp), at?_remove_of_not_below above, at?_put_of_ne (by simp)]

/-- No directory stands in the way of a file of the current directory. -/
structure Unobstructed (files : Files) (name : String) : Prop where
  plain : Path.Plain name
  draft_plain : Path.Plain (draftPath name)
  passable : files.at? files.current = some .directory
  textual : files.at? (files.current ++ [name]) = none ∨
    ∃ text, files.at? (files.current ++ [name]) = some (.file (.text text))
  draft_free : files.at? (files.current ++ [draftPath name]) ≠ some .directory

namespace Unobstructed

theorem free (unobstructed : files.Unobstructed name) :
    files.at? (files.current ++ [name]) ≠ some .directory := by
  rcases unobstructed.textual with missing | ⟨text, held⟩
  · simp [missing]
  · simp [held]

theorem replaceText_eq (unobstructed : files.Unobstructed name) (text : String) :
    files.replaceText name text = (.ok (), files.replaced name text) := by
  have wrote := write_plain unobstructed.draft_plain (.text text) unobstructed.passable
    unobstructed.draft_free
  have renamed : (files.put (files.current ++ [draftPath name]) (.file (.text text))).rename
      (draftPath name) name = .ok (files.replaced name text) := by
    refine rename_plain unobstructed.draft_plain unobstructed.plain ?_ (at?_put_self (by simp)) ?_
    · rw [current_put, at?_put_of_ne (by simp)]
      exact unobstructed.passable
    · rw [current_put]
      by_cases same : name = draftPath name
      · rw [← same, at?_put_self (by simp)]
        exact nofun
      · rw [at?_put_of_ne (by simpa using same)]
        exact unobstructed.free
  rw [replaceText, makeParents_plain unobstructed.plain]
  simp only [wrote, renamed]

/-- Nothing stands in the way in an empty directory. -/
theorem of_empty (current : Place) (plain : Path.Plain name)
    (draft_plain : Path.Plain (draftPath name)) : (empty current).Unobstructed name := by
  have missing : ∀ name, (empty current).at? (current ++ [name]) = none := by
    intro name
    rw [at?_empty, if_neg]
    intro above
    have longer := above.length_le
    rw [List.length_append, List.length_singleton] at longer
    omega
  exact ⟨plain, draft_plain, (sound_empty current).current, .inl (missing name),
    (missing _).trans_ne nofun⟩

/-- A file of the current directory that no directory stands in the way of is served. -/
theorem serves (unobstructed : files.Unobstructed name) : files.Serves name where
  reads := by
    rw [readText, place_plain unobstructed.plain unobstructed.passable]
    rcases unobstructed.textual with missing | ⟨text, held⟩
    · exact .inl (by simp [bind, Except.bind, missing])
    · exact .inr ⟨text, by simp [bind, Except.bind, held]⟩
  replaces text := by rw [unobstructed.replaceText_eq]

/-- Replacing one file leaves the way to any other free. -/
theorem replaced (unobstructed : files.Unobstructed name) (other text : String) :
    (files.replaced other text).Unobstructed name where
  plain := unobstructed.plain
  draft_plain := unobstructed.draft_plain
  passable := (files.at?_replaced_current other text).trans unobstructed.passable
  textual := by
    change (files.replaced other text).at? (files.current ++ [name]) = _ ∨
      ∃ text, (files.replaced other _).at? (files.current ++ [name]) = _
    rw [at?_replaced]
    split
    · exact .inr ⟨text, rfl⟩
    · split
      · exact .inl rfl
      · exact unobstructed.textual
  draft_free := by
    change (files.replaced other text).at? (files.current ++ [draftPath name]) ≠ _
    rw [at?_replaced]
    split
    · exact nofun
    · split
      · exact nofun
      · exact unobstructed.draft_free

/-- A text written anywhere leaves the way to the file free. -/
theorem written {path : String} (unobstructed : files.Unobstructed name)
    (wrote : files.write path (.text text) = .ok after) : after.Unobstructed name := by
  obtain ⟨there, -, free, rfl⟩ := write_eq_ok wrote
  refine ⟨unobstructed.plain, unobstructed.draft_plain, ?_, ?_, ?_⟩
  · exact directoriesIn_put free _ unobstructed.passable
  · rw [current_put]
    by_cases same : files.current ++ [name] = there
    · rw [same, at?_put_self (by simp [← same])]
      exact .inr ⟨text, rfl⟩
    · rw [at?_put_of_ne same]
      exact unobstructed.textual
  · rw [current_put]
    by_cases same : files.current ++ [draftPath name] = there
    · rw [same, at?_put_self (by simp [← same])]
      exact nofun
    · rw [at?_put_of_ne same]
      exact unobstructed.draft_free

end Unobstructed

end Files

end Redirects
