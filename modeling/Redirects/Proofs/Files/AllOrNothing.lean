import Redirects.Proofs.Files.Documents
import Redirects.Proofs.Files.Parents

/-!
# A file is replaced as a whole or stays as it is

A state that was saved is loaded, and rules that were written are the active ones; nothing is left
of the draft, and nothing else differs but directories that the path runs through.  Where a save or
an update fails, the file stays as it is, and so does what is read at its path, unless the path
strays: the directories that were made before the failure stay, and may lead it elsewhere.
-/

namespace Redirects

namespace Files

variable {files other after : Files} {path text : String} {touched : List Place}

/-! ## What a replacement touches -/

/-- Nothing differs but at the places that were touched, and in directories that were made where the
path runs through. -/
def ElsewhereKept (files after : Files) (path : String) (touched : List Place) : Prop :=
  ∀ place, place ∉ touched → after.at? place = files.at? place ∨
    (files.at? place = none ∧ after.at? place = some .directory ∧
      Path.RunsThrough files.current path place)

theorem elsewhereKept_refl (files : Files) (path : String) (touched : List Place) :
    files.ElsewhereKept files path touched :=
  fun _ _ => .inl rfl

theorem elsewhereKept_makeParents (files : Files) (path : String) :
    files.ElsewhereKept (files.makeParents path).2 path [] := by
  have grown := grown_makeParents files path
  intro place _
  by_cases through : Path.RunsThrough files.current path place
  · cases before : files.at? place with
    | some node => exact .inl (grown.kept place node before)
    | none =>
        cases now : (files.makeParents path).2.at? place with
        | none => exact .inl rfl
        | some node =>
            rcases grown.made place node now with same | rfl
            · rw [before] at same
              contradiction
            · exact .inr ⟨rfl, rfl, through⟩
  · exact .inl (at?_makeParents_of_not_runsThrough through)

theorem ElsewhereKept.touch (kept : files.ElsewhereKept other path [])
    (same : ∀ place, place ∉ touched → after.at? place = other.at? place) :
    files.ElsewhereKept after path touched := by
  intro place apart
  rw [same place apart]
  exact kept place List.not_mem_nil

theorem at?_rename_of_ne {source target : String} {content : Content} (sound : files.Sound)
    (held : files.at? (Path.placeFrom files.current source) = some (.file content))
    (renamed : files.rename source target = .ok after) {place : Place}
    (not_source : place ≠ Path.placeFrom files.current source)
    (not_target : place ≠ Path.placeFrom files.current target) :
    after.at? place = files.at? place := by
  obtain ⟨start, node, directory, name, leads, -, ends, -, -, -, rfl⟩ := rename_eq_ok renamed
  rw [ends.placeFrom_eq] at not_target
  rw [at?_put_of_ne not_target, eq_placeFrom_of_place leads, sound.at?_remove held not_source]

/-- A file that was replaced has the new text and left no draft. -/
structure Installed (files : Files) (path text : String) (after : Files) : Prop where
  holds : after.readText path = .ok text
  gone : after.at? (files.draftPlace path) = none
  elsewhere : files.ElsewhereKept after path
    [Path.placeFrom files.current path, files.draftPlace path]

theorem installed_of_ok (sound : files.Sound)
    (replaced : files.replaceText path text = (.ok (), after)) : files.Installed path text after := by
  have grown := grown_makeParents files path
  have whole := replaced_of_ok sound replaced
  rcases replaceText_cases files path text with
    ⟨_, failed⟩ | ⟨drafted, wrote, ⟨_, failed⟩ | ⟨renamed_to, renamed, done⟩⟩
  · simp [failed] at replaced
  · simp [failed] at replaced
  · obtain rfl : renamed_to = after := by simpa [done] using replaced
    obtain ⟨_, _, _, _, stands_beside⟩ := drafted_of_write (grown.sound sound) wrote
    have same_current : drafted.current = files.current := (current_write wrote).trans grown.current
    have apart : files.draftPlace path ≠ Path.placeFrom files.current path := by
      have apart := stands_beside.draftPlace_ne
      rwa [draftPlace, grown.current] at apart
    have held : drafted.at? (Path.placeFrom drafted.current (draftPath path)) =
        some (.file (.text text)) := by
      obtain ⟨there, leads, free, rfl⟩ := write_eq_ok wrote
      rw [current_put, ← eq_placeFrom_of_place leads]
      exact at?_put_self fun root => free (by simp [root])
    have drafted_sound := sound_write (grown.sound sound) wrote
    refine ⟨whole.holds, whole.gone apart, (elsewhereKept_makeParents files path).touch ?_⟩
    intro place untouched
    rw [List.mem_cons, List.mem_singleton, not_or, draftPlace] at untouched
    rw [← same_current] at untouched
    rw [at?_rename_of_ne drafted_sound held renamed untouched.2 untouched.1, at?_write_of_ne wrote]
    rw [same_current, ← grown.current] at untouched
    exact untouched.2

/-- A file that could not be replaced is as it was. -/
structure Spared (files : Files) (path : String) (left : Files) : Prop where
  reads : ¬files.Strays path → left.readText path = files.readText path
  elsewhere : files.ElsewhereKept left path [files.draftPlace path]

theorem spared_refl (files : Files) (path : String) : files.Spared path files where
  reads _ := rfl
  elsewhere := elsewhereKept_refl files path _

/-- After a failure as much is read as after making the directories. -/
theorem readText_of_error (sound : files.Sound) {fault : ReplaceFault} {left : Files}
    (failed : files.replaceText path text = (.error fault, left)) :
    left.readText path = (files.makeParents path).2.readText path := by
  rcases replaceText_cases files path text with
    ⟨_, unwritten⟩ | ⟨drafted, wrote, ⟨_, unmoved⟩ | ⟨_, -, done⟩⟩
  · obtain ⟨-, rfl⟩ := Prod.mk.inj (unwritten.symm.trans failed)
    rfl
  · obtain ⟨-, rfl⟩ := Prod.mk.inj (unmoved.symm.trans failed)
    exact readText_write_draft ((grown_makeParents files path).sound sound) wrote
  · simp [done] at failed

theorem elsewhereKept_of_error {fault : ReplaceFault} {left : Files}
    (failed : files.replaceText path text = (.error fault, left)) :
    files.ElsewhereKept left path [files.draftPlace path] := by
  have kept := elsewhereKept_makeParents files path
  rcases replaceText_cases files path text with
    ⟨_, unwritten⟩ | ⟨drafted, wrote, ⟨_, unmoved⟩ | ⟨_, -, done⟩⟩
  · obtain ⟨-, rfl⟩ := Prod.mk.inj (unwritten.symm.trans failed)
    exact kept.touch fun _ _ => rfl
  · obtain ⟨-, rfl⟩ := Prod.mk.inj (unmoved.symm.trans failed)
    refine kept.touch fun place untouched => at?_write_of_ne wrote ?_
    rw [List.mem_singleton, draftPlace] at untouched
    rwa [(grown_makeParents files path).current]
  · simp [done] at failed

theorem spared_of_error (sound : files.Sound) {fault : ReplaceFault} {left : Files}
    (failed : files.replaceText path text = (.error fault, left)) : files.Spared path left where
  reads keeps_on := (readText_of_error sound failed).trans (readText_makeParents sound keeps_on)
  elsewhere := elsewhereKept_of_error failed

/-- Only a name that can be looked up is given to a file. -/
theorem short_of_ok (replaced : files.replaceText path text = (.ok (), after)) {name : String}
    (last : (Path.written path).getLast? = some name) : name.utf8ByteSize ≤ maxName := by
  rcases replaceText_cases files path text with
    ⟨_, failed⟩ | ⟨drafted, -, ⟨_, failed⟩ | ⟨_, renamed, -⟩⟩
  · simp [failed] at replaced
  · simp [failed] at replaced
  · obtain ⟨_, _, _, found, -, -, ends, short, -⟩ := rename_eq_ok renamed
    obtain rfl : name = found := Option.some.inj (last.symm.trans ends.last)
    exact short

section Reported

variable {report : ReplaceFault → Error}

theorem installed_of_reported (sound : files.Sound)
    (wrote : ((files.replaceText path text).1.mapError report, (files.replaceText path text).2) =
      (.ok (), after)) : files.Installed path text after := by
  obtain ⟨done, rfl⟩ := Prod.mk.inj wrote
  exact installed_of_ok sound (Prod.ext (ok_of_mapError done) rfl)

theorem spared_of_reported (sound : files.Sound) {error : Error} {left : Files}
    (failed : ((files.replaceText path text).1.mapError report, (files.replaceText path text).2) =
      (.error error, left)) : files.Spared path left := by
  obtain ⟨reported, rfl⟩ := Prod.mk.inj failed
  obtain ⟨fault, unreported, -⟩ := exists_of_mapError reported
  exact spared_of_error sound (Prod.ext unreported rfl)

end Reported

end Files

/-! ## Stores and engines -/

section Documents

variable {files saved left : Files} {state : StoredState} {rules : List DeclarativeRule}
  {error : Error}

namespace FileStore

variable {store : FileStore}

theorem installed_of_save (sound : files.Sound)
    (wrote : store.save state files = (.ok (), saved)) :
    files.Installed store.path state.document saved := by
  rw [save_eq] at wrote
  exact Files.installed_of_reported sound wrote

theorem spared_of_save (sound : files.Sound)
    (failed : store.save state files = (.error error, left)) : files.Spared store.path left := by
  rw [save_eq] at failed
  exact Files.spared_of_reported sound failed

/-- What is loaded is decided by what is read. -/
theorem load_congr (same : left.readText store.path = files.readText store.path) :
    store.load left = store.load files := by
  rw [load, load, same]

end FileStore

namespace FileEngine

variable {engine : FileEngine}

theorem installed_of_write (sound : files.Sound)
    (wrote : engine.write rules files = (.ok (), saved)) :
    files.Installed engine.path (ActiveRules.document ⟨engine.clock, rules⟩) saved := by
  rw [write_eq] at wrote
  exact Files.installed_of_reported sound wrote

theorem spared_of_write (sound : files.Sound)
    (failed : engine.write rules files = (.error error, left)) : files.Spared engine.path left := by
  rw [write_eq] at failed
  exact Files.spared_of_reported sound failed

/-- Which rules are active is decided by what is read. -/
theorem active_congr (same : left.readText engine.path = files.readText engine.path) :
    engine.active left = engine.active files := by
  rw [active, active, same]

/-- An update that is carried out writes what it makes of the active rules. -/
theorem write_of_replace {update : Update}
    (replaced : engine.replace update files = (.ok (), saved)) :
    ∃ rules next, engine.active files = .ok rules ∧ update.apply rules = .ok next ∧
      engine.write next files = (.ok (), saved) := by
  cases active_eq : engine.active files with
  | error error => simp [replace, active_eq] at replaced
  | ok rules =>
      cases applied : update.apply rules with
      | error error => simp [replace_of_apply_error active_eq applied] at replaced
      | ok next =>
          rw [replace_of_apply_ok active_eq applied] at replaced
          exact ⟨rules, next, rfl, applied, replaced⟩

/-- An update that fails touched nothing, or failed to be written. -/
theorem spared_of_replace {update : Update} (sound : files.Sound)
    (failed : engine.replace update files = (.error error, left)) :
    files.Spared engine.path left := by
  cases active_eq : engine.active files with
  | error unread =>
      rw [replace, active_eq] at failed
      obtain ⟨-, rfl⟩ := Prod.mk.inj failed
      exact Files.spared_refl files engine.path
  | ok rules =>
      cases applied : update.apply rules with
      | error rejected =>
          rw [replace_of_apply_error active_eq applied] at failed
          obtain ⟨-, rfl⟩ := Prod.mk.inj failed
          exact Files.spared_refl files engine.path
      | ok next =>
          rw [replace_of_apply_ok active_eq applied] at failed
          exact spared_of_write sound failed

end FileEngine

end Documents

/-- A name that is too long is looked up only once the directory before it is there, so below a
directory that is yet to be made a failed save turns a missing file into one that cannot be read. -/
theorem load_of_save_of_long {name : String} (whole : Path.Whole name.toList)
    (stay : name ≠ ".") (up : name ≠ "..") (long : Files.maxName < name.utf8ByteSize)
    (checked : Files.checkPath (Path.ofParts false ["a", name]) = .ok ()) (state : StoredState) :
    let store : FileStore := ⟨Path.ofParts false ["a", name]⟩
    store.load (.empty ["dir"]) = .ok {} ∧
      ∃ error left, store.save state (.empty ["dir"]) = (.error error, left) ∧
        store.load left = .error (.store (.cannotRead store.path .nameTooLong)) := by
  intro store
  have two_parts : ∀ part ∈ ["a", name], Path.Whole part.toList := by
    rw [List.forall_mem_cons, List.forall_mem_singleton]
    exact ⟨⟨by decide, by decide⟩, whole⟩
  have written_eq : Path.written store.path = ["a", name] := Path.written_ofParts false two_parts
  have relative : Path.isAbsolute store.path = false := Path.isAbsolute_ofParts false two_parts
  obtain ⟨idle, -, steps_eq⟩ := Path.exists_steps_eq store.path
  rw [written_eq] at steps_eq
  have at_gap : (Files.empty ["dir"]).Gap store.path ["a"] (name :: idle) ["dir", "a"] := by
    refine ⟨steps_eq, ?_, by decide +kernel⟩
    rw [Files.origin, relative]
    decide +kernel
  have made_eq : ((Files.empty ["dir"]).makeParents store.path).2 =
      (Files.empty ["dir"]).put ["dir", "a"] .directory := by
    have parts_eq : Path.parts store.path = ["a", name] := by
      rw [Path.parts, written_eq]
      simp [stay]
    have made : ((Files.empty ["dir"]).makeDirectories false ["a"]).2 =
        (Files.empty ["dir"]).put ["dir", "a"] .directory := by decide +kernel
    rw [Files.makeParents, Path.parent?, parts_eq, relative]
    exact made
  have unreadable : ((Files.empty ["dir"]).makeParents store.path).2.readText store.path =
      .error .nameTooLong := by
    refine Files.readText_of_place_error ?_
    have to_a : ((Files.empty ["dir"]).put ["dir", "a"] .directory).walk ["dir"] ["a"] =
        .ok ["dir", "a"] := by decide +kernel
    have in_a : ((Files.empty ["dir"]).put ["dir", "a"] .directory).at? ["dir", "a"] =
        some .directory := by decide +kernel
    rw [made_eq, Files.place, checked, Files.origin, relative, steps_eq]
    exact (Files.walk_append_eq to_a).trans (Files.walk_cons_of_long in_a stay up long)
  refine ⟨by rw [FileStore.load, at_gap.readText_eq checked], ?_⟩
  rw [FileStore.save_eq]
  cases replaced : (Files.empty ["dir"]).replaceText store.path state.document with
  | mk result left =>
      cases result with
      | ok =>
          have last : (Path.written store.path).getLast? = some name := by
            rw [written_eq]
            rfl
          exact absurd long (Nat.not_lt_of_le (Files.short_of_ok replaced last))
      | error fault =>
          refine ⟨_, _, rfl, ?_⟩
          rw [FileStore.load, Files.readText_of_error (Files.sound_empty _) replaced, unreadable]

end Redirects
