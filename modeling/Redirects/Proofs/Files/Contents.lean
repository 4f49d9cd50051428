import Redirects.Proofs.Files.Replacement

/-!
# What a file holds

A file keeps its text while files at other places are written and replaced.  Of a file that the
system serves, a reader learns its text or that it is missing, and no replacement of it fails.
-/

namespace Redirects.Files

variable {files after : Files} {path other new : String} {text : Option String}

/-- The file holds the text; without a text, there is no such file. -/
def Holds (files : Files) (path : String) : Option String → Prop
  | some text => files.readText path = .ok text
  | none => ∀ content, files.at? (Path.placeFrom files.current path) ≠ some (.file content)

/-- Reading and replacing the file do not fail. -/
structure Serves (files : Files) (path : String) : Prop where
  reads : files.readText path = .error .notFound ∨ ∃ text, files.readText path = .ok text
  replaces : ∀ text, (files.replaceText path text).1 = .ok ()

theorem at?_of_readText {text : String} (read : files.readText path = .ok text) :
    files.at? (Path.placeFrom files.current path) = some (.file (.text text)) := by
  obtain ⟨there, leads, held⟩ := readText_eq_ok_iff.mp read
  rwa [eq_placeFrom_of_place leads] at held

theorem Holds.notFound (missing : files.Holds path none) (serves : files.Serves path) :
    files.readText path = .error .notFound := by
  rcases serves.reads with not_found | ⟨text, read⟩
  · exact not_found
  · exact absurd (at?_of_readText read) (missing _)

/-- A file keeps what it holds where no directory is lost and no file appears or changes there. -/
theorem Holds.kept (holds : files.Holds path text) (same_current : after.current = files.current)
    (more : files.DirectoriesIn after)
    (same : ∀ content, after.at? (Path.placeFrom files.current path) = some (.file content) ↔
      files.at? (Path.placeFrom files.current path) = some (.file content)) :
    after.Holds path text := by
  cases text with
  | none =>
      intro content
      rw [same_current, Ne, same content]
      exact holds content
  | some text =>
      obtain ⟨there, leads, held⟩ := readText_eq_ok_iff.mp holds
      refine readText_eq_ok_iff.mpr ⟨there, place_of_directoriesIn more same_current leads, ?_⟩
      rw [eq_placeFrom_of_place leads] at held ⊢
      exact (same _).mpr held

/-- There is no file in an empty directory, nor above it. -/
theorem holds_empty (current : Place) (path : String) : (empty current).Holds path none := by
  intro content
  rw [at?_empty]
  split <;> exact nofun

theorem Holds.replaced (holds : files.Holds path text) (replaced : files.Replaced other new after)
    (apart : Path.placeFrom files.current path ≠ Path.placeFrom files.current other)
    (draft_apart : Path.placeFrom files.current path ≠ files.draftPlace other) :
    after.Holds path text :=
  holds.kept replaced.current replaced.directories fun content =>
    replaced.elsewhere _ content apart draft_apart

theorem Holds.written {content : Content} (holds : files.Holds path text)
    (wrote : files.write other content = .ok after)
    (apart : Path.placeFrom files.current path ≠ Path.placeFrom files.current other) :
    after.Holds path text := by
  refine holds.kept (current_write wrote) (directoriesIn_write wrote) fun held => ?_
  rw [at?_write_of_ne wrote apart]

/-- Nothing is left of a draft. -/
theorem Replaced.holds_draft (replaced : files.Replaced other new after)
    (apart : Path.placeFrom files.current path ≠ Path.placeFrom files.current other)
    (draft : Path.placeFrom files.current path = files.draftPlace other) :
    after.Holds path none := by
  intro content
  rw [replaced.current, draft, replaced.gone (draft ▸ apart)]
  exact Option.some_ne_none _ |>.symm

end Redirects.Files
