import Redirects.Proofs.Files.Documents
import Redirects.Proofs.Files.Plain

/-!
# What is written is read back

A document gives back what it was made of, whatever its texts are and whichever of them are set.  A
file that was written without a failure holds that document, so the state that was saved is loaded,
and the rules that were written are the active ones at any later time.
-/

namespace Redirects

theorem FileStore.load_of_save {store : FileStore} {state : StoredState} {files saved : Files}
    (sound : files.Sound) (wrote : store.save state files = (.ok (), saved)) :
    saved.readText store.path = .ok state.document ∧ store.load saved = .ok state := by
  have replaced := replaced_of_save sound wrote
  exact ⟨replaced.holds, load_of_holds replaced.holds⟩

theorem FileEngine.active_of_write {path time : String} {rules : List DeclarativeRule}
    {files written : Files} (sound : files.Sound) (timed : Timestamp.isValid time = true)
    (wrote : (FileEngine.mk path time).write rules files = (.ok (), written)) (clock : String) :
    written.readText path = .ok (ActiveRules.document ⟨time, rules⟩) ∧
      (FileEngine.mk path clock).active written = .ok rules := by
  have replaced := replaced_of_write sound wrote
  exact ⟨replaced.holds, active_of_holds timed replaced.holds⟩

/-- The documents of a state and of active rules are read back as what they were made of, and what
a save or an update of the rules leaves in the file is that document.  Where the system serves the
file, both do write it. -/
theorem documents_read_back (state : StoredState) (rules : List DeclarativeRule) (time : String) :
    StoredState.ofDocument? state.document = some state ∧
      (Timestamp.isValid time = true →
        ActiveRules.ofDocument? (ActiveRules.document ⟨time, rules⟩) = some ⟨time, rules⟩) ∧
      ∀ (path : String) (files : Files), files.Sound →
        (∀ saved, (FileStore.mk path).save state files = (.ok (), saved) →
          saved.readText path = .ok state.document ∧
            (FileStore.mk path).load saved = .ok state) ∧
        (∀ written, Timestamp.isValid time = true →
          (FileEngine.mk path time).write rules files = (.ok (), written) → ∀ clock,
            written.readText path = .ok (ActiveRules.document ⟨time, rules⟩) ∧
              (FileEngine.mk path clock).active written = .ok rules) ∧
        (files.Serves path →
          (∃ saved, (FileStore.mk path).save state files = (.ok (), saved)) ∧
            ∃ written, (FileEngine.mk path time).write rules files = (.ok (), written)) := by
  refine ⟨state.ofDocument?_document, ActiveRules.ofDocument?_document ⟨time, rules⟩, ?_⟩
  intro path files sound
  refine ⟨fun saved wrote => FileStore.load_of_save sound wrote, ?_, fun serves => ⟨?_, ?_⟩⟩
  · intro written timed wrote clock
    exact FileEngine.active_of_write sound timed wrote clock
  · obtain ⟨saved, wrote, -⟩ := FileStore.save_of_serves sound serves state
    exact ⟨saved, wrote⟩
  · obtain ⟨written, wrote, -⟩ := FileEngine.write_of_serves ⟨path, time⟩ sound serves rules
    exact ⟨written, wrote⟩

/-- A rule with every kind of character in its texts is saved, and rules with all of their texts and
with none of them are written, in an empty directory. -/
theorem documents_read_back_escaped :
    let rule : Rule :=
      { id := "\"\\", source := "a\n\t\r\x00\x1f\x7f", destination := "é😀", kind := .regex,
        enabled := false }
    let full : DeclarativeRule :=
      ⟨4294967295, 0, ⟨some "\\1", some ""⟩, ⟨some "\"", some "\n", [.other, .other]⟩⟩
    let bare : DeclarativeRule := ⟨0, 7, ⟨none, none⟩, ⟨none, none, []⟩⟩
    let files := Files.empty ["home"]
    let store : FileStore := ⟨"rules.json"⟩
    let engine : FileEngine := ⟨"active-rules.json", "2025-01-01T00:00:00Z"⟩
    files.Sound ∧ Timestamp.isValid engine.clock = true ∧
      (∃ saved, store.save ⟨[rule, rule], false⟩ files = (.ok (), saved) ∧
        store.load saved = .ok ⟨[rule, rule], false⟩) ∧
      ∃ written, engine.write [full, bare, full] files = (.ok (), written) ∧
        engine.active written = .ok [full, bare, full] := by
  intro rule full bare files store engine
  have sound : files.Sound := Files.sound_empty _
  have timed : Timestamp.isValid engine.clock = true := by decide +kernel
  have store_free : files.Unobstructed store.path := .of_empty _ (by decide) (by decide)
  have engine_free : files.Unobstructed engine.path := .of_empty _ (by decide) (by decide)
  obtain ⟨-, -, read_back⟩ :=
    documents_read_back ⟨[rule, rule], false⟩ [full, bare, full] engine.clock
  obtain ⟨loads, -, saves⟩ := read_back store.path files sound
  obtain ⟨-, active, writes⟩ := read_back engine.path files sound
  obtain ⟨saved, save_eq⟩ := (saves store_free.serves).1
  obtain ⟨written, write_eq⟩ := (writes engine_free.serves).2
  exact ⟨sound, timed, ⟨saved, save_eq, (loads saved save_eq).2⟩,
    written, write_eq, (active written timed write_eq engine.clock).2⟩

end Redirects
