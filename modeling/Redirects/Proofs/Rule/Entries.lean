import Redirects.Proofs.Files.Walk
import Redirects.Proofs.Json.Arrays
import Redirects.Proofs.Rule.Transfer

/-!
# Entries imported one by one

An import reads the entries of its array in order and stops at the first that writes no rule.  What
an entry writes does not depend on where it stands, so an import says of each entry what an import
of the entry alone says.
-/

namespace Redirects

/-! ## What an entry says -/

/-- The last value under a name. -/
def LastUnder (name : String) (fields : List (Option String × Json)) (json : Json) : Prop :=
  ∃ front back, fields = front ++ (some name, json) :: back ∧ ∀ field ∈ back, field.1 ≠ some name

/-- There is no value under a name. -/
def NoneUnder (name : String) (fields : List (Option String × Json)) : Prop :=
  ∀ field ∈ fields, field.1 ≠ some name

/-- A way to match is written as its name, or as an object with nothing under the name. -/
inductive WritesKind (kind : MatchKind) : Json → Prop
  | name : WritesKind kind (.ofString kind.name)
  | object {fields : List (Option String × Json)} (named : ∀ field ∈ fields, field.1 = kind.name)
      (last : LastUnder kind.name fields .null) : WritesKind kind (.object fields)

/-- The draft that the last values of an object say. -/
structure ObjectSays (fields : List (Option String × Json)) (draft : Draft) : Prop where
  source : LastUnder "sourceUrl" fields (.ofString draft.source)
  destination : LastUnder "destinationUrl" fields (.ofString draft.destination)
  kind : NoneUnder "matchType" fields ∧ draft.kind = .contains ∨
    ∃ json, LastUnder "matchType" fields json ∧ WritesKind draft.kind json
  enabled : NoneUnder "enabled" fields ∧ draft.enabled = true ∨
    LastUnder "enabled" fields (.bool draft.enabled)

/-- The draft that the items of an array say in order. -/
structure ArraySays (items : List Json) (draft : Draft) : Prop where
  source : items[0]? = some (.ofString draft.source)
  destination : items[1]? = some (.ofString draft.destination)
  kind : items[2]? = none ∧ draft.kind = .contains ∨
    ∃ json, items[2]? = some json ∧ WritesKind draft.kind json
  enabled : items[3]? = none ∧ draft.enabled = true ∨ items[3]? = some (.bool draft.enabled)
  no_more : items.length ≤ 4

/-- The draft that an entry says. -/
def EntrySays : Json → Draft → Prop
  | .object fields, draft => ObjectSays fields draft
  | .array items, draft => ArraySays items draft
  | _, _ => False

namespace Entry

theorem last?_eq_some_iff {fields : List (Option String × Json)} {name : String} {json : Json} :
    last? fields name = some json ↔ LastUnder name fields json := by
  simp only [last?, Option.map_eq_some_iff, List.find?_eq_some_iff_append, Prod.exists, beq_iff_eq,
    LastUnder]
  constructor
  · rintro ⟨_, _, ⟨rfl, back, front, reversed, others⟩, rfl⟩
    refine ⟨front.reverse, back.reverse, ?_, fun field listed => ?_⟩
    · simpa using congrArg List.reverse reversed
    · simpa using others field (List.mem_reverse.mp listed)
  · rintro ⟨front, back, rfl, others⟩
    refine ⟨some name, json, ⟨rfl, back.reverse, front.reverse, by simp, ?_⟩, rfl⟩
    intro field listed
    simpa using others field (List.mem_reverse.mp listed)

theorem last?_eq_none_iff {fields : List (Option String × Json)} {name : String} :
    last? fields name = none ↔ NoneUnder name fields := by
  simp [last?, NoneUnder]

theorem text_eq_ok_iff {json : Json} {value : String} :
    text json = .ok value ↔ json = .ofString value := by
  rw [text.eq_def, Json.ofString]
  split <;> simp_all

theorem switch_eq_ok_iff {json : Json} {value : Bool} :
    switch json = .ok value ↔ json = .bool value := by
  cases json <;> simp [switch]

theorem kindNamed_eq_ok_iff {name : String} {kind : MatchKind} :
    kindNamed name = .ok kind ↔ name = kind.name := by
  rw [kindNamed]
  constructor
  · intro named
    rw [MatchKind.ofName?.eq_def] at named
    split at named
    · next found =>
        split at found
        · cases found; cases named; rfl
        · cases found; cases named; rfl
        · contradiction
    · contradiction
  · rintro rfl
    rw [MatchKind.ofName?_name]

theorem eraseDups_eq_singleton_iff {α : Type} [BEq α] [LawfulBEq α] {items : List α} {item : α} :
    items.eraseDups = [item] ↔ items ≠ [] ∧ ∀ other ∈ items, other = item := by
  constructor
  · intro once
    refine ⟨?_, fun other listed => ?_⟩
    · rintro rfl
      simp at once
    · rw [← List.mem_eraseDups, once] at listed
      exact List.mem_singleton.mp listed
  · rintro ⟨nonempty, same⟩
    obtain ⟨first, rest, rfl⟩ := List.exists_cons_of_ne_nil nonempty
    obtain rfl := same first List.mem_cons_self
    have no_more : rest.filter (fun other => !other == first) = [] := by
      rw [List.filter_eq_nil_iff]
      intro other listed
      simp [same other (List.mem_cons_of_mem _ listed)]
    rw [List.eraseDups_cons, no_more, List.eraseDups_nil]

/-- Where all names are the same, the last value is the value of the last field. -/
theorem lastUnder_iff_getLast? {fields : List (Option String × Json)} {name : String} {json : Json}
    (named : ∀ field ∈ fields, field.1 = name) :
    LastUnder name fields json ↔ fields.getLast? = some (some name, json) := by
  rw [List.getLast?_eq_some_iff]
  constructor
  · rintro ⟨front, back, rfl, others⟩
    have no_more : back = [] := by
      rw [List.eq_nil_iff_forall_not_mem]
      intro field listed
      exact others field listed (named field (by simp [listed]))
    exact ⟨front, by rw [no_more]⟩
  · rintro ⟨front, rfl⟩
    exact ⟨front, [], rfl, by simp⟩

theorem kind_eq_ok_iff {json : Json} {value : MatchKind} :
    kind json = .ok value ↔ WritesKind value json := by
  constructor
  · intro read
    rw [kind.eq_def] at read
    split at read
    · rw [kindNamed_eq_ok_iff] at read
      rw [read]
      exact .name
    · next fields =>
        split at read
        · next name _ _ once last =>
            obtain ⟨found, named, under⟩ := bind_ok_iff.mp read
            split at under
            · cases under
              obtain rfl := kindNamed_eq_ok_iff.mp named
              have same : ∀ field ∈ fields, field.1 = some value.name := fun field listed =>
                (eraseDups_eq_singleton_iff.mp once).2 field.1 (List.mem_map_of_mem listed)
              obtain ⟨front, fields_eq⟩ := List.getLast?_eq_some_iff.mp last
              have last_name := same _ (by rw [fields_eq]; exact List.mem_concat_self)
              refine .object same ((lastUnder_iff_getLast? same).mpr ?_)
              rw [last, ← last_name]
            · contradiction
        · contradiction
    · contradiction
  · rintro (_ | ⟨same, last⟩)
    · rw [Json.ofString, kind, kindNamed_eq_ok_iff]
    · next fields =>
        rw [lastUnder_iff_getLast? same] at last
        have once : (fields.map (·.1)).eraseDups = [some value.name] := by
          rw [eraseDups_eq_singleton_iff, List.forall_mem_map]
          refine ⟨?_, same⟩
          rintro empty
          rw [List.map_eq_nil_iff.mp empty] at last
          contradiction
        rw [kind, once, last]
        exact bind_ok_iff.mpr ⟨value, kindNamed_eq_ok_iff.mpr rfl, rfl⟩

theorem readIf_require {α : Type} {read : Json → Except EntryFault α} {field : Option Json}
    {name : String} {value : α} :
    (∃ found, readIf read field = .ok found ∧ require name found = .ok value) ↔
      ∃ json, field = some json ∧ read json = .ok value := by
  cases field with
  | none => simp [readIf, require]
  | some json => cases found : read json <;> simp [readIf, require, found, Except.map]

theorem readIf_getD {α : Type} (read : Json → Except EntryFault α) (field : Option Json)
    (default value : α) :
    (∃ found, readIf read field = .ok found ∧ found.getD default = value) ↔
      field = none ∧ value = default ∨ ∃ json, field = some json ∧ read json = .ok value := by
  cases field with
  | none => simp [readIf, eq_comm]
  | some json => cases found : read json <;> simp [readIf, found, Except.map]

theorem objectSays_iff {fields : List (Option String × Json)} {draft : Draft} :
    ObjectSays fields draft ↔
      (∃ json, last? fields "sourceUrl" = some json ∧ text json = .ok draft.source) ∧
      (∃ json, last? fields "destinationUrl" = some json ∧ text json = .ok draft.destination) ∧
      (last? fields "matchType" = none ∧ draft.kind = .contains ∨
        ∃ json, last? fields "matchType" = some json ∧ kind json = .ok draft.kind) ∧
      (last? fields "enabled" = none ∧ draft.enabled = true ∨
        ∃ json, last? fields "enabled" = some json ∧ switch json = .ok draft.enabled) := by
  simp only [last?_eq_some_iff, last?_eq_none_iff, text_eq_ok_iff, kind_eq_ok_iff,
    switch_eq_ok_iff, exists_eq_right]
  constructor
  · rintro ⟨source, destination, kind, enabled⟩
    exact ⟨source, destination, kind, enabled⟩
  · rintro ⟨source, destination, kind, enabled⟩
    exact ⟨source, destination, kind, enabled⟩

/-- An object writes the draft that its last values say. -/
theorem ofObject_eq_ok_iff {fields : List (Option String × Json)} {draft : Draft} :
    ofObject fields = .ok draft ↔ ObjectSays fields draft := by
  simp only [ofObject, bind_ok_iff, objectSays_iff]
  constructor
  · rintro ⟨_, destination_read, _, enabled_read, _, kind_read, _, source_read, _, source_there, _,
      destination_there, draft_eq⟩
    cases draft_eq
    exact ⟨readIf_require.mp ⟨_, source_read, source_there⟩,
      readIf_require.mp ⟨_, destination_read, destination_there⟩,
      (readIf_getD _ _ MatchKind.contains _).mp ⟨_, kind_read, rfl⟩,
      (readIf_getD _ _ true _).mp ⟨_, enabled_read, rfl⟩⟩
  · rintro ⟨source, destination, kind, enabled⟩
    obtain ⟨_, source_read, source_there⟩ := readIf_require.mpr source
    obtain ⟨_, destination_read, destination_there⟩ := readIf_require.mpr destination
    obtain ⟨_, kind_read, kind_eq⟩ := (readIf_getD _ _ MatchKind.contains _).mpr kind
    obtain ⟨_, enabled_read, enabled_eq⟩ := (readIf_getD _ _ true _).mpr enabled
    refine ⟨_, destination_read, _, enabled_read, _, kind_read, _, source_read, _, source_there, _,
      destination_there, ?_⟩
    rw [kind_eq, enabled_eq]
    rfl

/-- An array writes the draft that its items say in order. -/
theorem ofArray_eq_ok_iff {items : List Json} {draft : Draft} :
    ofArray items = .ok draft ↔ ArraySays items draft := by
  match items with
  | [] => exact ⟨fun read => by contradiction, fun said => by cases said.source⟩
  | [source] =>
      refine ⟨fun read => ?_, fun said => by cases said.destination⟩
      obtain ⟨_, -, read⟩ := bind_ok_iff.mp read
      contradiction
  | source :: destination :: rest =>
      have kind_iff := readIf_getD kind rest[0]? MatchKind.contains draft.kind
      have enabled_iff := readIf_getD switch rest[1]? true draft.enabled
      simp only [kind_eq_ok_iff, switch_eq_ok_iff, exists_eq_right] at kind_iff enabled_iff
      constructor
      · intro read
        obtain ⟨_, source_read, read⟩ := bind_ok_iff.mp read
        obtain ⟨_, destination_read, read⟩ := bind_ok_iff.mp read
        obtain ⟨_, kind_read, read⟩ := bind_ok_iff.mp read
        obtain ⟨_, enabled_read, read⟩ := bind_ok_iff.mp read
        rw [text_eq_ok_iff] at source_read destination_read
        split at read
        · contradiction
        · next no_more =>
            cases read
            refine ⟨by rw [source_read]; rfl, by rw [destination_read]; rfl,
              kind_iff.mp ⟨_, kind_read, rfl⟩, enabled_iff.mp ⟨_, enabled_read, rfl⟩, ?_⟩
            rw [List.length_cons, List.length_cons]
            omega
      · rintro ⟨source_said, destination_said, kind_said, enabled_said, no_more⟩
        obtain rfl : source = .ofString draft.source := Option.some.inj source_said
        obtain rfl : destination = .ofString draft.destination := Option.some.inj destination_said
        obtain ⟨_, kind_read, kind_eq⟩ := kind_iff.mpr kind_said
        obtain ⟨_, enabled_read, enabled_eq⟩ := enabled_iff.mpr enabled_said
        rw [List.length_cons, List.length_cons] at no_more
        have few : ¬2 < rest.length := by omega
        refine bind_ok_iff.mpr ⟨_, rfl, bind_ok_iff.mpr ⟨_, rfl, bind_ok_iff.mpr
          ⟨_, kind_read, bind_ok_iff.mpr ⟨_, enabled_read, ?_⟩⟩⟩⟩
        rw [if_neg few, kind_eq, enabled_eq]
        rfl

/-- What an entry writes is what it says. -/
theorem draft_eq_ok_iff {entry : Json} {draft : Draft} :
    Entry.draft entry = .ok draft ↔ EntrySays entry draft := by
  cases entry with
  | object fields => exact ofObject_eq_ok_iff
  | array items => exact ofArray_eq_ok_iff
  | null | bool | number | string => simp [Entry.draft, EntrySays]

end Entry

/-! ## Entries in order -/

theorem NameSupply.upcoming_succ (supply : NameSupply) (count : Nat) :
    supply.upcoming (count + 1) = supply.next.1 :: supply.next.2.upcoming count := by
  rw [upcoming, List.range'_succ, List.map_cons]
  rfl

theorem NameSupply.given_succ (supply : NameSupply) (count : Nat) :
    (⟨supply.next.2.given + count⟩ : NameSupply) = ⟨supply.given + (count + 1)⟩ := by
  rw [next, Nat.add_assoc, Nat.add_comm 1]

theorem importEntries_cons_ok {number : Nat} {names : NameSupply} {entry : Json}
    {entries : List Json} {draft : Draft} (written : Entry.draft entry = .ok draft) :
    importEntries number names (entry :: entries) =
      (importEntries (number + 1) names.next.2 entries).map fun (rules, left) =>
        (draft.named names.next.1 :: rules, left) := by
  rw [importEntries, written]
  dsimp only
  generalize importEntries _ _ _ = result
  cases result <;> rfl

theorem importEntries_cons_error {number : Nat} {names : NameSupply} {entry : Json}
    {entries : List Json} {fault : EntryFault} (refused : Entry.draft entry = .error fault) :
    importEntries number names (entry :: entries) =
      .error (.importing (.entry number fault.message)) := by
  rw [importEntries, refused]

/-- Entries are imported if each writes a draft, and the rules say the drafts in order. -/
theorem importEntries_eq_ok_iff {number : Nat} {names left : NameSupply} {entries : List Json}
    {rules : List Rule} :
    importEntries number names entries = .ok (rules, left) ↔
      List.Forall₂ (fun entry rule => Entry.draft entry = .ok rule.toDraft) entries rules ∧
        Rule.names rules = names.upcoming entries.length ∧
        left = ⟨names.given + entries.length⟩ := by
  induction entries generalizing number names rules with
  | nil =>
      constructor
      · intro read
        cases read
        exact ⟨.nil, rfl, rfl⟩
      · rintro ⟨⟨⟩, -, rfl⟩
        rfl
  | cons entry entries ih =>
      cases written : Entry.draft entry with
      | error fault =>
          simp [importEntries_cons_error written, written, List.forall₂_cons_left_iff]
      | ok draft =>
          rw [importEntries_cons_ok written]
          constructor
          · intro read
            obtain ⟨⟨others, _⟩, others_read, value_eq⟩ := exists_of_map_ok read
            cases value_eq
            obtain ⟨each, names_eq, rfl⟩ := ih.mp others_read
            refine ⟨.cons written each, ?_, names.given_succ entries.length⟩
            rw [List.length_cons, names.upcoming_succ, ← names_eq]
            rfl
          · rintro ⟨_ | ⟨rule_written, each⟩, names_eq, rfl⟩
            next rule others =>
            rw [List.length_cons, names.upcoming_succ] at names_eq
            obtain ⟨name_eq, names_eq⟩ := List.cons.inj names_eq
            obtain rfl := Except.ok.inj (written.symm.trans rule_written)
            rw [ih.mpr ⟨each, names_eq, (names.given_succ entries.length).symm⟩]
            obtain ⟨_, _⟩ := rule
            dsimp only at name_eq
            rw [← name_eq]
            rfl

/-- Entries fail with the first that writes no draft. -/
theorem importEntries_eq_error_iff {number : Nat} {names : NameSupply} {entries : List Json}
    {error : Error} :
    importEntries number names entries = .error error ↔
      ∃ front entry back fault, entries = front ++ entry :: back ∧
        (∀ earlier ∈ front, ∃ draft, Entry.draft earlier = .ok draft) ∧
        Entry.draft entry = .error fault ∧
        error = .importing (.entry (number + front.length) fault.message) := by
  induction entries generalizing number names with
  | nil => simp [importEntries]
  | cons entry entries ih =>
      cases written : Entry.draft entry with
      | error fault =>
          rw [importEntries_cons_error written, Except.error.injEq]
          constructor
          · rintro rfl
            exact ⟨[], entry, entries, fault, rfl, by simp, written, rfl⟩
          · rintro ⟨front, entry', back, fault', entries_eq, earlier_written, refused, rfl⟩
            cases front with
            | nil =>
                obtain ⟨rfl, rfl⟩ := List.cons.inj entries_eq
                obtain rfl := Except.error.inj (written.symm.trans refused)
                rfl
            | cons first front =>
                obtain ⟨rfl, -⟩ := List.cons.inj entries_eq
                obtain ⟨draft, read⟩ := earlier_written _ List.mem_cons_self
                rw [written] at read
                contradiction
      | ok draft =>
          rw [importEntries_cons_ok written]
          constructor
          · intro failed
            have rest_failed : importEntries (number + 1) names.next.2 entries = .error error := by
              cases rest : importEntries (number + 1) names.next.2 entries with
              | error _ => rwa [rest] at failed
              | ok _ => simp [rest, Except.map] at failed
            obtain ⟨front, entry', back, fault, rfl, earlier_written, refused, rfl⟩ :=
              ih.mp rest_failed
            refine ⟨entry :: front, entry', back, fault, rfl, ?_, refused, ?_⟩
            · rw [List.forall_mem_cons]
              exact ⟨⟨draft, written⟩, earlier_written⟩
            · rw [List.length_cons, Nat.add_assoc, Nat.add_comm 1]
          · rintro ⟨front, entry', back, fault, entries_eq, earlier_written, refused, rfl⟩
            cases front with
            | nil =>
                obtain ⟨rfl, -⟩ := List.cons.inj entries_eq
                rw [written] at refused
                contradiction
            | cons first front =>
                obtain ⟨rfl, rfl⟩ := List.cons.inj entries_eq
                have place_eq : number + (entry :: front).length = number + 1 + front.length := by
                  rw [List.length_cons, Nat.add_assoc, Nat.add_comm 1]
                rw [ih.mpr ⟨front, entry', back, fault, rfl,
                  fun earlier listed => earlier_written earlier (List.mem_cons_of_mem _ listed),
                  refused, by rw [place_eq]⟩]
                rfl

/-! ## Entries alone -/

/-- The text alone between brackets is imported as a rule that says the draft, under the next
name. -/
def ImportsAlone (piece : String) (draft : Draft) : Prop :=
  ∀ names : NameSupply, importRules ("[" ++ piece ++ "]") names =
    .ok ([draft.named names.next.1], names.next.2)

/-- The text alone between brackets is not imported, for the reason. -/
def RefusedAlone (piece reason : String) : Prop :=
  ∀ names : NameSupply, importRules ("[" ++ piece ++ "]") names =
    .error (.importing (.entry 1 reason))

theorem importRules_of_read {text : String} {entries : List Json}
    (read : Json.read? text = some (.array entries))
    (sound : (Json.array entries).isSound Json.maxDepth = true) (names : NameSupply) :
    importRules text names = importEntries 1 names entries := by
  rw [importRules, read]
  simp [sound]

/-- An entry is at fault only in a sound array. -/
theorem exists_array_of_importRules_entry {text reason : String} {names : NameSupply} {number : Nat}
    (failed : importRules text names = .error (.importing (.entry number reason))) :
    ∃ entries, Json.read? text = some (.array entries) ∧
      (Json.array entries).isSound Json.maxDepth = true := by
  cases read : Json.read? text with
  | none => simp [importRules, read] at failed
  | some json =>
      cases sound : json.isSound Json.maxDepth with
      | false => simp [importRules, read, sound] at failed
      | true =>
          cases json with
          | array entries => exact ⟨entries, rfl, sound⟩
          | _ => simp [importRules, read, sound] at failed

theorem Json.areSound_iff {depth : Nat} {items : List Json} :
    areSound depth items = true ↔ ∀ item ∈ items, isSound depth item = true := by
  induction items with
  | nil => simp [areSound]
  | cons item items ih => simp [areSound, ih]

theorem Json.isSound_singleton {items : List Json} {depth : Nat}
    (sound : (Json.array items).isSound depth = true) {item : Json} (listed : item ∈ items) :
    (Json.array [item]).isSound depth = true := by
  rw [isSound, Bool.and_eq_true, areSound_iff] at sound ⊢
  exact ⟨sound.1, by simpa using sound.2 item listed⟩

section Alone

variable {piece : String} {entry : Json}
  (read : Json.read? ("[" ++ piece ++ "]") = some (.array [entry]))
  (sound : (Json.array [entry]).isSound Json.maxDepth = true)

include read sound

theorem importsAlone_of_draft {draft : Draft} (written : Entry.draft entry = .ok draft) :
    ImportsAlone piece draft := by
  intro names
  rw [importRules_of_read read sound, importEntries_cons_ok written]
  rfl

theorem refusedAlone_of_draft {fault : EntryFault} (refused : Entry.draft entry = .error fault) :
    RefusedAlone piece fault.message := by
  intro names
  rw [importRules_of_read read sound, importEntries_cons_error refused]

/-- An entry is imported alone as the draft that it writes. -/
theorem importsAlone_iff {draft : Draft} :
    ImportsAlone piece draft ↔ Entry.draft entry = .ok draft := by
  refine ⟨fun alone => ?_, importsAlone_of_draft read sound⟩
  cases written : Entry.draft entry with
  | error fault => cases (alone ⟨0⟩).symm.trans (refusedAlone_of_draft read sound written ⟨0⟩)
  | ok found =>
      have same := (alone ⟨0⟩).symm.trans (importsAlone_of_draft read sound written ⟨0⟩)
      simp only [Except.ok.injEq, Prod.mk.injEq, List.cons.injEq, and_true] at same
      exact congrArg Except.ok (congrArg Rule.toDraft same).symm

/-- An entry is refused alone for the reason that it writes no draft. -/
theorem refusedAlone_iff {reason : String} :
    RefusedAlone piece reason ↔
      ∃ fault, Entry.draft entry = .error fault ∧ reason = fault.message := by
  constructor
  · intro alone
    cases written : Entry.draft entry with
    | ok found => cases (alone ⟨0⟩).symm.trans (importsAlone_of_draft read sound written ⟨0⟩)
    | error fault =>
        have same := (alone ⟨0⟩).symm.trans (refusedAlone_of_draft read sound written ⟨0⟩)
        simp only [Except.error.injEq, Error.importing.injEq, ImportFault.entry.injEq,
          true_and] at same
        exact ⟨fault, rfl, same⟩
  · rintro ⟨fault, refused, rfl⟩
    exact refusedAlone_of_draft read sound refused

end Alone

section Related

variable {α β : Type} {R : α → β → Prop}

/-- Where one of two lists that are related item by item is split, the other is split alike. -/
theorem exists_split_of_forall₂ {others : List α} {front back : List β} {item : β}
    (related : List.Forall₂ R others (front ++ item :: back)) :
    ∃ front' other back', others = front' ++ other :: back' ∧ List.Forall₂ R front' front ∧
      R other item := by
  have front_related := List.forall₂_take_append others front (item :: back) related
  have back_related := List.forall₂_drop_append others front (item :: back) related
  obtain ⟨other, back', item_related, -, others_eq⟩ := List.forall₂_cons_right_iff.mp back_related
  refine ⟨_, other, back', ?_, front_related, item_related⟩
  rw [← others_eq, List.take_append_drop]

theorem exists_related_of_mem {items : List α} {others : List β}
    (related : List.Forall₂ R items others) {item : α} (listed : item ∈ items) :
    ∃ other ∈ others, R item other := by
  obtain ⟨front, back, rfl⟩ := List.append_of_mem listed
  obtain ⟨front', other, back', rfl, -, item_related⟩ := exists_split_of_forall₂ related.flip
  exact ⟨other, by simp, item_related⟩

end Related

/-- The text alone is imported as what the entry writes, and refused if it writes nothing. -/
structure SpeaksFor (piece : String) (entry : Json) : Prop where
  imports_iff : ∀ draft, ImportsAlone piece draft ↔ Entry.draft entry = .ok draft
  refused_iff : ∀ reason, RefusedAlone piece reason ↔
    ∃ fault, Entry.draft entry = .error fault ∧ reason = fault.message

section Pieces

variable {pieces : List String} {entries : List Json}

theorem speaksFor_of_itemTexts {text : String}
    (sound : (Json.array entries).isSound Json.maxDepth = true)
    (texts : Json.ItemTexts text pieces entries) : List.Forall₂ SpeaksFor pieces entries := by
  rw [List.forall₂_iff_zip]
  refine ⟨texts.alone.length_eq, fun {piece entry} paired => ?_⟩
  have alone := List.forall₂_zip texts.alone paired
  have alone_sound := Json.isSound_singleton sound (List.of_mem_zip paired).2
  exact ⟨fun _ => importsAlone_iff alone alone_sound, fun _ => refusedAlone_iff alone alone_sound⟩

variable (speaking : List.Forall₂ SpeaksFor pieces entries)

include speaking

theorem importsAlone_forall₂_iff {rules : List Rule} :
    List.Forall₂ (fun piece rule => ImportsAlone piece rule.toDraft) pieces rules ↔
      List.Forall₂ (fun entry rule => Entry.draft entry = .ok rule.toDraft) entries rules := by
  induction speaking generalizing rules with
  | nil => simp
  | cons speaks _ ih => cases rules <;> simp [speaks.imports_iff, ih]

/-- The first entry that writes no draft is the first that is refused alone. -/
theorem importEntries_eq_error_iff_refusedAlone {number : Nat} {names : NameSupply}
    {error : Error} :
    importEntries number names entries = .error error ↔
      ∃ front piece back reason, pieces = front ++ piece :: back ∧
        (∀ earlier ∈ front, ∃ draft, ImportsAlone earlier draft) ∧ RefusedAlone piece reason ∧
        error = .importing (.entry (number + front.length) reason) := by
  rw [importEntries_eq_error_iff]
  constructor
  · rintro ⟨front, entry, back, fault, rfl, written, refused, rfl⟩
    obtain ⟨front', piece, back', rfl, front_speaking, speaks⟩ := exists_split_of_forall₂ speaking
    refine ⟨front', piece, back', fault.message, rfl, fun earlier listed => ?_,
      (speaks.refused_iff _).mpr ⟨fault, refused, rfl⟩, by rw [front_speaking.length_eq]⟩
    obtain ⟨other, other_listed, speaks⟩ := exists_related_of_mem front_speaking listed
    obtain ⟨draft, read⟩ := written other other_listed
    exact ⟨draft, (speaks.imports_iff draft).mpr read⟩
  · rintro ⟨front, piece, back, reason, rfl, imported, refused, rfl⟩
    obtain ⟨front', entry, back', rfl, front_speaking, speaks⟩ :=
      exists_split_of_forall₂ speaking.flip
    obtain ⟨fault, unwritten, rfl⟩ := (speaks.refused_iff reason).mp refused
    refine ⟨front', entry, back', fault, rfl, fun earlier listed => ?_, unwritten,
      by rw [front_speaking.length_eq]⟩
    obtain ⟨other, other_listed, speaks⟩ := exists_related_of_mem front_speaking listed
    obtain ⟨draft, alone⟩ := imported other other_listed
    exact ⟨draft, (speaks.imports_iff draft).mp alone⟩

/-- Entries are imported together if each is imported alone. -/
theorem importEntries_isOk_iff {number : Nat} {names : NameSupply} :
    (∃ imported, importEntries number names entries = .ok imported) ↔
      ∀ piece ∈ pieces, ∃ draft, ImportsAlone piece draft := by
  constructor
  · rintro ⟨⟨rules, left⟩, read⟩ piece listed
    have each := (importsAlone_forall₂_iff speaking).mpr (importEntries_eq_ok_iff.mp read).1
    obtain ⟨rule, -, alone⟩ := exists_related_of_mem each listed
    exact ⟨rule.toDraft, alone⟩
  · intro imported
    cases result : importEntries number names entries with
    | ok found => exact ⟨found, rfl⟩
    | error error =>
        obtain ⟨front, piece, back, reason, rfl, -, refused, -⟩ :=
          (importEntries_eq_error_iff_refusedAlone speaking).mp result
        obtain ⟨draft, alone⟩ := imported piece (by simp)
        cases (alone names).symm.trans (refused names)

end Pieces

/-- An import says of each entry of its array what an import of the entry alone says.  It gives
rules if every entry alone does, each under the next name, and it fails with the number and the
reason of the first entry that fails alone.  Of an object only the last value under each of four
names counts. -/
theorem import_entry_by_entry {text : String} {entries : List Json}
    (read : Json.read? text = some (.array entries))
    (sound : (Json.array entries).isSound Json.maxDepth = true) (names : NameSupply) :
    (∃ pieces, Json.ItemTexts text pieces entries) ∧
      ∀ pieces, Json.ItemTexts text pieces entries →
        ((∃ imported, importRules text names = .ok imported) ↔
          ∀ piece ∈ pieces, ∃ draft, ImportsAlone piece draft) ∧
        (∀ rules left, importRules text names = .ok (rules, left) ↔
          List.Forall₂ (fun piece rule => ImportsAlone piece rule.toDraft) pieces rules ∧
            Rule.names rules = names.upcoming pieces.length ∧
            left = ⟨names.given + pieces.length⟩) ∧
        (∀ error, importRules text names = .error error ↔
          ∃ front piece back reason, pieces = front ++ piece :: back ∧
            (∀ earlier ∈ front, ∃ draft, ImportsAlone earlier draft) ∧
            RefusedAlone piece reason ∧
            error = .importing (.entry (front.length + 1) reason) ∧
            error.message = "Import error: Rule #" ++ toString (front.length + 1) ++
              " is malformed: " ++ reason) ∧
        List.Forall₂ (fun piece entry => ∀ draft, ImportsAlone piece draft ↔ EntrySays entry draft)
          pieces entries := by
  refine ⟨Json.exists_itemTexts read, fun pieces texts => ?_⟩
  have speaking := speaksFor_of_itemTexts sound texts
  rw [importRules_of_read read sound]
  refine ⟨importEntries_isOk_iff speaking, fun rules left => ?_, fun error => ?_, ?_⟩
  · rw [importEntries_eq_ok_iff, importsAlone_forall₂_iff speaking, speaking.length_eq]
  · simp only [importEntries_eq_error_iff_refusedAlone speaking, Nat.add_comm 1]
    constructor
    · rintro ⟨front, piece, back, reason, split, alone, refused, rfl⟩
      exact ⟨front, piece, back, reason, split, alone, refused, rfl, rfl⟩
    · rintro ⟨front, piece, back, reason, split, alone, refused, same, -⟩
      exact ⟨front, piece, back, reason, split, alone, refused, same⟩
  · exact speaking.imp fun piece entry speaks draft =>
      (speaks.imports_iff draft).trans Entry.draft_eq_ok_iff

/-- The last of three entries has no destination, and the import fails with it.  The first repeats
a name, and the second is an array. -/
theorem import_entry_by_entry_third :
    let text := "[ \x7b\"sourceUrl\":\"a\",\"id\":7,\"sourceUrl\":\"b\"," ++
      "\"destinationUrl\":\"c\"\x7d , [\"x\",\"y\",\x7b\"regex\":null\x7d,false]," ++
      "\x7b\"sourceUrl\":\"z\"\x7d ]"
    ∃ entries pieces, Json.read? text = some (.array entries) ∧
      (Json.array entries).isSound Json.maxDepth = true ∧ Json.ItemTexts text pieces entries ∧
        ∃ front piece back, pieces = front ++ piece :: back ∧ front.length = 2 ∧
          (∀ earlier ∈ front, ∃ draft, ImportsAlone earlier draft) ∧
          RefusedAlone piece "missing field `destinationUrl`" := by
  intro text
  have failed : importRules text ⟨0⟩ =
      .error (.importing (.entry 3 "missing field `destinationUrl`")) := by
    decide +kernel
  obtain ⟨entries, read, sound⟩ := exists_array_of_importRules_entry failed
  obtain ⟨⟨pieces, texts⟩, results⟩ := import_entry_by_entry read sound ⟨0⟩
  obtain ⟨-, -, failures, -⟩ := results pieces texts
  obtain ⟨front, piece, back, reason, split, alone, refused, same, -⟩ := (failures _).mp failed
  simp only [Error.importing.injEq, ImportFault.entry.injEq] at same
  obtain ⟨place, rfl⟩ := same
  exact ⟨entries, pieces, read, sound, texts, front, piece, back, split, by omega, alone, refused⟩

end Redirects
