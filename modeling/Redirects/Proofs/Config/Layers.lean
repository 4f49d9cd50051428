import Mathlib.Data.List.Induction
import Redirects.Config.Basic

/-!
# Sources of settings in layers

A source is merged into the settings key by key.  What stands in a field of a section afterwards is
what the source alone puts there, or what stood there before if the source puts nothing there,
whatever else the source says; only the section has to stay a table, and the field a single value.
-/

namespace Redirects.Setting

/-! ## Fields of sections -/

@[simp]
theorem get?_nil (name : String) : get? name [] = none := rfl

theorem get?_cons (name : String) (entry : String × Setting) (entries : List (String × Setting)) :
    get? name (entry :: entries) = if entry.1 = name then some entry.2 else get? name entries := by
  rw [get?, List.find?_cons]
  split_ifs with found <;> simp [found, get?]

theorem get?_put (name key : String) (value : Setting) (entries : List (String × Setting)) :
    get? name (put key value entries) = if key = name then some value else get? name entries := by
  induction entries with
  | nil => rw [put, get?_cons, get?_nil]
  | cons entry entries ih =>
      rw [put]
      split_ifs with found same same
      · rw [get?_cons, if_pos same]
      · rw [get?_cons, get?_cons, if_neg same, if_neg (found ▸ same)]
      · rw [get?_cons, ih, if_pos same, if_neg (same ▸ found)]
      · rw [get?_cons, get?_cons, ih, if_neg same]

/-- The setting in a field of a section. -/
def field? (section_ field : String) (settings : Setting) : Option Setting :=
  (get? section_ settings.entries).bind fun below => get? field below.entries

/-- The setting is a single value, no table and no list. -/
def IsSingle : Setting → Prop
  | .table _ | .list _ => False
  | _ => True

theorem override_of_single {value : Setting} (single : value.IsSingle) (fuel : Nat)
    (base : Setting) : override fuel base value = value := by
  cases value <;> first | contradiction | (cases fuel <;> rfl)

theorem isSingle_of_override {fuel : Nat} {base value : Setting}
    (single : (override fuel base value).IsSingle) : value.IsSingle := by
  cases value with
  | table entries => cases fuel <;> exact single
  | list items => cases fuel <;> exact single
  | _ => trivial

/-- A single value at the end of a path does not depend on what stood there. -/
theorem setAt_of_single {steps : List KeyStep} {value : Setting}
    (single : (setAt steps value .nothing).IsSingle) (base : Setting) :
    setAt steps value base = setAt steps value .nothing := by
  match steps with
  | [] =>
      rw [setAt] at single ⊢
      have value_single := isSingle_of_override single
      rw [setAt, override_of_single value_single, override_of_single value_single]
  | .key name :: steps => exact False.elim single
  | .position number :: steps => exact False.elim single

/-- The entries of a table overridden by one more. -/
def overrideEntry (fuel : Nat) (entries : List (String × Setting)) (entry : String × Setting) :
    List (String × Setting) :=
  put entry.1 (override fuel ((get? entry.1 entries).getD .nothing) entry.2) entries

theorem override_table (fuel : Nat) (base : Setting) (later : List (String × Setting)) :
    override (fuel + 1) base (.table later) =
      .table (later.foldl (overrideEntry fuel) base.entries) := rfl

/-- What a field of a table holds is what a later table alone puts there, or else what it held. -/
theorem get?_foldl_overrideEntry {field : String} (fuel : Nat) (base : List (String × Setting))
    {later : List (String × Setting)}
    (single : ∀ setting ∈ get? field (later.foldl (overrideEntry fuel) []), setting.IsSingle) :
    get? field (later.foldl (overrideEntry fuel) base) =
      (get? field (later.foldl (overrideEntry fuel) [])).or (get? field base) := by
  induction later using List.reverseRecOn with
  | nil => rfl
  | append_singleton later entry ih =>
      simp only [List.foldl_append, List.foldl_cons, List.foldl_nil] at single ⊢
      rw [overrideEntry, get?_put] at single ⊢
      rw [overrideEntry, get?_put]
      split_ifs at single ⊢ with same
      · have entry_single := isSingle_of_override (single _ rfl)
        rw [override_of_single entry_single, override_of_single entry_single, Option.some_or]
      · exact ih single

/-- What a field of a section holds behind a path is what a value alone puts there, or else what it
held. -/
theorem get?_setAt {field : String} (steps : List KeyStep) (value base : Setting)
    {alone : List (String × Setting)} (is_table : setAt steps value .nothing = .table alone)
    (single : ∀ setting ∈ get? field alone, setting.IsSingle) :
    ∃ entries, setAt steps value base = .table entries ∧
      get? field entries = (get? field alone).or (get? field base.entries) := by
  match steps with
  | [] =>
      rw [setAt] at is_table ⊢
      cases value with
      | table later =>
          rw [depth, override_table] at is_table ⊢
          obtain rfl := Setting.table.inj is_table
          exact ⟨_, rfl, get?_foldl_overrideEntry _ _ single⟩
      | _ => simp [depth, override] at is_table
  | .key name :: steps =>
      rw [setAt] at is_table ⊢
      obtain rfl := Setting.table.inj is_table
      refine ⟨_, rfl, ?_⟩
      rw [get?_put] at single ⊢
      rw [get?_put]
      split_ifs at single ⊢ with same
      · rw [Option.some_or]
        exact congrArg some (setAt_of_single (single _ rfl) _)
      · rfl
  | .position number :: steps => simp [setAt] at is_table

/-! ## Flat sections -/

/-- The section is a table, and the field holds a single value, if they are there. -/
structure Flat (section_ field : String) (settings : Setting) : Prop where
  is_table : ∀ below ∈ get? section_ settings.entries, ∃ entries, below = .table entries
  single : ∀ setting ∈ field? section_ field settings, setting.IsSingle

/-- A path begins with a name. -/
theorem exists_path_eq_cons (key : String) :
    ∃ name steps, KeyStep.path key = .key name :: steps := by
  rw [KeyStep.path]
  cases named : KeyStep.name? key.toList with
  | none => exact ⟨key, [], rfl⟩
  | some found =>
      obtain ⟨first, rest⟩ := found
      rw [KeyStep.name?, Option.ite_none_left_eq_some, Option.some.injEq, Prod.mk.injEq] at named
      obtain ⟨-, rfl, -⟩ := named
      cases behind : KeyStep.steps? rest.length rest with
      | none => exact ⟨key, [], by simp [behind]⟩
      | some steps =>
          exact ⟨.ofList (key.toList.takeWhile KeyStep.isNameChar), steps, by simp [behind]⟩

theorem field?_eq (section_ field : String) (settings : Setting) :
    field? section_ field settings =
      get? field ((get? section_ settings.entries).getD .nothing).entries := by
  rw [field?]
  cases get? section_ settings.entries <;> rfl

section Entry

variable {section_ field : String} {settings : Setting} {entry : String × Setting}

/-- An entry leaves a flat section flat if it makes none that is not flat, and the field holds what
the entry alone puts there, or else what it held. -/
theorem Flat.setAt (flat : Flat section_ field settings)
    (alone : Flat section_ field (merge (.table []) [entry])) :
    Flat section_ field (merge settings [entry]) ∧
      field? section_ field (merge settings [entry]) =
        (field? section_ field (merge (.table []) [entry])).or
          (field? section_ field settings) := by
  obtain ⟨name, steps, path_eq⟩ := exists_path_eq_cons entry.1
  have merged (settings : Setting) : get? section_ (merge settings [entry]).entries =
      if name = section_ then
        some (Setting.setAt steps entry.2 ((get? name settings.entries).getD .nothing))
      else get? section_ settings.entries := by
    rw [← get?_put]
    simp [merge, path_eq, Setting.setAt, entries]
  have field_eq (settings : Setting) := field?_eq section_ field settings
  obtain ⟨alone_table, alone_single⟩ := alone
  rw [field_eq] at alone_single
  rw [merged] at alone_table alone_single
  split_ifs at alone_table alone_single with same
  · subst same
    obtain ⟨alone, alone_eq⟩ := alone_table _ rfl
    rw [Option.getD_some, alone_eq] at alone_single
    obtain ⟨table, table_eq, held⟩ := get?_setAt steps entry.2
      ((get? name settings.entries).getD .nothing) alone_eq alone_single
    have merged_field : field? name field (merge settings [entry]) =
        (field? name field (merge (.table []) [entry])).or (field? name field settings) := by
      rw [field_eq, field_eq (merge (.table []) [entry]), merged, merged, if_pos rfl, if_pos rfl,
        Option.getD_some, Option.getD_some, alone_eq, table_eq, field_eq]
      exact held
    refine ⟨⟨?_, ?_⟩, merged_field⟩
    · rw [merged, if_pos rfl, table_eq]
      rintro _ ⟨⟩
      exact ⟨table, rfl⟩
    · rw [merged_field]
      intro setting found
      rcases Option.or_eq_some_iff.mp found with from_entry | ⟨-, from_settings⟩
      · rw [field_eq, merged, if_pos rfl, Option.getD_some, alone_eq] at from_entry
        exact alone_single setting from_entry
      · exact flat.single setting from_settings
  · have kept :
        get? section_ (merge settings [entry]).entries = get? section_ settings.entries := by
      rw [merged, if_neg same]
    have nothing : field? section_ field (merge (.table []) [entry]) = none := by
      rw [field_eq, merged, if_neg same]
      rfl
    rw [field_eq, kept, nothing, Option.none_or, field_eq]
    refine ⟨⟨?_, ?_⟩, rfl⟩
    · rw [kept]
      exact flat.is_table
    · rw [field_eq, kept, ← field_eq]
      exact flat.single

end Entry

end Redirects.Setting

namespace Redirects.Config

open Setting

/-! ## Keys -/

/-- The keys that are configured. -/
inductive Key where
  | store
  | engine
  | debounce
  | hops
deriving DecidableEq, Repr

namespace Key

/-- The section of a key. -/
def section_ : Key → String
  | .store | .engine => "general"
  | .debounce => "watch"
  | .hops => "preview"

/-- The name of a key in its section. -/
def field : Key → String
  | .store => "store_path"
  | .engine => "engine_path"
  | .debounce => "debounce_ms"
  | .hops => "max_hops"

/-- The values of a key. A path may be set to nothing. -/
abbrev Value : Key → Type
  | .store | .engine => Option String
  | .debounce | .hops => Nat

/-- The value that a setting gives a key. -/
def read? : (key : Key) → Setting → Option key.Value
  | .store => fun setting => pathField? (some setting)
  | .engine => fun setting => pathField? (some setting)
  | .debounce => Setting.word?
  | .hops => Setting.word?

/-- The setting of a key. -/
def setting? (key : Key) (settings : Setting) : Option Setting :=
  field? key.section_ key.field settings

/-- The value of a key. -/
def value? (key : Key) (settings : Setting) : Option key.Value :=
  (key.setting? settings).bind key.read?

/-- The section of the key is a table, and the key has a value in it, if they are there. -/
structure Fits (key : Key) (settings : Setting) : Prop where
  is_table : ∀ below ∈ get? key.section_ settings.entries, ∃ entries, below = .table entries
  readable : ∀ setting ∈ key.setting? settings, ∃ value, key.read? setting = some value

instance (key : Key) (settings : Setting) : Decidable (key.Fits settings) :=
  decidable_of_iff
    ((get? key.section_ settings.entries).all (· matches .table _) = true ∧
      ((key.setting? settings).all fun setting => (key.read? setting).isSome) = true) <| by
    rw [Option.all_eq_true, Option.all_eq_true]
    constructor
    · rintro ⟨is_table, readable⟩
      refine ⟨fun below found => ?_, fun setting found => ?_⟩
      · have table := is_table below found
        cases below <;> first | exact ⟨_, rfl⟩ | contradiction
      · exact Option.isSome_iff_exists.mp (readable setting found)
    · rintro ⟨is_table, readable⟩
      refine ⟨fun below found => ?_, fun setting found => ?_⟩
      · obtain ⟨entries, rfl⟩ := is_table below found
        rfl
      · exact Option.isSome_iff_exists.mpr (readable setting found)

theorem isSingle_of_read?_eq_some {key : Key} {setting : Setting} {value : key.Value}
    (read : key.read? setting = some value) : setting.IsSingle := by
  cases setting with
  | table entries => cases key <;> contradiction
  | list items => cases key <;> contradiction
  | _ => trivial

theorem Fits.flat {key : Key} {settings : Setting} (fits : key.Fits settings) :
    Flat key.section_ key.field settings := by
  refine ⟨fits.is_table, fun setting found => ?_⟩
  obtain ⟨value, read⟩ := fits.readable setting found
  exact isSingle_of_read?_eq_some read

theorem fits_empty (key : Key) : key.Fits (.table []) :=
  ⟨by simp [entries], by simp [setting?, field?, entries]⟩

end Key

/-- Each entry of the source gives all keys values of their types, as far as it sets them. -/
def WellTyped (source : List (String × Setting)) : Prop :=
  ∀ entry ∈ source, ∀ key : Key, key.Fits (merge (.table []) [entry])

instance (source : List (String × Setting)) : Decidable (WellTyped source) :=
  decidable_of_iff
    (∀ entry ∈ source, ∀ key ∈ [Key.store, .engine, .debounce, .hops],
      key.Fits (merge (.table []) [entry]))
    ⟨fun typed entry listed key => typed entry listed key (by cases key <;> simp),
      fun typed entry listed key _ => typed entry listed key⟩

/-- The value that a source alone gives a key. -/
def Key.alone? (key : Key) (source : List (String × Setting)) : Option key.Value :=
  key.value? (merge (.table []) source)

theorem findSome?_cons_eq_or {α β : Type} (find : α → Option β) (item : α) (items : List α) :
    (item :: items).findSome? find = (find item).or (items.findSome? find) := by
  rw [List.findSome?_cons]
  cases find item <;> rfl

namespace Key

variable {key : Key} {settings : Setting} {source : List (String × Setting)}

theorem Fits.mergeEntry {entry : String × Setting} (fits : key.Fits settings)
    (alone : key.Fits (merge (.table []) [entry])) :
    key.Fits (merge settings [entry]) ∧
      key.value? (merge settings [entry]) = (key.alone? [entry]).or (key.value? settings) := by
  obtain ⟨flat, merged⟩ := fits.flat.setAt alone.flat
  have setting_eq : key.setting? (merge settings [entry]) =
      (key.setting? (merge (.table []) [entry])).or (key.setting? settings) := merged
  refine ⟨⟨flat.is_table, fun setting found => ?_⟩, ?_⟩
  · rw [setting_eq] at found
    rcases Option.or_eq_some_iff.mp found with from_entry | ⟨-, from_settings⟩
    · exact alone.readable setting from_entry
    · exact fits.readable setting from_settings
  · rw [value?, setting_eq, alone?, value?, value?]
    cases found : key.setting? (merge (.table []) [entry]) with
    | none => rfl
    | some setting =>
        obtain ⟨value, read⟩ := alone.readable setting found
        simp [read]

/-- A source gives a key the value that it gives it alone, or else leaves the one it has, whatever
the source says of other keys. -/
theorem Fits.merge (fits : key.Fits settings) (typed : WellTyped source) :
    key.Fits (Setting.merge settings source) ∧
      key.value? (Setting.merge settings source) =
        (key.alone? source).or (key.value? settings) := by
  induction source generalizing settings with
  | nil => exact ⟨fits, rfl⟩
  | cons entry source ih =>
      obtain ⟨entry_typed, typed⟩ := List.forall_mem_cons.mp typed
      have alone := entry_typed key
      obtain ⟨step_fits, step_value⟩ := fits.mergeEntry alone
      obtain ⟨merged_fits, merged_value⟩ := ih step_fits typed
      obtain ⟨-, alone_value⟩ := ih alone typed
      have first (settings : Setting) : Setting.merge settings (entry :: source) =
          Setting.merge (Setting.merge settings [entry]) source := rfl
      rw [alone?, first settings, first (.table [])]
      refine ⟨merged_fits, ?_⟩
      rw [merged_value, step_value, alone_value, Option.or_assoc]
      rfl

/-- Of several sources the last that sets a key gives it its value. -/
theorem value?_foldl_merge {sources : List (List (String × Setting))}
    (typed : ∀ source ∈ sources, WellTyped source) (key : Key) :
    key.Fits (sources.foldl Setting.merge (.table [])) ∧
      key.value? (sources.foldl Setting.merge (.table [])) =
        sources.reverse.findSome? key.alone? := by
  induction sources using List.reverseRecOn with
  | nil => exact ⟨fits_empty key, rfl⟩
  | append_singleton sources source ih =>
      rw [List.forall_mem_append, List.forall_mem_singleton] at typed
      obtain ⟨fits, value_eq⟩ := ih typed.1
      obtain ⟨merged_fits, merged_value⟩ := fits.merge typed.2
      simp only [List.foldl_append, List.foldl_cons, List.foldl_nil, List.reverse_append,
        List.reverse_singleton, List.singleton_append, findSome?_cons_eq_or]
      exact ⟨merged_fits, by rw [merged_value, value_eq]⟩

end Key

/-! ## The configuration of settings -/

theorem pathField?_of_readable {setting? : Option Setting}
    (readable : ∀ setting ∈ setting?, ∃ value, pathField? (some setting) = some value) :
    pathField? setting? = some (setting?.bind fun setting => pathField? (some setting)).join := by
  cases setting? with
  | none => rfl
  | some setting =>
      obtain ⟨value, read⟩ := readable setting rfl
      rw [Option.bind_some, read, Option.join_some]

/-- The number of a section that is a table, if it is there. -/
theorem number?_of_is_table (default : Nat) {field : String} {section? : Option Setting}
    (is_table : ∀ below ∈ section?, ∃ entries, below = .table entries)
    (readable : ∀ setting ∈ section?.bind fun below => get? field below.entries,
      ∃ value, setting.word? = some value) :
    number? field default section? =
      some (((section?.bind fun below => get? field below.entries).bind
        Setting.word?).getD default) := by
  cases section? with
  | none => rfl
  | some below =>
      obtain ⟨table, rfl⟩ := is_table below rfl
      rw [Option.bind_some, entries] at readable ⊢
      rw [number?]
      cases found : get? field table with
      | none => rfl
      | some setting =>
          obtain ⟨value, read⟩ := readable setting found
          simp [wordField?, read]

/-- The paths of a section that is a table, if it is there. -/
theorem paths?_of_is_table {section? : Option Setting}
    (is_table : ∀ below ∈ section?, ∃ entries, below = .table entries)
    (store_readable : ∀ setting ∈ section?.bind fun below => get? "store_path" below.entries,
      ∃ value, pathField? (some setting) = some value)
    (engine_readable : ∀ setting ∈ section?.bind fun below => get? "engine_path" below.entries,
      ∃ value, pathField? (some setting) = some value) :
    paths? section? = some
      (((section?.bind fun below => get? "store_path" below.entries).bind fun setting =>
          pathField? (some setting)).join,
        ((section?.bind fun below => get? "engine_path" below.entries).bind fun setting =>
          pathField? (some setting)).join) := by
  cases section? with
  | none => rfl
  | some below =>
      obtain ⟨table, rfl⟩ := is_table below rfl
      rw [Option.bind_some, entries] at store_readable engine_readable
      rw [paths?, pathField?_of_readable store_readable, pathField?_of_readable engine_readable]
      rfl

/-- Settings that fit all keys give a configuration, with their values. -/
theorem ofSettings?_of_fits {settings : Setting} (fits : ∀ key : Key, key.Fits settings) :
    ofSettings? settings =
      some { store := (Key.store.value? settings).join
             engine := (Key.engine.value? settings).join
             debounceMs := (Key.debounce.value? settings).getD 500
             maxHops := (Key.hops.value? settings).getD 10 } := by
  have general := paths?_of_is_table (fits .store).is_table (fits .store).readable
    (fits .engine).readable
  have watch := number?_of_is_table 500 (fits .debounce).is_table
    (fits .debounce).readable
  have preview := number?_of_is_table 10 (fits .hops).is_table (fits .hops).readable
  simp only [Key.section_, Key.field] at general watch preview
  simp only [ofSettings?, general, watch, preview]
  rfl

end Redirects.Config
