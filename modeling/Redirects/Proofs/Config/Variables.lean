import Mathlib.Data.List.Nodup
import Redirects.Proofs.Config.Layers

/-!
# Variables of sections

A variable of the environment whose name has two underscores between a section and a key sets the
key.  No other variable does, so that the last such variable gives the key its value, if the values
are of their types.
-/

namespace Redirects

/-! ## Paths of keys -/

namespace KeyStep

theorem exists_of_name?_eq_some {text rest : List Char} {step : KeyStep}
    (found : name? text = some (step, rest)) :
    ∃ name, step = .key (.ofList name) ∧ text = name ++ rest := by
  rw [name?, Option.ite_none_left_eq_some, Option.some.injEq, Prod.mk.injEq] at found
  obtain ⟨-, rfl, rfl⟩ := found
  exact ⟨text.takeWhile isNameChar, rfl,
    (List.prefix_iff_eq_append.mp (List.takeWhile_prefix isNameChar)).symm⟩

theorem exists_of_position?_eq_some {text rest : List Char} {step : KeyStep}
    (found : position? text = some (step, rest)) : ∃ number, step = .position number := by
  rw [position?] at found
  split at found
  · next number _ _ =>
      obtain ⟨rfl, -⟩ := Prod.mk.inj (Option.some.inj found)
      exact ⟨_, rfl⟩
  · contradiction

theorem exists_of_steps?_cons {fuel : Nat} {c : Char} {text : List Char} {steps : List KeyStep}
    (read : steps? (fuel + 1) (c :: text) = some steps) :
    ∃ step rest others, steps = step :: others ∧ steps? fuel rest = some others ∧
      (c = '.' ∧ name? text = some (step, rest) ∨ position? text = some (step, rest)) := by
  rw [steps?] at read
  simp only [Option.bind_eq_bind, Option.pure_def] at read
  split_ifs at read with dot bracket
  · obtain ⟨⟨step, rest⟩, step_read, read⟩ := Option.bind_eq_some_iff.mp read
    obtain ⟨others, others_read, steps_eq⟩ := Option.bind_eq_some_iff.mp read
    exact ⟨step, rest, others, (Option.some.inj steps_eq).symm, others_read,
      .inl ⟨beq_iff_eq.mp dot, step_read⟩⟩
  · obtain ⟨⟨step, rest⟩, step_read, read⟩ := Option.bind_eq_some_iff.mp read
    obtain ⟨others, others_read, steps_eq⟩ := Option.bind_eq_some_iff.mp read
    exact ⟨step, rest, others, (Option.some.inj steps_eq).symm, others_read, .inr step_read⟩
  · contradiction

theorem eq_nil_of_steps?_eq_nil {fuel : Nat} {text : List Char}
    (read : steps? fuel text = some []) : text = [] := by
  match fuel, text with
  | _, [] => rfl
  | 0, _ :: _ => contradiction
  | fuel + 1, c :: text =>
      obtain ⟨_, _, _, contrary, -⟩ := exists_of_steps?_cons read
      contradiction

/-- A single name behind a name stands behind a dot. -/
theorem eq_of_steps?_eq_key {fuel : Nat} {text : List Char} {field : String}
    (read : steps? fuel text = some [.key field]) : text = '.' :: field.toList := by
  match fuel, text with
  | _, [] => simp [steps?] at read
  | 0, _ :: _ => contradiction
  | fuel + 1, c :: text =>
      obtain ⟨step, rest, others, steps_eq, rest_read, ⟨rfl, named⟩ | placed⟩ :=
        exists_of_steps?_cons read
      · obtain ⟨rfl, rfl⟩ := List.cons.inj steps_eq
        obtain rfl := eq_nil_of_steps?_eq_nil rest_read
        obtain ⟨name, name_eq, rfl⟩ := exists_of_name?_eq_some named
        rw [KeyStep.key.inj name_eq, String.toList_ofList, List.append_nil]
      · obtain ⟨rfl, rfl⟩ := List.cons.inj steps_eq
        obtain ⟨number, contrary⟩ := exists_of_position?_eq_some placed
        contradiction

/-- A path of two names is written with a dot between them. -/
theorem eq_of_path_eq {key section_ field : String}
    (path_eq : path key = [.key section_, .key field]) : key = section_ ++ "." ++ field := by
  rw [path] at path_eq
  cases first_eq : name? key.toList with
  | none => simp [first_eq] at path_eq
  | some first =>
      obtain ⟨step, rest⟩ := first
      obtain ⟨name, rfl, key_eq⟩ := exists_of_name?_eq_some first_eq
      cases rest_eq : steps? rest.length rest with
      | none => simp [first_eq, rest_eq] at path_eq
      | some steps =>
          simp only [first_eq, rest_eq, Option.bind_eq_bind, Option.bind_some, Option.pure_def,
            Option.getD_some, List.cons.injEq, KeyStep.key.injEq] at path_eq
          obtain ⟨rfl, rfl⟩ := path_eq
          rw [eq_of_steps?_eq_key rest_eq] at key_eq
          apply String.toList_injective
          rw [key_eq]
          simp [String.toList_append]

end KeyStep

namespace Config

open Setting

/-! ## Keys in variables -/

/-- The key that a variable of the program sets. -/
def variableKey? (name : String) : Option String :=
  let folded := Text.lowercaseChars name.toList
  if variableStart.isPrefixOf folded then
    some (.ofList (dotted (folded.drop variableStart.length)))
  else none

theorem variableSettings_eq (environment : Environment) :
    variableSettings environment = environment.filterMap fun entry =>
      (variableKey? entry.1).map fun key => (key, Setting.ofVariable entry.2) := by
  rw [variableSettings]
  congr 1
  funext ⟨name, value⟩
  simp only [variableKey?]
  split_ifs <;> rfl

theorem isSingle_ofVariable (text : String) : (Setting.ofVariable text).IsSingle := by
  rw [Setting.ofVariable]
  split_ifs
  · trivial
  · trivial
  · split <;> trivial

namespace Key

/-- The name of a key with its section. -/
def name (key : Key) : String := key.section_ ++ "." ++ key.field

/-- The variable for a key. -/
def variableName : Key → String
  | .store => "URL_REDIRECT_GENERAL__STORE_PATH"
  | .engine => "URL_REDIRECT_GENERAL__ENGINE_PATH"
  | .debounce => "URL_REDIRECT_WATCH__DEBOUNCE_MS"
  | .hops => "URL_REDIRECT_PREVIEW__MAX_HOPS"

theorem variableKey?_variableName (key : Key) : variableKey? key.variableName = some key.name := by
  cases key <;> decide +kernel

theorem path_name (key : Key) : KeyStep.path key.name = [.key key.section_, .key key.field] := by
  cases key <;> decide +kernel

theorem isSingle_setAt_iff {steps : List KeyStep} {value : Setting} (single : value.IsSingle) :
    (setAt steps value .nothing).IsSingle ↔ steps = [] := by
  match steps with
  | [] =>
      rw [setAt, override_of_single single]
      exact ⟨fun _ => rfl, fun _ => single⟩
  | .key name :: steps => exact ⟨False.elim, fun contrary => by contradiction⟩
  | .position number :: steps => exact ⟨False.elim, fun contrary => by contradiction⟩

/-- A single value sets a key at the end of the path of the key only. -/
theorem path_eq_of_setting?_eq_some {key : Key} {name : String} {value setting : Setting}
    (single : value.IsSingle) (fits : key.Fits (merge (.table []) [(name, value)]))
    (found : key.setting? (merge (.table []) [(name, value)]) = some setting) :
    KeyStep.path name = [.key key.section_, .key key.field] := by
  have setting_single : setting.IsSingle := fits.flat.single setting found
  obtain ⟨first, steps, path_eq⟩ := exists_path_eq_cons name
  have merged : merge (.table []) [(name, value)] =
      .table [(first, setAt steps value .nothing)] := by
    simp [merge, path_eq, setAt, put, entries]
  rw [merged, setting?, field?, entries, get?_cons] at found
  split_ifs at found with in_section
  · rw [Option.bind_some] at found
    cases steps with
    | nil =>
        rw [setAt, override_of_single single] at found
        cases value <;> contradiction
    | cons step steps =>
        cases step with
        | key name =>
            rw [setAt, entries, get?_put] at found
            split_ifs at found with in_field
            · obtain rfl := Option.some.inj found
              obtain rfl := (isSingle_setAt_iff single).mp setting_single
              have first_eq : first = key.section_ := in_section
              rw [path_eq, first_eq, in_field]
            · contradiction
        | position number => contradiction
  · contradiction

theorem setting?_name (key : Key) {value : Setting} (single : value.IsSingle) :
    key.setting? (merge (.table []) [(key.name, value)]) = some value := by
  simp [merge, path_name, setAt, put, entries, setting?, field?, get?_cons,
    override_of_single single]

/-- A single value sets the key that it is put under, and no other. -/
theorem alone?_singleton {key : Key} {name : String} {value : Setting} (single : value.IsSingle)
    (fits : key.Fits (merge (.table []) [(name, value)])) :
    key.alone? [(name, value)] = if name = key.name then key.read? value else none := by
  split_ifs with same
  · rw [same, alone?, value?, setting?_name key single, Option.bind_some]
  · cases found : key.setting? (merge (.table []) [(name, value)]) with
    | none => rw [alone?, value?, found, Option.bind_none]
    | some setting =>
        have path_eq := path_eq_of_setting?_eq_some single fits found
        exact absurd (KeyStep.eq_of_path_eq path_eq) same

theorem alone?_eq_findSome? {source : List (String × Setting)} (typed : WellTyped source)
    (key : Key) : key.alone? source = source.reverse.findSome? fun entry => key.alone? [entry] := by
  have each_typed : ∀ entries ∈ source.map fun entry => [entry], WellTyped entries := by
    intro entries listed
    obtain ⟨entry, entry_listed, rfl⟩ := List.mem_map.mp listed
    simpa [WellTyped] using typed entry entry_listed
  obtain ⟨-, value_eq⟩ := value?_foldl_merge each_typed key
  rw [List.foldl_map, ← List.map_reverse, List.findSome?_map] at value_eq
  exact value_eq

/-- The text of the last variable that sets a key. -/
def sectioned? (key : Key) (environment : Environment) : Option String :=
  environment.reverse.findSome? fun entry =>
    if variableKey? entry.1 = some key.name then some entry.2 else none

/-- What is found first is read first, if everything that may be found can be read. -/
theorem findSome?_eq_bind {α β γ : Type} {items : List α} {value : α → Option γ}
    {find : α → Option β} {read : β → Option γ}
    (read_eq : ∀ item ∈ items, value item = (find item).bind read)
    (readable : ∀ item ∈ items, ∀ found, find item = some found →
      ∃ value, read found = some value) :
    items.findSome? value = (items.findSome? find).bind read := by
  induction items with
  | nil => rfl
  | cons item items ih =>
      obtain ⟨item_eq, read_eq⟩ := List.forall_mem_cons.mp read_eq
      obtain ⟨item_readable, readable⟩ := List.forall_mem_cons.mp readable
      rw [List.findSome?_cons, List.findSome?_cons, item_eq]
      cases found : find item with
      | none => exact ih read_eq readable
      | some text =>
          obtain ⟨value, text_eq⟩ := item_readable text found
          simp [text_eq]

section Typed

variable {environment : Environment} {entry : String × String} {name : String}

theorem fits_of_variable (typed : WellTyped (variableSettings environment))
    (listed : entry ∈ environment) (keyed : variableKey? entry.1 = some name) (key : Key) :
    key.Fits (merge (.table []) [(name, Setting.ofVariable entry.2)]) := by
  refine typed _ ?_ key
  rw [variableSettings_eq, List.mem_filterMap]
  exact ⟨entry, listed, by rw [keyed, Option.map_some]⟩

theorem exists_read?_of_variable {key : Key} (typed : WellTyped (variableSettings environment))
    (listed : entry ∈ environment) (keyed : variableKey? entry.1 = some key.name) :
    ∃ value, key.read? (Setting.ofVariable entry.2) = some value :=
  (fits_of_variable typed listed keyed key).readable _
    (setting?_name key (isSingle_ofVariable entry.2))

theorem exists_of_sectioned?_eq_some {key : Key} {text : String}
    (found : key.sectioned? environment = some text) :
    ∃ entry ∈ environment, variableKey? entry.1 = some key.name ∧ entry.2 = text := by
  obtain ⟨entry, listed, text_eq⟩ := List.exists_of_findSome?_eq_some found
  rw [Option.ite_none_right_eq_some, Option.some.injEq] at text_eq
  exact ⟨entry, List.mem_reverse.mp listed, text_eq⟩

/-- The last variable that sets a key gives it its value. -/
theorem alone?_variableSettings (typed : WellTyped (variableSettings environment)) (key : Key) :
    key.alone? (variableSettings environment) =
      (key.sectioned? environment).bind fun text => key.read? (Setting.ofVariable text) := by
  rw [alone?_eq_findSome? typed, variableSettings_eq, ← List.filterMap_reverse,
    ← List.head?_filterMap, List.filterMap_filterMap, List.head?_filterMap]
  refine findSome?_eq_bind (fun entry listed => ?_) fun entry listed text found => ?_
  · cases keyed : variableKey? entry.1 with
    | none => rfl
    | some name =>
        have fits := fits_of_variable typed (List.mem_reverse.mp listed) keyed key
        rw [Option.map_some, Option.bind_some, alone?_singleton (isSingle_ofVariable entry.2) fits]
        simp only [Option.some.injEq]
        split_ifs <;> rfl
  · rw [Option.ite_none_right_eq_some, Option.some.injEq] at found
    obtain ⟨keyed, rfl⟩ := found
    exact exists_read?_of_variable typed (List.mem_reverse.mp listed) keyed

end Typed

/-- Where a key is spelled in one way only, the variable of that name sets the key. -/
theorem sectioned?_eq_value? {key : Key} {environment : Environment}
    (distinct : (environment.map (·.1)).Nodup)
    (spelled : ∀ entry ∈ environment, variableKey? entry.1 = some key.name →
      entry.1 = key.variableName) :
    key.sectioned? environment = environment.value? key.variableName := by
  have unique {entry other : String × String} (listed : entry ∈ environment)
      (other_listed : other ∈ environment) (same : entry.1 = other.1) : entry = other :=
    List.inj_on_of_nodup_map distinct listed other_listed same
  cases found : environment.value? key.variableName with
  | none =>
      rw [Environment.value?, Option.map_eq_none_iff, List.find?_eq_none] at found
      rw [sectioned?, List.findSome?_eq_none_iff]
      intro entry listed
      have missed := found entry (List.mem_reverse.mp listed)
      rw [if_neg fun keyed => missed ?_]
      simpa using spelled entry (List.mem_reverse.mp listed) keyed
  | some text =>
      obtain ⟨entry, entry_found, rfl⟩ := Option.map_eq_some_iff.mp found
      have listed := List.mem_of_find?_eq_some entry_found
      have named : entry.1 = key.variableName := by simpa using List.find?_some entry_found
      cases last : key.sectioned? environment with
      | none =>
          rw [sectioned?, List.findSome?_eq_none_iff] at last
          have missed := last entry (List.mem_reverse.mpr listed)
          simp [named, variableKey?_variableName] at missed
      | some value =>
          obtain ⟨other, other_listed, keyed, rfl⟩ := exists_of_sectioned?_eq_some last
          have other_named := spelled other other_listed keyed
          rw [unique other_listed listed (other_named.trans named.symm)]

end Key

end Config

end Redirects
