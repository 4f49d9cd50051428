import Redirects.Proofs.Config.Texts
import Redirects.Proofs.Config.Variables
import Redirects.Proofs.Files.Walk

/-!
# The source of each key

Every key of the configuration has the value of the strongest source that sets it, whatever the
sources say of the other keys.
-/

namespace Redirects

/-! ## Words and their variables -/

namespace CommandLine

theorem variable_nil (name : OptionName) :
    (variableOf? name).bind (Environment.value? []) = none := by
  cases variableOf? name <;> rfl

theorem valueAt_nil (level : Level) (name : OptionName) :
    (valueAt [] level name).2 = level.value? name := by
  cases given : level.value? name <;> simp [valueAt, given, variable_nil]

/-- Words count before a variable. -/
theorem globalValue_eq (environment : Environment) (front behind : Level) (name : OptionName) :
    globalValue environment front behind name =
      (globalValue [] front behind name).or ((variableOf? name).bind environment.value?) := by
  cases in_front : front.value? name <;> cases in_behind : behind.value? name <;>
    cases stands_in : (variableOf? name).bind environment.value? <;>
    simp [globalValue, valueAt, in_front, in_behind, stands_in, variable_nil, Source.rank]

theorem variablesSound_nil {environment : Environment} {level : Level}
    (sound : variablesSound environment level = true) : variablesSound [] level = true := by
  rw [variablesSound, List.all_eq_true] at sound ⊢
  intro name listed
  have kept := sound name listed
  rw [bne_iff_ne] at kept ⊢
  rw [valueAt_nil]
  intro empty
  exact kept (by rw [valueAt, empty])

theorem readBehind_nil {environment : Environment} {name : CommandName} {words : List String}
    {read : Level × Command} (behind : readBehind environment name words = .ok read) :
    readBehind [] name words = .ok read := by
  obtain ⟨⟨waiting, rest⟩, words_read, behind⟩ := bind_ok_iff.mp behind
  obtain ⟨level, settled, behind⟩ := bind_ok_iff.mp behind
  refine bind_ok_iff.mpr ⟨_, words_read, bind_ok_iff.mpr ⟨level, settled, ?_⟩⟩
  cases sound : variablesSound environment level with
  | false => simp [sound] at behind
  | true =>
      rw [sound] at behind
      rw [variablesSound_nil sound]
      exact behind

/-- A command line that is read is read without the environment as well, and only where its words
give no path the environment may. -/
theorem parse_nil {environment : Environment} {words : List String} {arguments : Arguments}
    (parsed : parse environment words = .ok arguments) :
    ∃ bare, parse [] words = .ok bare ∧
      arguments.store = bare.store.or (environment.value? "URL_REDIRECT_STORE") ∧
      arguments.engine = bare.engine.or (environment.value? "URL_REDIRECT_ENGINE") := by
  obtain ⟨⟨waiting, _ | ⟨name, rest⟩⟩, words_read, parsed⟩ := bind_ok_iff.mp parsed
  · obtain ⟨front, -, parsed⟩ := bind_ok_iff.mp parsed
    split_ifs at parsed
  · obtain ⟨⟨behind, command⟩, behind_read, parsed⟩ := bind_ok_iff.mp parsed
    obtain ⟨front, settled, parsed⟩ := bind_ok_iff.mp parsed
    cases sound : variablesSound environment front with
    | false => simp [sound] at parsed
    | true =>
        rw [sound] at parsed
        obtain rfl := Except.ok.inj parsed
        have no_fault : ¬(!variablesSound [] front) = true := by simp [variablesSound_nil sound]
        exact ⟨_, bind_ok_iff.mpr ⟨_, words_read, bind_ok_iff.mpr ⟨_, readBehind_nil behind_read,
          bind_ok_iff.mpr ⟨front, settled, if_neg no_fault⟩⟩⟩,
          globalValue_eq environment front behind .store,
          globalValue_eq environment front behind .engine⟩

end CommandLine

namespace Config

open Setting

/-! ## Files -/

/-- The file can be read, and gives all keys values of their types, as far as it sets them. -/
def TypedFile (files : Files) (path : String) : Prop :=
  ∃ source, readFile files path = .ok source ∧ WellTyped source

instance (files : Files) (path : String) : Decidable (TypedFile files path) :=
  decidable_of_iff (∃ source ∈ (readFile files path).toOption, WellTyped source) <| by
    rw [TypedFile]
    cases readFile files path <;> simp [Except.toOption]

theorem mapM_readFile {files : Files} {paths : List String}
    (readable : ∀ path ∈ paths, TypedFile files path) :
    ∃ sources, paths.mapM (readFile files) = .ok sources ∧
      (∀ source ∈ sources, WellTyped source) ∧
      ∀ key : Key, sources.reverse.findSome? key.alone? =
        paths.reverse.findSome? fun path => (readFile files path).toOption.bind key.alone? := by
  induction paths with
  | nil => exact ⟨[], rfl, by simp, fun key => rfl⟩
  | cons path paths ih =>
      obtain ⟨⟨source, source_read, source_typed⟩, readable⟩ := List.forall_mem_cons.mp readable
      obtain ⟨sources, sources_read, typed, found⟩ := ih readable
      refine ⟨source :: sources, ?_, List.forall_mem_cons.mpr ⟨source_typed, typed⟩, fun key => ?_⟩
      · rw [List.mapM_cons, source_read, sources_read]
        rfl
      · simp [List.findSome?_append, found key, source_read, Except.toOption]

namespace Key

/-- The value that a configuration file gives a key, if the file is there. -/
def inFile? (key : Key) (files : Files) (path : String) : Option key.Value :=
  if files.hasPath path then (readFile files path).toOption.bind key.alone? else none

/-- The value that the environment gives a key in its section. -/
def inVariables? (key : Key) (environment : Environment) : Option key.Value :=
  (key.sectioned? environment).bind fun text => key.read? (.ofVariable text)

/-- The value that the files and the environment give a key. The variable of its section counts
before the file that is asked for, this before the one of the current directory, and this before the
user's. -/
def configured? (key : Key) (environment : Environment) (files : Files) (asked : String) :
    Option key.Value :=
  (key.inVariables? environment).or <|
    (if samePath asked CommandLine.configFile then none else key.inFile? files asked).or <|
      (key.inFile? files CommandLine.configFile).or <|
        (userFile? environment).bind (key.inFile? files)

/-- The value that an option gives a key, or the variable that stands in for the option. -/
def given? : (key : Key) → Environment → Arguments → Option key.Value
  | .store, environment, words =>
      (words.store.or (environment.value? "URL_REDIRECT_STORE")).map some
  | .engine, environment, words =>
      (words.engine.or (environment.value? "URL_REDIRECT_ENGINE")).map some
  | .debounce, _, _ | .hops, _, _ => none

/-- The value of a key, or the default if it is set nowhere or to nothing. -/
def orDefault : (key : Key) → Environment → Option key.Value → key.Value
  | .store, environment, value? =>
      some (value?.join.getD (Path.join (dataDirectory environment) "rules.json"))
  | .engine, environment, value? =>
      some (value?.join.getD (Path.join (dataDirectory environment) "active-rules.json"))
  | .debounce, _, value? => value?.getD 500
  | .hops, _, value? => value?.getD 10

/-- The value of a key in a run. -/
def inRun : (key : Key) → RunConfig → key.Value
  | .store, run => some run.store
  | .engine, run => some run.engine
  | .debounce, run => run.debounceMs
  | .hops, run => run.maxHops

theorem findSome?_filter_hasPath (key : Key) (files : Files) (paths : List String) :
    ((paths.filter files.hasPath).findSome? fun path =>
      (readFile files path).toOption.bind key.alone?) = paths.findSome? (key.inFile? files) := by
  induction paths with
  | nil => rfl
  | cons path paths ih =>
      rw [List.filter_cons, findSome?_cons_eq_or, inFile?]
      split_ifs <;> simp [findSome?_cons_eq_or, ih]

/-- The last of the files and the variables that sets a key gives it its value. -/
theorem configured?_eq (key : Key) (environment : Environment) (files : Files) (asked : String) :
    key.configured? environment files asked = (key.inVariables? environment).or
      ((sourceFiles environment files asked).reverse.findSome? fun path =>
        (readFile files path).toOption.bind key.alone?) := by
  rw [configured?, sourceFiles, ← List.filter_reverse, findSome?_filter_hasPath]
  cases userFile? environment <;> split_ifs <;>
    simp only [Option.toList, List.nil_append, List.cons_append, List.append_nil,
      List.reverse_cons, List.reverse_nil, findSome?_cons_eq_or, List.findSome?_nil,
      Option.bind_none, Option.bind_some, Option.none_or, Option.or_none]

end Key

/-- Files and variables of the right types give each key the value of the strongest of them. -/
theorem load_of_wellTyped {environment : Environment} {files : Files} {asked : String}
    (readable : ∀ path ∈ sourceFiles environment files asked, TypedFile files path)
    (typed : WellTyped (variableSettings environment)) :
    load environment files asked = .ok
      { store := (Key.store.configured? environment files asked).join
        engine := (Key.engine.configured? environment files asked).join
        debounceMs := (Key.debounce.configured? environment files asked).getD 500
        maxHops := (Key.hops.configured? environment files asked).getD 10 } := by
  obtain ⟨sources, sources_read, sources_typed, found⟩ := mapM_readFile readable
  have all_typed : ∀ source ∈ sources ++ [variableSettings environment], WellTyped source :=
    List.forall_mem_append.mpr ⟨sources_typed, List.forall_mem_singleton.mpr typed⟩
  have value_eq (key : Key) : key.configured? environment files asked =
      key.value? ((sources ++ [variableSettings environment]).foldl merge (.table [])) := by
    rw [(Key.value?_foldl_merge all_typed key).2, List.reverse_append, List.reverse_singleton,
      List.singleton_append, findSome?_cons_eq_or, Key.alone?_variableSettings typed, found,
      key.configured?_eq, Key.inVariables?]
  have fits (key : Key) := (Key.value?_foldl_merge all_typed key).1
  rw [load, sources_read]
  simp only [bind, Except.bind, ofSettings?_of_fits fits, value_eq]

namespace Key

/-! ## Variables as written -/

/-- The value that a text writes for a key. -/
def written? : (key : Key) → String → Option key.Value
  | .store => fun text => some (some text)
  | .engine => fun text => some (some text)
  | .debounce => CommandLine.numberOf?
  | .hops => CommandLine.numberOf?

/-- The text of a variable gives a key the value that it writes. -/
def Keeps : Key → String → Prop
  | .store | .engine => IsUsual
  | .debounce | .hops => fun text => ∀ value, CommandLine.numberOf? text = some value → IsKept value

theorem pathField?_ofVariable (text : String) :
    pathField? (some (ofVariable text)) = (ofVariable text).text?.map some := by
  rw [ofVariable]
  split_ifs
  · rfl
  · rfl
  · split <;> rfl

/-- An option does not set a key to nothing. -/
theorem orDefault_of_given {key : Key} {environment : Environment} {words : Arguments}
    {value : key.Value} (given : key.given? environment words = some value) :
    key.orDefault environment (some value) = value := by
  cases key with
  | store | engine =>
      obtain ⟨path, -, rfl⟩ := Option.map_eq_some_iff.mp given
      rfl
  | debounce | hops => rfl

/-- A variable does not set a key to nothing. -/
theorem orDefault_of_variable {key : Key} {environment : Environment} {written : String}
    {value : key.Value} (read : key.read? (.ofVariable written) = some value) :
    key.orDefault environment (some value) = value := by
  cases key with
  | store | engine =>
      obtain ⟨path, -, rfl⟩ :=
        Option.map_eq_some_iff.mp ((pathField?_ofVariable written).symm.trans read)
      rfl
  | debounce | hops => rfl

theorem read?_ofVariable_eq_iff {key : Key} {text : String} {value : key.Value}
    (written : key.written? text = some value) :
    key.read? (.ofVariable text) = some value ↔ key.Keeps text := by
  have path : pathField? (some (ofVariable text)) = some (some text) ↔ IsUsual text := by
    rw [pathField?_ofVariable, Option.map_eq_some_iff, ← text?_ofVariable_eq_iff]
    simp
  have number {value : Nat} (written : CommandLine.numberOf? text = some value) :
      (ofVariable text).word? = some value ↔ Key.debounce.Keeps text := by
    simp only [word?_ofVariable_eq_iff written, Keeps, written, Option.some.injEq, forall_eq']
  cases key with
  | store | engine =>
      obtain rfl := Option.some.inj written
      exact path
  | debounce | hops => exact number written

end Key

theorem join_map_some_or {α : Type} (value? : Option α) (other? : Option (Option α)) :
    ((value?.map some).or other?).join = value?.or other?.join := by
  cases value? <;> rfl

/-- Variables for both paths, in their section and, for the one, in place of the option. -/
def layeredEnvironment : Environment :=
  [("URL_REDIRECT_STORE", "s.json"), ("URL_REDIRECT_GENERAL__STORE_PATH", "t.json"),
    ("URL_REDIRECT_GENERAL__ENGINE_PATH", "007")]

/-- A file of the current directory that sets a path and a number. -/
def layeredFiles : Files :=
  (Files.empty ["home"]).put ["home", CommandLine.configFile]
    (.file (.text "[general]\nengine_path = \"e.json\"\n[watch]\ndebounce_ms = 7\n"))

/-- The arguments of a run with these variables that lists the rules. -/
def layeredArguments : Arguments :=
  ⟨.list none, some "s.json", none, CommandLine.configFile, 0, false⟩

end Config

end Redirects
