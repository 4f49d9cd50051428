import Redirects.CommandLine.Arguments
import Redirects.Config.Format
import Redirects.Files.Tree

/-!
# Configuration

Where rules and active rules are kept, and how the commands behave. Each value comes from the
strongest source that has it: the command line, then the environment, then the file that was asked
for, the file of the current directory, the user's file, and last the default.
-/

namespace Redirects

/-- What the files and the variables of the environment configure. -/
structure Config where
  store : Option String := none
  engine : Option String := none
  /-- How long to wait, in milliseconds, before a change of the store is taken up. -/
  debounceMs : Nat := 500
  /-- How many redirects of an address are followed. -/
  maxHops : Nat := 10
deriving DecidableEq, Repr

/-- All that a run needs to know. -/
structure RunConfig where
  command : Command
  store : String
  engine : String
  debounceMs : Nat
  maxHops : Nat
  verbose : Nat
  quiet : Bool
deriving DecidableEq, Repr

namespace Config

/-- The file that a path stands for: the one at its end, or the one with an ending behind its name. -/
def fileOf? (files : Files) (path : String) : Option String :=
  if files.isFile path then some path
  else (Format.endings.map (Path.addExtension path)).find? files.isFile

/-- The settings of the file that a path stands for. A byte order mark at its start says nothing. -/
def readFile (files : Files) (path : String) : Except Error (List (String × Setting)) :=
  let settings := do
    let path ← fileOf? files path
    let format ← (Path.extension? path).bind Format.ofEnding?
    let text ← (files.readText path).toOption
    format.read? (if text.startsWith "\ufeff" then (text.drop 1).toString else text)
  match settings with
  | some settings => .ok settings
  | none => .error (.config .unreadable)

/-- A directory of the user: the one a variable names, if that starts at the root, or else one below
the home directory. -/
def userDirectory? (environment : Environment) (name below : String) : Option String :=
  match environment.value? name with
  | some path =>
    if Path.isAbsolute path then some path else home
  | none => home
where
  home : Option String :=
    match environment.value? "HOME" with
    | some home => if home.isEmpty then none else some (Path.join home below)
    | none => none

/-- The directory of the program below those of the user. -/
def programDirectory : String := "url-redirect"

/-- The user's configuration file. -/
def userFile? (environment : Environment) : Option String :=
  (userDirectory? environment "XDG_CONFIG_HOME" ".config").map fun directory =>
    Path.join (Path.join directory programDirectory) "config.toml"

/-- The two paths name the same, parts compared. -/
def samePath (path other : String) : Bool :=
  Path.isAbsolute path == Path.isAbsolute other && Path.parts path == Path.parts other

/-- The configuration files that are there, the weakest first. -/
def sourceFiles (environment : Environment) (files : Files) (asked : String) : List String :=
  let candidates :=
    (userFile? environment).toList ++ [CommandLine.configFile] ++
      if samePath asked CommandLine.configFile then [] else [asked]
  candidates.filter files.hasPath

/-- The start of the names of the program's variables, in small letters. -/
def variableStart : List Char := "url_redirect_".toList

/-- A key in which two underscores stand for a dot. -/
def dotted : List Char → List Char
  | [] => []
  | [c] => [c]
  | c :: d :: rest => if c == '_' && d == '_' then '.' :: dotted rest else c :: dotted (d :: rest)

/-- The settings of the environment. -/
def variableSettings (environment : Environment) : List (String × Setting) :=
  environment.filterMap fun (name, value) =>
    let folded := Text.lowercaseChars name.toList
    if variableStart.isPrefixOf folded then
      some (String.ofList (dotted (folded.drop variableStart.length)), Setting.ofVariable value)
    else none

/-- The path in a field of a section. -/
def pathField? : Option Setting → Option (Option String)
  | none => some none
  | some .nothing => some none
  | some setting => setting.text?.map some

/-- The number in a field of a section, or the default. -/
def wordField? (default : Nat) : Option Setting → Option Nat
  | none => some default
  | some setting => setting.word?

/-- The paths of the section for them. -/
def paths? : Option Setting → Option (Option String × Option String)
  | none => some (none, none)
  | some (.table entries) => do
    let store ← pathField? (Setting.get? "store_path" entries)
    let engine ← pathField? (Setting.get? "engine_path" entries)
    return (store, engine)
  | some (.list (store :: engine :: _)) => do
    return (← pathField? (some store), ← pathField? (some engine))
  | some _ => none

/-- The number of a section that holds nothing else. -/
def number? (key : String) (default : Nat) : Option Setting → Option Nat
  | none => some default
  | some (.table entries) => wordField? default (Setting.get? key entries)
  | some (.list items) => wordField? default items.head?
  | some _ => none

/-- The configuration that settings give. -/
def ofSettings? (settings : Setting) : Option Config := do
  let section_ (name : String) : Option Setting := Setting.get? name settings.entries
  let (store, engine) ← paths? (section_ "general")
  let debounceMs ← number? "debounce_ms" 500 (section_ "watch")
  let maxHops ← number? "max_hops" 10 (section_ "preview")
  return { store, engine, debounceMs, maxHops }

/-- The configuration of all sources. -/
def load (environment : Environment) (files : Files) (asked : String) : Except Error Config := do
  let sources ← (sourceFiles environment files asked).mapM (readFile files)
  let settings := (sources ++ [variableSettings environment]).foldl Setting.merge (.table [])
  match ofSettings? settings with
  | some config => .ok config
  | none => .error (.config .mistyped)

/-- The directory of the program's data. -/
def dataDirectory (environment : Environment) : String :=
  match userDirectory? environment "XDG_DATA_HOME" ".local/share" with
  | some directory => Path.join directory programDirectory
  | none => "."

/-- The configuration of a run with the given arguments. -/
def resolve (environment : Environment) (config : Config) (arguments : Arguments) : RunConfig :=
  let directory := dataDirectory environment
  { command := arguments.command
    store := (arguments.store.or config.store).getD (Path.join directory "rules.json")
    engine := (arguments.engine.or config.engine).getD (Path.join directory "active-rules.json")
    debounceMs := config.debounceMs
    maxHops := config.maxHops
    verbose := arguments.verbose
    quiet := arguments.quiet }

end Config

end Redirects
