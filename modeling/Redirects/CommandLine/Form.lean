/-!
# The form of the command line

Which commands there are, and which options and positional arguments each takes. The options of the
whole program may stand before a command and behind it.
-/

namespace Redirects.CommandLine

/-- The option that a word sets. -/
inductive OptionName where
  | store
  | engine
  | config
  | verbose
  | quiet
  | help
  | version
  | search
  | regex
  | matchType
  | disabled
  | source
  | destination
  | yes
  | maxHops
deriving DecidableEq, Repr

/-- The values that an option or a positional argument takes. -/
inductive ValueForm where
  | text
  /-- A path, which is not empty. -/
  | path
  /-- The name of a way to match. -/
  | matchKind
  /-- A number of 64 bits. -/
  | number
deriving DecidableEq, Repr

/-- What an option does. -/
inductive OptionAction where
  /-- It is set, once. -/
  | flag
  /-- It counts how often it stands there. -/
  | count
  /-- It takes a value, once. -/
  | value (form : ValueForm)
  /-- It shows help. -/
  | help
  /-- It shows the version. -/
  | version
deriving DecidableEq, Repr

/-- An option. -/
structure OptionForm where
  name : OptionName
  /-- The word behind two hyphens. -/
  long : Option String := none
  /-- The letter behind one hyphen. -/
  short : Option Char := none
  action : OptionAction
deriving DecidableEq, Repr

/-- A positional argument. -/
structure PositionForm where
  required : Bool := true
  form : ValueForm := .text
deriving DecidableEq, Repr

/-- The options that stand before a command and behind it. -/
def globalOptions : List OptionForm :=
  [{ name := .store, long := some "store", action := .value .path },
   { name := .engine, long := some "engine", action := .value .path },
   { name := .config, long := some "config", short := some 'c', action := .value .path },
   { name := .verbose, long := some "verbose", short := some 'v', action := .count },
   { name := .quiet, short := some 'q', action := .flag },
   { name := .help, long := some "help", short := some 'h', action := .help }]

/-- The options that stand before a command only. -/
def versionOption : OptionForm :=
  { name := .version, long := some "version", short := some 'V', action := .version }

/-- What is shown when the version is asked for. -/
def versionLine : String := "url-redirect 0.1.0\n"

/-- The environment variable that stands in for an option. -/
def variableOf? : OptionName → Option String
  | .store => some "URL_REDIRECT_STORE"
  | .engine => some "URL_REDIRECT_ENGINE"
  | .config => some "URL_REDIRECT_CONFIG"
  | _ => none

/-- The name of a command. -/
inductive CommandName where
  | list
  | add
  | edit
  | remove
  | clear
  | toggle
  | enable
  | disable
  | importRules
  | exportRules
  | compile
  | sync
  | check
  | preview
  | watch
deriving DecidableEq, Repr

namespace CommandName

/-- Every command. -/
def all : List CommandName :=
  [.list, .add, .edit, .remove, .clear, .toggle, .enable, .disable, .importRules, .exportRules,
    .compile, .sync, .check, .preview, .watch]

/-- The word for a command. -/
def word : CommandName → String
  | .list => "list"
  | .add => "add"
  | .edit => "edit"
  | .remove => "remove"
  | .clear => "clear"
  | .toggle => "toggle"
  | .enable => "enable"
  | .disable => "disable"
  | .importRules => "import"
  | .exportRules => "export"
  | .compile => "compile"
  | .sync => "sync"
  | .check => "check"
  | .preview => "preview"
  | .watch => "watch"

/-- The command of a word. -/
def ofWord? (word : String) : Option CommandName := all.find? (·.word = word)

/-- The options of a command's own. -/
def options : CommandName → List OptionForm
  | .list =>
    [{ name := .search, long := some "search", short := some 's', action := .value .text }]
  | .add =>
    [{ name := .regex, long := some "regex", action := .flag },
     { name := .matchType, long := some "match-type", action := .value .matchKind },
     { name := .disabled, long := some "disabled", action := .flag }]
  | .edit =>
    [{ name := .source, long := some "source", action := .value .text },
     { name := .destination, long := some "dest", action := .value .text },
     { name := .matchType, long := some "match-type", action := .value .matchKind }]
  | .clear => [{ name := .yes, long := some "yes", short := some 'y', action := .flag }]
  | .preview => [{ name := .maxHops, long := some "max-hops", action := .value .number }]
  | _ => []

/-- The positional arguments of a command. -/
def positions : CommandName → List PositionForm
  | .add => [{}, {}]
  | .edit => [{}]
  | .remove => [{}]
  | .toggle => [{}]
  | .importRules => [{ form := .path }]
  | .exportRules => [{ required := false, form := .path }]
  | .preview => [{}]
  | _ => []

end CommandName

/-- Why a command line is not carried out. -/
inductive UsageFault where
  | invalidValue
  | unknownArgument
  | invalidSubcommand
  | valueValidation
  | tooManyValues
  | missingArgument
  | missingSubcommand
  | conflict
  /-- Help was asked for. -/
  | helpShown
  /-- The version was asked for. -/
  | versionShown
  /-- Nothing was asked for. -/
  | nothingAsked
deriving DecidableEq, Repr

end Redirects.CommandLine
