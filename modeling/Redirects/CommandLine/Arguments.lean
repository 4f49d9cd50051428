import Redirects.CommandLine.Words

/-!
# Arguments

What the words of a command line ask for. An option of the whole program counts where it stands
behind the command; before the command it counts if nothing as explicit stands behind it. An
environment variable stands in for an option that is not given, and both yield to the command line.
-/

namespace Redirects

/-- A variable of the environment and its value. -/
abbrev Environment := List (String × String)

/-- The value of a variable. -/
def Environment.value? (environment : Environment) (name : String) : Option String :=
  (environment.find? (·.1 = name)).map (·.2)

/-- What the program is asked to do. -/
inductive Command where
  | list (search : Option String)
  | add (source destination : String) (regex : Bool) (kind : Option MatchKind) (disabled : Bool)
  | edit (id : String) (source destination : Option String) (kind : Option MatchKind)
  | remove (id : String)
  | clear (yes : Bool)
  | toggle (id : String)
  | enable
  | disable
  | importRules (file : String)
  | exportRules (file : Option String)
  | compile
  | sync
  | check
  | preview (url : String) (maxHops : Option Nat)
  | watch
deriving DecidableEq, Repr

/-- The arguments of a run. -/
structure Arguments where
  command : Command
  store : Option String
  engine : Option String
  /-- The configuration file that is asked for. -/
  config : String
  /-- How often more words were asked for. -/
  verbose : Nat
  quiet : Bool
deriving DecidableEq, Repr

namespace CommandLine

/-- The configuration file of the current directory. -/
def configFile : String := "url-redirect.toml"

/-- Where a value comes from, the weakest first. -/
inductive Source where
  | default
  | environment
  | words
deriving DecidableEq, Repr

/-- The strength of a source. -/
def Source.rank : Source → Nat
  | .default => 0
  | .environment => 1
  | .words => 2

/-- The value of an option at one level and where it comes from. -/
def valueAt (environment : Environment) (level : Level) (name : OptionName) :
    Source × Option String :=
  match level.value? name with
  | some value => (.words, some value)
  | none =>
    match (variableOf? name).bind environment.value? with
    | some value => (.environment, some value)
    | none => (.default, none)

/-- No variable that stands in for an option is empty where it would count. -/
def variablesSound (environment : Environment) (level : Level) : Bool :=
  [OptionName.store, .engine, .config].all fun name => (valueAt environment level name).2 != some ""

/-- The value of an option of the whole program. -/
def globalValue (environment : Environment) (front behind : Level) (name : OptionName) :
    Option String :=
  let outer := valueAt environment front name
  let inner := valueAt environment behind name
  if inner.1.rank < outer.1.rank then outer.2 else inner.2

/-- The way to match that an option asks for. -/
def kindOf? (level : Level) : Option MatchKind := (level.value? .matchType).bind MatchKind.ofName?

/-- The command that a level asks for; nothing if a positional argument is missing. -/
def command? (level : Level) : CommandName → Option Command
  | .list => some (.list (level.value? .search))
  | .add =>
    match level.positions.reverse with
    | [source, destination] =>
      some (.add source destination (level.has .regex) (kindOf? level) (level.has .disabled))
    | _ => none
  | .edit =>
    match level.positions with
    | [id] => some (.edit id (level.value? .source) (level.value? .destination) (kindOf? level))
    | _ => none
  | .remove => level.positions.head?.map .remove
  | .clear => some (.clear (level.has .yes))
  | .toggle => level.positions.head?.map .toggle
  | .enable => some .enable
  | .disable => some .disable
  | .importRules => level.positions.head?.map .importRules
  | .exportRules => some (.exportRules level.positions.head?)
  | .compile => some .compile
  | .sync => some .sync
  | .check => some .check
  | .preview =>
    level.positions.head?.map fun url => .preview url ((level.value? .maxHops).bind numberOf?)
  | .watch => some .watch

/-- The words behind a command. -/
def readBehind (environment : Environment) (name : CommandName) (words : List String) :
    Except UsageFault (Level × Command) := do
  let (level, _) ← readWords (.behind name) false {} words
  let level ← level.settle
  if !variablesSound environment level then .error .invalidValue
  else if name = .add && level.has .regex && level.has .matchType then .error .conflict
  else
    match command? level name with
    | some command => .ok (level, command)
    | none => .error .missingArgument

/-- Nothing was given before the missing command, in words or in the environment. -/
def isBare (environment : Environment) (level : Level) : Bool :=
  level.verbose = 0 && level.flags.isEmpty &&
    [OptionName.store, .engine, .config].all fun name =>
      (valueAt environment level name).1 = .default

/-- Reads a command line. -/
def parse (environment : Environment) (words : List String) : Except UsageFault Arguments := do
  let (front, command) ← readWords .front false {} words
  match command with
  | none =>
    let front ← front.settle
    if !variablesSound environment front then .error .invalidValue
    else if isBare environment front then .error .nothingAsked
    else .error .missingSubcommand
  | some (name, words) =>
    let (behind, command) ← readBehind environment name words
    let front ← front.settle
    if !variablesSound environment front then .error .invalidValue
    else
      let value := globalValue environment front behind
      return {
        command
        store := value .store
        engine := value .engine
        config := (value .config).getD configFile
        verbose := if behind.verbose = 0 then front.verbose else behind.verbose
        quiet := front.has .quiet || behind.has .quiet }

/-- The letters of a word behind one hyphen, if it holds nothing else. -/
def flagLetters? (word : String) : Option (List Char) :=
  match word.toList with
  | '-' :: letters => if !letters.isEmpty && letters.all Char.isAlpha then some letters else none
  | _ => none

/-- More words are asked for, as far as the words show before they are read. -/
def asksForMore : List String → Bool
  | [] => false
  | word :: words =>
    if word = "--" then false
    else if word = "--verbose" then true
    else ((flagLetters? word).any (·.contains 'v')) || asksForMore words

end CommandLine

end Redirects
