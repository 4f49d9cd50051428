import Redirects.CommandLine.Form
import Redirects.Rule

/-!
# Reading words

Reads the words of one level of the command line: the words before a command, or those behind it.
An option that takes a value waits for the next word, unless its value is attached. What waits is
settled when the next option or positional argument comes, or at the end; a word that is none of
these is reported before that.
-/

namespace Redirects.CommandLine

/-- What waits to be settled. -/
inductive Waiting where
  | option (form : OptionForm) (value : Option String)
  | position (form : PositionForm) (value : String)
deriving DecidableEq, Repr

/-- What the words of a level have set. -/
structure Level where
  /-- Options with values. -/
  values : List (OptionName × String) := []
  /-- Flags. -/
  flags : List OptionName := []
  /-- How often the counted option stands there. -/
  verbose : Nat := 0
  /-- Positional arguments, the latest first. -/
  positions : List String := []
  waiting : Option Waiting := none
deriving DecidableEq, Repr

/-- The decimal number that a text writes, a plus sign before it or not. -/
def numberOf? (text : String) : Option Nat :=
  let digits := match text.toList with
    | '+' :: rest => rest
    | all => all
  if digits.isEmpty || !digits.all Char.isDigit then none
  else
    let value := digits.foldl (fun value c => 10 * value + (c.toNat - '0'.toNat)) 0
    if value < UInt64.size then some value else none

/-- What is wrong with a value. -/
def ValueForm.fault? (form : ValueForm) (value : String) : Option UsageFault :=
  match form with
  | .text => none
  | .path => if value.isEmpty then some .invalidValue else none
  | .matchKind => if (MatchKind.ofName? value).isNone then some .invalidValue else none
  | .number => if (numberOf? value).isNone then some .valueValidation else none

namespace Level

/-- The option is set. -/
def has (level : Level) (name : OptionName) : Bool :=
  level.flags.contains name || level.values.any (·.1 = name)

/-- The value of an option. -/
def value? (level : Level) (name : OptionName) : Option String :=
  (level.values.find? (·.1 = name)).map (·.2)

/-- Settles what waits. -/
def settle (level : Level) : Except UsageFault Level :=
  match level.waiting with
  | none => .ok level
  | some (.position form value) =>
    match form.form.fault? value with
    | some fault => .error fault
    | none => .ok { level with positions := value :: level.positions, waiting := none }
  | some (.option _ none) => .error .invalidValue
  | some (.option form (some value)) =>
    if level.has form.name then .error .conflict
    else
      let settled := { level with values := (form.name, value) :: level.values, waiting := none }
      match form.action with
      | .value valueForm =>
        match valueForm.fault? value with
        | some fault => .error fault
        | none => .ok settled
      | _ => .ok settled

/-- An option without a value stands there. -/
def mark (level : Level) (form : OptionForm) : Except UsageFault Level := do
  let level ← level.settle
  match form.action with
  | .help => .error .helpShown
  | .version => .error .versionShown
  | .count => .ok { level with verbose := min (level.verbose + 1) 255 }
  | _ =>
    if level.has form.name then .error .conflict
    else .ok { level with flags := form.name :: level.flags }

/-- An option that takes a value stands there. A value that is attached to it is settled at once. -/
def expect (level : Level) (form : OptionForm) (attached : Option String) :
    Except UsageFault Level := do
  let level := { (← level.settle) with waiting := some (.option form attached) }
  if attached.isSome then level.settle else return level

/-- The option takes a value. -/
def takesValue (form : OptionForm) : Bool := form.action matches .value _

/-- A word behind two hyphens. -/
def long (options : List OptionForm) (level : Level) (word : List Char) :
    Except UsageFault Level :=
  let name := word.takeWhile (· != '=')
  let attached :=
    if name.length = word.length then none
    else some (String.ofList (word.drop (name.length + 1)))
  match options.find? (·.long == some (String.ofList name)) with
  | none => .error .unknownArgument
  | some form =>
    if takesValue form then level.expect form attached
    else if attached.isSome then .error .tooManyValues
    else level.mark form

/-- Letters behind one hyphen. The first that takes a value takes the rest of the letters. -/
def letters (options : List OptionForm) (level : Level) : List Char → Except UsageFault Level
  | [] => .ok level
  | letter :: rest =>
    match options.find? (·.short == some letter) with
    | none => .error .unknownArgument
    | some form =>
      if takesValue form then
        match rest with
        | [] => level.expect form none
        | '=' :: value => level.expect form (some (String.ofList value))
        | value => level.expect form (some (String.ofList value))
      else do letters options (← level.mark form) rest

/-- A word that is no option. -/
def plain (positions : List PositionForm) (level : Level) (word : String) :
    Except UsageFault Level := do
  let taken := level.positions.length +
    (match level.waiting with
    | some (.position ..) => 1
    | _ => 0)
  match positions[taken]? with
  | none => .error .unknownArgument
  | some form =>
    let level ← level.settle
    .ok { level with waiting := some (.position form word) }

/-- An option waits for its value. -/
def waitsForValue (level : Level) : Option OptionForm :=
  match level.waiting with
  | some (.option form none) => some form
  | _ => none

end Level

/-- The commands to look for, and what a word is called that is nothing. -/
inductive Place where
  /-- Before the command. -/
  | front
  /-- Behind a command. -/
  | behind (command : CommandName)
deriving DecidableEq, Repr

/-- The options that may stand at a place. -/
def Place.options : Place → List OptionForm
  | .front => globalOptions ++ [versionOption]
  | .behind command => globalOptions ++ command.options

/-- The positional arguments that may stand at a place. -/
def Place.positions : Place → List PositionForm
  | .front => []
  | .behind command => command.positions

/-- A word that is no option, or that stands behind two lone hyphens. -/
def Level.take (place : Place) (onlyPlain : Bool) (level : Level) (word : String) :
    Except UsageFault Level :=
  match place with
  | .front =>
    let isCommand := (CommandName.ofWord? word).isSome || word == "help"
    .error (if onlyPlain && isCommand then .unknownArgument else .invalidSubcommand)
  | .behind command => level.plain command.positions word

/-- The words of a request for help on a command. -/
def helpOn : List String → UsageFault
  | [] => .helpShown
  | [word] =>
    if (CommandName.ofWord? word).isSome || word == "help" then .helpShown else .invalidSubcommand
  | _ => .invalidSubcommand

/-- Reads the words of a level. Before the command, the command ends the level. -/
def readWords (place : Place) (onlyPlain : Bool) (level : Level) :
    List String → Except UsageFault (Level × Option (CommandName × List String))
  | [] => .ok (level, none)
  | word :: words =>
    if onlyPlain then do readWords place true (← level.take place true word) words
    else
      let command :=
        if place = .front && level.waitsForValue.isNone then CommandName.ofWord? word else none
      match command with
      | some command => .ok (level, some (command, words))
      | none =>
        if place = .front && level.waitsForValue.isNone && word == "help" then
          .error (helpOn words)
        else
          match word.toList with
          | ['-', '-'] => readWords place true level words
          | '-' :: '-' :: name => do
            readWords place false (← level.long place.options name) words
          | '-' :: letter :: rest => do
            readWords place false (← level.letters place.options (letter :: rest)) words
          | _ =>
            match level.waitsForValue with
            | some form =>
              let level := { level with waiting := some (.option form (some word)) }
              readWords place false level words
            | none => do readWords place false (← level.take place false word) words

end Redirects.CommandLine
