import Redirects.Text.Lowercase
import Redirects.Text.Style

/-!
# Errors

What can go wrong, one type for each part of the program, and the texts in which the user is told.
-/

namespace Redirects

/-- A failure of the file system. -/
inductive FileFault where
  | notFound
  | exists
  | notDirectory
  | isDirectory
  /-- The end of a path that is to be taken is no name. -/
  | busy
  | nameTooLong
  /-- The path holds a character that no path can hold. -/
  | badPath
  /-- The file is not a text in UTF-8. -/
  | notText
  /-- Another failure, in the words of the system. -/
  | other (text : String)
deriving DecidableEq, Repr

/-- The words of the system. -/
def FileFault.message : FileFault → String
  | .notFound => "No such file or directory (os error 2)"
  | .exists => "File exists (os error 17)"
  | .notDirectory => "Not a directory (os error 20)"
  | .isDirectory => "Is a directory (os error 21)"
  | .busy => "Device or resource busy (os error 16)"
  | .nameTooLong => "File name too long (os error 36)"
  | .badPath => "file name contained an unexpected NUL byte"
  | .notText => "stream did not contain valid UTF-8"
  | .other text => text

/-- A fault of the configuration. -/
inductive ConfigFault where
  /-- A source cannot be read as what it should be. -/
  | unreadable
  /-- A value has the wrong type. -/
  | mistyped
  | other (text : String)
deriving DecidableEq, Repr

def ConfigFault.message : ConfigFault → String
  | .unreadable => "Failed to build configuration"
  | .mistyped => "Failed to deserialize configuration"
  | .other text => text

/-- A fault of the rule store. -/
inductive StoreFault where
  | unreadable
  | cannotRead (path : String) (fault : FileFault)
  /-- The file does not hold a state. -/
  | corrupted (path : String)
  | cannotWrite (path : String) (fault : FileFault)
  | cannotReplace (path : String) (fault : FileFault)
  | other (text : String)
deriving DecidableEq, Repr

def StoreFault.message : StoreFault → String
  | .unreadable => "Store is unreadable"
  | .cannotRead path fault => s!"Failed to read {path}: {fault.message}"
  | .corrupted path => s!"Rule store {path} is corrupted (invalid JSON)"
  | .cannotWrite path fault => s!"Failed to write {path}: {fault.message}"
  | .cannotReplace path fault => s!"Failed to replace {path}: {fault.message}"
  | .other text => text

/-- A fault of the engine that holds the active rules. -/
inductive EngineFault where
  /-- Two active rules would have one number. -/
  | duplicate (number : UInt32)
  /-- The engine was told to refuse. -/
  | refused
  | cannotRead (path : String) (fault : FileFault)
  /-- The file does not hold a rule set. -/
  | corrupted (path : String)
  | cannotWrite (path : String) (fault : FileFault)
  | cannotInstall (path : String) (fault : FileFault)
  | other (text : String)
deriving DecidableEq, Repr

def EngineFault.message : EngineFault → String
  | .duplicate number => s!"Rule with id {number} does not have a unique ID"
  | .refused => "Injected replace failure"
  | .cannotRead path fault => s!"Failed to read {path}: {fault.message}"
  | .corrupted path => s!"Active rule file {path} is corrupted"
  | .cannotWrite path fault => s!"Failed to write {path}: {fault.message}"
  | .cannotInstall path fault => s!"Failed to install {path}: {fault.message}"
  | .other text => text

/-- A fault of a text that should hold rules. -/
inductive ImportFault where
  | notJson
  | notArray
  /-- The entry with that number, counted from one, is no rule. -/
  | entry (number : Nat) (reason : String)
  | other (text : String)
deriving DecidableEq, Repr

def ImportFault.message : ImportFault → String
  | .notJson => "Failed to parse the file. Make sure it's valid JSON"
  | .notArray => "Invalid file format. Expected an array of rules."
  | .entry number reason => s!"Rule #{number} is malformed: {reason}"
  | .other text => text

/-- Why a rule cannot be saved. -/
inductive Invalidity where
  | emptyField (field : String)
  | sameSourceAndDestination
  | badRegex (pattern reason : String)
  | badMatchKind (name : String)
  | other (message suggestion : String)
deriving DecidableEq, Repr

namespace Invalidity

def message : Invalidity → String
  | .emptyField field => s!"{field} cannot be empty"
  | .sameSourceAndDestination => "Source and destination cannot be the same"
  | .badRegex pattern reason => s!"Invalid regex pattern '{pattern}': {reason}"
  | .badMatchKind name => s!"Invalid match type: '{name}'"
  | .other message _ => message

/-- What the user can do about it. -/
def suggestion : Invalidity → String
  | .emptyField field => s!"Provide a non-blank {Text.lowercase field}"
  | .sameSourceAndDestination =>
    "A rule that redirects a URL to itself would loop; pick another destination"
  | .badRegex .. => "Fix the pattern or use --match-type contains for a plain substring"
  | .badMatchKind _ => "Valid match types are: contains, regex"
  | .other _ suggestion => suggestion

end Invalidity

/-- An error of the program. -/
inductive Error where
  | config (fault : ConfigFault)
  | files (fault : FileFault)
  | store (fault : StoreFault)
  | engine (fault : EngineFault)
  | importing (fault : ImportFault)
  | unknownRule (id : String)
  /-- A text that cannot be read, with the reasons behind it. -/
  | unreadable (message : String) (causes : List String)
  | invalid (reason : Invalidity)
deriving DecidableEq, Repr

namespace Error

/-- What the user is told. -/
def message : Error → String
  | .config fault => "Configuration error: " ++ fault.message
  | .files fault => "File system error: " ++ fault.message
  | .store fault => "Rule store error: " ++ fault.message
  | .engine fault => "Rule engine error: " ++ fault.message
  | .importing fault => "Import error: " ++ fault.message
  | .unknownRule id => s!"No rule with id '{id}'"
  | .unreadable message _ => "Parse error: " ++ message
  | .invalid reason =>
    s!"Validation error: {reason.message}\nSuggestion: {reason.suggestion}"

/-- The reasons behind an error, the nearest first. -/
def causes : Error → List String
  | .files fault => [fault.message]
  | .unreadable _ causes => causes
  | _ => []

/-- The error as a terminal shows it: a suggestion has a line of its own, and so have the reasons
behind the error if they are asked for. -/
def report (error : Error) (verbose : Bool) (palette : Text.Palette) : String :=
  let head := "\n" ++ palette.paint [.red, .bold] "⚠ Error:" ++ " "
  let body :=
    match error with
    | .invalid reason =>
      reason.message ++ "\n  " ++ palette.paint [.cyan] "Suggestion:" ++ " " ++ reason.suggestion
    | error => error.message
  let behind := if verbose then error.causes.map ("\n  caused by: " ++ ·) else []
  head ++ body ++ String.join behind

end Error

/-- An error with what was being done, where that is told. -/
inductive Failure where
  | plain (error : Error)
  | during (task : String) (error : Error)
  /-- A failure of the file system that is no error of the program's own parts. -/
  | duringFiles (task : String) (fault : FileFault)
deriving DecidableEq, Repr

namespace Failure

/-- The outermost text. -/
def message : Failure → String
  | .plain error => error.message
  | .during task _ => task
  | .duringFiles task _ => task

/-- The texts behind the outermost one. -/
def causes : Failure → List String
  | .plain error => error.causes
  | .during _ error => error.message :: error.causes
  | .duringFiles _ fault => [fault.message]

/-- The error of the program in a failure. -/
def error? : Failure → Option Error
  | .plain error => some error
  | .during _ error => some error
  | .duringFiles .. => none

/-- Lines behind a tree of branches, the last one ending it. -/
def branches : List String → List String
  | [] => []
  | [last] => ["└─ " ++ last]
  | line :: lines => ("├─ " ++ line) :: branches lines

/-- The failure as a terminal shows it. -/
def report (failure : Failure) (verbose : Bool) (palette : Text.Palette) : String :=
  match failure.error? with
  | some error => error.report verbose palette ++ "\n"
  | none =>
    let causes := failure.causes
    let behind := if causes.isEmpty then [] else "\nCaused by:" :: branches causes
    String.join (s!"\n⚠ Error: {failure.message}\n" :: behind.map (· ++ "\n"))

end Failure

end Redirects
