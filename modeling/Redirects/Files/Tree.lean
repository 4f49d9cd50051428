import Redirects.Error
import Redirects.Files.Path

/-!
# A tree of files

Files and directories by their places below the root. Walking a path needs a directory at every part
but the last; what is there decides what can be done with it.
-/

namespace Redirects

/-- What a file holds. -/
inductive Content where
  | text (text : String)
  /-- Bytes that are no text. -/
  | binary (bytes : List UInt8)
deriving DecidableEq, Repr

/-- What is at a place. -/
inductive Node where
  | file (content : Content)
  | directory
deriving DecidableEq, Repr

/-- A place: the names that lead to it from the root. -/
abbrev Place := List String

/-- A tree of files, and the directory at which relative paths start. -/
structure Files where
  current : Place
  entries : List (Place × Node)
deriving DecidableEq, Repr

namespace Files

/-- An empty directory, below whose place there is nothing, as the current one. -/
def empty (current : Place) : Files :=
  ⟨current, (List.range current.length).map fun i => (current.take (i + 1), .directory)⟩

/-- What is at a place. The root is a directory. -/
def at? (files : Files) (place : Place) : Option Node :=
  if place.isEmpty then some .directory
  else (files.entries.find? (·.1 == place)).map (·.2)

/-- There is a directory at the place. -/
def isDirectoryAt (files : Files) (place : Place) : Bool := files.at? place == some .directory

/-- Puts something at a place. -/
def put (files : Files) (place : Place) (node : Node) : Files :=
  { files with entries := files.entries.filter (·.1 != place) ++ [(place, node)] }

/-- Takes away what is at a place, and what is below it. -/
def remove (files : Files) (place : Place) : Files :=
  { files with entries := files.entries.filter fun entry => !place.isPrefixOf entry.1 }

/-- The length up to which a name can be looked up, in bytes. -/
def maxName : Nat := 255

/-- The length up to which a path can be given, in bytes. -/
def maxPath : Nat := 4095

/-- Walks on from a place. -/
def walk (files : Files) (place : Place) : List String → Except FileFault Place
  | [] => .ok place
  | step :: steps =>
    match files.at? place with
    | none => .error .notFound
    | some (.file _) => .error .notDirectory
    | some .directory =>
      if step == "." then walk files place steps
      else if step == ".." then walk files place.dropLast steps
      else if maxName < step.utf8ByteSize then .error .nameTooLong
      else walk files (place ++ [step]) steps

/-- A path that can be given to the system. -/
def checkPath (path : String) : Except FileFault Unit :=
  if path.toList.contains '\x00' then .error .badPath
  else if path.isEmpty then .error .notFound
  else if maxPath < path.utf8ByteSize then .error .nameTooLong
  else .ok ()

/-- Where the walk along a path starts. -/
def origin (files : Files) (path : String) : Place :=
  if Path.isAbsolute path then [] else files.current

/-- The place that a path leads to. -/
def place (files : Files) (path : String) : Except FileFault Place := do
  checkPath path
  files.walk (files.origin path) (Path.steps path)

/-- The directory in which a path ends, and the name at its end, if it is one. -/
def home (files : Files) (path : String) : Except FileFault (Place × Option String) := do
  checkPath path
  let steps := Path.written path
  let home ← files.walk (files.origin path) steps.dropLast
  match steps.getLast? with
  | none => return (home, none)
  | some name =>
    match files.at? home with
    | none => .error .notFound
    | some (.file _) => .error .notDirectory
    | some .directory => return (home, if name == "." || name == ".." then none else some name)

/-- There is something at the end of a path. -/
def hasPath (files : Files) (path : String) : Bool :=
  match files.place path with
  | .ok place => (files.at? place).isSome
  | .error _ => false

/-- The text of a file. -/
def readText (files : Files) (path : String) : Except FileFault String := do
  match files.at? (← files.place path) with
  | none => .error .notFound
  | some .directory => .error .isDirectory
  | some (.file (.text text)) => .ok text
  | some (.file (.binary _)) => .error .notText

/-- There is a file at the end of a path. -/
def isFile (files : Files) (path : String) : Bool :=
  match files.place path with
  | .ok place => (files.at? place).isSome && !files.isDirectoryAt place
  | .error _ => false

/-- Writes a file anew. A path that says that it names a directory is no path of a file. -/
def write (files : Files) (path : String) (content : Content) : Except FileFault Files := do
  let (_, name) ← files.home path
  if name.isSome && Path.endsOpen path then .error .isDirectory
  else
    let place ← files.place path
    if files.isDirectoryAt place then .error .isDirectory else .ok (files.put place (.file content))

/-- Makes a directory in a directory. -/
def makeDirectory (files : Files) (path : String) : Except FileFault Files := do
  let place ← files.place path
  if (files.at? place).isSome then .error .exists else .ok (files.put place .directory)

/-- There is a directory at the end of a path. -/
def isDirectory (files : Files) (path : String) : Bool :=
  match files.place path with
  | .ok place => files.isDirectoryAt place
  | .error _ => false

/-- Makes a directory and those it lies in, the parts of its path given last first. -/
def makeDirectories (files : Files) (absolute : Bool) :
    List String → Except FileFault Unit × Files
  | [] => (.ok (), files)
  | name :: parents =>
    let path := Path.ofParts absolute (name :: parents).reverse
    match files.makeDirectory path with
    | .ok files => (.ok (), files)
    | .error .notFound =>
      match makeDirectories files absolute parents with
      | (.ok _, files) =>
        match files.makeDirectory path with
        | .ok files => (.ok (), files)
        | .error fault => (if files.isDirectory path then .ok () else .error fault, files)
      | failed => failed
    | .error fault => (if files.isDirectory path then .ok () else .error fault, files)

/-- Makes the directories that a path runs through. -/
def makeParents (files : Files) (path : String) : Except FileFault Unit × Files :=
  match Path.parent? path with
  | some (absolute, parts) => files.makeDirectories absolute parts.reverse
  | none => (.ok (), files)

/-- Gives a file another place, where it takes the place of another file. -/
def rename (files : Files) (source target : String) : Except FileFault Files := do
  let (_, sourceName) ← files.home source
  let (directory, targetName) ← files.home target
  match sourceName, targetName with
  | some _, some name =>
    let start ← files.place source
    match files.at? start with
    | none => .error .notFound
    | some node =>
      if maxName < name.utf8ByteSize then .error .nameTooLong
      else if Path.endsOpen target then .error .notDirectory
      else if files.isDirectoryAt (directory ++ [name]) then .error .isDirectory
      else .ok ((files.remove start).put (directory ++ [name]) node)
  | _, _ => .error .busy

/-- What can go wrong when a file is replaced. -/
inductive ReplaceFault where
  /-- The directory of the file cannot be made. -/
  | parents (fault : FileFault)
  /-- The new text cannot be written beside the file. -/
  | write (path : String) (fault : FileFault)
  /-- The new text cannot take the place of the file. -/
  | rename (fault : FileFault)
deriving DecidableEq, Repr

/-- The path beside a file at which its new text is written first. -/
def draftPath (path : String) : String := Path.withExtension path "json.tmp"

/-- Replaces the text of a file, which is never seen half written. -/
def replaceText (files : Files) (path text : String) : Except ReplaceFault Unit × Files :=
  match files.makeParents path with
  | (.error fault, files) => (.error (.parents fault), files)
  | (.ok _, files) =>
    let draft := draftPath path
    match files.write draft (.text text) with
    | .error fault => (.error (.write draft fault), files)
    | .ok files =>
      match files.rename draft path with
      | .error fault => (.error (.rename fault), files)
      | .ok files => (.ok (), files)

/-- The paths below the current directory, those of directories with a slash at their end, in the
order of their texts. -/
def listing (files : Files) : List String :=
  let shown := files.entries.filterMap fun (place, node) =>
    if files.current.isPrefixOf place && place != files.current then
      let path := "/".intercalate (place.drop files.current.length)
      some (if node == .directory then path ++ "/" else path)
    else none
  shown.mergeSort fun path other => !(other < path)

end Files

end Redirects
