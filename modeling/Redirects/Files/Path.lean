/-!
# Paths

Paths are texts; their parts stand between slashes. Empty parts mean nothing, except that a path
that starts with a slash starts at the root.
-/

namespace Redirects.Path

/-- The texts between slashes. -/
def pieces : List Char → List (List Char)
  | [] => [[]]
  | c :: text =>
    match pieces text with
    | [] => [[c]]
    | piece :: others => if c == '/' then [] :: piece :: others else (c :: piece) :: others

/-- The path starts at the root. -/
def isAbsolute (path : String) : Bool := path.toList.head? == some '/'

/-- The parts of a path as they are written, empty ones left out. -/
def written (path : String) : List String :=
  ((pieces path.toList).filter (!·.isEmpty)).map String.ofList

/-- The path ends with a slash. -/
def endsOpen (path : String) : Bool := path.toList.getLast? == some '/'

/-- The parts of a path as a walk takes them. A slash at the end asks for a directory, as a single
dot does. -/
def steps (path : String) : List String :=
  let parts := written path
  if endsOpen path && !parts.isEmpty then parts ++ ["."] else parts

/-- The parts of a path that name something: single dots say nothing, except at the start of a path
that does not start at the root. -/
def parts (path : String) : List String :=
  match written path with
  | "." :: rest => if isAbsolute path then rest.filter (· != ".") else "." :: rest.filter (· != ".")
  | named => named.filter (· != ".")

/-- The path of parts. -/
def ofParts (absolute : Bool) (parts : List String) : String :=
  (if absolute then "/" else "") ++ "/".intercalate parts

/-- A path below a directory; one that starts at the root stays as it is. -/
def join (directory path : String) : String :=
  if isAbsolute path then path
  else if directory.isEmpty || directory.endsWith "/" then directory ++ path
  else directory ++ "/" ++ path

/-- The path of the directory that holds what the path names. -/
def parent? (path : String) : Option (Bool × List String) :=
  match parts path with
  | [] => none
  | named => some (isAbsolute path, named.dropLast)

/-- A path, given from its end, without the slashes and single dots at its end that name nothing. -/
def dropIdle : List Char → List Char
  | '/' :: rest => dropIdle rest
  | '.' :: '/' :: rest => dropIdle rest
  | text => text

/-- The name at the end of a path, and the text before it. Nothing is named by the root, by the
current directory or by a step upwards. -/
def splitEnd? (path : List Char) : Option (List Char × List Char) :=
  let text := dropIdle path.reverse
  let name := (text.takeWhile (· != '/')).reverse
  if name.isEmpty || name == ['.'] || name == ['.', '.'] then none
  else some ((text.drop name.length).reverse, name)

/-- The text before the last dot of a name and the text behind it; a dot at the start of the name
does not count. -/
def splitName (name : List Char) : List Char × Option (List Char) :=
  let ending := (name.reverse.takeWhile (· != '.')).reverse
  let stem := name.take (name.length - ending.length - 1)
  if ending.length == name.length || stem.isEmpty then (name, none) else (stem, some ending)

/-- The ending of the name in a path. -/
def endingOf? (path : List Char) : Option (List Char) :=
  (splitEnd? path).bind fun (_, name) => (splitName name).2

/-- The ending of the name that a path has, behind its last dot. -/
def extension? (path : String) : Option String := (endingOf? path.toList).map String.ofList

/-- The path with another ending in place of that of its name; a path without a name stays as it
is. -/
def setEnding (path ending : List Char) : List Char :=
  match splitEnd? path with
  | some (before, name) => before ++ (splitName name).1 ++ '.' :: ending
  | none => path

/-- The path with another ending, from whose text first as much is cut off as the ending it has is
long. What is left of a name that is two dots and an ending is a step upwards, and stays one. -/
def withExtension (path ending : String) : String :=
  let text := path.toList
  let kept := text.take (text.length - ((endingOf? text).getD []).length)
  String.ofList (setEnding kept ending.toList)

/-- The path with an ending behind the name it has. -/
def addExtension (path ending : String) : String :=
  let text := path.toList
  let ending := match endingOf? text with
    | some own => own ++ '.' :: ending.toList
    | none => ending.toList
  String.ofList (setEnding text ending)

end Redirects.Path
