import Redirects.CommandLine.Run

/-!
# The program

Reads what a run needs from the system, runs it, and writes back what it changed. A run sees only the
files that its configuration and its command name.
-/

namespace Redirects.Program

/-- The variables of the environment. -/
def readEnvironment : IO Environment := do
  let bytes ← IO.FS.readBinFile "/proc/self/environ"
  let entries := ((Text.ofBytes? bytes.toList).getD "").splitOn "\x00"
  return entries.filterMap fun entry =>
    match entry.splitOn "=" with
    | name :: value@(_ :: _) => some (name, "=".intercalate value)
    | _ => none

/-- The seconds since the start of 1970. -/
def readClock : IO Nat := do
  let lines := (← IO.FS.readFile "/proc/stat").splitOn "\n"
  let start := (lines.find? (·.startsWith "btime ")).bind fun line => (line.drop 6).toNat?
  let uptime := ((← IO.FS.readFile "/proc/uptime").splitOn ".").head?.bind (·.toNat?)
  return start.getD 0 + uptime.getD 0

/-- A number from which on no names were given before, but for a chance that does not count. -/
def readSeed : IO Nat := do
  return (← IO.getRandomBytes 16).toList.foldl (fun seed byte => 256 * seed + byte.toNat) 0

/-- The path of a place. -/
def pathOf (place : Place) : String := "/" ++ "/".intercalate place

/-- What is at a place, if anything is there that can be read. -/
def probe (place : Place) : IO (Option Node) := do
  try
    let bytes := (← IO.FS.readBinFile (pathOf place)).toList
    match Text.ofBytes? bytes with
    | some text => return some (.file (.text text))
    | none => return some (.file (.binary bytes))
  catch
    | .inappropriateType .. => return some .directory
    | _ => return none

/-- The places that a path runs through below a place. -/
def placesOf (start : Place) (path : String) : List Place :=
  let step (places : List Place) (name : String) : List Place :=
    let here := places.headD []
    if name == "." then places
    else if name == ".." then here.dropLast :: places
    else (here ++ [name]) :: places
  (Path.written path).foldl step [if Path.isAbsolute path then [] else start] |>.reverse

/-- Takes up what is at the places of paths. -/
def takeUp (files : Files) (paths : List String) : IO Files := do
  let mut files := files
  for place in paths.flatMap (placesOf files.current) do
    if !place.isEmpty && (files.at? place).isNone && files.isDirectoryAt place.dropLast then
      if let some node ← probe place then
        files := files.put place node
  return files

/-- The files of the current directory, none of which is taken up yet. -/
def currentFiles : IO Files := do
  return Files.empty (Path.written (← IO.currentDir).toString)

/-- The paths of a configuration file and of those that may stand for it. -/
def withEndings (path : String) : List String :=
  path :: Format.endings.map (Path.addExtension path)

/-- The paths at which configuration may be found. -/
def configPaths (environment : Environment) (words : List String) : List String :=
  let asked := match CommandLine.parse environment words with
    | .ok arguments => [arguments.config]
    | .error _ => []
  ((Config.userFile? environment).toList ++ [CommandLine.configFile] ++ asked).flatMap withEndings

/-- The paths that a command reads or writes. -/
def commandPaths (config : RunConfig) : List String :=
  let own := match config.command with
    | .importRules file => [file]
    | .exportRules (some file) => [file]
    | _ => []
  own ++ [config.store, config.engine].flatMap fun path => [path, Files.draftPath path]

/-- Writes a file as a whole. -/
def writeFile (place : Place) (content : Content) : IO Unit := do
  let draft := pathOf place ++ ".new"
  match content with
  | .text text => IO.FS.writeFile draft text
  | .binary bytes => IO.FS.writeBinFile draft ⟨bytes.toArray⟩
  IO.FS.rename draft (pathOf place)

/-- Writes back what became of the files. -/
def writeBack (before after : Files) : IO Unit := do
  for (place, node) in after.entries do
    if before.at? place != some node then
      match node with
      | .directory => IO.FS.createDirAll (pathOf place)
      | .file content => writeFile place content
  for (place, _) in before.entries do
    if (after.at? place).isNone then IO.FS.removeFile (pathOf place)

/-- Runs a configuration once, and writes back what it changed. -/
def runOnce (invocation : Invocation) (config : RunConfig) (seed : Nat) :
    IO (Except Failure Unit × String) := do
  let files ← takeUp (← currentFiles) (commandPaths config)
  let (result, desk) := invocation.runConfigured config { files, names := ⟨seed⟩ }
  writeBack files desk.files
  return (result, desk.output)

/-- Brings the engine in step, and again whenever the store has changed. -/
partial def watch (invocation : Invocation) (config : RunConfig) (last : Option String) : IO Unit := do
  let text ← try some <$> IO.FS.readFile config.store catch _ => pure none
  if last.isNone || text != last then
    let clock := Timestamp.ofSeconds (← readClock)
    let _ ← runOnce { invocation with clock } { config with command := .sync } 0
  IO.sleep (UInt32.ofNat (max 1 config.debounceMs))
  watch invocation config (some (text.getD ""))

/-- The words with which a command line can go on. -/
def usageText : String :=
  "Usage: url-redirect [OPTIONS] <COMMAND>\n\nCommands:\n" ++
    String.join (CommandLine.CommandName.all.map fun name => "  " ++ name.word ++ "\n")

/-- Tells why a command line is not carried out. -/
def tellUsage (fault : CommandLine.UsageFault) : IO UInt32 := do
  match fault with
  | .versionShown =>
    IO.print CommandLine.versionLine
    return 0
  | .helpShown =>
    IO.print usageText
    return 0
  | _ =>
    IO.eprint usageText
    return 2

/-- Shows what came of a run. -/
def tellResult (result : Except Failure Unit) (verbose : Bool) (palette : Text.Palette) :
    IO UInt32 := do
  match result with
  | .ok _ => return 0
  | .error failure =>
    IO.eprint (failure.report verbose palette)
    return 1

/-- Runs a command line. -/
def run (words : List String) : IO UInt32 := do
  let environment ← readEnvironment
  let clock := Timestamp.ofSeconds (← readClock)
  let palette := if ← (← IO.getStdout).isTty then .ansi else .plain
  let invocation : Invocation := { words, environment, clock, palette }
  let verbose := CommandLine.asksForMore words
  let files ← takeUp (← currentFiles) (configPaths environment words)
  match invocation.configure files with
  | .error fault => tellUsage fault
  | .ok (.error error) => tellResult (.error (.plain error)) verbose palette
  | .ok (.ok config) =>
    if config.command = .watch then
      watch invocation config none
      return 0
    else
      let (result, output) ← runOnce invocation config (← readSeed)
      IO.print output
      tellResult result verbose palette

end Redirects.Program

/-- The program. -/
def main (words : List String) : IO UInt32 := Redirects.Program.run words
