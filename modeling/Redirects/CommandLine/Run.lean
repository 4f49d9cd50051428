import Redirects.Config.Basic
import Redirects.Files.Documents
import Redirects.Report
import Redirects.Rule.Listing
import Redirects.Rule.Transfer
import Redirects.Rule.Validation

/-!
# Running commands

A command reads the store, and one that edits it saves the new state and then brings the engine in
step. A failing command prints nothing more, and uses up no names. Whether the engine could be
brought in step makes no difference to an edit.
-/

namespace Redirects

/-- What a command works on: the files, the names left for new rules, and what was printed. -/
structure Desk where
  files : Files
  names : NameSupply := {}
  output : String := ""
deriving DecidableEq, Repr

/-- What a command is told beside its own arguments. -/
structure Surroundings where
  store : FileStore
  engine : FileEngine
  palette : Text.Palette
  /-- How many redirects are followed unless the command says so. -/
  maxHops : Nat
  quiet : Bool

/-- A command at work. What it did to the desk stays where it fails. -/
abbrev Work := ExceptT Failure (StateM Desk)

namespace Work

/-- Fails with an error of the program. -/
def ofExcept {α : Type} (result : Except Error α) : Work α :=
  match result with
  | .ok value => pure value
  | .error error => throw (.plain error)

/-- Prints a text. -/
def print (text : String) : Work Unit :=
  modify fun desk => { desk with output := desk.output ++ text }

/-- Does something to the files. -/
def onFiles {α : Type} (action : Files → α × Files) : Work α :=
  modifyGet fun desk =>
    let (value, files) := action desk.files
    (value, { desk with files })

/-- Tells the user, unless the user wants to hear less. -/
def tell (surroundings : Surroundings) (message : String) : Work Unit :=
  if surroundings.quiet then pure () else print (Report.line message)

/-- The stored state. -/
def load (surroundings : Surroundings) : Work StoredState := do
  ofExcept (surroundings.store.load (← get).files)

/-- Edits the stored state and brings the engine in step. -/
def edit {α : Type} (surroundings : Surroundings) (change : StoredState → Work (StoredState × α)) :
    Work α := do
  let state ← load surroundings
  let (state, value) ← change state
  ofExcept (← onFiles (surroundings.store.save state))
  let outcome ← onFiles (sync surroundings.store.store surroundings.engine.engine)
  if !surroundings.quiet && outcome != .failed then
    print (Report.outcome surroundings.palette outcome)
  return value

/-- Edits the rules of the stored state. -/
def editRules (surroundings : Surroundings) (change : List Rule → Except Error (List Rule)) :
    Work Unit :=
  edit surroundings fun state => do
    let rules ← ofExcept (change state.rules)
    return ({ state with rules }, ())

/-- The next name for a new rule. -/
def nextName : Work String :=
  modifyGet fun desk =>
    let (name, names) := desk.names.next
    (name, { desk with names })

/-- The rules that a file holds, under new names. -/
def readImport (path : String) : Work (List Rule) := do
  let desk ← get
  match desk.files.readText path with
  | .error fault => throw (.duringFiles s!"Failed to read {path}" fault)
  | .ok text =>
    let (rules, names) ← ofExcept (importRules text desk.names)
    set { desk with names }
    return rules

/-- Writes a text to a file. -/
def writeExport (path text : String) : Work Unit := do
  let desk ← get
  match desk.files.write path (.text text) with
  | .error fault => throw (.duringFiles s!"Failed to write {path}" fault)
  | .ok files => set { desk with files }

/-- A rule as an edit leaves it. -/
def edited (rules : List Rule) (id : String) (source destination : Option String)
    (kind : Option MatchKind) : Except Error (List Rule) :=
  match Rule.find? rules id with
  | none => .error (.unknownRule id)
  | some rule => do
    let rule ← Rule.validate
      { rule with
        source := source.getD rule.source
        destination := destination.getD rule.destination
        kind := kind.getD rule.kind }
    Rule.update rules rule

/-- Switches one rule on or off, and tells which. -/
def toggle (surroundings : Surroundings) (id : String) : Work Bool :=
  edit surroundings fun state => do
    let rules ← ofExcept (Rule.toggle state.rules id)
    return ({ state with rules }, (Rule.find? rules id).any (·.enabled))

/-- Switches all redirects on or off. -/
def switch (surroundings : Surroundings) (enabled : Bool) : Work Unit :=
  edit surroundings fun state => pure ({ state with enabled }, ())

/-- Carries out a command. -/
def perform (surroundings : Surroundings) : Command → Work Unit
  | .list search => do
    let state ← load surroundings
    let shown := Rule.search state.rules (search.getD "")
    print (Report.rules surroundings.palette shown state.rules.length state.enabled)
  | .add source destination regex kind disabled => do
    let kind := kind.getD (if regex then .regex else .contains)
    let draft ← ofExcept (Draft.validate { source, destination, kind, enabled := !disabled })
    let id ← edit surroundings fun state => do
      let id ← nextName
      return ({ state with rules := (Rule.add state.rules draft id).1 }, id)
    tell surroundings s!"Added rule {id}"
  | .edit id source destination kind => do
    editRules surroundings (edited · id source destination kind)
    tell surroundings "Rule updated"
  | .remove id => do
    editRules surroundings (Rule.remove · id)
    tell surroundings "Rule removed"
  | .clear yes => do
    let count := (← load surroundings).rules.length
    if count = 0 then tell surroundings "No rules to delete"
    else if !yes then tell surroundings "Cancelled"
    else
      editRules surroundings fun _ => .ok []
      tell surroundings s!"Deleted {count} rules"
  | .toggle id => do
    let enabled ← toggle surroundings id
    tell surroundings (if enabled then "Rule enabled" else "Rule disabled")
  | .enable => do
    switch surroundings true
    tell surroundings "Redirects enabled"
  | .disable => do
    switch surroundings false
    tell surroundings "Redirects disabled"
  | .importRules file => do
    let imported ← readImport file
    editRules surroundings fun rules => .ok (rules ++ imported)
    tell surroundings s!"Imported {imported.length} rules"
  | .exportRules file => do
    let rules := (← load surroundings).rules
    match file with
    | none => print (Report.line (Redirects.exportRules rules))
    | some path =>
      writeExport path (Redirects.exportRules rules)
      tell surroundings s!"Exported {rules.length} rules to {path}"
  | .compile => do
    let state ← load surroundings
    print (Report.line (printRules (Redirects.compile state.rules state.enabled)))
  | .sync => do
    match ← onFiles (trySync surroundings.store.store surroundings.engine.engine) with
    | .error failure => throw failure
    | .ok outcome =>
      if !surroundings.quiet then print (Report.outcome surroundings.palette outcome)
  | .check => do
    let state ← load surroundings
    print (Report.warnings surroundings.palette (diagnose state.rules))
  | .preview url maxHops => do
    let state ← load surroundings
    let compiled := Redirects.compile state.rules state.enabled
    let trace := Redirects.trace compiled url (maxHops.getD surroundings.maxHops)
    print (Report.preview surroundings.palette url trace state.rules state.enabled)
  | .watch => pure ()

end Work

/-- What a run comes to. -/
inductive RunResult where
  | done
  | failed (failure : Failure)
  /-- The command line is not carried out. -/
  | usage (fault : CommandLine.UsageFault)
deriving DecidableEq, Repr

/-- What surrounds a run: the words of its command line, the variables of its environment, the time
and the palette of its terminal. -/
structure Invocation where
  words : List String
  environment : Environment
  clock : String
  palette : Text.Palette

namespace Invocation

/-- The configuration of a run. -/
def configure (invocation : Invocation) (files : Files) :
    Except CommandLine.UsageFault (Except Error RunConfig) := do
  let arguments ← CommandLine.parse invocation.environment invocation.words
  return (Config.load invocation.environment files arguments.config).map fun config =>
    config.resolve invocation.environment arguments

/-- Runs the command of a configuration. -/
def runConfigured (invocation : Invocation) (config : RunConfig) (desk : Desk) :
    Except Failure Unit × Desk :=
  let surroundings : Surroundings :=
    { store := ⟨config.store⟩
      engine := ⟨config.engine, invocation.clock⟩
      palette := invocation.palette
      maxHops := config.maxHops
      quiet := config.quiet }
  let (result, after) := (Work.perform surroundings config.command).run.run desk
  match result with
  | .ok _ => (.ok (), after)
  | .error failure => (.error failure, { after with names := desk.names })

/-- Runs a command line. -/
def run (invocation : Invocation) (desk : Desk) : RunResult × Desk :=
  match invocation.configure desk.files with
  | .error fault => (.usage fault, desk)
  | .ok (.error error) => (.failed (.plain error), desk)
  | .ok (.ok config) =>
    match invocation.runConfigured config desk with
    | (.ok _, desk) => (.done, desk)
    | (.error failure, desk) => (.failed failure, desk)

end Invocation

end Redirects
