import Redirects.CommandLine.Arguments
import Redirects.CommandLine.Form
import Redirects.CommandLine.Run
import Redirects.CommandLine.Words
import Redirects.Compilation
import Redirects.Config.Basic
import Redirects.Config.Format
import Redirects.Config.Ini
import Redirects.Config.Json5
import Redirects.Config.KeyPath
import Redirects.Config.Number
import Redirects.Config.Ron
import Redirects.Config.Setting
import Redirects.Config.Toml
import Redirects.Config.Toml.DateTime
import Redirects.Config.Toml.Document
import Redirects.Config.Toml.Text
import Redirects.Config.Yaml
import Redirects.Config.Yaml.Node
import Redirects.Config.Yaml.Place
import Redirects.Config.Yaml.Scalar
import Redirects.Config.Yaml.Text
import Redirects.Config.Yaml.Token
import Redirects.Cycle
import Redirects.Declarative
import Redirects.Engine.Basic
import Redirects.Engine.Document
import Redirects.Engine.Simulation
import Redirects.Engine.Update
import Redirects.Error
import Redirects.Files.Documents
import Redirects.Files.Path
import Redirects.Files.Tree
import Redirects.Json.Decode
import Redirects.Json.Description
import Redirects.Json.Printer
import Redirects.Json.Reader
import Redirects.Json.Sound
import Redirects.Json.Value
import Redirects.Main
import Redirects.Number.Binary64
import Redirects.Number.Literal
import Redirects.Number.Shortest
import Redirects.Pattern
import Redirects.Proofs.Compilation.Circle
import Redirects.Proofs.Compilation.Numbering
import Redirects.Proofs.Cycle.Exclusion
import Redirects.Proofs.Cycle.Walk
import Redirects.Proofs.Engine.Update
import Redirects.Proofs.Regex.Steps
import Redirects.Proofs.Sync.Installation
import Redirects.Proofs.Sync.Overlap
import Redirects.Regex.Bracket
import Redirects.Regex.Classical
import Redirects.Regex.Classical.Automaton
import Redirects.Regex.Classical.Run
import Redirects.Regex.Classical.Size
import Redirects.Regex.Cursor
import Redirects.Regex.Edge
import Redirects.Regex.Escape
import Redirects.Regex.Escaped
import Redirects.Regex.Fault
import Redirects.Regex.Machine
import Redirects.Regex.Plan
import Redirects.Regex.PropertyName
import Redirects.Regex.Reading
import Redirects.Regex.Search
import Redirects.Regex.Term
import Redirects.Report
import Redirects.Rule
import Redirects.Rule.Diagnosis
import Redirects.Rule.Document
import Redirects.Rule.Listing
import Redirects.Rule.Names
import Redirects.Rule.Transfer
import Redirects.Rule.Validation
import Redirects.Session
import Redirects.Store.State
import Redirects.Sync
import Redirects.Synthesis
import Redirects.Template
import Redirects.Text.Blank
import Redirects.Text.ByteSpan
import Redirects.Text.Hex
import Redirects.Text.Lowercase
import Redirects.Text.Search
import Redirects.Text.Shorten
import Redirects.Text.Style
import Redirects.Text.Utf8
import Redirects.Timestamp
import Redirects.Unicode.Age
import Redirects.Unicode.CaseMapping
import Redirects.Unicode.Category
import Redirects.Unicode.CharSet
import Redirects.Unicode.Property
import Redirects.Unicode.Run
import Redirects.Unicode.Script
import Redirects.Unicode.Segmentation
import Redirects.Proofs.Regex.Scan
import Redirects.Proofs.Regex.Spelling
import Redirects.Proofs.Regex.Guarded
import Redirects.Proofs.Regex.Planning
import Redirects.Proofs.Regex.Finding
import Redirects.Proofs.Regex.Tail
import Redirects.Proofs.Regex.GuardedTail
import Redirects.Proofs.Pattern.Spans
import Redirects.Proofs.Synthesis.Acceptance
import Redirects.Proofs.Synthesis.Contains
import Redirects.Proofs.Synthesis.PathCapture
import Redirects.Proofs.Synthesis.LiteralCapture
import Redirects.Proofs.Regex.Inside.Blanks
import Redirects.Proofs.Regex.Inside.Counts
import Redirects.Proofs.Regex.Inside.Escapes
import Redirects.Proofs.Synthesis.SelfCapture
import Redirects.Proofs.Compilation.Places
import Redirects.Proofs.Synthesis.OwnDestination
import Redirects.Proofs.Regex.Inside.Groups
import Redirects.Proofs.Regex.Inside.Branches
import Redirects.Proofs.Regex.Inside.Progress
import Redirects.Proofs.Regex.Inside.Ending
import Redirects.Proofs.Regex.Inside.Guard
import Redirects.Proofs.Synthesis.CaptureGroup
import Redirects.Proofs.Synthesis.LeadingGuard
import Redirects.Proofs.Simulation.Chain
import Redirects.Proofs.Simulation.Settling
import Redirects.Proofs.Files.Walk
import Redirects.Proofs.Files.Replacement
import Redirects.Proofs.Files.Contents
import Redirects.Proofs.Files.Plain
import Redirects.Proofs.Files.Documents
import Redirects.Proofs.Json.Scalars
import Redirects.Proofs.Json.RoundTrip
import Redirects.Proofs.Store.Document
import Redirects.Proofs.Engine.Document
import Redirects.Proofs.Rule.Names
import Redirects.Proofs.CommandLine.Effect
import Redirects.Proofs.CommandLine.Failure
import Redirects.Proofs.CommandLine.InStep
import Redirects.Proofs.Files.Persistence
import Redirects.Proofs.Compilation.Content
import Redirects.Proofs.Rule.Transfer
import Redirects.Proofs.Engine.Agreement
import Redirects.Proofs.Sync.Steps
import Redirects.Proofs.Cycle.SharedSource
import Redirects.Proofs.Compilation.Emission
import Redirects.Proofs.Compilation.Survivors
import Redirects.Proofs.Compilation.Reordering
import Redirects.Proofs.Rule.Editing
import Redirects.Proofs.Compilation.Withdrawal
import Redirects.Proofs.Rule.Diagnosis
import Redirects.Proofs.Compilation.Report
import Redirects.Proofs.Engine.UniqueNumbers
import Redirects.Proofs.Rule.Validity
import Redirects.Proofs.CommandLine.Amendment
import Redirects.Proofs.Files.Parts
import Redirects.Proofs.Files.Draft
import Redirects.Proofs.Files.Parents
import Redirects.Proofs.Files.AllOrNothing
import Redirects.Proofs.Simulation.Precedence
import Redirects.Proofs.Cycle.Reported
import Redirects.Proofs.Rule.OrderedMap
import Redirects.Proofs.Regex.Soundness
import Redirects.Proofs.Regex.Acceptance
import Redirects.Proofs.Regex.Exchange.Blanks
import Redirects.Proofs.Regex.Exchange.Escapes
import Redirects.Proofs.Regex.Exchange.Groups
import Redirects.Proofs.Regex.Exchange.Branches
import Redirects.Proofs.Regex.Exchange.Ending
import Redirects.Proofs.Synthesis.Accepted
import Redirects.Proofs.Rule.Demands
import Redirects.Proofs.Json.Passages
import Redirects.Proofs.Json.Arrays
import Redirects.Proofs.Rule.Entries
import Redirects.Proofs.Unicode.Letters
import Redirects.Proofs.Text.Lowercase
import Redirects.Proofs.Rule.Search
import Redirects.Proofs.Config.Layers
import Redirects.Proofs.Config.Variables
import Redirects.Proofs.Config.Texts
import Redirects.Proofs.Config.Precedence
import Redirects.Proofs.Text.Shorten
import Redirects.Proofs.Cycle.Length
import Redirects.Proofs.Simulation.Filling
import Redirects.Proofs.Synthesis.Places
import Redirects.Proofs.CommandLine.Verbosity
