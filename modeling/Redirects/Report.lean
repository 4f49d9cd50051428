import Redirects.Engine.Simulation
import Redirects.Rule.Diagnosis
import Redirects.Sync
import Redirects.Text.Shorten
import Redirects.Text.Style

/-!
# Reports

What the terminal shows: a list of rules, the outcome of a synchronisation, warnings, and where an
address would be sent.
-/

namespace Redirects.Report

open Text (Palette counted shorten)

/-- A text as one line. -/
def line (text : String) : String := text ++ "\n"

/-- The width to which addresses are shortened in a list. -/
def urlWidth : Nat := 48

/-- The sign before an item of a list, the last of which is told apart. -/
def branch (isLast : Bool) : String := if isLast then "└─" else "├─"

/-- One line for each item, which is told whether it is the last. -/
def branches {α : Type} (render : Bool → α → String) : List α → List String
  | [] => []
  | [item] => [line (render true item)]
  | item :: items => line (render false item) :: branches render items

/-- One rule in a list. -/
def ruleLine (palette : Palette) (isLast : Bool) (rule : Rule) : String :=
  let marker := if rule.enabled then palette.paint [.green] "●" else palette.paint [.dim] "○"
  let kind :=
    match rule.kind with
    | .contains => palette.paint [.cyan] "contains"
    | .regex => palette.paint [.magenta] "regex   "
  " ".intercalate
    [palette.paint [.dim] (branch isLast), marker, palette.paint [.dim] rule.id, kind,
      shorten rule.source urlWidth, "→", shorten rule.destination urlWidth]

/-- The rules shown, of a list with so many rules in all. -/
def rules (palette : Palette) (shown : List Rule) (total : Nat) (enabled : Bool) : String :=
  let status :=
    if enabled then palette.paint [.green, .bold] "ON" else palette.paint [.red, .bold] "OFF"
  let head := line (palette.paint [.bold] "Redirects" ++ ": " ++ status) ++ "\n"
  if shown.isEmpty then
    let message :=
      if total = 0 then
        "No redirect rules yet. Add one with `url-redirect add <source> <destination>`."
      else "No rules match the search."
    head ++ line (palette.paint [.dim] message)
  else
    let all := counted total "rule"
    let hidden :=
      if shown.length < total then
        "\n" ++ line (palette.paint [.dim] s!"Showing {shown.length} of {all}")
      else ""
    head ++ String.join (branches (ruleLine palette) shown) ++ hidden

/-- The outcome of a synchronisation. -/
def outcome (palette : Palette) : SyncOutcome → String
  | .installed installed removed cycled disabled =>
    let active := counted installed "redirect rule"
    let head := palette.paint [.green] "✓" ++ s!" {active} active (replaced {removed})"
    let off := if 0 < disabled then line ("  " ++ counted disabled "rule" ++ " disabled") else ""
    let skipped :=
      if 0 < cycled then
        line <| "  " ++ palette.paint [.yellow] "⚠" ++ " skipped: " ++ counted cycled "rule" ++
          " in a redirect cycle (run `url-redirect check`)"
      else ""
    line head ++ off ++ skipped
  | .cleared removed =>
    line <| palette.paint [.dim] "○" ++ " Redirects are globally disabled; cleared " ++
      counted removed "active rule"
  | .failed => line (palette.paint [.red] "✗" ++ " Sync failed")

/-- The name of a kind of warning in its colours. -/
def tag (palette : Palette) (concern : Concern) : String :=
  let inks : List Text.Ink :=
    match concern with
    | .cycle _ => [.red, .bold]
    | .overlap => [.yellow]
    | .badRegex _ => [.red]
    | .selfRedirect _ => [.red]
  palette.paint inks concern.kind

/-- One warning. -/
def warningLine (palette : Palette) (warning : Warning) : String :=
  line <| palette.paint [.yellow] "⚠" ++ " [" ++ tag palette warning.concern ++ "] " ++
    palette.paint [.dim] warning.ruleId ++ ": " ++ warning.concern.message

/-- Warnings and their number. -/
def warnings (palette : Palette) (warnings : List Warning) : String :=
  if warnings.isEmpty then line (palette.paint [.green] "✓" ++ " No problems found")
  else
    String.join (warnings.map (warningLine palette)) ++ "\n" ++
      line (counted warnings.length "warning")

/-- The name of the rule that a declarative rule was made from. -/
def originOf (rules : List Rule) (number : UInt32) : String :=
  let position := number.toNat
  match if position = 0 then none else rules[position - 1]? with
  | some rule => rule.id
  | none => s!"rule #{position}"

/-- One redirect of a chain. -/
def hopLine (palette : Palette) (rules : List Rule) (isLast : Bool) (hit : Hit) : String :=
  let origin := originOf rules hit.ruleId
  " ".intercalate
    [palette.paint [.dim] (branch isLast), palette.paint [.dim] s!"[{origin}]", hit.destination]

/-- How a chain of redirects ended. -/
def ending (palette : Palette) (start : String) (trace : Trace) : String :=
  let redirects := counted trace.hops.length "redirect"
  match trace.outcome with
  | .settled =>
    if trace.hops.isEmpty then
      palette.paint [.dim] "No rule matches; the request is not redirected."
    else
      palette.paint [.bold] "Final" ++ ": " ++ palette.paint [.green] (trace.finalUrl start) ++
        " after " ++ redirects
  | .loop => palette.paint [.red] "⚠" ++ " Redirect loop: a URL repeats after " ++ redirects
  | .hopLimit =>
    palette.paint [.yellow] "⚠" ++ " Stopped after " ++ redirects ++
      "; the chain may not terminate"

/-- Where an address would be sent. -/
def preview (palette : Palette) (start : String) (trace : Trace) (rules : List Rule)
    (enabled : Bool) : String :=
  let head :=
    "\n" ++ line (palette.paint [.yellow, .bold] "Preview" ++ " - nothing is installed") ++
      line (palette.paint [.bold] "Start" ++ ": " ++ start)
  let off :=
    if enabled then "" else line (palette.paint [.dim] "Redirects are globally disabled.")
  head ++ off ++ String.join (branches (hopLine palette rules) trace.hops) ++ "\n" ++
    line (ending palette start trace)

end Redirects.Report
