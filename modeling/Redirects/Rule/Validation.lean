import Redirects.Error
import Redirects.Regex.Search
import Redirects.Rule
import Redirects.Text.Blank

/-!
# Rules that can be saved

A draft is saved without the blanks around its texts. It must have a source and a destination, they
must differ, and the source of a pattern rule must be a pattern.
-/

namespace Redirects

/-- The way to match that the user names, in any letter case and with blanks around it. -/
def MatchKind.parse (text : String) : Except Error MatchKind :=
  match ofName? (Text.lowercase (Text.trim text)) with
  | some kind => .ok kind
  | none => .error (.invalid (.badMatchKind text))

/-- The draft without the blanks around its texts. -/
def Draft.trimmed (draft : Draft) : Draft :=
  { draft with source := Text.trim draft.source, destination := Text.trim draft.destination }

/-- Why the draft cannot be saved, if it cannot. -/
def Draft.invalidity? (draft : Draft) : Option Invalidity :=
  if draft.source = "" then some (.emptyField "Source URL")
  else if draft.destination = "" then some (.emptyField "Destination URL")
  else if draft.source = draft.destination then some .sameSourceAndDestination
  else
    match draft.kind, Regex.prepare draft.source with
    | .regex, .error fault => some (.badRegex draft.source fault.message)
    | _, _ => none

/-- The draft as it is saved. -/
def Draft.validate (draft : Draft) : Except Error Draft :=
  match draft.trimmed.invalidity? with
  | some reason => .error (.invalid reason)
  | none => .ok draft.trimmed

/-- The rule as it is saved, under its name. -/
def Rule.validate (rule : Rule) : Except Error Rule :=
  rule.toDraft.validate.map (·.named rule.id)

end Redirects
