import Redirects.Error
import Redirects.Rule
import Redirects.Text.Lowercase
import Redirects.Text.Search

/-!
# Lists of rules

Adding, replacing, removing, switching, finding and searching. A change to a rule that is not there
fails and leaves the list as it was.
-/

namespace Redirects.Rule

/-- The list with a rule for the draft at its end, and that rule. -/
def add (rules : List Rule) (draft : Draft) (id : String) : List Rule × Rule :=
  let rule := draft.named id
  (rules ++ [rule], rule)

/-- Changes the first rule with a name. -/
def change (id : String) (edit : Rule → Rule) : List Rule → Except Error (List Rule)
  | [] => .error (.unknownRule id)
  | rule :: rules =>
    if rule.id = id then .ok (edit rule :: rules)
    else (change id edit rules).map (rule :: ·)

/-- Puts a rule in the place of the first with its name. -/
def update (rules : List Rule) (rule : Rule) : Except Error (List Rule) :=
  change rule.id (fun _ => rule) rules

/-- Switches the first rule with a name on or off. -/
def toggle (rules : List Rule) (id : String) : Except Error (List Rule) :=
  change id (fun rule => { rule with enabled := !rule.enabled }) rules

/-- Removes the rules with a name. -/
def remove (rules : List Rule) (id : String) : Except Error (List Rule) :=
  let kept := rules.filter (·.id ≠ id)
  if kept.length = rules.length then .error (.unknownRule id) else .ok kept

/-- The first rule with a name. -/
def find? (rules : List Rule) (id : String) : Option Rule := rules.find? (·.id = id)

/-- The source or the destination contains the text, letter case aside. -/
def mentions (query : String) (rule : Rule) : Bool :=
  let query := Text.lowercaseChars query.toList
  Text.occursIn query (Text.lowercaseChars rule.source.toList) ||
    Text.occursIn query (Text.lowercaseChars rule.destination.toList)

/-- The rules that mention a text; every rule mentions the empty one. -/
def search (rules : List Rule) (query : String) : List Rule :=
  if query.isEmpty then rules else rules.filter (mentions query)

end Redirects.Rule
