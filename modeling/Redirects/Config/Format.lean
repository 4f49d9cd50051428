import Redirects.Config.Ini
import Redirects.Config.Json5
import Redirects.Config.Ron
import Redirects.Config.Toml
import Redirects.Config.Yaml
import Redirects.Json.Reader
import Redirects.Json.Sound

/-!
# Formats of configuration files

The ending of a file's name tells its format. Whatever the format, a file gives a table of settings.
-/

namespace Redirects

/-- A format of configuration files. -/
inductive Format where
  | toml
  | json
  | yaml
  | ini
  | ron
  | json5
deriving DecidableEq, Repr

namespace Format

/-- The endings of names, each with its format. -/
def table : List (String × Format) :=
  [("toml", .toml), ("json", .json), ("yaml", .yaml), ("yml", .yaml), ("ini", .ini), ("ron", .ron),
    ("json5", .json5)]

/-- The endings of the names of configuration files. -/
def endings : List String := table.map (·.1)

/-- The format that an ending tells. -/
def ofEnding? (ending : String) : Option Format :=
  (table.find? (·.1 = ending)).map (·.2)

mutual

/-- The setting that a JSON value is. -/
def ofJson : Json → Setting
  | .null => .nothing
  | .bool value => .bool value
  | .number numeral =>
    match numeral.value? with
    | some (.natural value) =>
      if value < Nat.pow 2 63 then .integer value else .float (Setting.nearest false (toString value).toList 0)
    | some (.negative distance) => .integer (-(distance : Int))
    | some (.float negative value) => .float (.finite negative value)
    | none => .nothing
  | .string text => .text (text.getD "")
  | .array items => .list (ofItems items)
  | .object entries => .table (ofEntries [] entries)

/-- The settings that JSON values are. -/
def ofItems : List Json → List Setting
  | [] => []
  | item :: items => ofJson item :: ofItems items

/-- The settings under the names of an object, the last under a name counting. -/
def ofEntries (earlier : List (String × Setting)) :
    List (Option String × Json) → List (String × Setting)
  | [] => earlier
  | (name, value) :: entries =>
    ofEntries (Setting.put (name.getD "") (ofJson value) earlier) entries

end

/-- The settings that a JSON text gives. -/
def readJson? (text : String) : Option Setting :=
  (Json.read? text).bind fun value => if value.isSound Json.maxDepth then some (ofJson value) else none

/-- The entries of a table that a whole text gives. -/
def entriesOf? : Setting → Option (List (String × Setting))
  | .table entries => some entries
  | _ => none

/-- The settings that a text of the format gives. -/
def read? (format : Format) (text : String) : Option (List (String × Setting)) :=
  match format with
  | .toml => Toml.read? text
  | .json => (readJson? text).bind entriesOf?
  | .yaml => (Yaml.read? text).bind entriesOf?
  | .ini => Ini.read? text
  | .ron => (Ron.read? text).bind entriesOf?
  | .json5 => (Json5.read? text).bind entriesOf?

end Format

end Redirects
