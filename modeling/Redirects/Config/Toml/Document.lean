import Redirects.Config.Setting

/-!
# The tables of a document

A table is opened by its header, by the header of a table below it, by a dotted key or by braces, and
only some of these may go on where another began; the tree that is read keeps which it was.
-/

namespace Redirects.Toml

/-- How a table came to be. -/
inductive Origin where
  /-- By the header of a table below it. -/
  | passed
  /-- By its own header. -/
  | header
  /-- By a dotted key. -/
  | dotted
  /-- By braces, which close it for good. -/
  | braces
deriving DecidableEq, Repr

/-- A value of a document. -/
inductive Value where
  | scalar (setting : Setting)
  | array (items : List Value)
  | table (origin : Origin) (entries : List (String × Value))
  /-- Tables under one header in double brackets. -/
  | tables (items : List (List (String × Value)))

/-- The entries of a table. -/
abbrev Entries := List (String × Value)

mutual

/-- The setting that a value is. -/
def Value.setting : Value → Setting
  | .scalar setting => setting
  | .array items => .list (settings items)
  | .table _ entries => .table (settingsOfEntries entries)
  | .tables items => .list (settingsOfTables items)

/-- The settings that values are. -/
def settings : List Value → List Setting
  | [] => []
  | item :: items => item.setting :: settings items

/-- The settings that entries are. -/
def settingsOfEntries : List (String × Value) → List (String × Setting)
  | [] => []
  | (key, value) :: entries => (key, value.setting) :: settingsOfEntries entries

/-- The settings that tables are. -/
def settingsOfTables : List (List (String × Value)) → List Setting
  | [] => []
  | entries :: tables => .table (settingsOfEntries entries) :: settingsOfTables tables

end

/-- The value under a key. -/
def find? (key : String) (entries : Entries) : Option Value :=
  (entries.find? (·.1 = key)).map (·.2)

/-- The entries with a value under a key. -/
def put (key : String) (value : Value) : Entries → Entries
  | [] => [(key, value)]
  | entry :: entries =>
    if entry.1 = key then (key, value) :: entries else entry :: put key value entries

/-- Changes the table that a header names, making the tables on the way. -/
def openTable (double : Bool) : List String → Entries → Option Entries
  | [], _ => none
  | [key], entries =>
    if double then
      match find? key entries with
      | none => some (put key (.tables [[]]) entries)
      | some (.tables items) => some (put key (.tables (items ++ [[]])) entries)
      | some _ => none
    else
      match find? key entries with
      | none => some (put key (.table .header []) entries)
      | some (.table .passed below) => some (put key (.table .header below) entries)
      | some _ => none
  | key :: keys, entries =>
    match find? key entries with
    | none => (openTable double keys []).map fun below => put key (.table .passed below) entries
    | some (.table .braces _) => none
    | some (.table origin below) =>
      (openTable double keys below).map fun below => put key (.table origin below) entries
    | some (.tables items) =>
      match items.getLast? with
      | none => none
      | some below =>
        (openTable double keys below).map fun below =>
          put key (.tables (items.dropLast ++ [below])) entries
    | some _ => none

/-- Sets a value under a dotted key. -/
def define : List String → Value → Entries → Option Entries
  | [], _, _ => none
  | [key], value, entries =>
    if (find? key entries).isSome then none else some (put key value entries)
  | key :: keys, value, entries =>
    match find? key entries with
    | none => (define keys value []).map fun below => put key (.table .dotted below) entries
    | some (.table .dotted below) =>
      (define keys value below).map fun below => put key (.table .dotted below) entries
    | some (.table .passed below) =>
      (define keys value below).map fun below => put key (.table .passed below) entries
    | some _ => none

/-- Changes the entries of the table at the end of a path of keys. -/
def within (change : Entries → Option Entries) : List String → Entries → Option Entries
  | [], entries => change entries
  | key :: keys, entries =>
    match find? key entries with
    | some (.table origin below) =>
      (within change keys below).map fun below => put key (.table origin below) entries
    | some (.tables items) =>
      match items.getLast? with
      | none => none
      | some below =>
        (within change keys below).map fun below =>
          put key (.tables (items.dropLast ++ [below])) entries
    | _ => none

end Redirects.Toml
