import Redirects.Json.Reader
import Redirects.Number.Literal

/-!
# Values out of JSON

A record is written as an object, or as an array of its fields in order. Names that a record does
not have are passed over with whatever they hold; a name that it has may come once.
-/

namespace Redirects.Json

/-- A text. -/
def text? : Json → Option String
  | .string text => text
  | _ => none

/-- A truth value. -/
def bool? : Json → Option Bool
  | .bool value => some value
  | _ => none

/-- A number of 32 bits. -/
def word? : Json → Option UInt32
  | .number numeral =>
    match numeral.value? with
    | some (.natural value) => if value < UInt32.size then some (UInt32.ofNat value) else none
    | _ => none
  | _ => none

/-- A list. -/
def list? {α : Type} (item? : Json → Option α) : Json → Option (List α)
  | .array items => items.mapM item?
  | _ => none

/-- A value that may be missing. -/
def nullable? {α : Type} (value? : Json → Option α) : Json → Option (Option α)
  | .null => some none
  | json => (value? json).map some

/-- The name of a choice: a text, or the only name of an object that holds nothing under it. -/
def choice? : Json → Option String
  | .string text => text
  | .object [(name, .null)] => name
  | _ => none

/-- The fields of a record, each missing where it is not written. -/
def fields? (names : List String) : Json → Option (List (Option Json))
  | .object entries =>
    if entries.all fun entry => entry.1.isSome then
      names.mapM fun name =>
        match entries.filter fun entry => entry.1 == some name with
        | [] => some none
        | [(_, value)] => some (some value)
        | _ => none
    else none
  | .array items =>
    if items.length ≤ names.length then
      some (items.map some ++ List.replicate (names.length - items.length) none)
    else none
  | _ => none

/-- A field that must be written. -/
def required? {α : Type} (value? : Json → Option α) (field : Option Json) : Option α :=
  field.bind value?

/-- A field with a value for where it is not written. -/
def optional? {α : Type} (value? : Json → Option α) (default : α) (field : Option Json) :
    Option α :=
  match field with
  | none => some default
  | some json => value? json

end Redirects.Json
