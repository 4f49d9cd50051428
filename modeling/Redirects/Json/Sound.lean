import Redirects.Number.Literal

/-!
# Sound values

What a value must meet to be taken as a whole, whatever it is for: its texts are texts, its numbers
can be represented, and it does not nest too deeply.
-/

namespace Redirects.Json

mutual

/-- Every text is whole, every number is in range, and nothing nests deeper than allowed. -/
def isSound (depth : Nat) : Json → Bool
  | .null => true
  | .bool _ => true
  | .number numeral => numeral.value?.isSome
  | .string text => text.isSome
  | .array items => depth != 0 && areSound (depth - 1) items
  | .object entries => depth != 0 && areSoundEntries (depth - 1) entries

/-- Every item is sound. -/
def areSound (depth : Nat) : List Json → Bool
  | [] => true
  | item :: items => isSound depth item && areSound depth items

/-- Every entry is sound. -/
def areSoundEntries (depth : Nat) : List (Option String × Json) → Bool
  | [] => true
  | (name, value) :: entries =>
    name.isSome && isSound depth value && areSoundEntries depth entries

end

/-- How deep arrays and objects may nest. -/
def maxDepth : Nat := 127

end Redirects.Json
