import Redirects.Config.KeyPath
import Redirects.Number.Literal
import Redirects.Text.Lowercase

/-!
# Settings

The values that configuration sources give, as a tree of tables. A later source overrides an earlier
one key by key: where both hold a table their entries are merged, and anything else is replaced.
A value is read in the type that is asked for, across types where that makes sense.
-/

namespace Redirects

/-- A floating-point setting. -/
inductive FloatSetting where
  | finite (negative : Bool) (value : Binary64)
  | infinite (negative : Bool)
  | notANumber
deriving DecidableEq, Repr

/-- A value of a configuration source. -/
inductive Setting where
  | nothing
  | bool (value : Bool)
  | integer (value : Int)
  | float (value : FloatSetting)
  | text (written : String)
  | list (items : List Setting)
  | table (entries : List (String × Setting))
deriving Repr

namespace FloatSetting

/-- The number as a text. -/
def toText : FloatSetting → String
  | .finite negative value => (if negative then "-" else "") ++ value.toText
  | .infinite negative => if negative then "-inf" else "inf"
  | .notANumber => "NaN"

/-- The nearest word, those out of range at the nearer end. -/
def toWord : FloatSetting → Nat
  | .finite negative value => if negative then 0 else min value.roundToNat (UInt64.size - 1)
  | .infinite negative => if negative then 0 else UInt64.size - 1
  | .notANumber => 0

end FloatSetting

namespace Setting

/-- The entries of a table; anything else has none. -/
def entries : Setting → List (String × Setting)
  | .table entries => entries
  | _ => []

/-- The items of a list; anything else has none. -/
def items : Setting → List Setting
  | .list items => items
  | _ => []

/-- The entry under a key. -/
def get? (key : String) (entries : List (String × Setting)) : Option Setting :=
  (entries.find? (·.1 = key)).map (·.2)

/-- The entries with one put under a key, in the place of the one that was there. -/
def put (key : String) (value : Setting) (entries : List (String × Setting)) :
    List (String × Setting) :=
  match entries with
  | [] => [(key, value)]
  | entry :: others =>
    if entry.1 = key then (key, value) :: others else entry :: put key value others

/-- A setting overridden by a later one. -/
def override : Nat → Setting → Setting → Setting
  | fuel + 1, earlier, .table later =>
    .table <| later.foldl
      (fun entries entry =>
        put entry.1 (override fuel ((get? entry.1 entries).getD .nothing) entry.2) entries)
      earlier.entries
  | _, _, later => later

mutual

/-- The number of tables inside each other. -/
def depth : Setting → Nat
  | .table entries => depthOfEntries entries + 1
  | _ => 1

/-- The number of tables inside each other, below entries. -/
def depthOfEntries : List (String × Setting) → Nat
  | [] => 0
  | (_, value) :: entries => max (depth value) (depthOfEntries entries)

end

/-- A setting with a value at the end of a path. What is no table where a key goes on, or no list where
a position does, is replaced by one. -/
def setAt : List KeyStep → Setting → Setting → Setting
  | [], value, setting => override value.depth setting value
  | .key name :: steps, value, setting =>
    let below := (get? name setting.entries).getD .nothing
    .table (put name (setAt steps value below) setting.entries)
  | .position number :: steps, value, setting =>
    let (items, index) := KeyStep.reach .nothing number setting.items
    .list (items.set index (setAt steps value (items.getD index .nothing)))

/-- A setting overridden by the entries of a source. A key that is written as a path goes where the
path leads. -/
def merge (setting : Setting) (source : List (String × Setting)) : Setting :=
  source.foldl (fun setting entry => setAt (KeyStep.path entry.1) entry.2 setting) setting

/-- The setting as a text. -/
def text? : Setting → Option String
  | .text written => some written
  | .bool value => some (if value then "true" else "false")
  | .integer value => some (toString value)
  | .float value => some value.toText
  | _ => none

/-- The number of 64 bits that a text writes. -/
def wordOfText? (text : String) : Option Nat :=
  let folded := Text.lowercase text
  if folded = "true" || folded = "on" || folded = "yes" then some 1
  else if folded = "false" || folded = "off" || folded = "no" then some 0
  else
    let digits := match text.toList with
      | '+' :: rest => rest
      | all => all
    if digits.isEmpty || !digits.all Char.isDigit then none
    else
      let value := digits.foldl (fun value c => 10 * value + (c.toNat - '0'.toNat)) 0
      if value < UInt64.size then some value else none

/-- The setting as a number of 64 bits. -/
def word? : Setting → Option Nat
  | .integer value => if 0 ≤ value && value < UInt64.size then some value.toNat else none
  | .bool value => some (if value then 1 else 0)
  | .float value => some value.toWord
  | .text written => wordOfText? written
  | _ => none

end Setting

end Redirects
