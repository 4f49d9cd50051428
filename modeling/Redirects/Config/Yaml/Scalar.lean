import Redirects.Config.Number
import Redirects.Text.Hex

/-!
# Scalars

What a text without quotes stands for, by itself or under a tag, and how a scalar is read as a
setting or as a key.
-/

namespace Redirects.Yaml

/-- A scalar of a document. -/
inductive Scalar where
  | nothing
  /-- A text that does not fit its tag. -/
  | unfit
  | bool (value : Bool)
  | integer (value : Int)
  /-- A number that is no integer, as it is written. -/
  | real (written : List Char)
  | text (text : String)
deriving DecidableEq, Repr

/-- A tag before a node. -/
inductive Tag where
  /-- One of the common types, by its name. -/
  | common (name : String)
  | other
deriving DecidableEq, Repr

namespace Scalar

/-- The names of infinity and of no number. -/
def specialNumbers : List String :=
  [".inf", ".Inf", ".INF", "+.inf", "+.Inf", "+.INF", "-.inf", "-.Inf", "-.INF", ".nan", ".NaN",
    ".NAN"]

/-- The text is a number that is no integer. -/
def isReal (text : List Char) : Bool :=
  specialNumbers.contains (String.ofList text) ||
    (text.any Char.isDigit && (Setting.floatOf? text).isSome)

/-- The integer that digits in a base write, a sign before them or not. -/
def inBase? (base : Nat) (text : List Char) : Option Int :=
  let (negative, digits) := Setting.splitSign text
  if digits.isEmpty then none
  else do
    let value ← digits.foldlM
      (fun value c =>
        (Text.hexDigit? c).bind fun digit =>
          if digit < base then some (base * value + digit) else none)
      0
    Setting.signed? negative value

/-- The integer that a text writes behind the mark of a base, or behind a plus sign. -/
def marked? (text : List Char) : Option Int :=
  match text with
  | '0' :: 'x' :: digits => inBase? 16 digits
  | '0' :: 'o' :: digits => inBase? 8 digits
  | '+' :: number => Setting.integerOf? number
  | _ => none

/-- The scalar that a text without quotes and without a tag is. -/
def ofPlain (text : List Char) : Scalar :=
  match (marked? text).or (Setting.integerOf? text) with
  | some value => .integer value
  | none =>
    let word := String.ofList text
    if word = "" || word = "~" || word = "null" then .nothing
    else if word = "true" then .bool true
    else if word = "false" then .bool false
    else if isReal text then .real text
    else .text word

/-- The scalar that a text without quotes is under a tag. -/
def ofTagged (tag : Tag) (text : List Char) : Scalar :=
  let word := String.ofList text
  match tag with
  | .common "bool" =>
    if word = "true" then .bool true else if word = "false" then .bool false else .unfit
  | .common "int" => ((Setting.integerOf? text).map integer).getD .unfit
  | .common "float" => if isReal text then .real text else .unfit
  | .common "null" => if word = "~" || word = "null" then .nothing else .unfit
  | _ => .text word

/-- The scalar that a text without quotes is. -/
def ofWritten (tag : Option Tag) (text : List Char) : Scalar :=
  match tag with
  | some tag => ofTagged tag text
  | none => ofPlain text

/-- The setting that a scalar is. A number by name is none. -/
def setting? : Scalar → Option Setting
  | .nothing | .unfit => some .nothing
  | .bool value => some (.bool value)
  | .integer value => some (.integer value)
  | .real written => (Setting.floatOf? written).map .float
  | .text value => some (.text value)

/-- The key that a scalar is. -/
def key? : Scalar → Option String
  | .nothing | .unfit => none
  | .bool value => some (if value then "true" else "false")
  | .integer value => some (toString value)
  | .real written => some (String.ofList written)
  | .text value => some value

end Scalar

end Redirects.Yaml
