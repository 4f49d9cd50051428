import Redirects.Number.Literal
import Redirects.Unicode.Property

/-!
# Values in messages

How a value that is not what was expected is named.
-/

namespace Redirects.Json

/-- The characters outside ASCII that are shown as they are: letters, numbers, punctuation and
symbols, and the marks that can stand alone. -/
def shownPlainly (c : Char) : Bool :=
  ['L', 'M', 'N', 'P', 'S'].any (fun letter => (Unicode.categoryGroup letter).has c) &&
    !Unicode.graphemeExtend.has c

/-- A character as it is shown in a message: escaped if it cannot be printed or would join the
character before it. -/
def showChar (c : Char) : List Char :=
  if c == '"' || c == '\\' then ['\\', c]
  else if c == '\n' then ['\\', 'n']
  else if c == '\r' then ['\\', 'r']
  else if c == '\t' then ['\\', 't']
  else if c == '\x00' then ['\\', '0']
  else if c.val < 128 && 32 ≤ c.val && c.val != 127 then [c]
  else if 128 ≤ c.val && shownPlainly c then [c]
  else ['\\', 'u', '\x7b'] ++ Nat.toDigits 16 c.toNat ++ ['\x7d']

/-- A floating-point number as it is shown in a message, with a point. -/
def showFloat (negative : Bool) (value : Binary64) : String :=
  let text := value.toText
  let pointed := if text.toList.contains '.' then text else text ++ ".0"
  if negative then "-" ++ pointed else pointed

/-- What a value is, in a message. -/
def describe : Json → String
  | .null => "null"
  | .bool value => "boolean `" ++ (if value then "true" else "false") ++ "`"
  | .number numeral =>
    match numeral.value? with
    | some (.natural value) => "integer `" ++ toString value ++ "`"
    | some (.negative distance) => "integer `-" ++ toString distance ++ "`"
    | some (.float negative value) => "floating point `" ++ showFloat negative value ++ "`"
    | none => "number"
  | .string text =>
    "string \"" ++ String.ofList ((text.getD "").toList.flatMap showChar) ++ "\""
  | .array _ => "sequence"
  | .object _ => "map"

end Redirects.Json
