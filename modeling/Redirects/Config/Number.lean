import Redirects.Config.Setting
import Redirects.Text.Hex

/-!
# Numbers in settings

The integers and floating-point numbers that a text writes: whole texts from the environment, and
the spellings of configuration files, which allow underscores between digits.
-/

namespace Redirects.Setting

/-- The value of a row of decimal digits. -/
def decimal (digits : List Char) : Nat :=
  digits.foldl (fun value c => 10 * value + (c.toNat - '0'.toNat)) 0

/-- A text without its sign, and whether that is a minus. -/
def splitSign : List Char → Bool × List Char
  | '-' :: rest => (true, rest)
  | '+' :: rest => (false, rest)
  | word => (false, word)

/-- An integer with a sign, if it fits in 64 bits. -/
def signed? (negative : Bool) (value : Nat) : Option Int :=
  if negative then (if value ≤ Nat.pow 2 63 then some (-(value : Int)) else none)
  else if value < Nat.pow 2 63 then some value
  else none

/-- The integer that a text writes. -/
def integerOf? (text : List Char) : Option Int :=
  let (negative, digits) := splitSign text
  if digits.isEmpty || !digits.all Char.isDigit then none else signed? negative (decimal digits)

/-- The float nearest to a decimal. -/
def nearest (negative : Bool) (digits : List Char) (exponent : Int) : FloatSetting :=
  let significand := decimal digits
  let bound : Int := 400 + digits.length
  let rounded :=
    if significand = 0 || exponent < -bound then some Binary64.zero
    else if bound < exponent then none
    else if 0 ≤ exponent then Binary64.round? (significand * Nat.pow 10 exponent.toNat) 1
    else Binary64.round? significand (Nat.pow 10 (-exponent).toNat)
  match rounded with
  | some value => .finite negative value
  | none => .infinite negative

/-- The exponent at the end of a float, if it is well written. -/
def exponentOf? : List Char → Option Int
  | [] => some 0
  | mark :: rest =>
    if mark == 'e' || mark == 'E' then
      let (negative, digits) := splitSign rest
      if digits.isEmpty || !digits.all Char.isDigit then none
      else some (if negative then -(decimal digits : Int) else decimal digits)
    else none

/-- The float of the digits before and behind a point, and an exponent. -/
def floatOfParts? (negative : Bool) (whole fraction exponent : List Char) : Option FloatSetting :=
  (exponentOf? exponent).map fun power =>
    nearest negative (whole ++ fraction) (power - fraction.length)

/-- The float that a text writes: a decimal, or a name for infinity or for no number. -/
def floatOf? (text : List Char) : Option FloatSetting :=
  let (negative, rest) := splitSign text
  let name := String.ofList (rest.map Char.toLower)
  if name = "inf" || name = "infinity" then some (.infinite negative)
  else if name = "nan" then some .notANumber
  else
    let whole := rest.takeWhile Char.isDigit
    let rest := rest.drop whole.length
    let fraction :=
      match rest with
      | '.' :: behind => behind.takeWhile Char.isDigit
      | _ => []
    let rest := if rest.head? == some '.' then rest.drop (fraction.length + 1) else rest
    if whole.isEmpty && fraction.isEmpty then none
    else floatOfParts? negative whole fraction rest

/-- The setting that the text of an environment variable gives. -/
def ofVariable (text : String) : Setting :=
  let folded := Text.lowercase text
  if folded = "true" then .bool true
  else if folded = "false" then .bool false
  else
    match integerOf? text.toList, floatOf? text.toList with
    | some value, _ => .integer value
    | none, some value => .float value
    | none, none => .text text

/-- Digits with underscores between them, the underscores left out. -/
def groupedDigits? (isDigit : Char → Bool) (text : List Char) : Option (List Char) :=
  let apart := text.zip (text.drop 1)
  let ends := text.head? == some '_' || text.getLast? == some '_'
  if text.isEmpty || ends || apart.any (· == ('_', '_')) then none
  else
    let digits := text.filter (· != '_')
    if digits.all isDigit then some digits else none

/-- An exponent with the underscores between its digits left out. -/
def groupedExponent? : List Char → Option (List Char)
  | [] => some []
  | mark :: rest =>
    let digits := (splitSign rest).2
    (groupedDigits? Char.isDigit digits).map fun plain =>
      mark :: (rest.take (rest.length - digits.length) ++ plain)

/-- The float of a number's parts, if it is not too large. -/
def finiteOfParts? (negative : Bool) (whole fraction exponent : List Char) : Option Setting :=
  match floatOfParts? negative whole fraction exponent with
  | some (.finite negative value) => some (.float (.finite negative value))
  | _ => none

/-- The digits of a decimal integer, which does not start with a needless zero. -/
def plainDigits? (text : List Char) : Option (List Char) :=
  (groupedDigits? Char.isDigit text).bind fun digits =>
    if digits.head? == some '0' && digits.length != 1 then none else some digits

/-- The value of digits under a base. -/
def inBase? (base : Nat) (text : List Char) : Option Nat :=
  let digit? (c : Char) : Option Nat :=
    (Text.hexDigit? c).bind fun value => if value < base then some value else none
  (groupedDigits? (fun c => (digit? c).isSome) text).map fun digits =>
    digits.foldl (fun value c => base * value + (digit? c).getD 0) 0

/-- The number that a word of a configuration file writes. -/
def ofNumberWord? (word : List Char) : Option Setting :=
  match word with
  | '0' :: 'x' :: digits => ((inBase? 16 digits).bind (signed? false)).map .integer
  | '0' :: 'o' :: digits => ((inBase? 8 digits).bind (signed? false)).map .integer
  | '0' :: 'b' :: digits => ((inBase? 2 digits).bind (signed? false)).map .integer
  | _ =>
    let (negative, rest) := splitSign word
    if rest == ['i', 'n', 'f'] then some (.float (.infinite negative))
    else if rest == ['n', 'a', 'n'] then some (.float .notANumber)
    else
      let isMark (c : Char) : Bool := c == '.' || c == 'e' || c == 'E'
      let whole := rest.takeWhile fun c => !isMark c
      let behind := rest.drop whole.length
      match plainDigits? whole, behind with
      | some digits, [] => (signed? negative (decimal digits)).map .integer
      | some digits, '.' :: behind => do
        let fraction := behind.takeWhile fun c => !isMark c
        let exponent ← groupedExponent? (behind.drop fraction.length)
        let fraction ← groupedDigits? Char.isDigit fraction
        finiteOfParts? negative digits fraction exponent
      | some digits, exponent => do
        finiteOfParts? negative digits [] (← groupedExponent? exponent)
      | none, _ => none

end Redirects.Setting
