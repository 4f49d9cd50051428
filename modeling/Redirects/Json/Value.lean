/-!
# JSON values

A JSON text as a tree that keeps what was written: numbers as their digits, and the entries of an
object in their order, names repeated or not. What the numbers and the entries mean is decided by
those who read them out of the tree.
-/

namespace Redirects

/-- A number as written. -/
structure Numeral where
  negative : Bool := false
  /-- Digits before the point. -/
  whole : List Nat
  /-- Digits behind the point. -/
  fraction : List Nat := []
  /-- Digits of the exponent and whether it is negative. -/
  exponent : Option (Bool × List Nat) := none
deriving DecidableEq, Repr

/-- A JSON value. A string is missing where it holds half of a surrogate pair. -/
inductive Json where
  | null
  | bool (value : Bool)
  | number (numeral : Numeral)
  | string (text : Option String)
  | array (items : List Json)
  | object (entries : List (Option String × Json))
deriving Repr

namespace Json

/-- A text. -/
def ofString (text : String) : Json := .string (some text)

/-- The decimal digits of a number, the most significant first. -/
def digits (value : Nat) : List Nat := (Nat.toDigits 10 value).map fun c => c.toNat - '0'.toNat

/-- A natural number. -/
def ofNat (value : Nat) : Json := .number { whole := digits value }

/-- An object with the given entries. -/
def ofEntries (entries : List (String × Json)) : Json :=
  .object (entries.map fun (name, value) => (some name, value))

/-- The value that digits write. -/
def valueOf (digits : List Nat) : Nat := digits.foldl (fun value digit => 10 * value + digit) 0

end Json

end Redirects
