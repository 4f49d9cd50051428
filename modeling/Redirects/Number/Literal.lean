import Redirects.Json.Value
import Redirects.Number.Shortest

/-!
# The value of a numeral

A numeral without point and exponent is an integer if it fits in 64 bits, with a sign or without.
Any other is a floating-point number: its digits, as far as they fit in 64 bits, times or over a
power of ten, each rounded in turn.
-/

namespace Redirects

/-- The value of a numeral. -/
inductive NumberValue where
  | natural (value : Nat)
  /-- A negative integer, by its distance from zero. -/
  | negative (distance : Nat)
  | float (negative : Bool) (value : Binary64)
deriving DecidableEq, Repr

namespace Numeral

/-- The bound of 64-bit words. -/
def wordBound : Nat := UInt64.size

/-- Takes digits on as long as the value fits in a word: the value and the digits that remain. -/
def accumulate : Nat → List Nat → Nat × List Nat
  | value, [] => (value, [])
  | value, digit :: digits =>
    if wordBound ≤ 10 * value + digit then (value, digit :: digits)
    else accumulate (10 * value + digit) digits

/-- A power of ten. -/
def powerOfTen (exponent : Nat) : Binary64 :=
  (Binary64.round? (Nat.pow 10 exponent) 1).getD Binary64.zero

/-- A number times or over a power of ten, taken in steps of at most 308. -/
def scale? (value : Binary64) : Nat → Int → Option Binary64
  | 0, _ => none
  | fuel + 1, exponent =>
    if exponent.natAbs ≤ 308 then
      if 0 ≤ exponent then value.mul? (powerOfTen exponent.natAbs)
      else value.div? (powerOfTen exponent.natAbs)
    else if value.mantissa = 0 then some value
    else if 0 ≤ exponent then none
    else (value.div? (powerOfTen 308)).bind fun value => scale? value fuel (exponent + 308)

/-- The bound of an exponent that is written out. -/
def exponentBound : Nat := Nat.pow 2 31

/-- The value of the numeral, if it is not too large. -/
def value? (numeral : Numeral) : Option NumberValue :=
  let (whole, dropped) := accumulate 0 numeral.whole
  if numeral.fraction.isEmpty && numeral.exponent.isNone && dropped.isEmpty then
    if !numeral.negative then some (.natural whole)
    else if whole = 0 || Nat.pow 2 63 < whole then
      (Binary64.round? whole 1).map (.float true)
    else some (.negative whole)
  else
    let (significand, left) := accumulate whole numeral.fraction
    let places : Int := dropped.length - (numeral.fraction.length - left.length : Nat)
    let start := Binary64.round? significand 1
    let scaled :=
      match numeral.exponent with
      | none => start.bind (scale? · 8 places)
      | some (negative, digits) =>
        let exponent := Json.valueOf digits
        if exponentBound ≤ exponent then
          if significand ≠ 0 && !negative then none else some Binary64.zero
        else start.bind (scale? · 8 (places + if negative then -(exponent : Int) else exponent))
    scaled.map (.float numeral.negative)

end Numeral

end Redirects
