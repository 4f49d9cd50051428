import Redirects.Number.Binary64

/-!
# Shortest decimals

The decimal with the fewest digits that rounds to a given number, and of several the nearest; it is
written out in positional notation, however long.
-/

namespace Redirects.Binary64

/-- The ends of the interval that rounds to a number, and the number between them, all over one
denominator. -/
def interval (value : Binary64) : Nat × Nat × Nat × Nat :=
  let (up, down) := powerOfTwo value.exponent
  let m := value.mantissa
  let low := if m = Nat.pow 2 52 && minExponent < value.exponent then 4 * m - 1 else 4 * m - 2
  (low * up, 4 * m * up, (4 * m + 2) * up, 4 * down)

/-- The decimal exponent of the first digit of a fraction below one: places to its left are
counted from `places` on. -/
def leadingPlace (numerator denominator : Nat) : Nat → Nat → Nat
  | 0, places => places
  | fuel + 1, places =>
    if denominator ≤ numerator * Nat.pow 10 places then places
    else leadingPlace numerator denominator fuel (places + 1)

/-- The decimal exponent of the first digit of a positive fraction. -/
def decimalExponent (numerator denominator : Nat) : Int :=
  if denominator ≤ numerator then ((Nat.toDigits 10 (numerator / denominator)).length : Int) - 1
  else -(leadingPlace numerator denominator 400 1 : Int)

/-- The decimal `digits * 10 ^ exponent` with the given number of digits that rounds to the number
and is nearest to it, if there is one. -/
def onGrid? (value : Binary64) (count : Nat) : Option (Nat × Int) :=
  let (low, middle, high, denominator) := value.interval
  let exponent := decimalExponent middle denominator - count + 1
  let (up, down) : Nat × Nat :=
    if 0 ≤ exponent then (Nat.pow 10 exponent.toNat, 1) else (1, Nat.pow 10 (-exponent).toNat)
  let scaled (n : Nat) : Nat := n * down
  let unit := denominator * up
  let even := value.mantissa % 2 == 0
  let inside (digits : Nat) : Bool :=
    let at_ := digits * unit
    if even then scaled low ≤ at_ && at_ ≤ scaled high else scaled low < at_ && at_ < scaled high
  let below := scaled middle / unit
  let distance (digits : Nat) : Nat :=
    let at_ := digits * unit
    if at_ ≤ scaled middle then scaled middle - at_ else at_ - scaled middle
  match inside below, inside (below + 1) with
  | true, true =>
    some (if distance below ≤ distance (below + 1) then (below, exponent) else (below + 1, exponent))
  | true, false => some (below, exponent)
  | false, true => some (below + 1, exponent)
  | false, false => none

/-- The digits and the exponent of the shortest decimal of a positive number. -/
def shortest (value : Binary64) : Nat × Int :=
  ((List.range 17).findSome? fun i => value.onGrid? (i + 1)).getD (0, 0)

/-- The shortest decimal in positional notation. -/
def toText (value : Binary64) : String :=
  if value.mantissa = 0 then "0"
  else
    let (number, exponent) := value.shortest
    let digits := Nat.toDigits 10 number
    if 0 ≤ exponent then String.ofList (digits ++ List.replicate exponent.toNat '0')
    else
      let places := (-exponent).toNat
      let padded := List.replicate (places + 1 - digits.length) '0' ++ digits
      let whole := padded.take (padded.length - places)
      let fraction := padded.drop (padded.length - places)
      let shown := (fraction.reverse.dropWhile (· == '0')).reverse
      if shown.isEmpty then String.ofList whole
      else String.ofList (whole ++ '.' :: shown)

end Redirects.Binary64
