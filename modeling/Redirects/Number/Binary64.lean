/-!
# Binary floating point

Numbers with 53 binary digits and the exponent range of the common 64-bit format. Every operation is
the exact one followed by rounding to the nearest number, the even one of two that are equally near.
-/

namespace Redirects

/-- A non-negative number `mantissa * 2 ^ exponent`. -/
structure Binary64 where
  mantissa : Nat
  exponent : Int
deriving DecidableEq, Repr

namespace Binary64

/-- The number of binary digits. -/
def precision : Nat := 53

/-- The least exponent. -/
def minExponent : Int := -1074

/-- The greatest exponent. -/
def maxExponent : Int := 971

/-- Zero. -/
def zero : Binary64 := ⟨0, minExponent⟩

/-- A power of two as a fraction. -/
def powerOfTwo (exponent : Int) : Nat × Nat :=
  if 0 ≤ exponent then (Nat.pow 2 exponent.toNat, 1) else (1, Nat.pow 2 (-exponent).toNat)

/-- The number as a fraction. -/
def toFraction (value : Binary64) : Nat × Nat :=
  let (up, down) := powerOfTwo value.exponent
  (value.mantissa * up, down)

/-- The quotient rounded to the nearest natural number, a half to the even one. -/
def roundQuotient (numerator denominator : Nat) : Nat :=
  let quotient := numerator / denominator
  let twice := 2 * (numerator % denominator)
  if denominator < twice || (twice == denominator && quotient % 2 == 1) then quotient + 1
  else quotient

/-- The mantissa of a fraction under an exponent, not rounded. -/
def floorUnder (numerator denominator : Nat) (exponent : Int) : Nat :=
  let (up, down) := powerOfTwo exponent
  numerator * down / (denominator * up)

/-- The number nearest to a fraction; nothing if it is too large. -/
def round? (numerator denominator : Nat) : Option Binary64 :=
  if numerator = 0 then some zero
  else
    let guess : Int := (numerator.log2 : Int) - denominator.log2 - 52
    let normal :=
      if floorUnder numerator denominator guess < Nat.pow 2 52 then guess - 1 else guess
    let exponent := max normal minExponent
    let (up, down) := powerOfTwo exponent
    let mantissa := roundQuotient (numerator * down) (denominator * up)
    let value : Binary64 :=
      if mantissa = Nat.pow 2 53 then ⟨Nat.pow 2 52, exponent + 1⟩ else ⟨mantissa, exponent⟩
    if maxExponent < value.exponent then none else some value

/-- The number nearest to a product. -/
def mul? (left right : Binary64) : Option Binary64 :=
  let (a, b) := left.toFraction
  let (c, d) := right.toFraction
  round? (a * c) (b * d)

/-- The number nearest to a quotient. -/
def div? (left right : Binary64) : Option Binary64 :=
  let (a, b) := left.toFraction
  let (c, d) := right.toFraction
  round? (a * d) (b * c)

/-- The nearest natural number, a half going up. -/
def roundToNat (value : Binary64) : Nat :=
  let (up, down) := value.toFraction
  (2 * up + down) / (2 * down)

end Binary64

end Redirects
