/-!
# Doubles as exact numbers

A finite double is a whole mantissa times a power of two. This module takes doubles apart into that
form and finds the double nearest to a quotient of whole numbers, so that every rounding of the
program is one rounding of an exact value.
-/

namespace Clausal

/-- The quotient rounded to the nearest whole number, a half to the even neighbour. -/
def roundDiv (numerator denominator : Nat) : Nat :=
  let quotient := numerator / denominator
  let twice := 2 * (numerator % denominator)
  if twice > denominator ∨ (twice = denominator ∧ quotient % 2 = 1) then quotient + 1 else quotient

namespace Binary64

/-- What a double stands for. -/
inductive Value where
  /-- No number. -/
  | undefined
  /-- An infinity. -/
  | infinite (negative : Bool)
  /-- The mantissa times 2 to the exponent, with a sign. -/
  | finite (negative : Bool) (mantissa : Nat) (exponent : Int)
deriving DecidableEq

/-- The exponent of the smallest positive double. -/
def leastExponent : Int := -1074

/-- The mantissa of the smallest double with a full one. -/
def leadingBit : Nat := Nat.pow 2 52

/-- Takes a double apart. -/
def decode (double : Float) : Value :=
  let bits := double.toBits.toNat
  let negative := decide (bits / Nat.pow 2 63 = 1)
  let field := bits / leadingBit % 2048
  let fraction := bits % leadingBit
  if field = 2047 then (if fraction = 0 then .infinite negative else .undefined)
  else if field = 0 then .finite negative fraction leastExponent
  else .finite negative (leadingBit + fraction) ((field : Int) - 1075)

/-- The double with the given bits below the sign. -/
def ofMagnitude (negative : Bool) (magnitude : Nat) : Float :=
  Float.ofBits (UInt64.ofNat ((if negative then Nat.pow 2 63 else 0) + magnitude))

/-- The bits of an infinity below the sign. -/
def infiniteMagnitude : Nat := 2047 * leadingBit

/-- The double of a mantissa below 2 to the 54 and an exponent that is not below the least one. A
value past the largest double becomes an infinity. -/
def encode (negative : Bool) (mantissa : Nat) (exponent : Int) : Float :=
  if mantissa < leadingBit then ofMagnitude negative mantissa
  else
    let carried := decide (2 * leadingBit ≤ mantissa)
    let fraction := (if carried then mantissa / 2 else mantissa) - leadingBit
    let field := (exponent + 1075 + (if carried then 1 else 0)).toNat
    if field ≥ 2047 then ofMagnitude negative infiniteMagnitude
    else ofMagnitude negative (field * leadingBit + fraction)

/-- Numerator and denominator of a quotient divided by a power of two. -/
def scaleDown (numerator denominator : Nat) (exponent : Int) : Nat × Nat :=
  if exponent ≥ 0 then (numerator, denominator * Nat.pow 2 exponent.toNat)
  else (numerator * Nat.pow 2 (-exponent).toNat, denominator)

/-- The exponent for which the whole part of a quotient that is not zero has 53 bits. -/
def normalExponent (numerator denominator : Nat) : Int :=
  let guess := (numerator.log2 : Int) - denominator.log2 - 53
  let scaled := scaleDown numerator denominator guess
  if scaled.1 < scaled.2 * (2 * leadingBit) then guess else guess + 1

/-- The double nearest to a quotient, a half going to the even mantissa. -/
def ofRatio (negative : Bool) (numerator denominator : Nat) : Float :=
  if numerator = 0 then ofMagnitude negative 0
  else
    let exponent := max (normalExponent numerator denominator) leastExponent
    let scaled := scaleDown numerator denominator exponent
    encode negative (roundDiv scaled.1 scaled.2) exponent

/-- The double nearest to a whole number. -/
def ofInt (number : Int) : Float :=
  ofRatio (decide (number < 0)) number.natAbs 1

/-- The double nearest to a whole number times a power of ten. -/
def ofDecimal (negative : Bool) (digits : Nat) (exponent : Int) : Float :=
  if exponent ≥ 0 then ofRatio negative (digits * Nat.pow 10 exponent.toNat) 1
  else ofRatio negative digits (Nat.pow 10 (-exponent).toNat)

/-- The quotient of two whole numbers, the second not zero, as the nearest double. -/
def ofQuotient (dividend : Int) (divisor : Nat) : Float :=
  ofRatio (decide (dividend < 0)) dividend.natAbs divisor

/-- Compares a whole number with a double exactly; nothing compares with what is no number. -/
def compareInt? (number : Int) (double : Float) : Option Ordering :=
  match decode double with
  | .undefined => none
  | .infinite negative => some (if negative then .gt else .lt)
  | .finite negative mantissa exponent =>
    let signed : Int := if negative then -mantissa else mantissa
    some (if exponent ≥ 0 then compare number (signed * Nat.pow 2 exponent.toNat)
      else compare (number * Nat.pow 2 (-exponent).toNat) signed)

end Binary64

end Clausal
