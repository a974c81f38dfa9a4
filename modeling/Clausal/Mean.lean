import Clausal.Number

/-!
# Means

The mean of numbers is taken of their exact values and rounded once. Numbers that are not finite have
no exact value; where some occur, they alone decide.
-/

namespace Clausal.Number

/-- How many of the smallest positive doubles make one. -/
def smallestPerUnit : Nat := Nat.pow 2 1074

/-- A finite number as a multiple of the smallest positive double. -/
def smallest? : Number → Option Int
  | whole value => some (value * smallestPerUnit)
  | real value =>
    match Binary64.decode value with
    | .finite negative mantissa exponent =>
      let magnitude : Int := mantissa * Nat.pow 2 (exponent + 1074).toNat
      some (if negative then -magnitude else magnitude)
    | _ => none

/-- The number is a whole one. -/
def isWhole : Number → Bool
  | whole _ => true
  | real _ => false

/-- The mean of numbers, of which there is at least one. The mean of whole numbers is a whole number if it
is one exactly; any other mean is a double. -/
def mean (numbers : List Number) : Number :=
  match numbers.mapM smallest? with
  | some multiples =>
    let sum : Int := multiples.foldl (· + ·) 0
    let unit := numbers.length * smallestPerUnit
    if numbers.all isWhole && decide (sum % unit = 0) then whole (sum / unit)
    else real (Binary64.ofQuotient sum unit)
  | none =>
    let endless := (numbers.filter fun number => !number.isFinite).map toFloat
    real (endless.foldl (· + ·) 0.0 / Binary64.ofInt numbers.length)

/-- The smallest of numbers, the first of equal ones; zero if there is none. -/
def smallestOf : List Number → Number
  | [] => zero
  | first :: rest => rest.foldl least first

/-- The largest of numbers, the first of equal ones; zero if there is none. -/
def largestOf : List Number → Number
  | [] => zero
  | first :: rest => rest.foldl greatest first

end Clausal.Number
