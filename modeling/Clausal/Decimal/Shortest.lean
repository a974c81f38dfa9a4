import Clausal.Binary64

/-!
# Shortest decimals

A double is written with the fewest decimal digits that read back as that double; among decimals of
that length the nearest one is taken, and of two equally near ones the even one. Whether the digits
are written positionally or with an exponent is decided by the place of the first digit.
-/

namespace Clausal.Decimal

/-- The reals that round to a double, in units of 2 to the `exponent`. -/
structure Interval where
  /-- The lower end. -/
  low : Nat
  /-- The double itself. -/
  value : Nat
  /-- The upper end. -/
  high : Nat
  /-- The exponent of the unit. -/
  exponent : Int
  /-- Whether the ends round to the double too. -/
  closed : Bool

namespace Interval

/-- The interval of a positive finite double. Below a power of two the spacing is halved. -/
def ofMantissa (mantissa : Nat) (exponent : Int) : Interval where
  low := if mantissa = Binary64.leadingBit ∧ Binary64.leastExponent < exponent then 4 * mantissa - 1
    else 4 * mantissa - 2
  value := 4 * mantissa
  high := 4 * mantissa + 2
  exponent := exponent - 2
  closed := mantissa % 2 = 0

/-- The decimal `digits` times 10 to the `place` rounds to the double. -/
def contains (interval : Interval) (digits : Nat) (place : Int) : Bool :=
  let scale := fun number : Nat => Binary64.scaleDown number 1 (-interval.exponent)
  let decimal : Nat × Nat :=
    if place ≥ 0 then (digits * Nat.pow 10 place.toNat, 1) else (digits, Nat.pow 10 (-place).toNat)
  let compareWith := fun number : Nat =>
    let (top, bottom) := scale number
    compare (decimal.1 * bottom) (top * decimal.2)
  match compareWith interval.low, compareWith interval.high with
  | .gt, .lt => true
  | .eq, .lt | .gt, .eq => interval.closed
  | _, _ => false

/-- The double divided by 10 to the `place`, as a quotient. -/
def quotient (interval : Interval) (place : Int) : Nat × Nat :=
  let (top, bottom) := Binary64.scaleDown interval.value 1 (-interval.exponent)
  if place ≥ 0 then (top, bottom * Nat.pow 10 place.toNat) else (top * Nat.pow 10 (-place).toNat, bottom)

/-- The decimals of one place that round to the double: of the two nearest, those that do, the nearer
one first. -/
def onGrid? (interval : Interval) (place : Int) : Option Nat :=
  let (top, bottom) := interval.quotient place
  let nearest := roundDiv top bottom
  let below := top / bottom
  let other := if nearest = below then below + 1 else below
  if interval.contains nearest place then some nearest
  else if interval.contains other place then some other
  else none

/-- The first grid, from the given place down, that holds a decimal of the double. -/
def search (interval : Interval) (place : Int) : Nat → Nat × Int
  | 0 => ((interval.onGrid? place).getD 0, place)
  | finer + 1 =>
    match interval.onGrid? place with
    | some digits => (digits, place)
    | none => search interval (place - 1) finer

end Interval

/-- The largest power of ten that is not above a quotient, searched downward from `place`. -/
def leadingPlace (top bottom : Nat) (place : Int) : Nat → Int
  | 0 => place
  | fuel + 1 =>
    let fits := if place ≥ 0 then decide (bottom * Nat.pow 10 place.toNat ≤ top)
      else decide (bottom ≤ top * Nat.pow 10 (-place).toNat)
    if fits then place else leadingPlace top bottom (place - 1) fuel

/-- Digits and place of the shortest decimal of a positive finite double. -/
def shortestDigits (mantissa : Nat) (exponent : Int) : Nat × Int :=
  let interval := Interval.ofMantissa mantissa exponent
  let (top, bottom) := Binary64.scaleDown mantissa 1 (-exponent)
  let estimate := ((mantissa.log2 : Int) + exponent) * 30103 / 100000 + 1
  interval.search (leadingPlace top bottom estimate 4) 17

/-- The digits without final zeros, and the place moved accordingly. -/
def withoutFinalZeros : List Char → Int → List Char × Int
  | reversed, place =>
    (reversed.dropWhile (· == '0'), place + ((reversed.takeWhile (· == '0')).length : Int))

/-- How decimals are written. -/
structure Style where
  /-- The lowest exponent of the first digit that is written positionally. -/
  lowest : Int
  /-- The lowest exponent above that, from which on an exponent is written. -/
  bound : Int
  /-- The least number of digits of an exponent. -/
  exponentWidth : Nat
  /-- The text of what is no number. -/
  undefined : String
  /-- The text of the positive infinity. -/
  infinite : String

/-- The exponent of a decimal, always with a sign. -/
def exponentText (style : Style) (exponent : Int) : String :=
  let digits := toString exponent.natAbs
  "e" ++ (if exponent < 0 then "-" else "+") ++
    String.ofList (List.replicate (style.exponentWidth - digits.length) '0') ++ digits

/-- Digits whose first one stands at the given power of ten, written out. A whole number keeps one
zero after the point. -/
def layout (style : Style) (digits : List Char) (exponent : Int) : String :=
  if style.lowest ≤ exponent ∧ exponent < style.bound then
    if exponent < 0 then
      "0." ++ String.ofList (List.replicate (-exponent - 1).toNat '0' ++ digits)
    else
      let whole := exponent.toNat + 1
      let before := digits.take whole ++ List.replicate (whole - digits.length) '0'
      let after := digits.drop whole
      String.ofList before ++ "." ++ (if after.isEmpty then "0" else String.ofList after)
  else
    let mantissa := match digits with
      | [] => "0"
      | [digit] => String.ofList [digit]
      | digit :: rest => String.ofList (digit :: '.' :: rest)
    mantissa ++ exponentText style exponent

/-- A double in the given style. -/
def shortest (style : Style) (double : Float) : String :=
  match Binary64.decode double with
  | .undefined => style.undefined
  | .infinite negative => (if negative then "-" else "") ++ style.infinite
  | .finite negative mantissa exponent =>
    let sign := if negative then "-" else ""
    if mantissa = 0 then sign ++ "0.0"
    else
      let (digits, place) := shortestDigits mantissa exponent
      let (reversed, lastPlace) := withoutFinalZeros (toString digits).toList.reverse place
      sign ++ layout style reversed.reverse (lastPlace + (reversed.length : Int) - 1)

/-- Plain numbers: positional from 0.0001 to below 10 to the 16. -/
def plain : Style := ⟨-4, 16, 2, "nan", "inf"⟩

/-- Numbers of a saved document: as plain ones, with the document's own words for the rest. -/
def document : Style := { plain with undefined := "NaN", infinite := "Infinity" }

end Clausal.Decimal
