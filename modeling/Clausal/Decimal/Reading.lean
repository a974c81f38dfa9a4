import Clausal.Binary64

/-!
# Reading decimals

Decimal digits with an exponent as the nearest double. The digits are ASCII ones; who accepts other
digits turns them into these first.
-/

namespace Clausal.Decimal

/-- The number of a list of decimal digits. -/
def digitsValue (digits : List Char) : Nat :=
  digits.foldl (fun value digit => value * 10 + (digit.toNat - '0'.toNat)) 0

/-- The digits of an exponent with its sign, and what follows; an exponent without digits is none. -/
def exponentPart (given : List Char) : Option (Int × List Char) :=
  match given with
  | mark :: rest =>
    if mark = 'e' ∨ mark = 'E' then
      let (negative, body) := match rest with
        | '-' :: body => (true, body)
        | '+' :: body => (false, body)
        | body => (false, body)
      let digits := body.takeWhile Char.isDigit
      if digits.isEmpty then none
      else
        let value : Int := digitsValue digits
        some (if negative then -value else value, body.dropWhile Char.isDigit)
    else none
  | [] => none

/-- An infinity. -/
def infinity (negative : Bool) : Float :=
  Binary64.ofMagnitude negative Binary64.infiniteMagnitude

/-- A double by its digits and exponent. Exponents beyond every double are cut, which changes no
value. -/
def doubleOf (negative : Bool) (digits : List Char) (exponent : Int) : Float :=
  let mantissa := digitsValue digits
  let size : Int := digits.length
  if exponent > 400 then
    if mantissa = 0 then Binary64.ofRatio negative 0 1 else infinity negative
  else if exponent + size < -400 then Binary64.ofRatio negative 0 1
  else Binary64.ofDecimal negative mantissa exponent

end Clausal.Decimal
