import Clausal.Binary64

/-!
# Decimals with a fixed number of places

The exact value of a double is rounded once to the given number of places after the point, a half to
the even neighbour. A negative value keeps its sign even when it rounds to zero.
-/

namespace Clausal.Decimal

/-- The digits of a number with zeros put in front up to the given width. -/
def padded (width number : Nat) : String :=
  let digits := toString number
  String.ofList (List.replicate (width - digits.length) '0') ++ digits

/-- A whole number of units of the last place as a decimal. -/
def ofUnits (places units : Nat) : String :=
  if places = 0 then toString units
  else toString (units / Nat.pow 10 places) ++ "." ++ padded places (units % Nat.pow 10 places)

/-- A double with a fixed number of places. -/
def fixed (places : Nat) (double : Float) : String :=
  match Binary64.decode double with
  | .undefined => "nan"
  | .infinite negative => if negative then "-inf" else "inf"
  | .finite negative mantissa exponent =>
    let (top, bottom) := Binary64.scaleDown (mantissa * Nat.pow 10 places) 1 (-exponent)
    (if negative then "-" else "") ++ ofUnits places (roundDiv top bottom)

end Clausal.Decimal
