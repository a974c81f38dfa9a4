import Clausal.Decimal.Reading
import Clausal.Text.Whole

/-!
# Doubles in writing

A double is written with decimal digits of any script, a point among them if need be, an exponent
behind them, a sign in front, single underscores between digits, and blanks around it all. The words
for the infinities and for what is no number are accepted in small and capital letters. The decimal is
rounded once, to the nearest double.
-/

namespace Clausal.Text

/-- A decimal digit of any script as an ASCII one; other characters stay. -/
def asciiDigit (character : Char) : Char :=
  match digitValue? character with
  | some value => Char.ofNat ('0'.toNat + value)
  | none => character

/-- The characters without underscores; nothing if an underscore is not between two digits. The
character before is given. -/
def ungroup? (before : Char) : List Char → Option (List Char)
  | [] => if before = '_' then none else some []
  | character :: rest =>
    if character = '_' then
      if before.isDigit then ungroup? character rest else none
    else if before = '_' && !character.isDigit then none
    else (ungroup? character rest).map (character :: ·)

/-- The double of characters without sign, blanks and underscores. -/
def unsignedReal? (negative : Bool) (given : List Char) : Option Float :=
  let word := String.ofList (given.map Char.toLower)
  if word = "inf" ∨ word = "infinity" then some (Decimal.infinity negative)
  else if word = "nan" then some (0.0 / 0.0)
  else
    let whole := given.takeWhile Char.isDigit
    let (fraction, rest) : List Char × List Char := match given.drop whole.length with
      | '.' :: others => (others.takeWhile Char.isDigit, others.dropWhile Char.isDigit)
      | others => ([], others)
    let digits := whole ++ fraction
    if digits.isEmpty then none
    else match rest, Decimal.exponentPart rest with
      | [], _ => some (Decimal.doubleOf negative digits (-fraction.length))
      | _, some (exponent, []) =>
        some (Decimal.doubleOf negative digits (exponent - fraction.length))
      | _, _ => none

/-- The double that a text writes. -/
def realNumber? (text : String) : Option Float := do
  let given ← ungroup? ' ' ((trimMargins text.toList).map asciiDigit)
  let (negative, rest) := takeSign given
  unsignedReal? negative rest

end Clausal.Text
