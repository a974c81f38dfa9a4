import Clausal.Text.Blank
import Clausal.Text.Digit

/-!
# Whole numbers in writing

A whole number is written with decimal digits of any script, a sign in front if need be, single
underscores between digits, and blanks around it. The separators of the control range are not taken
for blanks here.
-/

namespace Clausal.Text

/-- The character may stand around a number. -/
def isMargin (character : Char) : Bool :=
  isBlank character && !(0x1c ≤ character.toNat && character.toNat ≤ 0x1f)

/-- The list without margins. -/
def trimMargins (characters : List Char) : List Char :=
  ((characters.dropWhile isMargin).reverse.dropWhile isMargin).reverse

/-- The digits of a number, without the underscores between them. -/
def groupedDigits? : List Char → Option (List Char)
  | [] => none
  | [digit] => if isDecimalDigit digit then some [digit] else none
  | digit :: '_' :: rest =>
    if isDecimalDigit digit then (groupedDigits? rest).map (digit :: ·) else none
  | digit :: rest =>
    if isDecimalDigit digit then (groupedDigits? rest).map (digit :: ·) else none

/-- Whether a number is negative, and what follows its sign. -/
def takeSign : List Char → Bool × List Char
  | '-' :: rest => (true, rest)
  | '+' :: rest => (false, rest)
  | rest => (false, rest)

/-- Whether the whole number that a text writes is negative, and its digits. -/
def wholeParts? (text : String) : Option (Bool × List Char) :=
  let (negative, rest) := takeSign (trimMargins text.toList)
  (groupedDigits? rest).map fun digits => (negative, digits)

/-- The whole number of a sign and digits. -/
def signedValue (negative : Bool) (digits : List Char) : Int :=
  let magnitude := decimalValue digits
  if negative then -magnitude else magnitude

/-- The whole number that a text writes. A number with too many digits is refused. -/
def wholeNumber? (text : String) : Option Int := do
  let (negative, digits) ← wholeParts? text
  if digitLimit < digits.length then none else some (signedValue negative digits)

end Clausal.Text
