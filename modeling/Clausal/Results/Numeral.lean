import Clausal.Decimal.Reading

/-!
# Numbers in tables

A number in a cell of a table has decimal digits with a point among them or not, a sign in front, an
exponent behind, and blanks around it. Its first seventeen digits are gathered as a double and multiplied
or divided once by a power of ten; digits after those only count as places. A number past the doubles is
none, and one far below them is zero without a sign.

A whole number can also be read exactly, as a number of 64 bits with or without a sign. Its digits are
judged before what follows them, so a number with a fraction may be found too large.
-/

namespace Clausal.Results

/-- The number of digits that count. -/
def significantDigits : Nat := 17

/-- The exponent of the largest power of ten among the doubles. -/
def greatestPower : Nat := 308

/-- The character may stand around a number. -/
def isSpace (character : Char) : Bool :=
  character = ' ' || (9 ≤ character.toNat && character.toNat ≤ 13)

/-- A sign in front of characters, and what follows it. -/
def splitSign : List Char → Bool × List Char
  | '-' :: rest => (true, rest)
  | '+' :: rest => (false, rest)
  | rest => (false, rest)

/-! ## Doubles -/

/-- A number in a cell. -/
structure Numeral where
  /-- Its value. -/
  value : Float
  /-- Whether it is written with digits alone, as a whole number is. -/
  isWhole : Bool

/-- Digits as a double, gathered one by one. -/
def gather (digits : List Char) : Float :=
  digits.foldl (fun value digit => value * 10.0 + Binary64.ofInt (digit.toNat - 48)) 0.0

/-- A power of ten as a double. -/
def power (exponent : Nat) : Float :=
  Binary64.ofDecimal false 1 exponent

/-- A double moved by decimal places; nothing if it leaves the doubles. -/
def shift? (value : Float) (exponent : Int) : Option Float :=
  let moved :=
    if exponent > greatestPower then Float.ofBits 0x7ff0000000000000
    else if exponent > 0 then value * power exponent.toNat
    else if exponent < -(2 * greatestPower : Int) then 0.0
    else if exponent < -(greatestPower : Int) then
      value / power (-exponent - greatestPower).toNat / power greatestPower
    else value / power (-exponent).toNat
  if moved.isInf then none else some moved

/-- A whole number kept in 32 bits. -/
def in32Bits (number : Int) : Int :=
  Int.bmod number 4294967296

/-- The exponent behind a number, kept in 32 bits, and what follows it; nothing if it lacks digits. No
more digits are read than count in a number. -/
def exponent? : List Char → Option (Int × List Char)
  | mark :: rest =>
    if mark = 'e' || mark = 'E' then
      let (negative, rest) := splitSign rest
      let digits := (rest.takeWhile Char.isDigit).take significantDigits
      if digits.isEmpty then none
      else
        let magnitude : Int := Decimal.digitsValue digits
        some (in32Bits (if negative then -magnitude else magnitude), rest.drop digits.length)
    else some (0, mark :: rest)
  | [] => some (0, [])

/-- The number of characters without blanks in front and without a sign. -/
def unsigned? (negative : Bool) (given : List Char) : Option Numeral :=
  let whole := given.takeWhile Char.isDigit
  let afterWhole := given.drop whole.length
  let (fraction, rest) : List Char × List Char := match afterWhole with
    | '.' :: others => (others.takeWhile Char.isDigit, others.dropWhile Char.isDigit)
    | others => ([], others)
  if whole.isEmpty && fraction.isEmpty then none
  else
    let counted := whole.take significantDigits
    let places := fraction.take (significantDigits - counted.length)
    let gathered := gather (counted ++ places)
    match exponent? rest with
    | none => none
    | some (exponent, tail) =>
      if tail.all isSpace then
        (shift? (if negative then -gathered else gathered)
          (in32Bits (exponent + (whole.length - counted.length : Nat) - places.length))).map
            fun value => ⟨value, afterWhole.all isSpace⟩
      else none

/-- The words for the infinities, in small letters. -/
def infinities : List (String × Float) := [
  ("inf", Float.ofBits 0x7ff0000000000000), ("+inf", Float.ofBits 0x7ff0000000000000),
  ("infinity", Float.ofBits 0x7ff0000000000000), ("+infinity", Float.ofBits 0x7ff0000000000000),
  ("-inf", Float.ofBits 0xfff0000000000000), ("-infinity", Float.ofBits 0xfff0000000000000)
]

/-- The number that a cell holds. -/
def numeral? (cell : String) : Option Numeral :=
  let (negative, rest) := splitSign (cell.toList.dropWhile isSpace)
  (unsigned? negative rest).or ((infinities.find? (·.1 == cell.toLower)).map fun word =>
    ⟨word.2, false⟩)

/-! ## Whole numbers -/

/-- The smallest number of 64 bits with a sign. -/
def leastSigned : Int := -9223372036854775808

/-- The largest number of 64 bits with a sign. -/
def greatestSigned : Int := 9223372036854775807

/-- The largest number of 64 bits without a sign. -/
def greatestUnsigned : Int := 18446744073709551615

/-- Why a cell is not a whole number of 64 bits. -/
inductive Refusal where
  /-- Its digits make a number of more bits. -/
  | tooLarge
  /-- It is no whole number. -/
  | otherwise
deriving DecidableEq

/-- The whole number of a sign and the characters behind it, if it keeps between two bounds. -/
def bounded (least greatest : Int) (negative : Bool) (given : List Char) : Except Refusal Int :=
  let digits := given.takeWhile Char.isDigit
  if digits.isEmpty then .error .otherwise
  else
    let magnitude : Int := Decimal.digitsValue digits
    let number := if negative then -magnitude else magnitude
    if number < least ∨ greatest < number then .error .tooLarge
    else if (given.drop digits.length).all isSpace then .ok number
    else .error .otherwise

/-- The whole number with a sign that a cell holds. -/
def signedWhole (cell : String) : Except Refusal Int :=
  let (negative, rest) := splitSign (cell.toList.dropWhile isSpace)
  bounded leastSigned greatestSigned negative rest

/-- The whole number without a sign that a cell holds; nothing for a cell that starts with a minus
sign, whatever follows it. -/
def unsignedWhole? (cell : String) : Except Refusal (Option Int) :=
  match splitSign (cell.toList.dropWhile isSpace) with
  | (true, _) => .ok none
  | (false, rest) => (bounded 0 greatestUnsigned false rest).map some

end Clausal.Results
