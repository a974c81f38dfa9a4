import Clausal.Decimal.Fixed
import Clausal.Decimal.Shortest

/-!
# Numbers as they were written

A duration or a clock reading is a whole number or a double, depending on how it was written. Whole
numbers are exact and of any size; as soon as a double takes part in a sum or a difference the result
is a double. Comparisons are exact in every case.
-/

namespace Clausal

/-- A whole number or a double. -/
inductive Number where
  /-- A whole number. -/
  | whole (value : Int)
  /-- A double. -/
  | real (value : Float)

namespace Number

/-- The whole number zero. -/
def zero : Number := whole 0

/-- The nearest double. -/
def toFloat : Number → Float
  | whole value => Binary64.ofInt value
  | real value => value

/-- The number is a whole one past every double. -/
def isTooLarge : Number → Bool
  | whole value => (Binary64.ofInt value).isInf
  | real _ => false

/-- The sum, unless one of the two is a double and the other one is past every double. -/
def add? : Number → Number → Option Number
  | whole left, whole right => some (whole (left + right))
  | left, right =>
    if left.isTooLarge || right.isTooLarge then none
    else some (real (left.toFloat + right.toFloat))

/-- The sum with a whole number that is a double itself. -/
def plus (more : Int) : Number → Number
  | whole value => whole (value + more)
  | real value => real (value + Binary64.ofInt more)

/-- The difference. -/
def sub : Number → Number → Number
  | whole left, whole right => whole (left - right)
  | left, right => real (left.toFloat - right.toFloat)

/-- The multiple by a count. -/
def scale (count : Nat) : Number → Number
  | whole value => whole (count * value)
  | real value => real (Binary64.ofInt count * value)

/-- The first number is at least the second. -/
def atLeast : Number → Number → Bool
  | whole left, whole right => decide (right ≤ left)
  | real left, real right => decide (right ≤ left)
  | whole left, real right => (Binary64.compareInt? left right).any (·.isGE)
  | real left, whole right => (Binary64.compareInt? right left).any (·.isLE)

/-- The first number is below the second. -/
def isBelow (left right : Number) : Bool :=
  right.atLeast left && !left.atLeast right

/-- The number is finite, as every whole one is. -/
def isFinite : Number → Bool
  | whole _ => true
  | real value => value.isFinite

/-- The text of a number: all digits of a whole one, the shortest decimal of a double. -/
def text : Number → String
  | whole value => toString value
  | real value => Decimal.shortest Decimal.plain value

/-- The smaller number; the first of two equal ones. -/
def least (left right : Number) : Number :=
  if right.isBelow left then right else left

/-- The larger number; the first of two equal ones. -/
def greatest (left right : Number) : Number :=
  if left.isBelow right then right else left

end Number

end Clausal
