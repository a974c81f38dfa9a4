import Clausal.Json.Value
import Clausal.Text.Quoted

/-!
# Misuse of documents

A saved document may hold anything, so it may be used as something that it is not: a text as a number, a
number as a list, an object for a field that it lacks. Each such use is refused for a cause, with the
sentence that reports it.
-/

namespace Clausal.Json

/-- A cause for which the use of a document is refused. -/
inductive Misuse where
  /-- An object lacks a field. -/
  | missingField (name : String)
  /-- An object was asked for what stands at a position. -/
  | positionInObject (position : Nat)
  /-- A list has nothing at a position. -/
  | missingItem
  /-- A text has nothing at a position. -/
  | missingCharacter
  /-- A position is past every list. -/
  | positionTooLarge
  /-- A document of this sort cannot do what was asked of it by name. -/
  | noOperation (shape : Shape) (name : String)
  /-- A document has no length. -/
  | notSized (shape : Shape)
  /-- A document has no parts. -/
  | notIterable (shape : Shape)
  /-- A document has no cells. -/
  | notARow (shape : Shape)
  /-- A document has no positions. -/
  | notIndexed (shape : Shape)
  /-- Two documents cannot be compared. -/
  | notComparable (relation : String) (left right : Shape)
  /-- Two documents have no sum. -/
  | noSum (left right : Shape)
  /-- A document cannot be increased by another one. -/
  | noIncrease (left right : Shape)
  /-- A text cannot be continued by something else. -/
  | notJoined (right : Shape)
  /-- Two documents have no quotient. -/
  | noQuotient (left right : Shape)
  /-- A number is not a whole one and was to be a position. -/
  | notAPosition (shape : Shape)
  /-- A document has no exact value. -/
  | notExact (shape : Shape)
  /-- There are no numbers to take the mean of. -/
  | noMean
  /-- A document cannot be written in a given form. -/
  | unknownForm (code : Char) (shape : Shape)
  /-- A document cannot be written in any form. -/
  | noForm (shape : Shape)
  /-- A quotient is past every double. -/
  | quotientTooLarge
  /-- A whole number is past every double. -/
  | wholeTooLarge
deriving DecidableEq

namespace Misuse

/-- The sentence that reports a misuse. -/
def message : Misuse → String
  | missingField name => Text.quoted name
  | positionInObject position => toString position
  | missingItem => "list index out of range"
  | missingCharacter => "string index out of range"
  | positionTooLarge => "cannot fit 'int' into an index-sized integer"
  | noOperation shape name => s!"'{shape.word}' object has no attribute '{name}'"
  | notSized shape => s!"object of type '{shape.word}' has no len()"
  | notIterable shape => s!"'{shape.word}' object is not iterable"
  | notARow shape => s!"iterable expected, not {shape.word}"
  | notIndexed shape => s!"'{shape.word}' object is not subscriptable"
  | notComparable relation left right =>
    s!"'{relation}' not supported between instances of '{left.word}' and '{right.word}'"
  | noSum left right => s!"unsupported operand type(s) for +: '{left.word}' and '{right.word}'"
  | noIncrease left right =>
    s!"unsupported operand type(s) for +=: '{left.word}' and '{right.word}'"
  | notJoined right => s!"can only concatenate str (not \"{right.word}\") to str"
  | noQuotient left right =>
    s!"unsupported operand type(s) for /: '{left.word}' and '{right.word}'"
  | notAPosition shape => s!"'{shape.word}' object cannot be interpreted as an integer"
  | notExact shape => s!"can't convert type '{shape.word}' to numerator/denominator"
  | noMean => "mean requires at least one data point"
  | unknownForm code shape => s!"Unknown format code '{code}' for object of type '{shape.word}'"
  | noForm shape => s!"unsupported format string passed to {shape.word}.__format__"
  | quotientTooLarge => "integer division result too large for a float"
  | wholeTooLarge => "int too large to convert to float"

end Misuse

end Clausal.Json
