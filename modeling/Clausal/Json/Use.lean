import Clausal.Json.Misuse
import Clausal.Mean
import Clausal.Text.Padded

/-!
# Use of documents

What can be done with a document that was taken over from elsewhere: it is counted, added up, compared,
averaged, taken apart or written in a column, or the use is refused. A truth value serves as a number
everywhere.
-/

namespace Clausal.Json

/-! ## Parts -/

/-- The number of parts. -/
def size : Json → Except Misuse Nat
  | string value => .ok value.length
  | array items => .ok items.length
  | object fields => .ok fields.length
  | document => .error (.notSized document.shape)

/-- The parts of a document that has some: items, characters, or the names of fields. -/
def parts? : Json → Option (List Json)
  | string value => some (value.toList.map fun character => string (String.ofList [character]))
  | array items => some items
  | object fields => some (fields.map fun (name, _) => string name)
  | _ => none

/-- The parts of a document. -/
def parts (document : Json) : Except Misuse (List Json) :=
  match document.parts? with
  | some found => .ok found
  | none => .error (.notIterable document.shape)

/-- The cells of a document that serves as a row. -/
def cells (document : Json) : Except Misuse (List Json) :=
  match document.parts? with
  | some found => .ok found
  | none => .error (.notARow document.shape)

/-- What stands at a position. -/
def item (document : Json) (position : Nat) : Except Misuse Json :=
  match document with
  | string value =>
    match value.toList[position]? with
    | some character => .ok (string (String.ofList [character]))
    | none => .error .missingCharacter
  | array items =>
    match items[position]? with
    | some found => .ok found
    | none => .error .missingItem
  | object _ => .error (.positionInObject position)
  | other => .error (.notIndexed other.shape)

/-- A list with one more item. -/
def appended (last : Json) : Json → Except Misuse Json
  | array items => .ok (array (items ++ [last]))
  | document => .error (.noOperation document.shape "append")

/-! ## Numbers -/

/-- A number plus a document. -/
def plus (left : Number) (right : Json) : Except Misuse Number :=
  match right.number? with
  | none => .error (.noSum (number left).shape right.shape)
  | some amount =>
    match left.add? amount with
    | some sum => .ok sum
    | none => .error .wholeTooLarge

/-- A document increased by a whole number. -/
def increased (amount : Int) (document : Json) : Except Misuse Json :=
  match document.number? with
  | some held =>
    match held.add? (.whole amount) with
    | some sum => .ok (number sum)
    | none => .error .wholeTooLarge
  | none =>
    match document with
    | string _ => .error (.notJoined .whole)
    | array _ => .error (.notIterable .whole)
    | other => .error (.noIncrease other.shape .whole)

/-- The document is a number equal to the given one. -/
def equals (value : Number) (document : Json) : Bool :=
  document.number?.any fun held => held.atLeast value && value.atLeast held

/-- The document is a number that is at least the given one. -/
def reaches (limit : Int) (document : Json) : Except Misuse Bool :=
  match document.number? with
  | some held => .ok (held.atLeast (.whole limit))
  | none => .error (.notComparable ">=" document.shape .whole)

/-- The smaller one of a document and a number; the document if they are equal. -/
def orLess (value : Number) (document : Json) : Except Misuse Json :=
  match document.number? with
  | some held => .ok (if value.isBelow held then number value else document)
  | none => .error (.notComparable "<" (number value).shape document.shape)

/-- The larger one of a document and a number; the document if they are equal. -/
def orMore (value : Number) (document : Json) : Except Misuse Json :=
  match document.number? with
  | some held => .ok (if held.isBelow value then number value else document)
  | none => .error (.notComparable ">" (number value).shape document.shape)

/-- The exact number that a document is. -/
def exact (document : Json) : Except Misuse Number :=
  match document.number? with
  | some value => .ok value
  | none => .error (.notExact document.shape)

/-- The numbers that are the parts of a document. -/
def numbers (document : Json) : Except Misuse (List Number) := do
  (← document.parts).mapM exact

/-- The mean of the parts of a document. -/
def mean (document : Json) : Except Misuse Number := do
  let values ← document.numbers
  if values.isEmpty then .error .noMean
  else
    let found := Number.mean values
    if values.all Number.isFinite && !found.isFinite then .error .quotientTooLarge else .ok found

/-- A document divided by a count that is not zero. -/
def dividedBy (count : Nat) (document : Json) : Except Misuse Float :=
  match document.number? with
  | some (.whole value) =>
    let quotient := Binary64.ofQuotient value count
    if quotient.isInf then .error .quotientTooLarge else .ok quotient
  | some (.real value) => .ok (value / Binary64.ofInt count)
  | none => .error (.noQuotient document.shape .whole)

/-! ## Forms -/

/-- A number with a fixed number of places. -/
def fixedNumber (places : Nat) (value : Number) : Except Misuse String :=
  if value.isTooLarge then .error .wholeTooLarge else .ok (Decimal.fixed places value.toFloat)

/-- A document with a fixed number of places. -/
def fixed (places : Nat) (document : Json) : Except Misuse String :=
  match document.number? with
  | some value => fixedNumber places value
  | none =>
    match document with
    | string _ => .error (.unknownForm 'f' .text)
    | other => .error (.noForm other.shape)

/-- A document at the right of a column. -/
def column (width : Nat) (document : Json) : Except Misuse String :=
  match document.number?, document with
  | some value, _ => .ok (Text.padLeft width value.text)
  | none, string value => .ok (Text.padLeft width value)
  | none, other => .error (.noForm other.shape)

/-- A whole number at the right of a column. -/
def countColumn (width : Nat) (document : Json) : Except Misuse String :=
  match document.number?, document with
  | some (.whole value), _ => .ok (Text.padLeft width (toString value))
  | some (.real _), _ => .error (.unknownForm 'd' .real)
  | none, string _ => .error (.unknownForm 'd' .text)
  | none, other => .error (.noForm other.shape)

end Clausal.Json
