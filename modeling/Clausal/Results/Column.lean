import Clausal.Number
import Clausal.Results.Numeral

/-!
# Columns

The cells of a column decide together what they hold: whole numbers with a sign, whole numbers without
one, doubles, truth values, or texts, in this order of preference. Some words stand for a missing value in
every column. Numbers with missing ones among them become doubles, as only these can be missing; truth
values with missing ones among them become a mixed column.

Whole numbers that do not fit into 64 bits make the whole column one of texts, even where some of its
cells would make it a column of doubles.
-/

namespace Clausal.Results

/-- A value in a column. -/
inductive Scalar where
  /-- No value. -/
  | missing
  /-- A whole number. -/
  | whole (value : Int)
  /-- A double. -/
  | real (value : Float)
  /-- A truth value. -/
  | flag (value : Bool)
  /-- A text. -/
  | text (value : String)

namespace Scalar

/-- There is no value. -/
def isMissing : Scalar → Bool
  | missing => true
  | _ => false

/-- A double, or no value if it is no number. -/
def ofFloat (value : Float) : Scalar :=
  if value.isNaN then missing else real value

/-- A number or a truth value as a whole number; zero for anything else. -/
def toInt : Scalar → Int
  | whole value => value
  | flag value => if value then 1 else 0
  | _ => 0

/-- A number or a truth value as a double. -/
def toFloat? : Scalar → Option Float
  | real value => some value
  | whole value => some (Binary64.ofInt value)
  | flag value => some (if value then 1.0 else 0.0)
  | missing | text _ => none

/-- A number or a truth value as a double; any other value as it is. -/
def toReal (value : Scalar) : Scalar :=
  match value.toFloat? with
  | some double => real double
  | none => value

/-- The value as it stands in names. -/
def shown : Scalar → String
  | missing => "nan"
  | whole value => toString value
  | real value => Decimal.shortest Decimal.plain value
  | flag value => if value then "True" else "False"
  | text value => value

/-- The values are the same; a missing value is the same as another one. -/
def same : Scalar → Scalar → Bool
  | missing, missing => true
  | whole left, whole right => left == right
  | real left, real right => left == right
  | flag left, flag right => left == right
  | text left, text right => left == right
  | _, _ => false

/-- The first value lies below the second; values of different sorts are not compared. -/
def isBelow : Scalar → Scalar → Bool
  | whole left, whole right => decide (left < right)
  | real left, real right => decide (left < right)
  | flag left, flag right => !left && right
  | text left, text right => decide (left < right)
  | _, _ => false

end Scalar

/-- What the values of a column are. -/
inductive Kind where
  /-- Whole numbers of 64 bits with a sign. -/
  | signed
  /-- Whole numbers of 64 bits without a sign. -/
  | unsigned
  /-- Doubles, and missing values. -/
  | real
  /-- Truth values. -/
  | flag
  /-- Texts and missing values, or truth values and missing values. -/
  | mixed
deriving DecidableEq

/-- Values of one kind. -/
structure Column where
  /-- What the values are. -/
  kind : Kind
  /-- The values. -/
  values : List Scalar

/-- The cells that stand for a missing value. -/
def missingCells : List String := [
  "", "#N/A", "#N/A N/A", "#NA", "-1.#IND", "-1.#QNAN", "-NaN", "-nan", "1.#IND", "1.#QNAN", "<NA>",
  "N/A", "NA", "NULL", "NaN", "None", "n/a", "nan", "null"
]

/-- The cell stands for a missing value. -/
def isMissingCell (cell : String) : Bool :=
  missingCells.contains cell

namespace Column

/-- Cells as texts. -/
def texts (cells : List String) : Column :=
  ⟨.mixed, cells.map fun cell => if isMissingCell cell then .missing else .text cell⟩

/-- The cells as truth values, written in small or capital letters. -/
def flags? (cells : List String) : Option Column := do
  let values ← cells.mapM fun cell =>
    if isMissingCell cell then some .missing
    else if cell.toLower = "true" then some (.flag true)
    else if cell.toLower = "false" then some (.flag false)
    else none
  return ⟨if values.any Scalar.isMissing then .mixed else .flag, values⟩

/-- The cells as doubles. -/
def reals? (cells : List String) : Option Column := do
  let values ← cells.mapM fun cell =>
    if isMissingCell cell then some .missing
    else (numeral? cell).map fun number => .real number.value
  return ⟨.real, values⟩

/-- The cells as doubles, else as truth values, else as texts. -/
def otherThanWhole (cells : List String) : Column :=
  (reals? cells).getD ((flags? cells).getD (texts cells))

/-- A whole number in a column that has missing values. The least one is lost. -/
def widened : Scalar → Scalar
  | .whole value =>
    let double := Binary64.ofInt value
    if double == Binary64.ofInt leastSigned then .missing else .real double
  | other => other

/-- Whole numbers with a sign, with missing values among them or not. -/
def ofSigned (values : List Scalar) : Column :=
  if values.any Scalar.isMissing then ⟨.real, values.map widened⟩ else ⟨.signed, values⟩

/-- What a cell is among whole numbers without a sign. -/
inductive Unsigned where
  /-- A missing value. -/
  | missing
  /-- A cell that starts with a minus sign. -/
  | negative
  /-- A number. -/
  | value (number : Int)

/-- Reads a cell among whole numbers without a sign. -/
def Unsigned.ofCell (cell : String) : Except Refusal Unsigned :=
  if isMissingCell cell then .ok .missing
  else (unsignedWhole? cell).map fun found => match found with
    | none => .negative
    | some number => .value number

/-- A column of which some whole number has no room in 64 bits with a sign. Numbers without a sign stand
neither beside negative ones nor beside missing values; in the latter case the words for missing values
stay texts. -/
def ofLarge (cells : List String) : Column :=
  match cells.mapM Unsigned.ofCell with
  | .error .tooLarge => texts cells
  | .error .otherwise => otherThanWhole cells
  | .ok read =>
    let large := read.any fun cell => match cell with
      | .value number => decide (greatestSigned < number)
      | _ => false
    let negative := read.any fun cell => match cell with
      | .negative => true
      | _ => false
    let missing := read.any fun cell => match cell with
      | .missing => true
      | _ => false
    if large && (negative || missing) then ⟨.mixed, cells.map Scalar.text⟩
    else if negative then texts cells
    else ⟨.unsigned, read.map fun cell => match cell with
      | .value number => .whole number
      | _ => .whole 0⟩

/-- The column of given cells. -/
def ofCells (cells : List String) : Column :=
  if cells.isEmpty then ⟨.mixed, []⟩
  else
    match cells.mapM fun cell =>
      if isMissingCell cell then .ok .missing else (signedWhole cell).map Scalar.whole with
    | .ok values => ofSigned values
    | .error .tooLarge => ofLarge cells
    | .error .otherwise => otherThanWhole cells

/-- The values at the marked places. -/
def keep (marks : List Bool) (column : Column) : Column :=
  { column with values := (column.values.zip marks).filterMap fun (value, mark) =>
      if mark then some value else none }

/-! ## Numbers for the values of a mixed column -/

/-- A value of a mixed column as a number. -/
inductive Read where
  /-- A double; what is no number is missing. -/
  | real (value : Scalar)
  /-- A whole number of 64 bits, with the double that its digits give. -/
  | whole (number : Int) (double : Float)
  /-- A truth value. -/
  | flag (value : Bool)

/-- Reads a text as a number. A whole number past 64 bits is a double. -/
def Read.ofText (text : String) : Read :=
  match numeral? text with
  | none => .real .missing
  | some number =>
    if number.isWhole then
      match signedWhole text, unsignedWhole? text with
      | .ok value, _ => .whole value number.value
      | _, .ok (some value) => .whole value number.value
      | _, _ => .real (.real number.value)
    else .real (.real number.value)

/-- Reads a value of a mixed column as a number. -/
def Read.ofScalar : Scalar → Read
  | .text value => .ofText value
  | .flag value => .flag value
  | .whole value => .whole value (Binary64.ofInt value)
  | .real value => .real (.real value)
  | .missing => .real .missing

/-- The value as a double. -/
def Read.toReal : Read → Scalar
  | real value => value
  | whole _ double => .real double
  | flag value => .real (if value then 1.0 else 0.0)

/-- The value as it is. -/
def Read.exact : Read → Scalar
  | real value => value
  | whole number _ => .whole number
  | flag value => .flag value

/-- A column of what was read: doubles if one of them is a double, or if no kind of whole numbers has
room for all. -/
def ofRead (read : List Read) : Column :=
  let isReal := read.any fun value => match value with
    | .real _ => true
    | _ => false
  let large := read.any fun value => match value with
    | .whole number _ => decide (greatestSigned < number)
    | _ => false
  let negative := read.any fun value => match value with
    | .whole number _ => decide (number < 0)
    | _ => false
  let isFlag := read.any fun value => match value with
    | .flag _ => true
    | _ => false
  if isReal || (large && negative) then ⟨.real, read.map Read.toReal⟩
  else ⟨if isFlag then .flag else if large then .unsigned else .signed, read.map Read.exact⟩

/-- The column as numbers or truth values; what is no number is missing. -/
def numbers (column : Column) : Column :=
  match column.kind with
  | .mixed => ofRead (column.values.map Read.ofScalar)
  | _ => column

/-! ## Differences -/

/-- The number of values of 64 bits. -/
def wordCount : Nat := 18446744073709551616

/-- The kind of a difference. Truth values have none. -/
def differenceKind? : Kind → Kind → Option Kind
  | .flag, .flag => none
  | .signed, .signed | .signed, .flag | .flag, .signed => some .signed
  | .unsigned, .unsigned | .unsigned, .flag | .flag, .unsigned => some .unsigned
  | _, _ => some .real

/-- The difference of two values. Whole numbers wrap around at 64 bits. -/
def difference (kind : Kind) (left right : Scalar) : Scalar :=
  match kind with
  | .signed => .whole (Int.bmod (left.toInt - right.toInt) wordCount)
  | .unsigned => .whole ((left.toInt - right.toInt) % wordCount)
  | _ =>
    match left.toFloat?, right.toFloat? with
    | some first, some second => .ofFloat (first - second)
    | _, _ => .missing

/-- The differences of two columns, value by value. -/
def minus? (left right : Column) : Option Column :=
  (differenceKind? left.kind right.kind).map fun kind =>
    ⟨kind, List.zipWith (difference kind) left.values right.values⟩

end Column

end Clausal.Results
