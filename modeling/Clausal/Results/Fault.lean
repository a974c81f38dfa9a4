import Clausal.Csv.Reader
import Clausal.Files
import Clausal.Text.Digit
import Clausal.Text.Quoted

/-!
# Faults of tables of results

Every way in which reading, listing or drawing a table of results can be refused, with the sentence that
reports it.
-/

namespace Clausal.Results

/-- A cause of refusal. -/
inductive Fault where
  /-- The text cannot be cut into rows. -/
  | rows (fault : Csv.Fault)
  /-- The text has no rows at all. -/
  | noColumns
  /-- The directory of the images cannot be made. -/
  | file (fault : FileFault)
  /-- A column is missing. -/
  | missingColumn (name : String)
  /-- A text was to be compared with a limit, which is a whole number or a double. -/
  | textAgainstLimit (isWhole : Bool)
  /-- A text was to be a double. -/
  | notANumber (text : String)
  /-- A text was to be the number of a row. -/
  | notARowNumber (text : String)
  /-- The number of a row has too many digits. -/
  | tooManyDigits (digits : Nat)
  /-- The number of a row is missing. -/
  | missingRowNumber
  /-- The number of a row is infinite. -/
  | infiniteRowNumber
  /-- A row has several names. -/
  | severalRowNames
  /-- Truth values were to be subtracted. -/
  | flagDifference
deriving DecidableEq

namespace Fault

/-- The sentence that reports a fault. -/
def message : Fault → String
  | rows fault => fault.message
  | file fault => fault.message
  | noColumns => "No columns to parse from file"
  | missingColumn name => Text.quoted name
  | textAgainstLimit isWhole =>
    let sort := if isWhole then "int" else "float"
    s!"'<=' not supported between instances of 'str' and '{sort}'"
  | notANumber text => "could not convert string to float: " ++ Text.quoted text
  | notARowNumber text =>
    let shown := String.ofList ((Text.quoted text).toList.take 200)
    s!"invalid literal for int() with base 10: {shown}"
  | tooManyDigits digits => Text.digitsMessage digits
  | missingRowNumber => "cannot convert float NaN to integer"
  | infiniteRowNumber => "cannot convert float infinity to integer"
  | severalRowNames =>
    "int() argument must be a string, a bytes-like object or a real number, not 'tuple'"
  | flagDifference =>
    "numpy boolean subtract, the `-` operator, is not supported, use the bitwise_xor, the `^` " ++
      "operator, or the logical_xor function instead."

end Fault

end Clausal.Results
