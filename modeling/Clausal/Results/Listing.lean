import Clausal.Results.Table
import Clausal.Text.Real

/-!
# Listings of results

The rows of a table, each with its number and its values as doubles. A row is refused if its number is
none, or if it says in words how many instances failed; the first row that is refused is reported.

The values of a row are brought to one kind if all columns have numbers: where these are of different
kinds, even the names of solvers and folders become doubles.
-/

namespace Clausal.Results

/-- A row of a listing. -/
structure Row where
  /-- The number of the row. -/
  index : Int
  /-- The solver with its strategy. -/
  solver : Scalar
  /-- The folder. -/
  folder : Scalar
  /-- The instances left undecided. -/
  inconclusive : Option Float
  /-- The instances that failed. -/
  failed : Option Float
  /-- The measures in order. -/
  measures : List (Option Float)

/-- The whole number of a double, without its fraction. -/
def wholePart : Float → Except Fault Int := fun double =>
  match Binary64.decode double with
  | .undefined => .error .missingRowNumber
  | .infinite _ => .error .infiniteRowNumber
  | .finite negative mantissa exponent =>
    let (top, bottom) := Binary64.scaleDown mantissa 1 (-exponent)
    let magnitude : Int := (top / bottom : Nat)
    .ok (if negative then -magnitude else magnitude)

/-- The number that names a row. -/
def rowNumber : RowName → Except Fault Int
  | .several => .error .severalRowNames
  | .single .missing => .error .missingRowNumber
  | .single (.real value) => wholePart value
  | .single (.text value) =>
    match Text.wholeParts? value with
    | none => .error (.notARowNumber value)
    | some (negative, digits) =>
      if Text.digitLimit < digits.length then .error (.tooManyDigits digits.length)
      else .ok (Text.signedValue negative digits)
  | .single other => .ok other.toInt

/-- A value as a double; a text is read. -/
def double : Scalar → Except Fault (Option Float)
  | .text value =>
    match Text.realNumber? value with
    | none => .error (.notANumber value)
    | some number => .ok (Scalar.ofFloat number).toFloat?
  | other => .ok other.toFloat?

namespace Table

/-- The columns have numbers of different kinds and nothing else. -/
def mixesNumbers (table : Table) : Bool :=
  let kinds := table.columns.map Column.kind
  kinds.all (fun kind => kind = .signed || kind = .unsigned || kind = .real) &&
    kinds.any fun kind => some kind != kinds.head?

/-- The value of a column in a row. -/
def value (table : Table) (position : Nat) (name : String) : Except Fault Scalar :=
  (table.column name).map fun column =>
    let own := (column.values[position]?).getD .missing
    if table.mixesNumbers then own.toReal else own

/-- The row at a position, under its name. -/
def row (table : Table) (name : RowName) (position : Nat) : Except Fault Row := do
  let index ← rowNumber name
  let solver ← table.value position "solver"
  let folder ← table.value position "folder"
  let inconclusive ← table.value position "inconclusive" >>= double
  let failed ← table.value position "failed" >>= double
  let measures ← Measure.all.mapM fun measure => table.value position measure.column >>= double
  return ⟨index, solver, folder, inconclusive, failed, measures⟩

/-- The rows of a table. -/
def rows (table : Table) : Except Fault (List Row) :=
  table.rowNames.zipIdx.mapM fun (name, position) => table.row name position

end Table

end Clausal.Results
