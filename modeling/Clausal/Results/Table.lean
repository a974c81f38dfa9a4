import Clausal.Named
import Clausal.Results.Column
import Clausal.Results.Fault

/-!
# Tables of results

A table of results read back: one row for a solver and a folder, with its measures as numbers. Measures
that are empty or not numbers are missing. Rows that do not say how many instances were left undecided,
or say that too many were, are dropped.

The first row of a text names the columns. Where the other rows have more cells than it, the first cells
of each are not in a column but name their row; otherwise rows are named by their numbers from zero.
-/

namespace Clausal.Results

/-- The measures of a row. -/
inductive Measure where
  /-- The mean time. -/
  | averageTime
  /-- The least time. -/
  | leastTime
  /-- The greatest time. -/
  | greatestTime
  /-- The mean memory. -/
  | averageMemory
  /-- The least memory. -/
  | leastMemory
  /-- The greatest memory. -/
  | greatestMemory
  /-- The mean number of decisions. -/
  | decisions
  /-- The mean number of conflicts. -/
  | conflicts
deriving DecidableEq

namespace Measure

/-- The column of a measure. -/
def column : Measure → String
  | averageTime => "avg_time"
  | leastTime => "min_time"
  | greatestTime => "max_time"
  | averageMemory => "avg_mem"
  | leastMemory => "min_mem"
  | greatestMemory => "max_mem"
  | decisions => "decisions"
  | conflicts => "conflicts"

/-- Every measure, in the order in which their columns are asked for. -/
def all : List Measure :=
  [averageTime, leastTime, greatestTime, averageMemory, leastMemory, greatestMemory, decisions,
    conflicts]

end Measure

/-! ## Names of columns -/

/-- The first of the names `base.count`, `base.count+1` and so on that is not taken, and its number. A
list of names takes no more numbers than it has members. -/
def numberedName (taken : List String) (base : String) (count : Nat) : String × Nat :=
  let number := ((List.range (taken.length + 1)).find? fun further =>
    !taken.contains s!"{base}.{count + further}").getD 0 + count
  (s!"{base}.{number}", number)

/-- Names under way to be different from each other. -/
structure Naming where
  /-- The names, some of them given a number by now. -/
  names : List String
  /-- How often each name has been met, or the next number to be tried for it. -/
  counts : List (String × Nat)

/-- The names with the one at a position settled. -/
def Naming.settle (naming : Naming) (position : Nat) : Naming :=
  let name := (naming.names[position]?).getD ""
  match (Named.lookup name naming.counts).getD 0 with
  | 0 => { naming with counts := Named.update name 1 naming.counts }
  | count =>
    let (chosen, number) := numberedName naming.names name count
    { names := naming.names.set position chosen
      counts := Named.update chosen 1 (Named.update name (number + 1) naming.counts) }

/-- The names of columns. A column without a name is named by its position; of equal names all but one
are given a number, the columns without a name last. -/
def columnNames (header : List String) : List String :=
  let named := header.zipIdx.map fun (name, position) =>
    if name.isEmpty then s!"Unnamed: {position}" else name
  let positions := header.zipIdx
  let given := positions.filterMap fun (name, position) =>
    if name.isEmpty then none else some position
  let open_ := positions.filterMap fun (name, position) =>
    if name.isEmpty then some position else none
  ((given ++ open_).foldl Naming.settle ⟨named, []⟩).names

/-! ## Tables -/

/-- What names a row. -/
inductive RowName where
  /-- One value. -/
  | single (value : Scalar)
  /-- Several values. -/
  | several

/-- A table. -/
structure Table where
  /-- The names of the columns. -/
  names : List String
  /-- The names of the rows. -/
  rowNames : List RowName
  /-- The columns. -/
  columns : List Column

namespace Table

/-- The names of rows of which the first cells are no part of a column. -/
def namesOfRows (leading : Nat) (rows : List (List String)) : List RowName :=
  match leading with
  | 0 => (List.range rows.length).map fun position : Nat => .single (.whole position)
  | 1 => (Column.ofCells (rows.map fun row => row.headD "")).values.map .single
  | _ => rows.map fun _ => .several

/-- The table of a text. -/
def ofText (text : String) : Except Fault Table :=
  match Csv.parse text with
  | .error fault => .error (.rows fault)
  | .ok [] => .error .noColumns
  | .ok (header :: rows) =>
    let width := ((rows.head?).map List.length).getD header.length
    let leading := width - header.length
    .ok {
      names := columnNames header
      rowNames := namesOfRows leading rows
      columns := (List.range header.length).map fun position =>
        .ofCells (rows.map fun row => (row[leading + position]?).getD "") }

/-- The column of a name. -/
def column (table : Table) (name : String) : Except Fault Column :=
  match table.columns[table.names.idxOf name]? with
  | some found => .ok found
  | none => .error (.missingColumn name)

/-- The table with another column of a name. -/
def setColumn (table : Table) (name : String) (column : Column) : Table :=
  { table with columns := table.columns.set (table.names.idxOf name) column }

/-- The rows at the marked places. -/
def keep (marks : List Bool) (table : Table) : Table where
  names := table.names
  rowNames := (table.rowNames.zip marks).filterMap fun (name, mark) =>
    if mark then some name else none
  columns := table.columns.map (Column.keep marks)

end Table

/-! ## Results -/

/-- The number of undecided instances from which on a row is dropped, where none is given. -/
def defaultLimit : Number := .whole 25

/-- The value is not above a limit; a missing one is. Where the limit or the value is a double, both are
compared as doubles. -/
def isWithin (limit : Number) : Scalar → Except Fault Bool
  | .missing => .ok false
  | .text _ => .error (.textAgainstLimit (match limit with
      | .whole _ => true
      | .real _ => false))
  | .real value => .ok (decide (value ≤ limit.toFloat))
  | other => .ok (match limit with
      | .whole bound => decide (other.toInt ≤ bound)
      | .real bound => decide (Binary64.ofInt other.toInt ≤ bound))

namespace Table

/-- The column of a measure turned into numbers. -/
def withNumbers (table : Table) (measure : Measure) : Except Fault Table := do
  let column ← table.column measure.column
  return table.setColumn measure.column column.numbers

/-- The table of a text, without the rows that have too many undecided instances, and with numbers for
its measures. -/
def load (text : String) (limit : Number) : Except Fault Table := do
  let table ← ofText text
  let undecided ← table.column "inconclusive"
  let marks ← undecided.values.mapM (isWithin limit)
  Measure.all.foldlM withNumbers (table.keep marks)

end Table

end Clausal.Results
