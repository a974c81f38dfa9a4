import Clausal.Files
import Clausal.Results.Order
import Clausal.Results.Table

/-!
# Charts of results

What is drawn of a table of results: over all folders, time, memory, decisions and conflicts of each
solver; in each folder, time, memory and decisions; and last a comparison of the solvers folder by
folder. Solvers stand in ascending order of what is drawn, those without a value last.

Missing values do not count for means, least and greatest values; where none is left, the result is
missing too. Rows without a solver or a folder are in no group, but a missing folder has its own charts,
which are empty.
-/

namespace Clausal.Results

/-! ## Aggregates -/

/-- A sum with what rounding has taken from it. -/
structure Compensated where
  /-- The sum. -/
  sum : Float
  /-- What the sum is too large by. -/
  excess : Float

namespace Compensated

/-- The sum with one more value. An excess that is no number is forgotten. -/
def add (total : Compensated) (value : Float) : Compensated :=
  let corrected := value - total.excess
  let sum := total.sum + corrected
  let excess := sum - total.sum - corrected
  ⟨sum, if excess.isNaN then 0.0 else excess⟩

end Compensated

/-- The mean of the values that are not missing. -/
def mean (values : List Scalar) : Scalar :=
  match values.filterMap Scalar.toFloat? with
  | [] => .missing
  | given => .ofFloat
      ((given.foldl Compensated.add ⟨0.0, 0.0⟩).sum / Binary64.ofInt given.length)

/-- The whole number of 64 bits without a sign that a value is. -/
def unsignedValue? (value : Scalar) : Option Scalar := do
  let double ← value.toFloat?
  match Binary64.decode double with
  | .finite negative mantissa exponent =>
    let (top, bottom) := Binary64.scaleDown mantissa 1 (-exponent)
    if !negative && top % bottom = 0 && decide ((top / bottom : Nat) ≤ greatestUnsigned) then
      some (.whole (top / bottom : Nat))
    else none
  | _ => none

/-- The means of groups of values of one kind. They are doubles, except that means of whole numbers
without a sign stay such numbers if all of them are. -/
def means (kind : Kind) (groups : List (List Scalar)) : Column :=
  let doubles := groups.map mean
  match kind, doubles.mapM unsignedValue? with
  | .unsigned, some values => ⟨.unsigned, values⟩
  | _, _ => ⟨.real, doubles⟩

/-- The first of the values that no other one comes before; missing if there is none. -/
def foremost (isBefore : Scalar → Scalar → Bool) (values : List Scalar) : Scalar :=
  match values.filter fun value => !value.isMissing with
  | [] => .missing
  | first :: rest => rest.foldl (fun best value => if isBefore value best then value else best) first

/-- The least value. -/
def least (values : List Scalar) : Scalar :=
  foremost Scalar.isBelow values

/-- The greatest value. -/
def greatest (values : List Scalar) : Scalar :=
  foremost (fun value best => best.isBelow value) values

/-! ## What is drawn -/

/-- A row of a table as far as it is drawn. -/
structure Entry where
  /-- The solver with its strategy. -/
  solver : Scalar
  /-- The folder. -/
  folder : Scalar
  /-- The measures. -/
  measure : Measure → Scalar

/-- What is drawn of a table. -/
structure Sample where
  /-- The rows. -/
  entries : List Entry
  /-- What the values of each measure are. -/
  kind : Measure → Kind

namespace Sample

/-- The column of a measure, of some of the entries. -/
def column (sample : Sample) (entries : List Entry) (measure : Measure) : Column :=
  ⟨sample.kind measure, entries.map fun entry => entry.measure measure⟩

end Sample

/-- A bar with its range. -/
structure Bar where
  /-- What the bar stands for. -/
  label : Scalar
  /-- Its height. -/
  value : Scalar
  /-- How far the range goes below the height. -/
  below : Scalar
  /-- How far the range goes above it. -/
  above : Scalar

/-- Bars of middle, low and high values. -/
def barsOf (labels : List Scalar) (middle low high : Column) : Except Fault (List Bar) :=
  match middle.minus? low, high.minus? middle with
  | some below, some above =>
    .ok ((labels.zip (middle.values.zip (below.values.zip above.values))).map
      fun (label, value, lower, upper) => ⟨label, value, lower, upper⟩)
  | _, _ => .error .flagDifference

/-- The values of a measure in groups of entries. -/
def grouped (measure : Measure) (groups : List (List Entry)) : List (List Scalar) :=
  groups.map fun group => group.map fun entry => entry.measure measure

/-- The bars of all solvers, from mean, least and greatest values of three measures. -/
def solverBars (sample : Sample) (middle low high : Measure) : Except Fault (List Bar) := do
  let solvers := groupKeys (sample.entries.map Entry.solver)
  let groups := solvers.map fun solver =>
    sample.entries.filter fun entry => belongsTo solver entry.solver
  let bars ← barsOf solvers (means (sample.kind middle) (grouped middle groups))
    ⟨sample.kind low, (grouped low groups).map least⟩
    ⟨sample.kind high, (grouped high groups).map greatest⟩
  return sortBy Bar.value bars

/-- The bars of entries, in their order. -/
def entryBars (sample : Sample) (entries : List Entry) (middle low high : Measure) :
    Except Fault (List Bar) :=
  barsOf (entries.map Entry.solver) (sample.column entries middle) (sample.column entries low)
    (sample.column entries high)

/-! ## Charts -/

/-- What a chart shows. -/
inductive Drawing where
  /-- Bars with ranges, in a colour, with a legend. -/
  | ranges (colour legend : String) (bars : List Bar)
  /-- Bars alone, in a colour, with a legend. -/
  | bars (colour legend : String) (bars : List Bar)
  /-- A row of values for each solver, one for each folder. -/
  | comparison (solvers folders : List Scalar) (rows : List (List Scalar))

/-- A chart. -/
structure Chart where
  /-- The path of its image. -/
  path : String
  /-- Its title. -/
  title : String
  /-- What its vertical axis shows. -/
  axis : String
  /-- The most ticks of its vertical axis. -/
  ticks : Nat
  /-- What it shows. -/
  drawing : Drawing

/-- The usual number of ticks. -/
def usualTicks : Nat := 12

/-- The number of ticks of charts with many values. -/
def manyTicks : Nat := 15

/-- The charts over all folders. -/
def overallCharts (place : String → String) (sample : Sample) : Except Fault (List Chart) := do
  let times ← solverBars sample .averageTime .leastTime .greatestTime
  let memory ← solverBars sample .averageMemory .leastMemory .greatestMemory
  let decisions ← solverBars sample .decisions .decisions .decisions
  let conflicts ← solverBars sample .conflicts .conflicts .conflicts
  return [
    ⟨place "avg_time_log.png", "Average Execution Time per Solver", "Average Time (s)", manyTicks,
      .ranges "skyblue" "Average Time" times⟩,
    ⟨place "avg_memory_log.png", "Average Memory Usage per Solver", "Average Memory (KB)", usualTicks,
      .ranges "salmon" "Average Memory" memory⟩,
    ⟨place "avg_decisions_log.png", "Average Number of Decisions per Solver", "Average Decisions",
      usualTicks, .ranges "lightgreen" "Average Decisions" decisions⟩,
    ⟨place "avg_conflicts_log.png", "Average Number of Conflicts per Solver", "Average Conflicts",
      usualTicks, .ranges "khaki" "Average Conflicts" conflicts⟩]

/-- The charts of a folder. Each order starts from the one before it. -/
def folderCharts (place : String → String) (sample : Sample) (folder : Scalar) :
    Except Fault (List Chart) := do
  let own := sample.entries.filter fun entry => belongsTo folder entry.folder
  let byTime := sortBy (fun entry : Entry => entry.measure .averageTime) own
  let byMemory := sortBy (fun entry : Entry => entry.measure .averageMemory) byTime
  let byDecisions := sortBy (fun entry : Entry => entry.measure .decisions) byMemory
  let times ← entryBars sample byTime .averageTime .leastTime .greatestTime
  let memory ← entryBars sample byMemory .averageMemory .leastMemory .greatestMemory
  let decisions := byDecisions.map fun entry =>
    (⟨entry.solver, entry.measure .decisions, .missing, .missing⟩ : Bar)
  let name := folder.shown
  return [
    ⟨place s!"avg_time_{name}_log.png", s!"Avg Time - Folder: {name}", "Average Time (s)", usualTicks,
      .ranges "mediumseagreen" "Average Time" times⟩,
    ⟨place s!"avg_memory_{name}_log.png", s!"Avg Memory Usage - Folder: {name}",
      "Average Memory (KB)", usualTicks, .ranges "cornflowerblue" "Average Memory" memory⟩,
    ⟨place s!"avg_decisions_{name}_log.png", s!"Avg Decisions - Folder: {name}",
      "Average Decisions", usualTicks, .bars "orchid" "Decisions" decisions⟩]

/-- The comparison of all solvers. A folder without any time is left out. -/
def comparisonChart (place : String → String) (sample : Sample) : Except Fault Chart := do
  let solvers := (← solverBars sample .averageTime .averageTime .averageTime).map Bar.label
  let time (solver folder : Scalar) :=
    mean ((sample.entries.filter fun entry =>
      belongsTo solver entry.solver && belongsTo folder entry.folder).map
        fun entry => entry.measure .averageTime)
  let folders := (groupKeys (sample.entries.map Entry.folder)).filter fun folder =>
    solvers.any fun solver => !(time solver folder).isMissing
  return ⟨place "solver_comparison_log.png", "Solver Performance Comparison by Benchmark Folder",
    "Average Time (s) - Log Scale", manyTicks,
    .comparison solvers folders
      (solvers.map fun solver => folders.map fun folder => time solver folder)⟩

/-- What is drawn of a table. -/
def Sample.ofTable (table : Table) : Except Fault Sample := do
  let solvers ← table.column "solver"
  let folders ← table.column "folder"
  let columns ← Measure.all.mapM fun measure => table.column measure.column
  let columnOf (measure : Measure) : Column :=
    (columns[Measure.all.idxOf measure]?).getD ⟨.real, []⟩
  return {
    entries := (solvers.values.zip folders.values).zipIdx.map fun ((solver, folder), position) =>
      ⟨solver, folder, fun measure => ((columnOf measure).values[position]?).getD .missing⟩
    kind := fun measure => (columnOf measure).kind }

/-- All charts of a table, with their images in a directory, which is made if need be. -/
def charts (table : Table) (directory : String) : Except Fault (List Chart) := do
  discard ((Files.empty.makeDirectories directory).mapError .file)
  let place (name : String) := Files.under directory name
  let sample ← Sample.ofTable table
  let overall ← overallCharts place sample
  let perFolder ← (distinct (sample.entries.map Entry.folder)).mapM (folderCharts place sample)
  let comparison ← comparisonChart place sample
  return overall ++ perFolder.flatten ++ [comparison]

end Clausal.Results
