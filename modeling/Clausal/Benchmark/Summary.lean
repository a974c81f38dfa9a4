import Clausal.Benchmark.Record
import Clausal.Text.Uppercase

/-!
# Summaries

The first row of every record in columns, or dashes where a record has no row. Records are documents that
may hold anything; one that cannot be shown ends the summary.
-/

namespace Clausal.Benchmark.Summary

open Json (Misuse)

/-- The widths of the columns after the folder; the first of them shows the third cell of a row. -/
def widths : List Nat := [10, 10, 10, 10, 10, 10, 4, 5, 8, 9]

/-- The names of the columns after the folder. -/
def titles : List String :=
  ["AVG(s)", "MIN(s)", "MAX(s)", "AVG(KB)", "MIN(KB)", "MAX(KB)", "INC", "FAIL", "AVG DEC",
    "AVG CONF"]

/-- A folder followed by columns. -/
def columns (folder : String) (cells : List String) : String :=
  " ".intercalate (Text.padRight 15 folder :: cells)

/-- Texts at the right of their columns. -/
def aligned (cells : List String) : List String :=
  List.zipWith Text.padLeft widths cells

/-- The columns of a row. -/
def rowColumns (row : Json) : Except Misuse (List String) :=
  widths.zipIdx.mapM fun (width, position) => do
    (← row.item (position + 2)).column width

/-- The columns of a record without a row, whose counters are zero where it lacks them. -/
def counterColumns (fields : List (String × Json)) : Except Misuse (List String) := do
  let counter (field : Field) := (Named.lookup field.name fields).getD (.ofInt 0)
  let undecided ← (counter .inconclusive).countColumn 4
  let failed ← (counter .failed).countColumn 5
  let dashes := aligned (List.replicate 10 "-")
  return dashes.take 6 ++ [undecided, failed] ++ dashes.drop 8

/-- The line of a record. -/
def line (folder : String) (record : Json) : Except Misuse String :=
  match record.fields? with
  | none => .error (.noOperation record.shape "get")
  | some fields => do
    let rows := (Named.lookup Field.rows.name fields).getD .null
    let cells ← if rows.isTruthy then rows.item 0 >>= rowColumns else counterColumns fields
    return columns folder cells

/-- Lines of a summary, and what ended it early. -/
structure Lines where
  /-- The lines. -/
  lines : List String
  /-- Why a record could not be shown. -/
  misuse : Option Misuse

namespace Lines

/-- The lines of records, up to one that cannot be shown. -/
def ofRecords : List (String × Json) → Lines
  | [] => ⟨[], none⟩
  | (folder, record) :: rest =>
    match line folder record with
    | .error misuse => ⟨[], some misuse⟩
    | .ok first =>
      let others := ofRecords rest
      ⟨first :: others.lines, others.misuse⟩

/-- Lines and what follows them, if they were not ended early. -/
def andThen (first : Lines) (second : Lines) : Lines :=
  if first.misuse.isNone then ⟨first.lines ++ second.lines, second.misuse⟩ else first

end Lines

/-- The lines of a solver with a strategy. -/
def ofPair (solver strategy : String) (records : List (String × Json)) : Lines :=
  let label := Text.upper s!"{solver}-{strategy}"
  let head := ["", s!"--- Summary for {label} ---", columns "Folder" (aligned titles)]
  Lines.andThen ⟨head, none⟩ (.ofRecords records)

/-- The summary of records. -/
def ofDocuments (records : ByFolder Json) : Lines :=
  let parts := records.flatMap fun (solver, strategies) =>
    strategies.map fun (strategy, folders) => ofPair solver strategy folders
  parts.foldr Lines.andThen ⟨[], none⟩

end Clausal.Benchmark.Summary
