import Clausal.Csv.Writer
import Clausal.Json.Display
import Clausal.Json.Use

/-!
# Records

What is kept of one folder of instances under one solver and one strategy: times and memory of the
instances solved, and counters of the others. A record is a document of named fields. One that was saved
may lack fields or hold in them what does not belong there; it is taken over as it is, and what is wrong
is noticed where a field is used.
-/

namespace Clausal.Benchmark

/-- The fields of a record. -/
inductive Field where
  /-- Times of the instances solved. -/
  | times
  /-- Memory of the instances solved. -/
  | mems
  /-- Least memory of an instance solved. -/
  | memMin
  /-- Greatest memory of an instance solved. -/
  | memMax
  /-- Instances left undecided. -/
  | inconclusive
  /-- Instances that failed. -/
  | failed
  /-- Whether the folder is done. -/
  | completed
  /-- Instances dealt with. -/
  | completedTests
  /-- Rows of the table of results. -/
  | rows
  /-- Instances left undecided since the last one that was not. -/
  | consecutiveTimeouts
  /-- Decisions over the instances solved. -/
  | decisions
  /-- Conflicts over the instances solved. -/
  | conflicts
deriving DecidableEq

namespace Field

/-- The name under which a field is saved. -/
def name : Field → String
  | times => "times"
  | mems => "mems"
  | memMin => "mem_min"
  | memMax => "mem_max"
  | inconclusive => "inconclusive"
  | failed => "failed"
  | completed => "completed"
  | completedTests => "completed_tests"
  | rows => "csv_ready_data"
  | consecutiveTimeouts => "consecutive_timeouts"
  | decisions => "decisions"
  | conflicts => "conflicts"

end Field

/-- What is kept of a folder. -/
structure Record where
  /-- Named documents in order. -/
  fields : List (String × Json)

namespace Record

open Json (Misuse)

/-- The positive infinity. -/
def infinity : Float := Binary64.ofMagnitude false Binary64.infiniteMagnitude

/-- The record of a folder of which nothing has been tried. -/
def fresh : Record := ⟨[
  (Field.times.name, .array []),
  (Field.mems.name, .array []),
  (Field.memMin.name, .ofFloat infinity),
  (Field.memMax.name, .ofFloat (-infinity)),
  (Field.inconclusive.name, .ofInt 0),
  (Field.failed.name, .ofInt 0),
  (Field.completed.name, .bool false),
  (Field.completedTests.name, .ofInt 0),
  (Field.rows.name, .array []),
  (Field.consecutiveTimeouts.name, .ofInt 0),
  (Field.decisions.name, .ofInt 0),
  (Field.conflicts.name, .ofInt 0)]⟩

/-- A record as a document. -/
def toJson (record : Record) : Json :=
  .object record.fields

/-- What a field holds. -/
def get (record : Record) (field : Field) : Except Misuse Json :=
  match Named.lookup field.name record.fields with
  | some document => .ok document
  | none => .error (.missingField field.name)

/-- The record with another document in a field. -/
def set (record : Record) (field : Field) (document : Json) : Record :=
  ⟨Named.update field.name document record.fields⟩

/-! ## Changing -/

/-- A change of one field. -/
inductive Change where
  /-- The field holds this document from now on. -/
  | assign (field : Field) (document : Json)
  /-- What the field holds becomes something else. -/
  | adjust (field : Field) (change : Json → Except Misuse Json)

/-- The record after a change. -/
def apply (record : Record) : Change → Except Misuse Record
  | .assign field document => .ok (record.set field document)
  | .adjust field change => do
    let held ← record.get field
    return record.set field (← change held)

/-- Makes changes in order, up to the first one that is refused. -/
def commit (record : Record) : List Change → Record × Option Misuse
  | [] => (record, none)
  | change :: rest =>
    match record.apply change with
    | .ok changed => changed.commit rest
    | .error misuse => (record, some misuse)

end Record

/-! ## Ledgers -/

/-- A row of a table of results. -/
abbrev Row := List Json

/-- A row in writing, with its line end. -/
def Row.line (row : Row) : String :=
  Csv.line (row.map Json.cell)

/-- Something for each solver, strategy and folder, each in order of first use. -/
abbrev ByFolder (α : Type) := List (String × List (String × List (String × α)))

/-- Records by solver, strategy and folder. -/
abbrev Ledger := ByFolder Record

namespace Ledger

/-- The records of a solver and a strategy. -/
def records (ledger : Ledger) (solver strategy : String) : List (String × Record) :=
  ((Named.lookup solver ledger).bind (Named.lookup strategy)).getD []

/-- The record of a folder. -/
def record? (ledger : Ledger) (solver strategy folder : String) : Option Record :=
  Named.lookup folder (ledger.records solver strategy)

/-- Sets the records of a solver and a strategy. -/
def setRecords (ledger : Ledger) (solver strategy : String) (records : List (String × Record)) :
    Ledger :=
  Named.update solver
    (Named.update strategy records ((Named.lookup solver ledger).getD [])) ledger

/-- Sets the record of a folder. -/
def setRecord (ledger : Ledger) (solver strategy folder : String) (record : Record) : Ledger :=
  ledger.setRecords solver strategy
    (Named.update folder record (ledger.records solver strategy))

/-- The records as documents. -/
def documents (ledger : Ledger) : ByFolder Json :=
  ledger.map fun (solver, strategies) =>
    (solver, strategies.map fun (strategy, records) =>
      (strategy, records.map fun (folder, record) => (folder, record.toJson)))

/-- A ledger as a document. -/
def toJson (ledger : Ledger) : Json :=
  .object (ledger.documents.map fun (solver, strategies) =>
    (solver, .object (strategies.map fun (strategy, records) => (strategy, .object records))))

end Ledger

/-! ## Taking over a saved ledger -/

open Json (Misuse)

/-- What comes of taking something over: the rows met on the way, and the result. -/
structure Taken (α : Type) where
  /-- The rows, up to the first document that cannot be used. -/
  rows : List Row
  /-- What was taken over, or why it cannot be used. -/
  result : Except Misuse α

namespace Taken

variable {α : Type}

/-- Named documents taken over one by one. -/
def each (take : Json → Taken α) : List (String × Json) → Taken (List (String × α))
  | [] => ⟨[], .ok []⟩
  | (name, document) :: rest =>
    let first := take document
    match first.result with
    | .error misuse => ⟨first.rows, .error misuse⟩
    | .ok value =>
      let others := each take rest
      ⟨first.rows ++ others.rows, others.result.map ((name, value) :: ·)⟩

/-- The fields of an object taken over. -/
def members (take : Json → Taken α) (document : Json) : Taken (List (String × α)) :=
  match document.fields? with
  | some fields => each take fields
  | none => ⟨[], .error (.noOperation document.shape "items")⟩

/-- Rows, up to the first document that is none. -/
def rowsOf : List Json → Taken Unit
  | [] => ⟨[], .ok ()⟩
  | document :: rest =>
    match document.cells with
    | .error misuse => ⟨[], .error misuse⟩
    | .ok row =>
      let others := rowsOf rest
      ⟨row :: others.rows, others.result⟩

/-- A record with its rows. A record without rows has none. -/
def record (document : Json) : Taken Record :=
  match document.fields? with
  | none => ⟨[], .error (.noOperation document.shape "get")⟩
  | some fields =>
    match (Named.lookup Field.rows.name fields).map Json.parts with
    | none => ⟨[], .ok ⟨fields⟩⟩
    | some (.error misuse) => ⟨[], .error misuse⟩
    | some (.ok rows) =>
      let taken := rowsOf rows
      ⟨taken.rows, taken.result.map fun _ => ⟨fields⟩⟩

end Taken

/-- Takes a saved ledger over. -/
def Ledger.take (document : Json) : Taken Ledger :=
  Taken.members (Taken.members (Taken.members Taken.record)) document

end Clausal.Benchmark
