import Mathlib
import Clausal.Proofs.Ledgers

/-!
# Tallies

A record that a campaign has kept from its start holds in every field what belongs there: it is the
written form of a tally. No change that an attempt makes to such a record is refused, and each has its
counterpart on the tally. An attempt is counted in one of three ways, as failed, as undecided or as solved,
and every instance that a tally has dealt with is counted once.
-/

namespace Clausal.Benchmark

/-! ## Records with all fields -/

namespace Field

/-- The fields in the order of a record. -/
def all : List Field :=
  [times, mems, memMin, memMax, inconclusive, failed, completed, completedTests, rows,
    consecutiveTimeouts, decisions, conflicts]

end Field

namespace Record

/-- The record with a document in every field. -/
def ofFields (content : Field → Json) : Record :=
  ⟨Field.all.map fun field => (field.name, content field)⟩

/-- A field of a record of all fields holds what the record was made with. -/
@[simp]
theorem get_ofFields (content : Field → Json) (field : Field) :
    (ofFields content).get field = .ok (content field) := by
  cases field <;> simp [get, ofFields, Field.all, Field.name, Named.lookup_cons]

/-- Setting a field changes the content at this field. -/
@[simp]
theorem set_ofFields (content : Field → Json) (field : Field) (document : Json) :
    (ofFields content).set field document = ofFields (Function.update content field document) := by
  cases field <;>
    simp [set, ofFields, Field.all, Field.name, Named.update, Function.update]

end Record

/-! ## Tallies -/

/-- What a record counts. -/
structure Tally where
  /-- Times of the instances solved. -/
  times : List Number
  /-- Memory of the instances solved. -/
  mems : List Float
  /-- Least memory of an instance solved. -/
  memMin : Number
  /-- Greatest memory of an instance solved. -/
  memMax : Number
  /-- Instances left undecided. -/
  inconclusive : Nat
  /-- Instances that failed. -/
  failed : Nat
  /-- Whether the folder is done. -/
  completed : Bool
  /-- Instances dealt with. -/
  dealt : Nat
  /-- Rows of the table of results. -/
  rows : List Row
  /-- Instances left undecided since the last one that was not. -/
  timeouts : Nat
  /-- Decisions over the instances solved. -/
  decisions : Nat
  /-- Conflicts over the instances solved. -/
  conflicts : Nat

namespace Tally

open Record (Change)

/-- What a tally has in a field. -/
def content (tally : Tally) : Field → Json
  | .times => .array (tally.times.map .number)
  | .mems => .array (tally.mems.map .ofFloat)
  | .memMin => .number tally.memMin
  | .memMax => .number tally.memMax
  | .inconclusive => .ofInt tally.inconclusive
  | .failed => .ofInt tally.failed
  | .completed => .bool tally.completed
  | .completedTests => .ofInt tally.dealt
  | .rows => .array (tally.rows.map .array)
  | .consecutiveTimeouts => .ofInt tally.timeouts
  | .decisions => .ofInt tally.decisions
  | .conflicts => .ofInt tally.conflicts

/-- The record of a tally. -/
def record (tally : Tally) : Record :=
  .ofFields tally.content

/-- Nothing counted yet. -/
def fresh : Tally :=
  ⟨[], [], .real Record.infinity, .real (-Record.infinity), 0, 0, false, 0, [], 0, 0, 0⟩

/-- The record of a new tally is the one that a folder starts with. -/
theorem record_fresh : fresh.record = Record.fresh := rfl

/-- The fields of the record of a tally. -/
@[simp]
theorem get_record (tally : Tally) (field : Field) :
    tally.record.get field = .ok (tally.content field) :=
  Record.get_ofFields tally.content field

/-- The record of a tally is taken over as it is, with its rows. -/
theorem take_record (tally : Tally) :
    Taken.record tally.record.toJson = ⟨tally.rows, .ok tally.record⟩ := by
  have rows : ∀ rows : List Row, Taken.rowsOf (rows.map .array) = ⟨rows, .ok ()⟩ := by
    intro rows
    induction rows with
    | nil => rfl
    | cons row rest ih => simp [Taken.rowsOf, Json.cells, Json.parts?, ih]
  have found : Named.lookup Field.rows.name tally.record.fields =
      some (.array (tally.rows.map .array)) := by
    simp [record, Record.ofFields, Field.all, Field.name, Named.lookup_cons, content]
  simp [Taken.record, Record.toJson, Json.fields?, found, Json.parts, Json.parts?, rows, Except.map]

/-- The record of a tally can be read when it is taken up. -/
theorem readable_record (tally : Tally) : Ledger.Readable tally.record := by
  simp [Ledger.Readable, take_record]

/-- The rows that are kept of the record of a tally are its own. -/
@[simp]
theorem keptRows_record (tally : Tally) : Ledger.keptRows tally.record = tally.rows := by
  simp [Ledger.keptRows, take_record]

/-! ## Counting -/

/-- One more instance that failed. -/
def addFailed (tally : Tally) : Tally :=
  { tally with failed := tally.failed + 1, dealt := tally.dealt + 1, timeouts := 0 }

/-- One more instance that was left undecided. -/
def addUndecided (tally : Tally) : Tally :=
  { tally with
    inconclusive := tally.inconclusive + 1, dealt := tally.dealt + 1
    timeouts := tally.timeouts + 1 }

/-- One more instance that was solved. -/
def addSolved (tally : Tally) (result : Result) : Tally :=
  { tally with
    times := tally.times ++ [result.elapsed]
    mems := tally.mems ++ [result.memory.mean]
    memMin := tally.memMin.least (.real result.memory.least)
    memMax := tally.memMax.greatest (.real result.memory.greatest)
    decisions := tally.decisions + result.decisions
    conflicts := tally.conflicts + result.conflicts
    dealt := tally.dealt + 1
    timeouts := 0 }

/-- The rest of a folder, left undecided. -/
def skip (tally : Tally) (count : Nat) : Tally :=
  { tally with inconclusive := tally.inconclusive + count, dealt := tally.dealt + count }

/-- The folder is done. -/
def close (tally : Tally) : Tally :=
  { tally with completed := true }

/-- One more row. -/
def addRow (tally : Tally) (row : Row) : Tally :=
  { tally with rows := tally.rows ++ [row] }

/-! ## Changes that are made -/

/-- A change that is made leads from the record of a tally to that of another one, if the other tally has
the changed document in the field and is the same elsewhere. -/
theorem commit_adjust {tally changed : Tally} {field : Field}
    {change : Json → Except Json.Misuse Json}
    (made : change (tally.content field) = .ok (changed.content field))
    (same : ∀ other, other ≠ field → changed.content other = tally.content other)
    (rest : List Change) :
    tally.record.commit (.adjust field change :: rest) = changed.record.commit rest := by
  have contents : Function.update tally.content field (changed.content field) = changed.content := by
    funext other
    by_cases equal : other = field
    · rw [equal, Function.update_self]
    · rw [Function.update_of_ne equal, same other equal]
  simp only [Record.commit, Record.apply, get_record, made, bind, Except.bind, pure, Except.pure]
  rw [record, Record.set_ofFields, contents, record]

/-- Committing one more instance that is dealt with. -/
theorem commit_dealtWith (tally : Tally) (rest : List Change) :
    tally.record.commit (dealtWith (tally.dealt + 1) :: rest) =
      { tally with dealt := tally.dealt + 1 }.record.commit rest := rfl

/-- Committing one more time. -/
theorem commit_times (tally : Tally) (elapsed : Number) (rest : List Change) :
    tally.record.commit (.adjust .times (Json.appended (.number elapsed)) :: rest) =
      { tally with times := tally.times ++ [elapsed] }.record.commit rest :=
  commit_adjust (by simp [content, Json.appended]) (by rintro (_ | _) different <;> trivial) rest

/-- Committing one more use of memory. -/
theorem commit_mems (tally : Tally) (memory : Float) (rest : List Change) :
    tally.record.commit (.adjust .mems (Json.appended (.ofFloat memory)) :: rest) =
      { tally with mems := tally.mems ++ [memory] }.record.commit rest :=
  commit_adjust (by simp [content, Json.appended]) (by rintro (_ | _) different <;> trivial) rest

/-- Committing a least use of memory. -/
theorem commit_memMin (tally : Tally) (memory : Number) (rest : List Change) :
    tally.record.commit (.adjust .memMin (Json.orLess memory) :: rest) =
      { tally with memMin := tally.memMin.least memory }.record.commit rest :=
  commit_adjust
    (by simp only [content, Json.orLess, Json.number?, Number.least]; split <;> rfl)
    (by rintro (_ | _) different <;> trivial) rest

/-- Committing a greatest use of memory. -/
theorem commit_memMax (tally : Tally) (memory : Number) (rest : List Change) :
    tally.record.commit (.adjust .memMax (Json.orMore memory) :: rest) =
      { tally with memMax := tally.memMax.greatest memory }.record.commit rest :=
  commit_adjust
    (by simp only [content, Json.orMore, Json.number?, Number.greatest]; split <;> rfl)
    (by rintro (_ | _) different <;> trivial) rest

/-- Committing one more row. -/
theorem commit_rows (tally : Tally) (row : Row) :
    tally.record.commit [.adjust .rows (Json.appended (.array row))] =
      ((tally.addRow row).record, none) :=
  commit_adjust (by simp [content, Json.appended, addRow])
    (by rintro (_ | _) different <;> trivial) []

/-- An instance that could not be tried is counted as failed. -/
theorem commit_brokenChanges (tally : Tally) :
    tally.record.commit (brokenChanges tally.dealt) = (tally.addFailed.record, none) := rfl

/-- An instance whose search was not decided is counted as undecided. -/
theorem commit_timeoutChanges (tally : Tally) :
    tally.record.commit (timeoutChanges tally.dealt) = (tally.addUndecided.record, none) := rfl

/-- An instance with a wrong verdict is counted as failed. -/
theorem commit_wrongChanges (tally : Tally) :
    tally.record.commit (wrongChanges tally.dealt) = (tally.addFailed.record, none) := rfl

/-- An instance that was solved is counted as solved, with its measures. -/
theorem commit_solvedChanges (tally : Tally) (result : Result) :
    tally.record.commit (solvedChanges tally.dealt result) =
      ((tally.addSolved result).record, none) := by
  rw [solvedChanges, commit_dealtWith, commit_times, commit_mems, commit_memMin, commit_memMax]
  rfl

/-- Leaving the rest of a folder. -/
theorem commit_skip {tally : Tally} {count total : Nat} (all : tally.dealt + count = total) :
    tally.record.commit [undecided (total - tally.dealt), dealtWith total] =
      ((tally.skip count).record, none) := by
  subst all
  have amount : ((tally.dealt + count : Nat) : Int) - tally.dealt = count := by omega
  rw [amount]
  rfl

/-- A record that is completed is that of the closed tally. -/
theorem record_close (tally : Tally) :
    tally.record.set .completed (.bool true) = tally.close.record := rfl

/-! ## Ways of counting -/

end Tally

/-- How an attempt is counted. -/
inductive Count where
  /-- As failed. -/
  | failed
  /-- As left undecided. -/
  | undecided
  /-- As solved. -/
  | solved (result : Result)

/-- The count of a result by its standing. -/
def Standing.count (result : Result) : Standing → Count
  | timeout => .undecided
  | wrongVerdict _ | wrongModel => .failed
  | solved _ => .solved result

/-- The count of an attempt where a verdict may be expected. -/
def Attempt.count (expected : Option Bool) : Attempt → Count
  | broken _ => .failed
  | hung => .undecided
  | finished result => (Standing.ofResult expected result).count result

namespace Tally

/-- The tally with one more instance. -/
def add (tally : Tally) : Count → Tally
  | .failed => tally.addFailed
  | .undecided => tally.addUndecided
  | .solved result => tally.addSolved result

/-- Every count deals with one instance. -/
@[simp]
theorem dealt_add (tally : Tally) (count : Count) : (tally.add count).dealt = tally.dealt + 1 := by
  cases count <;> rfl

/-- What is committed for a result counts it by its standing. -/
theorem commit_standingChanges (tally : Tally) (result : Result) (standing : Standing) :
    tally.record.commit (standingChanges tally.dealt result standing) =
      ((tally.add (standing.count result)).record, none) := by
  cases standing with
  | timeout => exact tally.commit_timeoutChanges
  | solved => exact tally.commit_solvedChanges result
  | wrongVerdict => exact tally.commit_wrongChanges
  | wrongModel => exact tally.commit_wrongChanges

/-! ## Counting once -/

/-- Every instance dealt with is counted once, and memory is kept with time. -/
structure Balanced (tally : Tally) : Prop where
  counted : tally.dealt = tally.times.length + tally.inconclusive + tally.failed
  measured : tally.mems.length = tally.times.length

/-- The counters of a new tally add up. -/
theorem balanced_fresh : fresh.Balanced := ⟨rfl, rfl⟩

variable {tally : Tally}

/-- The counters still add up after one more count. -/
theorem Balanced.add (balanced : tally.Balanced) (count : Count) : (tally.add count).Balanced := by
  have counted := balanced.counted
  have measured := balanced.measured
  cases count <;> constructor <;> simp [Tally.add, addFailed, addUndecided, addSolved] <;> omega

/-- The counters still add up when instances are passed over as undecided. -/
theorem Balanced.skip (balanced : tally.Balanced) (count : Nat) : (tally.skip count).Balanced := by
  have counted := balanced.counted
  have measured := balanced.measured
  constructor <;> simp [Tally.skip] <;> omega

/-- The counters still add up when a tally is closed. -/
theorem Balanced.close (balanced : tally.Balanced) : tally.close.Balanced :=
  ⟨balanced.counted, balanced.measured⟩

/-- The three counters of a balanced tally give the number of instances dealt with. -/
theorem Balanced.counted_record (balanced : tally.Balanced) :
    Clausal.Benchmark.counted tally.record = .ok (.whole tally.dealt) := by
  rw [balanced.counted]
  simp [Clausal.Benchmark.counted, content, Json.size, Json.plus, Json.ofInt, Json.number?,
    Number.add?, bind, Except.bind]

end Tally

end Clausal.Benchmark
