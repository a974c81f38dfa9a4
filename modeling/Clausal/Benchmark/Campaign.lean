import Clausal.Benchmark.Folder
import Clausal.Benchmark.Instance
import Clausal.Benchmark.Record
import Clausal.Decimal.Fixed
import Clausal.Text.Padded
import Clausal.Text.Uppercase

/-!
# Campaigns

A campaign lets every solver with every strategy attempt every instance of every folder. Its ledger says
how far it has come: a folder that is done is passed over, and in one that is not the first instances, as
many as the ledger has counted, are not attempted again. The ledger is saved after every attempt and when
a folder is done, so that a campaign which was broken off goes on where it stopped.

Where ten instances of a folder in a row were left undecided, the rest of the folder counts as undecided
too and is not attempted.

Who attempts the instances is left open: a worker answers for an instance and may remember something from
one instance to the next.
-/

namespace Clausal.Benchmark

open Json (Misuse)

/-- Someone who attempts instances. -/
structure Worker (σ : Type) where
  /-- Attempts the instance at a place with a solver and a strategy. -/
  attempt : (memory : σ) → (solver strategy : String) → (place : Place) → Attempt × σ

/-- What a campaign tells. -/
inductive Notice where
  /-- A solver and a strategy have their turn. -/
  | heading (label : String)
  /-- A folder is done already. -/
  | skipping (label folder : String)
  /-- The count of instances dealt with did not fit the other counts. -/
  | adjusting (counted : Json) (found : Number)
  /-- The rest of a folder is not attempted. -/
  | givingUp (folder : String)
  /-- An attempt was broken. -/
  | failure (folder name message : String)
  /-- An attempt ended. -/
  | attempted (folder name : String) (standing : Standing) (elapsed memory : Float)
      (decisions : Nat) (timeouts : Json)

namespace Notice

/-- A notice in writing. Whole numbers are written with all their digits: that no more than 4300 digits of
one may be written is left out, as only a saved ledger with numbers of that size comes to it. -/
def text : Notice → String
  | heading label => s!"\n=== {Text.upper label} ==="
  | skipping label folder => s!">> Skipping completed: {label} - {folder}"
  | adjusting counted found =>
    s!">> Adjusting start index from {counted.shown} to {found.text} based on actual data"
  | givingUp folder => s!">> 10+ consecutive timeouts in {folder}, skipping remaining"
  | failure folder name message =>
    Text.padRight 10 folder ++ " " ++ Text.padRight 25 name ++ " " ++
      Text.padRight 12 ("ERROR: " ++ message)
  | attempted folder name standing elapsed memory decisions timeouts =>
    Text.padRight 10 folder ++ " " ++ Text.padRight 25 name ++ " " ++
      Text.padRight 12 standing.text ++ " Time: " ++
      Text.padLeft 9 (Decimal.fixed 6 elapsed) ++ "s Mem(avg): " ++
      Text.padLeft 9 (Decimal.fixed 2 memory) ++ "KB Decisions: " ++
      Text.padRight 5 (toString decisions) ++ s!" (Consecutive TOs: {timeouts.shown})"

end Notice

/-- A campaign under way. -/
structure Campaign (σ : Type) where
  /-- What the worker remembers. -/
  memory : σ
  /-- The records. -/
  ledger : Ledger
  /-- The rows written to the table of results, latest first. -/
  written : List Row
  /-- What has been told, latest first. -/
  notices : List Notice
  /-- The ledgers saved, latest first. -/
  saved : List Ledger

/-- One folder in the hands of one solver with one strategy. -/
structure Task where
  /-- The solver. -/
  solver : String
  /-- The strategy. -/
  strategy : String
  /-- The folder. -/
  folder : String
  /-- The instances of the folder. -/
  places : List Place
deriving DecidableEq

namespace Task

/-- The name of a solver with a strategy. -/
def label (task : Task) : String :=
  s!"{task.solver}-{task.strategy}"

/-- The number of instances. -/
def total (task : Task) : Nat :=
  task.places.length

/-- The least position that a list can be asked for. -/
def leastPosition : Int := -9223372036854775808

/-- The instance at a position; a negative position counts from the end. -/
def placeAt (task : Task) (position : Int) : Except Misuse Place :=
  let counted := if position < 0 then position + task.total else position
  match (if counted < 0 then none else task.places[counted.toNat]?) with
  | some place => .ok place
  | none => .error (if position < leastPosition then .positionTooLarge else .missingItem)

end Task

/-- The number of undecided instances in a row after which a folder is given up. -/
def timeoutLimit : Int := 10

namespace Campaign

variable {σ : Type}

/-- A campaign that starts from a ledger. -/
def start (memory : σ) (ledger : Ledger) : Campaign σ :=
  ⟨memory, ledger, [], [], []⟩

/-- Tells something. -/
def tell (campaign : Campaign σ) (notice : Notice) : Campaign σ :=
  { campaign with notices := notice :: campaign.notices }

/-- Saves the ledger. -/
def save (campaign : Campaign σ) : Campaign σ :=
  { campaign with saved := campaign.ledger :: campaign.saved }

/-- The record of a task. -/
def record (campaign : Campaign σ) (task : Task) : Record :=
  (campaign.ledger.record? task.solver task.strategy task.folder).getD .fresh

/-- Sets the record of a task. -/
def setRecord (campaign : Campaign σ) (task : Task) (record : Record) : Campaign σ :=
  { campaign with
    ledger := campaign.ledger.setRecord task.solver task.strategy task.folder record }

/-- Makes changes to the record of a task, up to the first one that is refused. -/
def commit (campaign : Campaign σ) (task : Task) (changes : List Record.Change) :
    Campaign σ × Option Misuse :=
  let (record, misuse) := (campaign.record task).commit changes
  (campaign.setRecord task record, misuse)

end Campaign

/-! ## Changes of a record -/

open Record (Change)

/-- The instances up to a position are dealt with. -/
def dealtWith (count : Int) : Change :=
  .assign .completedTests (.ofInt count)

/-- One more instance failed. -/
def oneFailed : Change :=
  .adjust .failed (Json.increased 1)

/-- More instances were left undecided. -/
def undecided (count : Int) : Change :=
  .adjust .inconclusive (Json.increased count)

/-- One more instance in a row was left undecided. -/
def oneTimeout : Change :=
  .adjust .consecutiveTimeouts (Json.increased 1)

/-- No instance in a row was left undecided. -/
def noTimeout : Change :=
  .assign .consecutiveTimeouts (.ofInt 0)

/-- The changes that a broken attempt makes. -/
def brokenChanges (position : Int) : List Change :=
  [oneFailed, dealtWith (position + 1), noTimeout]

/-- The changes that an attempt without an answer in time makes. -/
def timeoutChanges (position : Int) : List Change :=
  [dealtWith (position + 1), undecided 1, oneTimeout]

/-- The changes that a wrong answer makes. -/
def wrongChanges (position : Int) : List Change :=
  [dealtWith (position + 1), oneFailed, noTimeout]

/-- The changes that a solved instance makes. -/
def solvedChanges (position : Int) (result : Result) : List Change := [
  dealtWith (position + 1),
  .adjust .times (Json.appended (.number result.elapsed)),
  .adjust .mems (Json.appended (.ofFloat result.memory.mean)),
  .adjust .memMin (Json.orLess (.real result.memory.least)),
  .adjust .memMax (Json.orMore (.real result.memory.greatest)),
  .adjust .decisions (Json.increased result.decisions),
  .adjust .conflicts (Json.increased result.conflicts),
  noTimeout
]

/-- The changes that a standing makes. -/
def standingChanges (position : Int) (result : Result) : Standing → List Change
  | .timeout => timeoutChanges position
  | .wrongVerdict _ | .wrongModel => wrongChanges position
  | .solved _ => solvedChanges position result

/-! ## Reading a record -/

/-- The instances that a record has counted, as far as they were solved, left undecided, or failed. -/
def counted (record : Record) : Except Misuse Number := do
  let solved ← record.get .times >>= Json.size
  let decided ← record.get .inconclusive >>= Json.plus (.whole solved)
  record.get .failed >>= Json.plus decided

/-- The position that a number is. -/
def positionOf : Number → Except Misuse Int
  | .whole position => .ok position
  | .real _ => .error (.notAPosition .real)

/-- The row of a folder in the table of results. -/
def resultRow (label folder : String) (record : Record) : Except Misuse Row := do
  let times ← record.get .times
  let solved ← times.size
  let meanTime ← times.mean >>= Json.fixedNumber 6
  let seconds ← times.numbers
  let leastTime ← Json.fixedNumber 6 (Number.smallestOf seconds)
  let greatestTime ← Json.fixedNumber 6 (Number.largestOf seconds)
  let meanMemory ← record.get .mems >>= Json.mean >>= Json.fixedNumber 2
  let leastMemory ← record.get .memMin >>= Json.fixed 2
  let greatestMemory ← record.get .memMax >>= Json.fixed 2
  let inconclusive ← record.get .inconclusive
  let failed ← record.get .failed
  let decisions ← record.get .decisions >>= Json.dividedBy solved
  let conflicts ← record.get .conflicts >>= Json.dividedBy solved
  return [.string label, .string folder, .string meanTime, .string leastTime, .string greatestTime,
    .string meanMemory, .string leastMemory, .string greatestMemory, inconclusive, failed,
    .string (Decimal.fixed 2 decisions), .string (Decimal.fixed 2 conflicts)]

namespace Campaign

variable {σ : Type}

/-! ## Attempting -/

/-- Tells what became of an attempt, after changes of the record, and saves the ledger, unless a change is
refused. -/
def report (campaign : Campaign σ) (task : Task) (changes : List Change)
    (notice : Json → Notice) : Campaign σ × Option Misuse :=
  match campaign.commit task changes with
  | (changed, some misuse) => (changed, some misuse)
  | (changed, none) =>
    match (changed.record task).get .consecutiveTimeouts with
    | .error misuse => (changed, some misuse)
    | .ok timeouts => ((changed.tell (notice timeouts)).save, none)

/-- What an attempt tells and changes. -/
def conclude (campaign : Campaign σ) (task : Task) (position : Int) (place : Place) :
    Attempt → Campaign σ × Option Misuse
  | .broken message =>
    campaign.report task (brokenChanges position) fun _ =>
      .failure task.folder place.name message
  | .hung =>
    campaign.report task (timeoutChanges position) fun timeouts =>
      .attempted task.folder place.name .timeout 0.0 0.0 0 timeouts
  | .finished result =>
    let standing := Standing.ofResult (expectedVerdict task.folder) result
    campaign.report task (standingChanges position result standing) fun timeouts =>
      .attempted task.folder place.name standing result.elapsed.toFloat result.memory.mean
        result.decisions timeouts

/-- Attempts so many instances from a position on, until none is left or the folder is given up. -/
def attemptFrom (worker : Worker σ) (task : Task) :
    Nat → Int → Campaign σ → Campaign σ × Option Misuse
  | 0, _, campaign => (campaign, none)
  | remaining + 1, position, campaign =>
    let givesUp : Except Misuse (Place × Bool) := do
      let place ← task.placeAt position
      let timeouts ← (campaign.record task).get .consecutiveTimeouts
      return (place, ← timeouts.reaches timeoutLimit)
    match givesUp with
    | .error misuse => (campaign, some misuse)
    | .ok (_, true) =>
      (campaign.tell (.givingUp task.folder)).commit task
        [undecided (task.total - position), dealtWith task.total]
    | .ok (place, false) =>
      let (attempt, memory) := worker.attempt campaign.memory task.solver task.strategy place
      let remembered := { campaign with memory := memory }
      match remembered.conclude task position place attempt with
      | (concluded, some misuse) => (concluded, some misuse)
      | (concluded, none) => attemptFrom worker task remaining (position + 1) concluded

/-- Writes the row of a folder and keeps it. -/
def writeRow (campaign : Campaign σ) (task : Task) : Campaign σ × Option Misuse :=
  match resultRow task.label task.folder (campaign.record task) with
  | .error misuse => (campaign, some misuse)
  | .ok row =>
    { campaign with written := row :: campaign.written }.commit task
      [.adjust .rows (Json.appended (.array row))]

/-- Closes a folder once all its instances are dealt with. A row is written if one was solved. -/
def close (campaign : Campaign σ) (task : Task) : Campaign σ × Option Misuse :=
  match (campaign.record task).get .completedTests with
  | .error misuse => (campaign, some misuse)
  | .ok dealt =>
    if !dealt.equals (.whole task.total) then (campaign, none)
    else
      let done := campaign.setRecord task ((campaign.record task).set .completed (.bool true))
      match (done.record task).get .times with
      | .error misuse => (done, some misuse)
      | .ok times =>
        let (written, misuse) := if times.isTruthy then done.writeRow task else (done, none)
        match misuse with
        | some _ => (written, misuse)
        | none => (written.save, none)

/-- The campaign with the instances dealt with counted anew, if they were counted otherwise. -/
def recount (campaign : Campaign σ) (task : Task) (first : Number) (dealt : Json) : Campaign σ :=
  if dealt.equals first then campaign
  else (campaign.tell (.adjusting dealt first)).setRecord task
    ((campaign.record task).set .completedTests (.number first))

/-- Works on an open folder from the first instance that is not counted. -/
def workOn (worker : Worker σ) (task : Task) (campaign : Campaign σ) :
    Campaign σ × Option Misuse :=
  let record := campaign.record task
  let start : Except Misuse (Number × Json) := do
    return (← counted record, ← record.get .completedTests)
  match start with
  | .error misuse => (campaign, some misuse)
  | .ok (first, dealt) =>
    let recounted := campaign.recount task first dealt
    match positionOf first with
    | .error misuse => (recounted, some misuse)
    | .ok position =>
      match attemptFrom worker task (task.total - position).toNat position recounted with
      | (attempted, some misuse) => (attempted, some misuse)
      | (attempted, none) => attempted.close task

/-- Works on a folder unless it is done. -/
def runTask (worker : Worker σ) (task : Task) (campaign : Campaign σ) :
    Campaign σ × Option Misuse :=
  let known := (campaign.ledger.record? task.solver task.strategy task.folder).isSome
  let opened := if known then campaign else campaign.setRecord task .fresh
  match (opened.record task).get .completed with
  | .error misuse => (opened, some misuse)
  | .ok completed =>
    if completed.isTruthy then (opened.tell (.skipping task.label task.folder), none)
    else workOn worker task opened

/-- Works on folders one after another. -/
def runTasks (worker : Worker σ) : List Task → Campaign σ → Campaign σ × Option Misuse
  | [], campaign => (campaign, none)
  | task :: rest, campaign =>
    match runTask worker task campaign with
    | (after, some misuse) => (after, some misuse)
    | (after, none) => runTasks worker rest after

/-- Lets a solver with a strategy have its turn. -/
def runPair (worker : Worker σ) (groups : Groups) (solver strategy : String)
    (campaign : Campaign σ) : Campaign σ × Option Misuse :=
  let headed := campaign.tell (.heading s!"{solver}-{strategy}")
  let opened := { headed with
    ledger := headed.ledger.setRecords solver strategy (headed.ledger.records solver strategy) }
  runTasks worker (groups.map fun (folder, places) => ⟨solver, strategy, folder, places⟩) opened

/-- Lets pairs of a solver and a strategy have their turns. -/
def runPairs (worker : Worker σ) (groups : Groups) :
    List (String × String) → Campaign σ → Campaign σ × Option Misuse
  | [], campaign => (campaign, none)
  | (solver, strategy) :: rest, campaign =>
    match runPair worker groups solver strategy campaign with
    | (after, some misuse) => (after, some misuse)
    | (after, none) => runPairs worker groups rest after

end Campaign

/-- Solvers with their strategies. -/
abbrev SolverTable := List (String × List String)

/-- The pairs of a table, in order. -/
def SolverTable.pairs (table : SolverTable) : List (String × String) :=
  table.flatMap fun (solver, strategies) => strategies.map fun strategy => (solver, strategy)

/-- Takes a saved ledger up and runs the campaign of a table from it. The rows are those that the ledger
kept and then those that the campaign writes. -/
def Campaign.takeUp {σ : Type} (worker : Worker σ) (memory : σ) (groups : Groups)
    (table : SolverTable) (document : Json) : Taken (Campaign σ × Option Misuse) :=
  let taken := Ledger.take document
  match taken.result with
  | .error misuse => ⟨taken.rows, .error misuse⟩
  | .ok ledger =>
    let ended := Campaign.runPairs worker groups table.pairs (Campaign.start memory ledger)
    ⟨taken.rows ++ ended.1.written.reverse, .ok ended⟩

end Clausal.Benchmark
