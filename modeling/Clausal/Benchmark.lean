import Clausal.Benchmark.Campaign
import Clausal.Benchmark.Output
import Clausal.Benchmark.Summary
import Clausal.Dimacs
import Clausal.Json.Reader
import Clausal.Json.Writer

/-!
# Benchmarks

A campaign over the clause files below one directory, with its ledger saved in another one, where its
table of results goes too. A ledger that is found there is taken up again; a file that is no document
counts for nothing, and a document that is no ledger breaks the benchmark off.
-/

namespace Clausal.Benchmark

/-- Where instances lie. -/
def instancesRoot : String := "benchmarks"

/-- Where results go. -/
def resultsRoot : String := "results"

/-- The name of the saved ledger. -/
def ledgerName : String := "backup.tmp"

/-- The name of the table of results. -/
def tableName : String := "benchmark.csv"

/-- The first row of the table of results. -/
def tableHeader : Row :=
  ["solver", "folder", "avg_time", "min_time", "max_time", "avg_mem", "min_mem", "max_mem",
    "inconclusive", "failed", "decisions", "conflicts"].map .string

/-- What a benchmark is to do. -/
structure Plan where
  /-- The solvers with their strategies. -/
  table : SolverTable
  /-- The seconds for each instance. -/
  timeout : Number
  /-- The propagation scheme. -/
  propagation : String
  /-- The memory in use before a search, in bytes. -/
  bytesBefore : Int
  /-- The memory in use during a search, in bytes. -/
  bytesDuring : Int
  /-- When the searches end. -/
  paces : Paces

/-- The solvers and strategies of a benchmark that names none. -/
def defaultTable : SolverTable :=
  [("plain", ["ordered"]), ("backjump", ["ordered"]), ("cdcl", ["ordered", "jeroslow"])]

/-- The seconds for each instance where none are given. -/
def defaultTimeout : Number := .whole 300

/-- The propagation scheme where none is given. -/
def defaultPropagation : String := "watched"

/-- What breaks a benchmark off. -/
inductive BenchmarkFault where
  /-- A file that cannot be opened or made. -/
  | file (fault : FileFault)
  /-- A number in the saved ledger with too many digits. -/
  | tooManyDigits (digits : Nat)
  /-- A list or an object in the saved ledger inside too many others. -/
  | tooDeep (isObject : Bool)
  /-- A saved document that is not what it should be. -/
  | ledger (misuse : Json.Misuse)
deriving DecidableEq

namespace BenchmarkFault

/-- The sentence that reports a fault. -/
def message : BenchmarkFault → String
  | file fault => fault.message
  | tooManyDigits digits => Text.digitsMessage digits
  | tooDeep isObject =>
    let sort := if isObject then "object" else "array"
    s!"maximum recursion depth exceeded while decoding a JSON {sort} from a unicode string"
  | ledger misuse => misuse.message

end BenchmarkFault

/-! ## Instances -/

/-- The paths, as components, of everything below a directory. -/
def descendants (files : Files) (top : String) : List (List String) :=
  let below := files.entries.filterMap fun entry =>
    if entry.1.head? = some top then some entry.1 else none
  (below.flatMap fun name => (List.range name.length).filterMap fun length =>
    if 0 < length then some (name.take (length + 1)) else none).eraseDups

/-- The instances: everything below the directory whose name ends like that of a clause file. -/
def instances (files : Files) : Groups :=
  let places := (descendants files instancesRoot).map fun names => (⟨"", names⟩ : Place)
  groupByFolder (places.filter fun place => place.name.endsWith ".cnf")

/-! ## The worker -/

/-- What the worker remembers: the clock, and how many searches it has begun. -/
structure Bench where
  /-- The clock. -/
  clock : Clock
  /-- The searches begun. -/
  searches : Nat

/-- The seconds for which a search is waited for. -/
def Plan.patience (plan : Plan) : Number :=
  plan.timeout.plus Waiting.grace

/-- What becomes of waiting for the search with a number. -/
def Plan.waiting (plan : Plan) (search : Nat) : Waiting :=
  .of (plan.paces.pace search) plan.patience

/-- Attempts an instance: its file is read, and unless that fails a search is begun and waited for. What
the clock shows to a search that is not answered is not counted. -/
def attempt (plan : Plan) (files : Files) (bench : Bench) (solver strategy : String)
    (place : Place) : Attempt × Bench :=
  match Dimacs.read files place.path with
  | .error fault => (.broken fault.message, bench)
  | .ok problem =>
    let begun := { bench with searches := bench.searches + 1 }
    match plan.waiting bench.searches with
    | .refused => (.broken (Waiting.message plan.patience), begun)
    | .inVain => (.hung, begun)
    | .met =>
      let (result, clock) := attemptProblem ⟨solver, strategy, plan.propagation⟩
        ⟨some plan.timeout, plan.bytesBefore, plan.bytesDuring⟩ problem.clauses problem.numVars
        bench.clock
      match result with
      | .error fault => (.broken fault.message, { begun with clock := clock })
      | .ok result => (.finished result, { begun with clock := clock })

/-- The worker of a plan. -/
def workerOf (plan : Plan) (files : Files) : Worker Bench :=
  ⟨attempt plan files⟩

/-! ## The saved ledger -/

/-- What was found where a ledger is saved. -/
inductive Found where
  /-- Nothing. -/
  | nothing
  /-- A document, which should be a ledger. -/
  | document (document : Json)
  /-- Something that is no document. -/
  | unreadable

/-- The text of a file. -/
def textOf (source : Text.LineSource FileFault) : String :=
  "\n".intercalate (source.lines.map String.ofList)

/-- Looks for a saved ledger. -/
def findLedger (files : Files) (path : String) : Except BenchmarkFault Found :=
  if !files.has path then .ok .nothing
  else match files.lines path with
    | .error fault => .error (.file fault)
    | .ok source =>
      match Json.parse (textOf source) with
      | .ok document => .ok (.document document)
      | .error (.tooManyDigits digits) => .error (.tooManyDigits digits)
      | .error (.tooDeep isObject) => .error (.tooDeep isObject)
      | .error .malformed => .ok .unreadable

/-- Puts a text into a file. -/
def putText (files : Files) (path text : String) : Files :=
  files.put path (.file (.plain text.toUTF8.toList))

/-- Saves a ledger. -/
def putLedger (files : Files) (ledger : Json) : Files :=
  putText files (Files.under resultsRoot ledgerName) ledger.render

/-- Puts a table of results into a file, under its header. -/
def putTable (files : Files) (path : String) (rows : List Row) : Files :=
  putText files path (String.join ((tableHeader :: rows).map Row.line))

/-! ## Running -/

/-- A benchmark, ended. -/
structure Finished where
  /-- The files as they were left. -/
  files : Files
  /-- What was told. -/
  told : List String
  /-- The ledger as it was left, as a document. -/
  ledger : Json
  /-- The records as they were left, where the ledger could be taken over. -/
  records : ByFolder Json
  /-- The path of the table of results, once it was chosen. -/
  table : Option String
  /-- What broke the benchmark off. -/
  fault : Option BenchmarkFault

/-- What is told of a saved ledger. -/
def Found.told : Found → List String
  | nothing => []
  | document _ => [">> Resuming from previous backup..."]
  | unreadable =>
    [">> Resuming from previous backup...", ">> Error loading backup file, starting fresh"]

/-- The document that was found, or an empty ledger. -/
def Found.documentOrEmpty : Found → Json
  | document found => found
  | _ => .object []

/-- Runs the campaign of a plan from what was found and leaves its files. -/
def runFrom (plan : Plan) (files : Files) (clock : Clock) (found : Found) : Finished :=
  let path := freePathIn files (Files.under resultsRoot tableName)
  let told := found.told ++ [s!">> Results will be written to: {path}"]
  let taken := Campaign.takeUp (workerOf plan files) ⟨clock, 0⟩ (instances files) plan.table
    found.documentOrEmpty
  let withTable := putTable files path taken.rows
  match taken.result with
  | .error misuse =>
    ⟨withTable, told, found.documentOrEmpty, [], some path, some (.ledger misuse)⟩
  | .ok (campaign, misuse) =>
    { files := match campaign.saved with
        | latest :: _ => putLedger withTable latest.toJson
        | [] => withTable
      told := told ++ campaign.notices.reverse.map Notice.text
      ledger := campaign.ledger.toJson
      records := campaign.ledger.documents
      table := some path
      fault := misuse.map .ledger }

/-- Runs a benchmark. -/
def run (plan : Plan) (files : Files) (clock : Clock) : Finished :=
  match files.makeDirectories resultsRoot with
  | .error fault => ⟨files, [], .object [], [], none, some (.file fault)⟩
  | .ok prepared =>
    match findLedger prepared (Files.under resultsRoot ledgerName) with
    | .error fault =>
      ⟨prepared, [">> Resuming from previous backup..."], .object [], [], none, some fault⟩
    | .ok found => runFrom plan prepared clock found

/-- Adds the summary of the records to a benchmark that was not broken off. -/
def Finished.summarise (finished : Finished) : Finished :=
  match finished.fault with
  | some _ => finished
  | none =>
    let summary := Summary.ofDocuments finished.records
    { finished with
      told := finished.told ++ summary.lines
      fault := summary.misuse.map .ledger }

/-- Saves the ledger, however the benchmark ended, if there is a directory for it. -/
def Finished.saveLast (finished : Finished) : Finished :=
  match finished.files.resolve resultsRoot with
  | .ok .directory => { finished with files := putLedger finished.files finished.ledger }
  | _ => finished

/-- A benchmark with its summary. -/
def runAndSummarise (plan : Plan) (files : Files) (clock : Clock) : Finished :=
  (run plan files clock).summarise

/-- A benchmark that saves its ledger once more at its end, with its summary. -/
def runToEnd (plan : Plan) (files : Files) (clock : Clock) : Finished :=
  (run plan files clock).saveLast.summarise

/-- The files directly in the directory of results, by name. -/
def resultFiles (files : Files) : List (String × Content) :=
  let found := files.entries.filterMap fun entry => match entry with
    | ([top, name], .file content) => if top = resultsRoot then some (name, content) else none
    | _ => none
  found.mergeSort fun left right => !(right.1 < left.1)

end Clausal.Benchmark
