import Clausal.CommandLine.Arguments
import Clausal.CommandLine.Report
import Clausal.CommandLine.Usage
import Clausal.Dimacs

/-!
# The command line

One run of the program: a command line is read, a clause file is read, each variant that was asked for
searches for a model, and what it found is reported. The run ends with an exit status: zero, one if a
verdict was not the expected one or a model failed its check, and two if the command line or the file was
refused. Some faults of a file are not reported but end the run without an exit status.
-/

namespace Clausal.CommandLine

/-- All went well. -/
def exitOk : Nat := 0

/-- A verdict was not the expected one, or a model failed its check. -/
def exitMismatch : Nat := 1

/-- The command line or the clause file was refused. -/
def exitError : Nat := 2

/-- What ends a run without an exit status. -/
inductive Escape where
  /-- A timeout without a value, which cannot be compared with zero. -/
  | arguments
  /-- A file that cannot be read, for a cause that is not reported. -/
  | reading (fault : Dimacs.ReadFault)
  /-- A search that was refused. -/
  | searching (fault : Fault)

/-- The sentence that reports what ended a run without an exit status. -/
def Escape.message : Escape → String
  | arguments => "'<' not supported between instances of 'list' and 'int'"
  | reading fault => fault.message
  | searching fault => fault.message

/-- What a run has told. -/
structure Transcript where
  /-- The lines of output. -/
  output : List OutputLine
  /-- The log, all of it. -/
  log : List LogEntry

namespace Transcript

/-- What was told first, then what was told after it. -/
def append (first second : Transcript) : Transcript :=
  ⟨first.output ++ second.output, first.log ++ second.log⟩

end Transcript

/-- The search of one variant, ended. -/
structure VariantRun where
  /-- The time from the start of the search to its end. -/
  elapsed : Number
  /-- The solver as it was left. -/
  solver : Solver
  /-- What was found out. -/
  outcome : Outcome
  /-- What happened, in order. -/
  events : List Event

/-- The limits of the search of a variant. -/
def Settings.budget (settings : Settings) : Except Fault Budget :=
  match settings.timeout with
  | none => .ok ⟨none, none⟩
  | some milliseconds =>
    let seconds := Binary64.ofQuotient milliseconds 1000
    if seconds.isInf then .error .timeoutTooLarge else .ok ⟨some (.real seconds), none⟩

/-- The variants to run; one without a name if none was chosen. -/
def Settings.variants (settings : Settings) : List (Given Variant) :=
  match settings.variant with
  | .nothing => [.nothing]
  | .value choice => choice.variants.map .value

/-- The configuration of a variant. What was given without a value is refused. -/
def Settings.configuration (settings : Settings) (variant : Given Variant) :
    Except Fault Configuration :=
  match variant, settings.propagation, settings.strategy with
  | .nothing, _, _ => .error (.unknownVariant Variant.names)
  | _, .nothing, _ => .error .noPropagation
  | _, _, .nothing => .error (.unknownStrategy (Strategy.all.map Strategy.name))
  | .value variant, .value propagation, .value strategy => .ok ⟨variant, strategy, propagation⟩

/-- The solver that a variant searches with. -/
def Settings.solver (settings : Settings) (problem : Dimacs.Problem) (variant : Given Variant) :
    Except Fault Solver := do
  let formula ← Formula.ofDimacs problem.clauses problem.numVars
  let configuration ← settings.configuration variant
  return .fresh configuration formula

/-- The search of a variant between two readings of a clock. -/
def VariantRun.ofFinished (started ended : Number) (finished : Budget.Finished) :
    Except Fault VariantRun :=
  finished.result.map fun outcome =>
    ⟨ended.sub started, finished.run.solver, outcome, finished.run.journal.reverse⟩

/-- The solver of a variant and the limits of its search. -/
def Settings.prepare (settings : Settings) (problem : Dimacs.Problem) (variant : Given Variant) :
    Except Fault (Solver × Budget) := do
  let solver ← settings.solver problem variant
  return (solver, ← settings.budget)

/-- Lets a variant search. -/
def search (settings : Settings) (problem : Dimacs.Problem) (variant : Given Variant)
    (clock : Clock) : Except Fault VariantRun × Clock :=
  match settings.prepare problem variant with
  | .error fault => (.error fault, clock)
  | .ok (solver, budget) =>
    let (started, clock) := clock.read
    let finished := budget.drive clock solver
    let (ended, clock) := finished.run.clock.read
    (VariantRun.ofFinished started ended finished, clock)

/-- Lets variants search one after another. -/
def searchAll (settings : Settings) (problem : Dimacs.Problem) :
    List (Given Variant) → Clock → List (Except Fault VariantRun)
  | [], _ => []
  | variant :: rest, clock =>
    let (result, clock) := search settings problem variant clock
    result :: searchAll settings problem rest clock

/-- The check of a model against the clauses: the log entry, and whether the model passed. -/
def checkModel (clauses : List (List Int)) (model : Assignment) : LogEntry × Bool :=
  match violatedClauses clauses model with
  | [] => (.modelChecked clauses.length, true)
  | first :: others => (.modelFalsifies (others.length + 1) first, false)

/-- The report of the expectation, if it was not met. -/
def mismatch? (settings : Settings) (satisfiable : Bool) : Option LogEntry :=
  let found := Expectation.ofVerdict satisfiable
  match settings.expect with
  | none => none
  | some .nothing => some (.unexpected "[]" found.name)
  | some (.value expected) =>
    if expected = found then none else some (.unexpected expected.name found.name)

/-- What is told of a variant, and its exit status. -/
def VariantRun.report (settings : Settings) (clauses : List (List Int)) (run : VariantRun) :
    Transcript × Nat :=
  let comment := OutputLine.comment run.solver.variant run.elapsed run.solver.stats
  let verdict := OutputLine.verdict run.outcome.isSat?
  let events := run.events.map LogEntry.event
  let unmet (satisfiable : Bool) := (mismatch? settings satisfiable).toList
  match run.outcome with
  | .unknown _ => (⟨[comment, verdict], events⟩, exitOk)
  | .unsatisfiable =>
    (⟨[comment, verdict], events ++ unmet false⟩,
      if (unmet false).isEmpty then exitOk else exitMismatch)
  | .satisfiable model =>
    let shown := if settings.showModel then [OutputLine.model model.toDimacs] else []
    let (checked, passed) : List LogEntry × Bool :=
      if settings.check.getD false then
        let (entry, passed) := checkModel clauses model
        ([entry], passed)
      else ([], true)
    (⟨[comment, verdict] ++ shown, events ++ checked ++ unmet true⟩,
      if passed && (unmet true).isEmpty then exitOk else exitMismatch)

/-- How a run ends. -/
inductive Ending where
  /-- With an exit status, and perhaps a sentence about what was refused. -/
  | exit (status : Nat) (refusal : Option String)
  /-- Without an exit status. -/
  | escaped (escape : Escape)

/-- What is told of the clauses that are left out of a problem. -/
def noticed (problem : Dimacs.Problem) : List LogEntry :=
  (Formula.leftOut problem.clauses).map fun (position, signed) => .leftOut position signed

/-- Gathers what searches tell, one after another. The status is the largest one; a refused search ends
the run. -/
def reportAll (settings : Settings) (problem : Dimacs.Problem) :
    List (Except Fault VariantRun) → Nat → Transcript → Transcript × Ending
  | [], status, told => (told, .exit status none)
  | .error fault :: _, _, told =>
    let ending := if fault.isMalformedClause then .exit exitError (some fault.message)
      else .escaped (.searching fault)
    (told.append ⟨[], noticed problem⟩, ending)
  | .ok run :: rest, status, told =>
    let (report, here) := run.report settings problem.clauses
    reportAll settings problem rest (max status here)
      ((told.append ⟨[], noticed problem⟩).append report)

/-- The fault of a clause file is reported: it lies in finding the file or in its text. -/
def isReported : Dimacs.ReadFault → Bool
  | .malformed .. => true
  | .tooManyDigits _ => false
  | .file fault => fault.isAccess

/-- What a run tells, given what its file was read as and what searches of it find. -/
def reportRun (settings : Settings) (read : Except Dimacs.ReadFault Dimacs.Problem)
    (results : Dimacs.Problem → List (Except Fault VariantRun)) : Transcript × Ending :=
  let parsing := LogEntry.parsing settings.file
  match read with
  | .error fault =>
    let ending := if isReported fault then .exit exitError (some fault.message)
      else .escaped (.reading fault)
    (⟨[], [parsing]⟩, ending)
  | .ok problem =>
    let parsed := LogEntry.parsed problem.clauses.length problem.numVars
    reportAll settings problem (results problem) exitOk ⟨[], [parsing, parsed]⟩

/-- Runs the program under given settings. -/
def run (settings : Settings) (files : Files) (clock : Clock) : Transcript × Ending :=
  reportRun settings (Dimacs.read files settings.file) fun problem =>
    searchAll settings problem settings.variants clock

/-! ## What is shown -/

/-- What a run shows: lines of output, lines of errors, and its exit status or what escaped. -/
structure Shown where
  /-- The lines of output. -/
  output : List String
  /-- The lines beside the output. -/
  errors : List String
  /-- The exit status, or what ended the run without one. -/
  status : Except Escape Nat

/-- What a refused command line or a question for help shows. -/
def Stop.shown : Stop → Shown
  | .help => ⟨helpLines, [], .ok exitOk⟩
  | .refused fault => ⟨[], usageLines ++ [s!"satmicro: error: {fault.message}"], .ok exitError⟩
  | .timeoutWithoutValue => ⟨[], [], .error .arguments⟩

/-- What a run under given settings shows. -/
def shownRun (settings : Settings) (result : Transcript × Ending) : Shown :=
  let (told, ending) := result
  let log := (LogEntry.shown settings.verbosity told.log).map LogEntry.text
  let output := told.output.map OutputLine.text
  match ending with
  | .exit status refusal =>
    ⟨output, log ++ (refusal.map fun sentence => s!"Error: {sentence}").toList, .ok status⟩
  | .escaped escape => ⟨output, log, .error escape⟩

/-- What a command line shows. -/
def shown (words : List String) (files : Files) (clock : Clock) : Shown :=
  match readArguments words with
  | .error stop => stop.shown
  | .ok settings => shownRun settings (run settings files clock)

end Clausal.CommandLine
