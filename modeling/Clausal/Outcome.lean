import Clausal.Bounded
import Clausal.Event
import Clausal.Number

/-!
# Outcomes and budgets

A search that runs to its end decides the formula. A search under a budget may stop before: either
because the number of conflicts has reached a limit, or because the clock has reached a deadline.
Budgets are looked at between steps only, the conflict limit before the clock, and the clock is read
only where a deadline exists.

The number of steps of a search is bounded by its number of variables: the lists of entry counts per
level grow lexicographically, and there are at most `(n + 1) ^ (n + 1)` of them. The loops below carry
that bound as a number of doublings.
-/

namespace Clausal

/-- Why a search was left undecided. -/
inductive Undecided where
  /-- The search has not ended. -/
  | notFinished
  /-- The conflicts reached their limit. -/
  | conflictLimit (limit : Int)
  /-- The clock reached the deadline of a timeout in seconds. -/
  | timeout (seconds : Number)

namespace Undecided

/-- The reason in words. -/
def text : Undecided → String
  | notFinished => "search not finished"
  | conflictLimit limit => s!"conflict limit {limit} reached"
  | timeout seconds => s!"timeout after {seconds.text}s"

end Undecided

/-- What a search has found out. -/
inductive Outcome where
  /-- The formula has this model. -/
  | satisfiable (model : Assignment)
  /-- The formula has no model. -/
  | unsatisfiable
  /-- Nothing was decided. -/
  | unknown (reason : Undecided)

namespace Outcome

/-- The verdict in one word. -/
def verdict : Outcome → String
  | satisfiable _ => "SAT"
  | unsatisfiable => "UNSAT"
  | unknown _ => "UNKNOWN"

/-- Whether the formula has a model, if that was decided. -/
def isSat? : Outcome → Option Bool
  | satisfiable _ => some true
  | unsatisfiable => some false
  | unknown _ => none

end Outcome

/-- A clock: what it shows at each reading, and how far it has been read. -/
structure Clock where
  /-- The time shown at each reading, the first of which has the number zero. -/
  time : Nat → Number
  /-- How often the clock has been read. -/
  readings : Nat

namespace Clock

/-- A clock that has not been read and advances by one tick at every reading. -/
def ticking (tick : Number) : Clock := ⟨fun reading => tick.scale reading, 0⟩

/-- A clock that stands still. -/
def showing (now : Number) : Clock := ⟨fun _ => now, 0⟩

/-- Reads the clock. -/
def read (clock : Clock) : Number × Clock :=
  (clock.time clock.readings, { clock with readings := clock.readings + 1 })

end Clock

namespace Solver

/-- What the solver has found out so far. -/
def outcome (solver : Solver) : Outcome :=
  match solver.phase with
  | .satisfied => .satisfiable (solver.trail.model solver.formula.numVars)
  | .refuted => .unsatisfiable
  | _ => .unknown .notFinished

/-- A number of doublings that covers every run over the given number of variables. -/
def doublings (numVars : Nat) : Nat :=
  (numVars + 1) * ((numVars + 1).log2 + 1) + 2

/-- One round of running to the end. -/
def round (solver : Solver) : Round Solver (Except Fault Solver) :=
  if solver.isDone then .finished (.ok solver)
  else match solver.step with
    | .error fault => .finished (.error fault)
    | .ok next => .running next

/-- Runs the search to its end. -/
def run (solver : Solver) : Except Fault Solver :=
  match Round.within round (doublings solver.formula.numVars) solver with
  | .running last => .ok last
  | .finished result => result

/-- The solver after a run, and what it has found out. -/
def solve (solver : Solver) : Except Fault (Solver × Outcome) :=
  solver.run.map fun last => (last, last.outcome)

end Solver

/-- Decides a formula given by signed clauses. -/
def decideDimacs (signed : List (List Int)) (count : Int) (variant strategy propagation : String) :
    Except Fault Outcome := do
  let formula ← Formula.ofDimacs signed count
  let configuration ← Configuration.ofNames variant strategy propagation
  let (_, outcome) ← (Solver.fresh configuration formula).solve
  return outcome

/-- Limits of a search. -/
structure Budget where
  /-- The seconds after which the search is left. -/
  timeout : Option Number
  /-- The number of conflicts at which the search is left. -/
  maxConflicts : Option Int

namespace Budget

/-- A search under a budget, between two steps. -/
structure Run where
  /-- The solver so far. -/
  solver : Solver
  /-- The clock so far. -/
  clock : Clock
  /-- What happened so far, latest first. -/
  journal : List Event

/-- The end of a search under a budget. -/
structure Finished where
  /-- The search as it was left. -/
  run : Run
  /-- What was found out, or the fault that ended the search. -/
  result : Except Fault Outcome

/-- The conflict limit, if it has been reached. -/
def reachedLimit? (budget : Budget) (solver : Solver) : Option Int :=
  budget.maxConflicts.filter fun limit => limit ≤ solver.stats.conflicts

/-- Reads the clock if there is a deadline, and tells whether it has passed. -/
def readDeadline (deadline : Option Number) (clock : Clock) : Bool × Clock :=
  match deadline with
  | none => (false, clock)
  | some limit =>
    let (now, clock) := clock.read
    (now.atLeast limit, clock)

/-- One round of a search under a budget. -/
def round (budget : Budget) (deadline : Option Number) (run : Run) : Round Run Finished :=
  if run.solver.isDone then .finished ⟨run, .ok run.solver.outcome⟩
  else match budget.reachedLimit? run.solver with
    | some limit => .finished ⟨run, .ok (.unknown (.conflictLimit limit))⟩
    | none =>
      let (passed, clock) := readDeadline deadline run.clock
      let timed := { run with clock := clock }
      if passed then
        .finished ⟨timed, .ok (.unknown (.timeout (budget.timeout.getD .zero)))⟩
      else match run.solver.step with
        | .error fault => .finished ⟨timed, .error fault⟩
        | .ok next => .running { timed with
            solver := next
            journal := (Event.between run.solver next).reverse ++ run.journal }

/-- The time at which a search is left, found by reading the clock. -/
def deadline (budget : Budget) (clock : Clock) : Except Fault (Option Number) × Clock :=
  match budget.timeout with
  | none => (.ok none, clock)
  | some seconds =>
    let (now, clock) := clock.read
    match now.add? seconds with
    | none => (.error .secondsTooLarge, clock)
    | some limit => (.ok (some limit), clock)

/-- Runs a search, possibly begun before, until it ends or a limit is reached. -/
def drive (budget : Budget) (clock : Clock) (solver : Solver) : Finished :=
  let (deadline, clock) := budget.deadline clock
  let start : Run := ⟨solver, clock, []⟩
  match deadline with
  | .error fault => ⟨start, .error fault⟩
  | .ok limit =>
    match Round.within (budget.round limit) (Solver.doublings solver.formula.numVars) start with
    | .running last => ⟨last, .ok (.unknown .notFinished)⟩
    | .finished done => done

end Budget

end Clausal
