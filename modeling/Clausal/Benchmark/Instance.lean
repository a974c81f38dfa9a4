import Clausal.Memory
import Clausal.Outcome

/-!
# Attempts at instances

One attempt at one instance: the search is timed and its memory is watched. The clock is read once before
the clauses are looked at and once after the search has ended, also when it ends with a fault.

A search is carried out apart from those who ask for it. They wait for its end a little longer than its
timeout, unless it has ended when they come to ask; a wait is asked for in nanoseconds, and has to have less
than 2 to the 63 of them.
-/

namespace Clausal.Benchmark

/-- What an attempt has found out and what it took. -/
structure Result where
  /-- Whether the instance has a model, if that was decided. -/
  verdict : Option Bool
  /-- Whether the model satisfies the clauses, where there is one. -/
  modelHolds : Bool
  /-- Decisions taken. -/
  decisions : Nat
  /-- Conflicts met. -/
  conflicts : Nat
  /-- The time taken, in seconds. -/
  elapsed : Number
  /-- The memory used. -/
  memory : Memory.Usage

/-- How a solver is named. -/
structure Naming where
  /-- The variant. -/
  variant : String
  /-- The decision strategy. -/
  strategy : String
  /-- The propagation scheme. -/
  propagation : String

/-- The surroundings of an attempt. -/
structure Conditions where
  /-- The seconds after which a search is left. -/
  timeout : Option Number
  /-- The memory in use before a search, in bytes. -/
  bytesBefore : Int
  /-- The memory in use during a search, in bytes. -/
  bytesDuring : Int

/-- The solver of a problem. -/
def solverOf (naming : Naming) (clauses : List (List Int)) (count : Int) :
    Except Fault Solver := do
  let formula ← Formula.ofDimacs clauses count
  let configuration ← Configuration.ofNames naming.variant naming.strategy naming.propagation
  return .fresh configuration formula

/-- The model of an outcome satisfies the clauses, where there is one. -/
def modelHolds (clauses : List (List Int)) : Outcome → Bool
  | .satisfiable model => isModel clauses model
  | _ => true

/-- Attempts one problem. -/
def attemptProblem (naming : Naming) (conditions : Conditions) (clauses : List (List Int))
    (count : Int) (clock : Clock) : Except Fault Result × Clock :=
  let (started, clock) := clock.read
  match solverOf naming clauses count with
  | .error fault => (.error fault, clock.read.2)
  | .ok solver =>
    let finished := Budget.drive ⟨conditions.timeout, none⟩ clock solver
    let (ended, clock) := finished.run.clock.read
    (finished.result.map fun outcome =>
      { verdict := outcome.isSat?
        modelHolds := modelHolds clauses outcome
        decisions := finished.run.solver.stats.decisions
        conflicts := finished.run.solver.stats.conflicts
        elapsed := ended.sub started
        memory := Memory.Usage.ofReadings conditions.bytesBefore [conditions.bytesDuring] },
      clock)

/-- How an attempt ends. -/
inductive Attempt where
  /-- With a result. -/
  | finished (result : Result)
  /-- Not at all. -/
  | hung
  /-- With something that kept it from a result. -/
  | broken (message : String)

/-- How an attempt is counted. -/
inductive Standing where
  /-- Nothing was decided in time. -/
  | timeout
  /-- The instance was decided. -/
  | solved (satisfiable : Bool)
  /-- The verdict is not the expected one. -/
  | wrongVerdict (satisfiable : Bool)
  /-- The model does not satisfy the clauses. -/
  | wrongModel
deriving DecidableEq

namespace Standing

/-- A truth value in words. -/
def truth (value : Bool) : String :=
  if value then "True" else "False"

/-- A standing in words. -/
def text : Standing → String
  | timeout => "TIMEOUT"
  | solved satisfiable => s!"SAT? {truth satisfiable}"
  | wrongVerdict satisfiable => s!"WRONG: SAT? {truth satisfiable}"
  | wrongModel => "WRONG MODEL"

/-- The standing of a result where a verdict may be expected. -/
def ofResult (expected : Option Bool) (result : Result) : Standing :=
  match result.verdict with
  | none => timeout
  | some satisfiable =>
    if !result.modelHolds then wrongModel
    else if expected.any (· != satisfiable) then wrongVerdict satisfiable
    else solved satisfiable

end Standing

/-! ## Waiting for searches -/

/-- When a search ends, as those see it who ask for it. -/
inductive Pace where
  /-- Before they ask. -/
  | early
  /-- While they wait. -/
  | timely
  /-- Not as long as they wait. -/
  | never
deriving DecidableEq

/-- The paces of searches, which are counted from zero. -/
structure Paces where
  /-- The pace of a search. -/
  pace : Nat → Pace

/-- Some searches never end, and all others have ended when they are asked for. -/
def Paces.ofHanging (hanging : List Int) : Paces :=
  ⟨fun search => if hanging.contains search then .never else .early⟩

/-- Searches that are named alone are those that never end. -/
instance : Coe (List Int) Paces := ⟨Paces.ofHanging⟩

/-- What becomes of waiting for a search. -/
inductive Waiting where
  /-- No wait can be that long. -/
  | refused
  /-- The search has not ended. -/
  | inVain
  /-- The search has ended. -/
  | met
deriving DecidableEq

namespace Waiting

/-- The seconds that are waited for a search beyond its timeout. -/
def grace : Int := 5

/-- The nanoseconds of which every wait has less. -/
def bound : Number := .whole 9223372036854775808

/-- No wait can be that many seconds long. -/
def isTooLong (seconds : Number) : Bool :=
  (seconds.scale 1000000000).atLeast bound

/-- The sentence that reports a wait that is too long. -/
def message : Number → String
  | .whole _ => "timestamp too large to convert to C _PyTime_t"
  | .real _ => "timestamp out of range for platform time_t"

/-- Waits so many seconds for a search. One that has ended is not waited for, and where there is no time
at all there is no wait either. -/
def of (pace : Pace) (seconds : Number) : Waiting :=
  if pace = .early then met
  else if isTooLong seconds then refused
  else if pace = .timely ∧ Number.zero.isBelow seconds then met
  else inVain

end Waiting

end Clausal.Benchmark
