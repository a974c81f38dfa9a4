import Clausal.Analysis
import Clausal.Decision
import Clausal.Propagation

/-!
# The solver

The search is a state machine over one trail. In the searching phase it propagates and then either
meets a conflict, or finds every variable assigned, or takes a decision. In the conflicting phase it
analyses the conflict and either finds the formula refuted or goes back and asserts a literal. The
two final phases are left by no step.
-/

namespace Clausal

/-- How a solver works. -/
structure Configuration where
  /-- How conflicts are analysed. -/
  variant : Variant
  /-- How decisions are chosen. -/
  strategy : Strategy
  /-- How forced literals are found. -/
  propagation : Propagation
deriving DecidableEq

namespace Configuration

/-- The configuration of three names, judged in the order variant, propagation, strategy. -/
def ofNames (variant strategy propagation : String) : Except Fault Configuration := do
  let variant ← Variant.ofName variant
  let propagation ← Propagation.ofName propagation
  let strategy ← Strategy.ofName strategy
  return ⟨variant, strategy, propagation⟩

end Configuration

/-- The phases of a search. -/
inductive Phase where
  /-- Propagating and deciding. -/
  | searching
  /-- A falsified clause waits to be analysed. -/
  | conflicting (clause : Clause)
  /-- The trail satisfies the formula. -/
  | satisfied
  /-- The formula is refuted. -/
  | refuted
deriving DecidableEq

namespace Phase

/-- The name of a phase. -/
def name : Phase → String
  | searching => "SEARCH"
  | conflicting _ => "CONFLICT"
  | satisfied => "SAT"
  | refuted => "UNSAT"

/-- The phase is left by no step. -/
def isFinal : Phase → Bool
  | satisfied | refuted => true
  | _ => false

end Phase

/-- Counters of a search. -/
structure Stats where
  /-- Decisions taken. -/
  decisions : Nat
  /-- Conflicts met. -/
  conflicts : Nat
  /-- Literals forced by propagation. -/
  propagations : Nat
  /-- Clauses learned. -/
  learned : Nat
  /-- Conflicts answered by going back more than one level. -/
  backjumps : Nat
  /-- Levels passed over by such answers. -/
  skippedLevels : Nat
  /-- The deepest level reached. -/
  maxLevel : Nat
deriving DecidableEq

namespace Stats

/-- Nothing has happened. -/
def zero : Stats := ⟨0, 0, 0, 0, 0, 0, 0⟩

end Stats

/-- A search in progress. -/
structure Solver where
  /-- How conflicts are analysed. -/
  variant : Variant
  /-- The formula with the clauses learned so far. -/
  formula : Formula
  /-- The literals assigned so far. -/
  trail : Trail
  /-- The propagation scheme at work. -/
  propagator : Propagator
  /-- The choice of decisions. -/
  decider : Decider
  /-- The phase of the search. -/
  phase : Phase
  /-- The counters. -/
  stats : Stats

namespace Solver

/-- A solver that has done nothing yet. -/
def fresh (configuration : Configuration) (formula : Formula) : Solver where
  variant := configuration.variant
  formula := formula
  trail := .empty
  propagator := .start configuration.propagation formula
  decider := .start configuration.strategy formula
  phase := .searching
  stats := .zero

/-- The search has ended. -/
def isDone (solver : Solver) : Bool :=
  solver.phase.isFinal

/-- Opens a level and assigns a decision at it. -/
def decide (solver : Solver) (literal : Literal) : Except Fault Solver :=
  (solver.trail.newLevel.push literal none).map fun trail => { solver with
    trail := trail
    stats := { solver.stats with
      decisions := solver.stats.decisions + 1
      maxLevel := max solver.stats.maxLevel trail.level } }

/-- The step of the searching phase. -/
def search (solver : Solver) : Except Fault Solver := do
  let (propagator, trail, conflict) ← solver.propagator.propagate solver.formula solver.trail
  let propagated := { solver with
    propagator := propagator
    trail := trail
    stats := { solver.stats with propagations := propagator.propagations } }
  match conflict with
  | some clause =>
    return { propagated with
      phase := .conflicting clause
      stats := { propagated.stats with conflicts := propagated.stats.conflicts + 1 } }
  | none =>
    if trail.size = solver.formula.numVars then
      return { propagated with phase := .satisfied }
    match solver.decider.pick trail with
    | none => return { propagated with phase := .satisfied }
    | some literal => propagated.decide literal

/-- Goes back to a level, where a clause forces a literal. -/
def assertLiteral (solver : Solver) (clause : Clause) (level : Nat) (asserting : Literal)
    (learn : Bool) : Except Fault Solver := do
  let skipped := solver.trail.level - level - 1
  let counted := if 0 < skipped then { solver.stats with
      backjumps := solver.stats.backjumps + 1
      skippedLevels := solver.stats.skippedLevels + skipped } else solver.stats
  let (trail, _) ← solver.trail.undo level
  let propagator := solver.propagator.backtracked trail
  if learn then
    let formula ← solver.formula.addLearned clause
    let extended ← trail.push asserting (some clause.asLearnt)
    return { solver with
      formula := formula
      trail := extended
      propagator := propagator.attach clause.asLearnt trail
      phase := .searching
      stats := { counted with learned := counted.learned + 1 } }
  else
    let extended ← trail.push asserting (some clause)
    return { solver with
      trail := extended
      propagator := propagator
      phase := .searching
      stats := counted }

/-- The step of the conflicting phase. -/
def answer (solver : Solver) (conflict : Clause) : Except Fault Solver := do
  match ← Analysis.ofConflict solver.variant conflict solver.trail with
  | .refuted => return { solver with phase := .refuted }
  | .backjump clause level asserting learn => solver.assertLiteral clause level asserting learn

/-- One step of the search. A search that has ended stays as it is. -/
def step (solver : Solver) : Except Fault Solver :=
  match solver.phase with
  | .searching => solver.search
  | .conflicting conflict => solver.answer conflict
  | .satisfied | .refuted => .ok solver

/-- The given number of steps. -/
def steps : Nat → Solver → Except Fault Solver
  | 0, solver => .ok solver
  | count + 1, solver => solver.step >>= steps count

end Solver

end Clausal
