import Mathlib
import Clausal.Proofs.InstanceAttempts

/-!
# Searches without clauses

A search of a formula without clauses meets no conflict and decides every variable. Under a timeout that
never ends it runs to its end, so the whole course of an attempt at a clause file without clauses is known:
the instance is solved, with as many decisions as it has variables.
-/

namespace Clausal

/-! ## Searches without clauses -/

/-- Without signed clauses a formula has none. -/
theorem Formula.allClauses_of_ofDimacs_nil {count : Int} {formula : Formula}
    (formed : Formula.ofDimacs [] count = .ok formula) : formula.allClauses = [] := by
  simp only [ofDimacs, readClauses, ofClauses] at formed
  split at formed
  · cases formed
  · split at formed
    · cases formed
    · cases formed
      rfl

namespace Solver

/-- A search without clauses has only taken decisions. -/
structure Unforced (solver : Solver) : Prop where
  clauses : solver.formula.allClauses = []
  decisions : solver.stats.decisions = solver.trail.size
  conflicts : solver.stats.conflicts = 0
  going : solver.phase = .searching ∨ solver.phase = .satisfied

variable {solver next last : Solver} {count : Nat} {Admitted : Clause → Prop}

/-- Nothing is forced without clauses. -/
theorem Unforced.eq_of_forces (unforced : solver.Unforced) {final : Trail}
    (forces : solver.trail.Forces solver.formula.allClauses final) : final = solver.trail := by
  rw [unforced.clauses] at forces
  cases forces with
  | done => rfl
  | unit listed _ _ => cases listed

/-- A search without clauses goes on by decisions. -/
theorem Transition.unforced (transition : Transition solver next) (unforced : solver.Unforced) :
    next.Unforced := by
  have calm : ∀ conflict, solver.phase ≠ .conflicting conflict := by
    intro conflict phase
    rcases unforced.going with searching | satisfied <;> simp_all
  cases transition with
  | blamed _ answer =>
    have listed := (answer.blamed _ rfl).1
    rw [unforced.clauses] at listed
    cases listed
  | satisfied _ answer _ =>
    obtain rfl := unforced.eq_of_forces answer.forces
    exact ⟨unforced.clauses, unforced.decisions, unforced.conflicts, .inr rfl⟩
  | decided searching answer _ =>
    obtain rfl := unforced.eq_of_forces answer.forces
    refine ⟨unforced.clauses, ?_, unforced.conflicts, .inl searching⟩
    simp [unforced.decisions, Trail.size, Trail.extend, Trail.newLevel]
  | refuted conflicting _ => exact absurd conflicting (calm _)
  | asserted conflicting _ _ _ => exact absurd conflicting (calm _)
  | learned conflicting _ _ _ => exact absurd conflicting (calm _)
  | ended _ => exact unforced

/-- A search of a formula without clauses that has come to its end is satisfied, has decided every variable
and has met no conflict. -/
theorem counts_of_clauseless (configuration : Configuration) {formula : Formula}
    (clauses : formula.allClauses = []) {taken : Nat}
    (ran : (fresh configuration formula).steps taken = .ok last) (done : last.isDone = true) :
    last.phase = .satisfied ∧ last.stats.decisions = formula.numVars ∧ last.stats.conflicts = 0 := by
  have upheld := upheld_fresh_any configuration formula
  have unforced : last.Unforced :=
    upheld.run_keeps Unforced ⟨clauses, rfl, rfl, .inl rfl⟩
      (fun _ transition before => transition.unforced before) ran
  have satisfied : last.phase = .satisfied := by
    rcases phase_of_isDone done with satisfied | refuted
    · exact satisfied
    · rcases unforced.going with phase | phase <;> simp [phase] at refuted
  have ended := upheld.steps ran
  have assigned := ended.grounded.size_eq_of_assigned (ended.satisfied satisfied).1
  exact ⟨satisfied, unforced.decisions.trans assigned, unforced.conflicts⟩

end Solver

/-! ## Deadlines that do not come -/

/-- A timeout that begins at any reading of the clock never ends. -/
def Outlasts (timeout : Number) (time : Nat → Number) : Prop :=
  ∀ first, ∃ limit, (time first).add? timeout = some limit ∧
    ∀ reading, (time reading).atLeast limit = false

namespace Budget

/-- A round before a deadline that does not come does not end with a timeout. -/
theorem ne_timeout_of_round {budget : Budget} {limit : Number} {run : Run} {finished : Finished}
    (unlimited : budget.maxConflicts = none)
    (early : ∀ reading, (run.clock.time reading).atLeast limit = false)
    (ended : budget.round (some limit) run = .finished finished) (seconds : Number) :
    finished.result ≠ .ok (.unknown (.timeout seconds)) := by
  unfold round at ended
  simp only [reachedLimit?, unlimited, Option.filter_none, readDeadline, Clock.read, early,
    Bool.false_eq_true, if_false] at ended
  split at ended
  · cases ended
    simp only [Solver.outcome]
    split <;> simp
  · split at ended
    · cases ended
      simp
    · cases ended

/-- A search under a timeout that never ends runs to its end. -/
theorem drive_outlasted {timeout : Number} {clock : Clock} {solver : Solver} {count : Nat}
    {Admitted : Clause → Prop} (outlasts : Outlasts timeout clock.time)
    (upheld : solver.Upheld count Admitted) :
    let finished := (⟨some timeout, none⟩ : Budget).drive clock solver
    finished.run.solver.isDone = true ∧ finished.result = .ok finished.run.solver.outcome ∧
      ∃ taken, solver.steps taken = .ok finished.run.solver := by
  obtain ⟨limit, told, early⟩ := outlasts clock.readings
  let budget : Budget := ⟨some timeout, none⟩
  have shape : budget.deadline clock = (.ok (some limit), clock.read.2) := by
    simp [budget, deadline, Clock.read, told]
  have untimed : ∀ seconds, (budget.drive clock solver).result ≠ .ok (.unknown (.timeout seconds)) := by
    have kept := @Round.counted_keeps Run Finished (budget.round (some limit))
      (fun run => run.clock.time = clock.time)
      (fun finished => ∀ seconds, finished.result ≠ .ok (.unknown (.timeout seconds)))
      (fun run next before turn => ((budget.time_round (some limit) run).1 next turn).trans before)
      (fun run value before turn => ne_timeout_of_round rfl (before ▸ early) turn)
      (Nat.pow 2 (Solver.doublings solver.formula.numVars) - 1) ⟨solver, clock.read.2, []⟩ rfl
    simp only [drive, shape]
    rw [Round.within_eq_counted]
    split
    · simp
    · exact kept.2 _ ‹_›
  rcases budget.drive_cases clock upheld with ⟨untold, -⟩ | ⟨deadline, -, leads⟩
  · simp [shape] at untold
  · have ending := leads.ending
    generalize same : (budget.drive clock solver).result = result at ending
    cases ending with
    | decided done => exact ⟨done, same, leads.steps⟩
    | limited _ given _ => cases given
    | late _ _ => exact absurd same (untimed _)

end Budget

/-! ## Attempts -/

namespace Benchmark

/-- The result of a problem without clauses: there is a model, every variable was decided, and no conflict
was met. -/
structure Result.IsUnforced (result : Result) (numVars : Nat) : Prop where
  verdict : result.verdict = some true
  decisions : result.decisions = numVars
  conflicts : result.conflicts = 0

variable {plan : Plan} {files : Files} {place : Place} {problem : Dimacs.Problem}

/-- A problem without clauses is solved by deciding every variable. -/
theorem attemptProblem_clauseless (accepted : Dimacs.read files place.path = .ok problem)
    (clauses : problem.clauses = []) {solver strategy : String} {configuration : Configuration}
    (valid : Configuration.ofNames solver strategy plan.propagation = .ok configuration)
    {clock : Clock} (outlasts : Outlasts plan.timeout clock.time) :
    ∃ result, (attemptProblem ⟨solver, strategy, plan.propagation⟩
        ⟨some plan.timeout, plan.bytesBefore, plan.bytesDuring⟩ problem.clauses problem.numVars
        clock).1 = .ok result ∧ result.IsUnforced problem.numVars := by
  obtain ⟨formula, formed⟩ := Dimacs.exists_formula accepted
  have named : solverOf ⟨solver, strategy, plan.propagation⟩ problem.clauses problem.numVars =
      .ok (.fresh configuration formula) := solverOf_eq_ok formed valid
  have upheld := Solver.upheld_fresh_any configuration formula
  have later : Outlasts plan.timeout clock.read.2.time := outlasts
  obtain ⟨done, outcome, taken, ran⟩ := Budget.drive_outlasted later upheld
  have numVars : formula.numVars = problem.numVars := by
    exact_mod_cast (Formula.ofDimacs_eq_ok formed).1
  have empty : formula.allClauses = [] := by
    rw [clauses] at formed
    exact Formula.allClauses_of_ofDimacs_nil formed
  obtain ⟨satisfied, decisions, conflicts⟩ :=
    Solver.counts_of_clauseless configuration empty ran done
  simp only [attemptProblem, named, outcome]
  refine ⟨_, rfl, ?_, decisions.trans numVars, conflicts⟩
  simp [Solver.outcome, satisfied, Outcome.isSat?]

/-- An attempt at a clause file without clauses finishes, if its search is waited for long enough. -/
theorem attempt_clauseless (accepted : Dimacs.read files place.path = .ok problem)
    (clauses : problem.clauses = []) {solver strategy : String} {configuration : Configuration}
    (valid : Configuration.ofNames solver strategy plan.propagation = .ok configuration)
    {bench : Bench} (met : plan.waiting bench.searches = .met)
    (outlasts : Outlasts plan.timeout bench.clock.time) :
    ∃ result, (attempt plan files bench solver strategy place).1 = .finished result ∧
      result.IsUnforced problem.numVars := by
  obtain ⟨result, found, unforced⟩ := attemptProblem_clauseless accepted clauses valid outlasts
  refine ⟨result, ?_, unforced⟩
  simp only [attempt, accepted, met, found]

end Benchmark

end Clausal
