import Mathlib
import Clausal.Proofs.Termination

/-!
# Searching under a budget

A budget is looked at between two steps and takes no part in them. So wherever a search under a budget
is left, some number of plain steps leads there, and going on from there ends where the search would
have ended anyway. This holds for every formula, clauses learned before included, and however often the
search is left and taken up again.

A conflict limit is looked at before a step that may itself meet a conflict. The search is therefore
left with at most as many conflicts as the limit allows, and a search that would meet exactly as many
is left at the last of them, before it is answered.
-/

namespace Clausal

namespace Solver

variable {count : Nat} {Admitted : Clause → Prop} {solver next last : Solver}

/-- All runs that end a search end it at the same place. -/
theorem done_unique {first second : Nat} {other : Solver} (ran : solver.steps first = .ok last)
    (done : last.isDone = true) (again : solver.steps second = .ok other)
    (ended : other.isDone = true) : last = other := by
  have left := steps_trans ran (steps_of_isDone done second)
  have right := steps_trans again (steps_of_isDone ended first)
  rw [Nat.add_comm, right] at left
  exact (Except.ok.inj left).symm

/-- Going on from where a run has led ends as the search from its start does. -/
theorem Upheld.solve_of_steps (upheld : Upheld count Admitted solver) {taken : Nat}
    (ran : solver.steps taken = .ok next) : next.solve = solver.solve := by
  obtain ⟨last, whole, direct, done⟩ := upheld.run_eq_ok
  obtain ⟨other, rest, onward, ended⟩ := (upheld.steps ran).run_eq_ok
  have same := done_unique direct done (steps_trans ran onward) ended
  rw [solve, solve, whole, rest, same]

/-- Going back does not touch the number of conflicts. -/
theorem conflicts_jumped (solver : Solver) (level : Nat) :
    (solver.jumped level).conflicts = solver.stats.conflicts := by
  rw [jumped_eq]

/-- A step meets at most one conflict, and none if it ends the search. -/
theorem Transition.conflicts (transition : Transition solver next) :
    next.stats.conflicts = solver.stats.conflicts ∨
      next.isDone = false ∧ next.stats.conflicts = solver.stats.conflicts + 1 := by
  cases transition with
  | blamed _ _ => exact .inr ⟨rfl, rfl⟩
  | satisfied _ _ _ => exact .inl rfl
  | decided _ _ _ => exact .inl rfl
  | refuted _ _ => exact .inl rfl
  | asserted _ _ _ _ => exact .inl (solver.conflicts_jumped _)
  | learned _ _ _ _ => exact .inl (solver.conflicts_jumped _)
  | ended _ => exact .inl rfl

/-- The number of conflicts never falls. -/
theorem Upheld.conflicts_le (upheld : Upheld count Admitted solver) {taken : Nat}
    (ran : solver.steps taken = .ok last) : solver.stats.conflicts ≤ last.stats.conflicts := by
  refine upheld.run_keeps (fun reached => solver.stats.conflicts ≤ reached.stats.conflicts) le_rfl
    (fun _ transition before => ?_) ran
  rcases transition.conflicts with same | ⟨_, more⟩ <;> omega

end Solver

namespace Budget

/-- How a search under a budget ends at a solver: with what was found out, at the conflict limit, or
at a deadline. -/
inductive Ending (budget : Budget) (deadline : Option Number) (solver : Solver) :
    Except Fault Outcome → Prop
  /-- The search has ended. -/
  | decided (done : solver.isDone = true) : Ending budget deadline solver (.ok solver.outcome)
  /-- The conflicts have reached the limit. -/
  | limited {limit : Int} (going : solver.isDone = false)
      (given : budget.maxConflicts = some limit) (reached : limit ≤ solver.stats.conflicts) :
      Ending budget deadline solver (.ok (.unknown (.conflictLimit limit)))
  /-- The clock has reached the deadline. -/
  | late (going : solver.isDone = false) (timed : deadline.isSome = true) :
      Ending budget deadline solver (.ok (.unknown (.timeout (budget.timeout.getD .zero))))

variable {budget : Budget} {deadline : Option Number} {solver : Solver} {count : Nat}
  {Admitted : Clause → Prop}

/-- An end without a verdict is one of a search that has not ended. -/
theorem Ending.isDone_eq {result : Except Fault Outcome}
    (ending : Ending budget deadline solver result) :
    ∃ outcome, result = .ok outcome ∧ solver.isDone = outcome.isSat?.isSome ∧
      (solver.isDone = true → outcome = solver.outcome) := by
  cases ending with
  | decided done =>
    refine ⟨_, rfl, ?_, fun _ => rfl⟩
    rcases Solver.phase_of_isDone done with phase | phase <;>
      simp [Solver.outcome, Outcome.isSat?, phase, done]
  | limited going _ _ => exact ⟨_, rfl, going, fun done => by simp [going] at done⟩
  | late going _ => exact ⟨_, rfl, going, fun done => by simp [going] at done⟩

/-- What one round does: it ends the search under the budget, or it takes one step of a search that
has not ended and is below the conflict limit. -/
theorem round_cases (budget : Budget) (deadline : Option Number) {run : Run}
    (upheld : run.solver.Upheld count Admitted) :
    (∃ finished, budget.round deadline run = .finished finished ∧
      finished.run.solver = run.solver ∧ Ending budget deadline run.solver finished.result) ∨
    ∃ next, budget.round deadline run = .running next ∧ run.solver.step = .ok next.solver ∧
      run.solver.Transition next.solver ∧ run.solver.isDone = false ∧
      ∀ limit, budget.maxConflicts = some limit → run.solver.stats.conflicts < limit := by
  unfold round
  cases going : run.solver.isDone with
  | true => exact .inl ⟨_, rfl, rfl, .decided going⟩
  | false =>
    simp only [Bool.false_eq_true, if_false]
    cases limited : budget.reachedLimit? run.solver with
    | some limit =>
      obtain ⟨given, reached⟩ := Option.filter_eq_some_iff.1 limited
      exact .inl ⟨_, rfl, rfl, .limited going given (by simpa using reached)⟩
    | none =>
      have below : ∀ limit, budget.maxConflicts = some limit →
          (run.solver.stats.conflicts : Int) < limit := by
        intro limit given
        simpa [reachedLimit?, given] using limited
      cases late : (readDeadline deadline run.clock).1 with
      | true =>
        simp only [if_true]
        refine .inl ⟨_, rfl, rfl, .late going ?_⟩
        cases deadline with
        | none => simp [readDeadline] at late
        | some limit => rfl
      | false =>
        obtain ⟨next, stepped, transition⟩ := upheld.step_eq_ok
        simp only [stepped, Bool.false_eq_true, if_false]
        exact .inr ⟨_, rfl, rfl, transition, trivial, below⟩

/-- A search under a budget has led from a solver to its end. -/
structure Leads (budget : Budget) (deadline : Option Number) (start : Solver)
    (finished : Finished) : Prop where
  /-- Plain steps lead to the same place. -/
  steps : ∃ taken, start.steps taken = .ok finished.run.solver
  /-- The search is left there for a reason. -/
  ending : Ending budget deadline finished.run.solver finished.result
  /-- No conflict beyond the limit is met. -/
  spares : ∀ limit, budget.maxConflicts = some limit →
    (finished.run.solver.stats.conflicts : Int) ≤ max limit start.stats.conflicts
  /-- A search that comes to its end stays below the limit. -/
  below : ∀ limit, budget.maxConflicts = some limit → start.isDone = false →
    finished.run.solver.isDone = true → (finished.run.solver.stats.conflicts : Int) < limit

/-- A search under a budget may be left at once. -/
theorem Leads.here {start : Solver} {finished : Finished} (same : finished.run.solver = start)
    (ending : Ending budget deadline start finished.result) :
    Leads budget deadline start finished := by
  subst same
  refine ⟨⟨0, rfl⟩, ending, fun limit _ => le_max_right _ _, fun limit _ going done => ?_⟩
  simp [going] at done

/-- A step before a search under a budget is part of it, if it is taken below the conflict limit. The step
itself may have ended the search; it then met no conflict. -/
theorem Leads.cons {start next : Solver} {finished : Finished}
    (leads : Leads budget deadline next finished) (stepped : start.step = .ok next)
    (transition : start.Transition next)
    (limited : ∀ limit, budget.maxConflicts = some limit → start.stats.conflicts < limit) :
    Leads budget deadline start finished := by
  obtain ⟨taken, ran⟩ := leads.steps
  refine ⟨⟨taken + 1, ?_⟩, leads.ending, fun limit given => ?_, fun limit given _ done => ?_⟩
  · rw [Solver.steps, stepped]
    exact ran
  · have spared := leads.spares limit given
    have before := limited limit given
    rcases transition.conflicts with same | ⟨_, more⟩ <;> omega
  · cases going : next.isDone with
    | false => exact leads.below limit given going done
    | true =>
      rw [Solver.steps_of_isDone going] at ran
      rw [← Except.ok.inj ran]
      have before := limited limit given
      rcases transition.conflicts with same | ⟨open_, _⟩
      · omega
      · simp [going] at open_

/-- Rounds follow steps: once a number of steps has ended the search, one more round ends the search
under the budget, if no earlier one did. -/
theorem counted_leads (budget : Budget) (deadline : Option Number) (run : Run)
    (upheld : run.solver.Upheld count Admitted) {taken : Nat} {last : Solver}
    (ran : run.solver.steps taken = .ok last) (done : last.isDone = true) :
    ∃ finished, Round.counted (budget.round deadline) (taken + 1) run = .finished finished ∧
      Leads budget deadline run.solver finished := by
  induction taken generalizing run with
  | zero =>
    cases ran
    rw [Round.counted]
    rcases budget.round_cases deadline upheld with
      ⟨finished, ended, same, ending⟩ | ⟨next, _, _, _, going, _⟩
    · rw [ended]
      exact ⟨finished, rfl, .here same ending⟩
    · simp [going] at done
  | succ taken ih =>
    rw [Round.counted]
    rcases budget.round_cases deadline upheld with
      ⟨finished, ended, same, ending⟩ | ⟨next, running, stepped, transition, _, limited⟩
    · rw [ended]
      exact ⟨finished, rfl, .here same ending⟩
    · rw [Solver.steps, stepped] at ran
      obtain ⟨finished, counted, leads⟩ := ih next (transition.upheld upheld) ran
      rw [running]
      exact ⟨finished, counted, leads.cons stepped transition limited⟩

/-- The only fault of a deadline is a timeout past every double. -/
theorem deadline_eq_error {clock : Clock} {fault : Fault}
    (refused : (budget.deadline clock).1 = .error fault) : fault = .secondsTooLarge := by
  unfold Budget.deadline at refused
  split at refused
  · simp at refused
  · simp only at refused
    split at refused
    · exact (Except.error.inj refused).symm
    · simp at refused

/-- A search under a budget is refused if its deadline cannot be told, and leads to an end
otherwise. -/
theorem drive_cases (budget : Budget) (clock : Clock) (upheld : solver.Upheld count Admitted) :
    ((budget.deadline clock).1 = .error .secondsTooLarge ∧
      (budget.drive clock solver).result = .error .secondsTooLarge ∧
      (budget.drive clock solver).run.solver = solver) ∨
    ∃ deadline, (budget.deadline clock).1 = .ok deadline ∧
      Leads budget deadline solver (budget.drive clock solver) := by
  rcases shape : budget.deadline clock with ⟨told, later⟩
  simp only [drive, shape]
  cases told with
  | error fault =>
    obtain rfl := deadline_eq_error (congrArg Prod.fst shape)
    exact .inl ⟨rfl, rfl, rfl⟩
  | ok deadline =>
    obtain ⟨last, ran, done⟩ := upheld.exists_done
    obtain ⟨spare, rounds⟩ := Nat.exists_eq_add_of_le (Solver.stepBound_lt_rounds count)
    obtain ⟨finished, counted, leads⟩ :=
      budget.counted_leads deadline ⟨solver, later, []⟩ upheld ran done
    refine .inr ⟨deadline, rfl, ?_⟩
    simp only [upheld.numVars, Round.within_eq_counted]
    rw [rounds, Round.counted_add, counted]
    exact leads

/-- A search under no limit runs to the end. -/
theorem drive_unlimited (clock : Clock) (upheld : solver.Upheld count Admitted) :
    ∃ last, solver.solve = .ok (last, last.outcome) ∧
      ((⟨none, none⟩ : Budget).drive clock solver).run.solver = last ∧
      ((⟨none, none⟩ : Budget).drive clock solver).result = .ok last.outcome := by
  obtain ⟨last, whole, ran, done⟩ := upheld.run_eq_ok
  refine ⟨last, by rw [Solver.solve, whole]; rfl, ?_⟩
  rcases drive_cases ⟨none, none⟩ clock upheld with ⟨untold, _⟩ | ⟨deadline, told, leads⟩
  · simp [Budget.deadline] at untold
  · obtain rfl : none = deadline := Except.ok.inj told
    obtain ⟨taken, led⟩ := leads.steps
    have ending := leads.ending
    generalize ((⟨none, none⟩ : Budget).drive clock solver).result = result at ending ⊢
    cases ending with
    | decided ended =>
      have same := Solver.done_unique led ended ran done
      rw [same]
      exact ⟨rfl, rfl⟩
    | limited _ given _ => simp at given
    | late _ timed => simp at timed

/-- What a search under a budget, begun at a solver, leaves behind. -/
structure Transparent (budget : Budget) (clock : Clock) (solver : Solver) : Prop where
  /-- Plain steps lead to where the search is left. -/
  steps : ∃ taken, solver.steps taken = .ok (budget.drive clock solver).run.solver
  /-- There is an answer, unless the deadline cannot be told. -/
  answers : (∃ outcome, (budget.drive clock solver).result = .ok outcome) ∨
    (budget.deadline clock).1 = .error .secondsTooLarge
  /-- The answer is a verdict exactly if the search has ended, and then it is that of the search. -/
  told : ∀ outcome, (budget.drive clock solver).result = .ok outcome →
    (budget.drive clock solver).run.solver.isDone = outcome.isSat?.isSome ∧
      (outcome.isSat?.isSome = true → outcome = (budget.drive clock solver).run.solver.outcome)
  /-- No conflict beyond the limit is met. -/
  spares : ∀ limit, budget.maxConflicts = some limit →
    ((budget.drive clock solver).run.solver.stats.conflicts : Int) ≤
      max limit solver.stats.conflicts

/-- Every search under a budget is transparent. -/
theorem transparent (budget : Budget) (clock : Clock) (upheld : solver.Upheld count Admitted) :
    budget.Transparent clock solver := by
  rcases budget.drive_cases clock upheld with ⟨untold, refused, same⟩ | ⟨deadline, _, leads⟩
  · refine ⟨⟨0, by rw [same]; rfl⟩, .inr untold, fun outcome found => ?_, fun limit _ => ?_⟩
    · simp [refused] at found
    · rw [same]
      exact le_max_right _ _
  · obtain ⟨outcome, found, done, verdict⟩ := leads.ending.isDone_eq
    refine ⟨leads.steps, .inl ⟨outcome, found⟩, fun other same => ?_, leads.spares⟩
    obtain rfl : outcome = other := Except.ok.inj (found.symm.trans same)
    exact ⟨done, fun decided => verdict (done.trans decided)⟩

/-- Without a timeout, a conflict limit leaves a search undecided exactly if the search to the end
meets as many conflicts. -/
theorem decided_iff (limit : Int) (clock : Clock) (upheld : solver.Upheld count Admitted)
    (going : solver.isDone = false) {last : Solver} {taken : Nat}
    (ran : solver.steps taken = .ok last) (done : last.isDone = true) :
    ∃ outcome, ((⟨none, some limit⟩ : Budget).drive clock solver).result = .ok outcome ∧
      (outcome.isSat?.isSome = true ↔ last.stats.conflicts < limit) := by
  rcases drive_cases ⟨none, some limit⟩ clock upheld with ⟨untold, _⟩ | ⟨deadline, told, leads⟩
  · simp [Budget.deadline] at untold
  obtain rfl : none = deadline := Except.ok.inj told
  obtain ⟨outcome, found, ended, _⟩ := leads.ending.isDone_eq
  obtain ⟨before, led⟩ := leads.steps
  have reached := upheld.steps led
  refine ⟨outcome, found, fun decided => ?_, fun fewer => ?_⟩
  · rw [← ended] at decided
    rw [← Solver.done_unique led decided ran done]
    exact leads.below limit rfl going decided
  · have ending := leads.ending
    rw [found] at ending
    generalize shape : Except.ok outcome = result at ending
    cases ending with
    | decided halted => rw [← ended, halted]
    | @limited bound _ given attained =>
      obtain rfl : limit = bound := Option.some.inj given
      obtain ⟨final, _, onward, finished⟩ := reached.run_eq_ok
      have same := Solver.done_unique (Solver.steps_trans led onward) finished ran done
      have rises := reached.conflicts_le onward
      rw [same] at rises
      omega
    | late _ timed => simp at timed

end Budget

namespace Solver

/-- A way of moving a search on. -/
inductive Move where
  /-- A number of steps. -/
  | steps (taken : Nat)
  /-- A search under a budget, by a clock. -/
  | within (budget : Budget) (clock : Clock)

/-- The solver as a move leaves it. -/
def move (solver : Solver) : Move → Except Fault Solver
  | .steps taken => solver.steps taken
  | .within budget clock => .ok (budget.drive clock solver).run.solver

variable {count : Nat} {Admitted : Clause → Prop} {solver : Solver}

/-- Plain steps lead to where a move leads. -/
theorem Upheld.move_eq_ok (upheld : Upheld count Admitted solver) (move : Move) :
    ∃ next taken, solver.move move = .ok next ∧ solver.steps taken = .ok next := by
  cases move with
  | steps taken =>
    obtain ⟨next, ran⟩ := upheld.steps_eq_ok taken
    exact ⟨next, taken, ran, ran⟩
  | within budget clock =>
    obtain ⟨taken, ran⟩ := (budget.transparent clock upheld).steps
    exact ⟨_, taken, rfl, ran⟩

/-- Plain steps lead to where moves lead, one after another. -/
theorem Upheld.moves_eq_ok (upheld : Upheld count Admitted solver) (moves : List Move) :
    ∃ next taken, moves.foldlM Solver.move solver = .ok next ∧ solver.steps taken = .ok next := by
  induction moves generalizing solver with
  | nil => exact ⟨solver, 0, rfl, rfl⟩
  | cons move rest ih =>
    obtain ⟨next, first, moved, ran⟩ := upheld.move_eq_ok move
    obtain ⟨last, second, onward, further⟩ := ih (upheld.steps ran)
    refine ⟨last, first + second, ?_, steps_trans ran further⟩
    rw [List.foldlM_cons, moved]
    exact onward

/-- Budgets do not show in a search. Whatever steps and searches under a budget a fresh solver is put
through, plain steps lead to the same place, running to the end from there gives what running the
fresh solver to the end gives, and a further search under any budget leaves the solver where plain
steps lead, tells a verdict exactly if the search has ended, and meets no conflict beyond its limit.
On the fresh solver, without a timeout, a conflict limit allows a verdict exactly if the search to the
end meets fewer conflicts. -/
theorem driving_transparent (configuration : Configuration) (formula : Formula) :
    (∀ moves : List Move, ∃ solver,
      moves.foldlM Solver.move (fresh configuration formula) = .ok solver ∧
      (∃ taken, (fresh configuration formula).steps taken = .ok solver) ∧
      solver.solve = (fresh configuration formula).solve ∧
      ∀ (budget : Budget) (clock : Clock), budget.Transparent clock solver) ∧
    ∃ last, (fresh configuration formula).solve = .ok (last, last.outcome) ∧ last.isDone = true ∧
      ∀ (limit : Int) (clock : Clock), ∃ outcome,
        ((⟨none, some limit⟩ : Budget).drive clock (fresh configuration formula)).result =
          .ok outcome ∧
        (outcome.isSat?.isSome = true ↔ last.stats.conflicts < limit) := by
  have upheld : Upheld formula.numVars (fun _ => True) (fresh configuration formula) :=
    upheld_fresh configuration formula (fun _ _ => trivial) fun _ _ => trivial
  refine ⟨fun moves => ?_, ?_⟩
  · obtain ⟨solver, taken, moved, ran⟩ := upheld.moves_eq_ok moves
    exact ⟨solver, moved, ⟨taken, ran⟩, upheld.solve_of_steps ran,
      fun budget clock => budget.transparent clock (upheld.steps ran)⟩
  · obtain ⟨last, whole, ran, done⟩ := upheld.run_eq_ok
    refine ⟨last, ?_, done, fun limit clock => Budget.decided_iff limit clock upheld rfl ran done⟩
    rw [solve, whole]
    rfl

end Solver

end Clausal
