import Mathlib
import Clausal.Outcome
import Clausal.Proofs.LevelCounts
import Clausal.Proofs.SearchStates

/-!
# Every search ends

The counts of entries per level grow whenever a search goes on searching and never fall when it meets
a conflict. There are only so many lists of counts for a number of variables, and a search never meets
two conflicts in a row, so the number of steps is bounded by the number of variables alone. The bound
that the loops carry covers it.
-/

namespace Clausal

namespace Solver

/-- A number of steps after which every search over the given number of variables has ended. -/
def stepBound (numVars : Nat) : Nat :=
  2 * (numVars + 1) ^ (numVars + 1)

variable {count : Nat} {Admitted : Clause → Prop} {formula : Formula}
  {configuration : Configuration} {solver next : Solver}

/-- The level of a search is bounded by the number of variables. -/
theorem Upheld.level_le (upheld : Upheld count Admitted solver) : solver.trail.level ≤ count :=
  upheld.grounded.level_le_size.trans upheld.grounded.size_le

/-- A transition that leads to searching makes the counts of entries grow. -/
theorem Upheld.levelCounts_lt (upheld : Upheld count Admitted solver)
    (transition : Transition solver next) (searching : next.phase = .searching) :
    solver.trail.levelCounts count < next.trail.levelCounts count := by
  have coherent := upheld.grounded.coherent
  have deeper := (transition.upheld upheld).level_le
  cases transition with
  | blamed _ _ => simp at searching
  | satisfied _ _ _ => simp at searching
  | refuted _ _ => simp at searching
  | ended done => simp [isDone, searching, Phase.isFinal] at done
  | @decided propagator final literal _ answer picked =>
    have level : (final.newLevel.extend literal none).level = solver.trail.level + 1 := by
      rw [← answer.forces.level_eq]
      exact final.level_newLevel
    refine answer.forces.levelCounts_lt_decide literal ?_
    rw [← level]
    exact deeper
  | asserted _ _ asserts => exact asserts.levelCounts_lt coherent _ upheld.level_le
  | learned _ _ asserts _ => exact asserts.levelCounts_lt coherent _ upheld.level_le

/-- A transition that leads to a conflict does not make the counts of entries fall. -/
theorem Upheld.levelCounts_le (upheld : Upheld count Admitted solver)
    (transition : Transition solver next) {conflict : Clause}
    (conflicting : next.phase = .conflicting conflict) :
    solver.phase = .searching ∧
      solver.trail.levelCounts count ≤ next.trail.levelCounts count := by
  cases transition with
  | blamed searching answer => exact ⟨searching, answer.forces.levelCounts_le upheld.level_le⟩
  | satisfied _ _ _ => simp at conflicting
  | refuted _ _ => simp at conflicting
  | ended done => simp [isDone, conflicting, Phase.isFinal] at done
  | decided searching _ _ =>
    have same : solver.phase = .conflicting conflict := conflicting
    simp [searching] at same
  | asserted _ _ _ => simp at conflicting
  | learned _ _ _ _ => simp at conflicting

/-- How far a search has come: its counts of entries as a number, and whether it has met a
conflict since they last grew. -/
def progress (numVars : Nat) (solver : Solver) : Nat :=
  2 * rankIn (numVars + 1) (solver.trail.levelCounts numVars) +
    if solver.phase = .searching then 0 else 1

/-- The progress of a search is bounded. -/
theorem Upheld.progress_lt (upheld : Upheld count Admitted solver) :
    solver.progress count < stepBound count := by
  have bound := rankIn_lt upheld.grounded.levelCounts_le
  rw [Trail.length_levelCounts] at bound
  unfold progress stepBound
  split <;> omega

/-- A transition that does not end the search is progress. -/
theorem Transition.progress_lt (transition : Transition solver next)
    (upheld : Upheld count Admitted solver) (going : next.isDone = false) :
    solver.progress count < next.progress count := by
  have length : (solver.trail.levelCounts count).length =
      (next.trail.levelCounts count).length := by
    rw [Trail.length_levelCounts, Trail.length_levelCounts]
  have small := upheld.grounded.levelCounts_le
  unfold progress
  cases phase : next.phase with
  | searching =>
    have grows := rankIn_lt_rankIn length small (upheld.levelCounts_lt transition phase)
    rw [if_pos rfl]
    split <;> omega
  | conflicting conflict =>
    obtain ⟨searching, kept⟩ := upheld.levelCounts_le transition phase
    rw [if_pos searching, if_neg (by simp)]
    rcases eq_or_lt_of_le kept with same | grows
    · rw [same]
      omega
    · have more := rankIn_lt_rankIn length small grows
      omega
  | satisfied => simp [isDone, phase, Phase.isFinal] at going
  | refuted => simp [isDone, phase, Phase.isFinal] at going

/-- A search that has ended is satisfied or refuted. -/
theorem phase_of_isDone (done : solver.isDone = true) :
    solver.phase = .satisfied ∨ solver.phase = .refuted := by
  cases phase : solver.phase <;> simp [isDone, phase, Phase.isFinal] at done ⊢

/-- A search that has ended stays as it is. -/
theorem steps_of_isDone (done : solver.isDone = true) (taken : Nat) :
    solver.steps taken = .ok solver := by
  have still : solver.step = .ok solver := by
    unfold step
    rcases phase_of_isDone done with phase | phase <;> simp only [phase]
  induction taken with
  | zero => rfl
  | succ taken ih =>
    rw [steps, still]
    exact ih

/-- After any number of steps a search has ended or has made as much progress. -/
theorem Upheld.steps_progress (upheld : Upheld count Admitted solver) (taken : Nat) :
    ∃ last, solver.steps taken = .ok last ∧
      (last.isDone = true ∨ solver.progress count + taken ≤ last.progress count) := by
  induction taken generalizing solver with
  | zero => exact ⟨solver, rfl, .inr le_rfl⟩
  | succ taken ih =>
    obtain ⟨next, stepped, transition⟩ := upheld.step_eq_ok
    simp only [Solver.steps, stepped]
    cases going : next.isDone with
    | true => exact ⟨next, steps_of_isDone going taken, .inl going⟩
    | false =>
      obtain ⟨last, ran, ended | advanced⟩ := ih (transition.upheld upheld)
      · exact ⟨last, ran, .inl ended⟩
      · refine ⟨last, ran, .inr ?_⟩
        have more := transition.progress_lt upheld going
        omega

/-- Every search has ended after the bound. -/
theorem Upheld.exists_done (upheld : Upheld count Admitted solver) :
    ∃ last, solver.steps (stepBound count) = .ok last ∧ last.isDone = true := by
  obtain ⟨last, ran, ended | advanced⟩ := upheld.steps_progress (stepBound count)
  · exact ⟨last, ran, ended⟩
  · have bound := (upheld.steps ran).progress_lt
    omega

/-- Rounds follow steps: once a number of steps has ended the search, one more round finds so. -/
theorem counted_of_steps {last : Solver} {count : Nat} (ran : solver.steps count = .ok last)
    (done : last.isDone = true) : Round.counted round (count + 1) solver = .finished (.ok last) := by
  induction count generalizing solver with
  | zero =>
    cases ran
    simp [Round.counted, round, done]
  | succ count ih =>
    rw [Round.counted]
    cases going : solver.isDone with
    | true =>
      rw [steps_of_isDone going] at ran
      cases ran
      simp [round, done]
    | false =>
      cases stepped : solver.step with
      | error fault =>
        rw [steps, stepped] at ran
        cases ran
      | ok next =>
        rw [steps, stepped] at ran
        simp only [round, going, stepped, Bool.false_eq_true, if_false]
        exact ih ran

/-- The bound that the loops carry exceeds the bound on steps. -/
theorem stepBound_lt_rounds (numVars : Nat) :
    stepBound numVars + 1 ≤ Nat.pow 2 (doublings numVars) - 1 := by
  have digit : numVars + 1 ≤ 2 ^ ((numVars + 1).log2 + 1) := Nat.lt_log2_self.le
  have power : (numVars + 1) ^ (numVars + 1) ≤
      2 ^ ((numVars + 1) * ((numVars + 1).log2 + 1)) := by
    rw [mul_comm, pow_mul]
    exact Nat.pow_le_pow_left digit _
  have shape : Nat.pow 2 (doublings numVars) =
      2 ^ ((numVars + 1) * ((numVars + 1).log2 + 1)) * 4 := by
    show 2 ^ (doublings numVars) = _
    rw [doublings, pow_add]
    norm_num
  have positive : 0 < (numVars + 1) ^ (numVars + 1) := Nat.pow_pos (Nat.succ_pos _)
  rw [shape, stepBound]
  omega

/-- Running to the end gives the search at its end. -/
theorem Upheld.run_eq_ok (upheld : Upheld count Admitted solver) :
    ∃ last, solver.run = .ok last ∧ solver.steps (stepBound count) = .ok last ∧
      last.isDone = true := by
  obtain ⟨last, ran, done⟩ := upheld.exists_done
  refine ⟨last, ?_, ran, done⟩
  obtain ⟨spare, rounds⟩ := Nat.exists_eq_add_of_le (stepBound_lt_rounds count)
  unfold run
  rw [upheld.numVars, Round.within_eq_counted, rounds, Round.counted_add,
    counted_of_steps ran done]

/-- Every search of a formula read from signed clauses ends within a number of steps that its number
of variables bounds. The counts of entries per level grow with every step that leads to searching
and do not fall with a step that leads to a conflict. Running to the end ends. -/
theorem search_terminates (configuration : Configuration) {signed : List (List Int)} {count : Int}
    {formula : Formula} (accepted : Formula.ofDimacs signed count = .ok formula) :
    (∃ taken ≤ stepBound formula.numVars, ∃ last,
      (fresh configuration formula).steps taken = .ok last ∧ last.isDone = true) ∧
    (∀ taken before after, (fresh configuration formula).steps taken = .ok before →
      before.step = .ok after →
      (after.phase = .searching →
        before.trail.levelCounts formula.numVars < after.trail.levelCounts formula.numVars) ∧
      (∀ conflict, after.phase = .conflicting conflict →
        before.trail.levelCounts formula.numVars ≤ after.trail.levelCounts formula.numVars)) ∧
    ∃ last, (fresh configuration formula).solve = .ok (last, last.outcome) ∧
      last.isDone = true := by
  have start := invariant_fresh configuration (Formula.ofDimacs_eq_ok accepted).2.1
  refine ⟨?_, fun taken before after ran stepped => ?_, ?_⟩
  · obtain ⟨last, ran, done⟩ := start.exists_done
    exact ⟨stepBound formula.numVars, le_rfl, last, ran, done⟩
  · have invariant := start.steps ran
    obtain ⟨next, found, transition⟩ := invariant.step_eq_ok
    rw [found] at stepped
    obtain rfl := Except.ok.inj stepped
    exact ⟨invariant.levelCounts_lt transition,
      fun conflict met => (invariant.levelCounts_le transition met).2⟩
  · obtain ⟨last, ran, _, done⟩ := start.run_eq_ok
    refine ⟨last, ?_, done⟩
    rw [solve, ran]
    rfl

/-- A search without learning over three variables ends within the bound for three variables. Its third step
leads to a conflict at level 2 and does not make the counts of entries fall; its fourth one jumps back to
search on, and makes them grow. -/
theorem search_terminates_jump :
    ∃ formula, Formula.ofDimacs [[2, 3], [2, -3], [-2, 3], [-2, -3]] 3 = .ok formula ∧
      (∃ taken ≤ stepBound 3, ∃ last,
        (fresh ⟨.backjump, .ordered, .watched⟩ formula).steps taken = .ok last ∧
          last.isDone = true) ∧
      ∃ decided blamed jumped conflict,
        (fresh ⟨.backjump, .ordered, .watched⟩ formula).steps 2 = .ok decided ∧
        decided.step = .ok blamed ∧ blamed.step = .ok jumped ∧
        blamed.phase = .conflicting conflict ∧ blamed.trail.level = 2 ∧
        decided.trail.levelCounts 3 ≤ blamed.trail.levelCounts 3 ∧
        jumped.phase = .searching ∧ jumped.trail.level < 2 ∧
        blamed.trail.levelCounts 3 < jumped.trail.levelCounts 3 := by
  obtain ⟨formula, blamed, conflict, accepted, ran, conflicting, -, forces⟩ :=
    exists_conflict_above .backjump .watched
  have numVars : formula.numVars = 3 := by
    have counted := (Formula.ofDimacs_eq_ok accepted).1
    omega
  have deep : blamed.trail.level = 2 := forces.level_eq
  obtain ⟨ended, counts, -⟩ := search_terminates ⟨.backjump, .ordered, .watched⟩ accepted
  rw [numVars] at ended counts
  have invariant := invariant_of_steps accepted ran
  have cut : (fresh ⟨.backjump, .ordered, .watched⟩ formula).steps (2 + 1) = .ok blamed := ran
  obtain ⟨decided, early, late⟩ := steps_cut cut
  have third : decided.step = .ok blamed := by
    obtain ⟨next, stepped, -⟩ := (invariant_of_steps accepted early).step_eq_ok
    rw [steps, stepped] at late
    exact stepped.trans late
  obtain ⟨jumped, fourth, transition⟩ := invariant.step_eq_ok
  have searching : jumped.phase = .searching ∧ jumped.trail.level < 2 := by
    cases transition with
    | refuted _ ground => omega
    | asserted _ _ asserts _ =>
      have low := asserts.below
      rw [deep] at low
      exact ⟨rfl, asserts.level_undoTo.trans_lt low⟩
    | learned _ _ asserts _ =>
      have low := asserts.below
      rw [deep] at low
      exact ⟨rfl, asserts.level_undoTo.trans_lt low⟩
    | blamed searching _ => simp [conflicting] at searching
    | satisfied searching _ _ => simp [conflicting] at searching
    | decided searching _ _ => simp [conflicting] at searching
    | ended done => simp [isDone, conflicting, Phase.isFinal] at done
  exact ⟨formula, accepted, ended, decided, blamed, jumped, conflict, early, third, fourth, conflicting,
    deep, (counts 2 decided blamed early third).2 conflict conflicting, searching.1, searching.2,
    (counts 3 blamed jumped ran fourth).1 searching.1⟩

end Solver

end Clausal
