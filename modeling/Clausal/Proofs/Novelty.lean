import Mathlib
import Clausal.Proofs.SearchStates

/-!
# Learned clauses are new

Nothing looks for repetitions when a clause is learned, and none is ever needed. At the level to go back
to, the clause has one literal without a value and all others false. A clause whose literals are among
these would force the same literal there, or be falsified, but below the current level propagation has
left every clause settled, those learned since included. So no learned clause holds all literals of a
clause that was there before it.
-/

namespace Clausal

/-- On a saturated trail no clause lies within the clause that answers a conflict. -/
theorem Analysis.Asserts.not_subset {conflict clause other : Clause} {trail : Trail} {level : Nat}
    {asserting : Literal} {clauses : List Clause}
    (asserts : Analysis.Asserts conflict trail clause level asserting) (coherent : trail.Coherent)
    (saturated : trail.Saturated clauses) (listed : other ∈ clauses) :
    ¬other.literals ⊆ clause.literals := by
  intro inside
  have denied : ∀ literal ∈ other.literals, literal ≠ asserting →
      literal.value (trail.upTo level) = some false := by
    intro literal member different
    obtain ⟨cause, present, opposite, _, low⟩ := asserts.others literal (inside member) different
    exact (coherent.value_upTo_eq_false_iff ..).2 ⟨cause, present, opposite, low⟩
  have held := (saturated level asserts.below other listed).value_eq_true denied
  rw [Literal.value_eq_true_iff, asserts.free coherent le_rfl] at held
  simp at held

namespace Solver

variable {formula : Formula} {configuration : Configuration} {solver next : Solver}

/-- No learned clause holds all literals of an input clause or of a clause learned before it. -/
structure Novel (solver : Solver) : Prop where
  /-- No learned clause holds all literals of an input clause. -/
  inputs : ∀ learned ∈ solver.formula.learned, ∀ input ∈ solver.formula.clauses,
    ¬input.literals ⊆ learned.literals
  /-- No learned clause holds all literals of a clause learned before it. -/
  earlier : solver.formula.learned.Pairwise fun earlier later => ¬earlier.literals ⊆ later.literals

/-- A search begins with nothing learned. -/
theorem novel_fresh (configuration : Configuration) (unlearned : formula.learned = []) :
    (fresh configuration formula).Novel := by
  have empty : (fresh configuration formula).formula.learned = [] := unlearned
  constructor
  · simp [empty]
  · simp [empty]

/-- A transition learns a new clause or none. -/
theorem Transition.novel (transition : Transition solver next)
    (invariant : Invariant formula configuration solver) (novel : solver.Novel) : next.Novel := by
  cases transition with
  | @learned conflict clause level asserting grown _ _ asserts added =>
    obtain ⟨_, clauses, extended⟩ := Formula.addLearned_shape added
    have new : ∀ other ∈ solver.formula.allClauses, ¬other.literals ⊆ clause.literals :=
      fun other listed =>
        asserts.not_subset invariant.grounded.coherent invariant.saturated listed
    constructor
    · intro learned member input listed
      rw [extended] at member
      rw [clauses] at listed
      rcases List.mem_append.1 member with old | last
      · exact novel.inputs learned old input listed
      · rw [List.mem_singleton.1 last]
        exact new input (List.mem_append_left _ listed)
    · rw [extended, List.pairwise_append]
      refine ⟨novel.earlier, List.pairwise_singleton .., fun earlier old later last => ?_⟩
      rw [List.mem_singleton.1 last]
      exact new earlier (List.mem_append_right _ old)
  | blamed _ _ => exact ⟨novel.inputs, novel.earlier⟩
  | satisfied _ _ _ => exact ⟨novel.inputs, novel.earlier⟩
  | decided _ _ _ => exact ⟨novel.inputs, novel.earlier⟩
  | refuted _ _ => exact ⟨novel.inputs, novel.earlier⟩
  | asserted _ _ _ _ => exact ⟨novel.inputs, novel.earlier⟩
  | ended _ => exact novel

/-- In a conflict above level 0 a search that learns appends a clause to the learned ones. -/
theorem Invariant.step_learns (invariant : Invariant formula configuration solver)
    (learns : configuration.variant = .cdcl) {conflict : Clause}
    (conflicting : solver.phase = .conflicting conflict) (above : 0 < solver.trail.level) :
    ∃ next clause, solver.step = .ok next ∧
      next.formula.learned = solver.formula.learned ++ [clause] := by
  obtain ⟨next, stepped, transition⟩ := invariant.step_eq_ok
  cases transition with
  | learned _ _ _ added => exact ⟨_, _, stepped, (Formula.addLearned_shape added).2.2⟩
  | blamed searching _ => simp [conflicting] at searching
  | satisfied searching _ _ => simp [conflicting] at searching
  | decided searching _ _ => simp [conflicting] at searching
  | refuted _ ground => omega
  | asserted _ forgets _ _ => exact absurd (invariant.variant.trans learns) forgets
  | ended done => simp [isDone, conflicting, Phase.isFinal] at done

/-- In every state of a search that learns, no learned clause holds all literals of an input clause or
of a clause learned before it. So the learned clauses differ as sets of literals from each other and
from every input clause. -/
theorem learned_new (strategy : Strategy) (propagation : Propagation) {signed : List (List Int)}
    {count : Int} {formula : Formula} (accepted : Formula.ofDimacs signed count = .ok formula)
    {taken : Nat} {solver : Solver}
    (ran : (fresh ⟨.cdcl, strategy, propagation⟩ formula).steps taken = .ok solver) :
    (∀ learned ∈ solver.formula.learned, ∀ input ∈ formula.clauses,
      ¬input.literals ⊆ learned.literals ∧
        input.literals.toFinset ≠ learned.literals.toFinset) ∧
    solver.formula.learned.Pairwise fun earlier later =>
      ¬earlier.literals ⊆ later.literals ∧
        earlier.literals.toFinset ≠ later.literals.toFinset := by
  have unlearned := (Formula.ofDimacs_eq_ok accepted).2.1
  have start := invariant_fresh ⟨.cdcl, strategy, propagation⟩ unlearned
  have novel : solver.Novel := run_keeps start (novel_fresh _ unlearned)
    (fun kept transition before => transition.novel kept before) ran
  have apart : ∀ {left right : Clause}, ¬left.literals ⊆ right.literals →
      left.literals.toFinset ≠ right.literals.toFinset := by
    intro left right outside same
    exact outside fun literal member =>
      List.mem_toFinset.1 (same ▸ List.mem_toFinset.2 member)
  refine ⟨fun learned member input listed => ?_, novel.earlier.imp fun outside =>
    ⟨outside, apart outside⟩⟩
  rw [← (start.steps ran).clauses] at listed
  have outside := novel.inputs learned member input listed
  exact ⟨outside, apart outside⟩

/-- After four steps a search has learned from its conflict at level 2 one clause, which none of the four
input clauses lies within. -/
theorem learned_new_four :
    ∃ formula solver clause,
      Formula.ofDimacs [[2, 3], [2, -3], [-2, 3], [-2, -3]] 3 = .ok formula ∧
      (fresh ⟨.cdcl, .ordered, .watched⟩ formula).steps 4 = .ok solver ∧
      solver.formula.learned = [clause] ∧ formula.clauses.length = 4 ∧
      ∀ input ∈ formula.clauses, ¬input.literals ⊆ clause.literals := by
  obtain ⟨formula, solver, conflict, accepted, ran, conflicting, same, forces⟩ :=
    exists_conflict_above .cdcl .watched
  have two : solver.trail.level = 2 := forces.level_eq
  obtain ⟨next, clause, stepped, learned⟩ :=
    (invariant_of_steps accepted ran).step_learns rfl conflicting (by omega)
  have further := steps_concat ran stepped
  rw [same, (Formula.ofDimacs_eq_ok accepted).2.1, List.nil_append] at learned
  have four : (Formula.ofDimacs [[2, 3], [2, -3], [-2, 3], [-2, -3]] 3).toOption.all fun formula =>
      formula.clauses.length = 4 := by decide
  rw [accepted] at four
  refine ⟨formula, next, clause, accepted, further, learned, by simpa [Except.toOption] using four,
    fun input listed => ?_⟩
  exact ((learned_new .ordered .watched accepted further).1 clause (by simp [learned]) input listed).1

end Solver

end Clausal
