import Mathlib
import Clausal.Proofs.Termination

/-!
# What a search decides is right

A search that ends satisfied has found a model, and a search that ends refuted shows that there is
none. The first holds since no clause is left falsified or unit when every variable has a value. The
second holds since everything at level 0 is implied by the input clauses, and so is the falsified
clause.
-/

namespace Clausal

namespace Solver

variable {formula : Formula} {configuration : Configuration} {solver : Solver}

/-- A formula that a search has refuted holds in no reading. -/
theorem Invariant.not_satisfiable (invariant : Invariant formula configuration solver)
    (refuted : solver.phase = .refuted) : ¬formula.Satisfiable := by
  rintro ⟨reading, holds⟩
  obtain ⟨ground, clause, listed, falsified⟩ := invariant.refuted refuted
  have coherent := invariant.grounded.coherent
  have agrees : ∀ entry ∈ solver.trail.entries, entry.level ≤ 0 → entry.literal.Holds reading := by
    refine invariant.grounded.holds_of_decisions (fun clause admitted => admitted reading holds) ?_
    intro entry member decision low
    have above := invariant.grounded.decision_level_pos member decision
    omega
  obtain ⟨literal, inside, true_⟩ := invariant.entails clause listed reading holds
  have denied := (Clause.status_eq_falsified_iff ..).1 falsified literal inside
  obtain ⟨entry, present, same⟩ := (coherent.valueOf_eq_false_iff literal).1 denied
  have bound := coherent.level_le present
  have opposite := agrees entry present (by omega)
  rw [same, Literal.holds_negate_iff] at opposite
  exact opposite true_

/-- In a satisfied search some literal of each clause is true. -/
theorem Invariant.exists_true (invariant : Invariant formula configuration solver)
    (satisfied : solver.phase = .satisfied) {clause : Clause}
    (listed : clause ∈ solver.formula.allClauses) :
    ∃ literal ∈ clause.literals, literal.InRange formula.numVars ∧
      literal.value solver.trail.value = some true := by
  obtain ⟨assigned, settled, _⟩ := invariant.satisfied satisfied
  rcases (Clause.settled_iff ..).1 (settled clause listed) with
    ⟨literal, member, truth⟩ | ⟨left, member, _, _, _, free, _⟩
  · exact ⟨literal, member, invariant.inRange clause listed literal member, truth⟩
  · obtain ⟨low, high⟩ := invariant.inRange clause listed left member
    have given := assigned left.var low high
    rw [← Trail.isAssigned_eq_false_iff, given] at free
    simp at free

/-- The model of a satisfied search makes the formula hold. -/
theorem Invariant.holds_model (invariant : Invariant formula configuration solver)
    (satisfied : solver.phase = .satisfied) :
    formula.Holds (solver.trail.model formula.numVars).reading := by
  intro clause input
  have listed : clause ∈ solver.formula.allClauses := by
    refine List.mem_append_left _ ?_
    rw [invariant.clauses]
    exact input
  obtain ⟨literal, member, ⟨low, high⟩, truth⟩ := invariant.exists_true satisfied listed
  refine ⟨literal, member, ?_⟩
  rw [Literal.value_eq_true_iff] at truth
  exact Trail.reading_model low high truth

/-- A search of a formula read from signed clauses decides them: where it ends satisfied its outcome
is a model of the signed clauses that assigns exactly their variables, and where it ends refuted no
assignment of the variables satisfies them all. -/
theorem search_decides (configuration : Configuration) {signed : List (List Int)} {count : Int}
    {formula : Formula} (accepted : Formula.ofDimacs signed count = .ok formula) {taken : Nat}
    {solver : Solver} (ran : (fresh configuration formula).steps taken = .ok solver) :
    (solver.phase = .satisfied → ∃ model, solver.outcome = .satisfiable model ∧
      model.TotalOn count ∧ isModel signed model = true) ∧
    (solver.phase = .refuted → ∀ model : Assignment, model.TotalOn count →
      isModel signed model = false) := by
  obtain ⟨numVars, unlearned, _⟩ := Formula.ofDimacs_eq_ok accepted
  have invariant := (invariant_fresh configuration unlearned).steps ran
  refine ⟨fun satisfied => ?_, fun refuted model total => ?_⟩
  · have total := solver.trail.totalOn_model formula.numVars
    rw [numVars] at total
    refine ⟨solver.trail.model formula.numVars, ?_, total,
      (total.isModel_iff accepted).2 (invariant.holds_model satisfied)⟩
    rw [outcome, satisfied, invariant.numVars]
  · rw [← Bool.not_eq_true, total.isModel_iff accepted]
    exact fun holds => invariant.not_satisfiable refuted ⟨_, holds⟩

/-- Both ends are reached: a clause with a repeated literal and one that holds a literal with its
negation leave a model to be found, and a literal with its negation as clauses of their own leave
none. -/
theorem search_decides_both :
    (∃ formula taken solver model,
      Formula.ofDimacs [[1, 2], [-1, -1], [2, -2]] 2 = .ok formula ∧
      (fresh ⟨.cdcl, .jeroslow, .watched⟩ formula).steps taken = .ok solver ∧
      solver.outcome = .satisfiable model ∧ model.TotalOn 2 ∧
      isModel [[1, 2], [-1, -1], [2, -2]] model = true) ∧
    ∃ formula taken solver, Formula.ofDimacs [[1], [-1]] 1 = .ok formula ∧
      (fresh ⟨.plain, .ordered, .naive⟩ formula).steps taken = .ok solver ∧
      solver.phase = .refuted ∧
      ∀ model : Assignment, model.TotalOn 1 → isModel [[1], [-1]] model = false := by
  constructor
  · obtain ⟨formula, accepted⟩ : ∃ formula,
      Formula.ofDimacs [[1, 2], [-1, -1], [2, -2]] 2 = .ok formula := ⟨_, rfl⟩
    have begun :=
      invariant_fresh ⟨.cdcl, .jeroslow, .watched⟩ (Formula.ofDimacs_eq_ok accepted).2.1
    obtain ⟨last, ran, done⟩ := begun.exists_done
    obtain ⟨right, wrong⟩ := search_decides _ accepted ran
    rcases phase_of_isDone done with satisfied | refuted
    · obtain ⟨model, found, total, valid⟩ := right satisfied
      exact ⟨formula, _, last, model, accepted, ran, found, total, valid⟩
    · have total : (⟨[(1, false), (2, true)]⟩ : Assignment).TotalOn 2 := by
        refine Assignment.totalOn_of_vars fun var => ?_
        simp only [List.map_cons, List.map_nil, List.mem_cons, List.not_mem_nil, or_false]
        omega
      exact absurd (wrong refuted _ total) (by decide)
  · obtain ⟨formula, accepted⟩ : ∃ formula, Formula.ofDimacs [[1], [-1]] 1 = .ok formula := ⟨_, rfl⟩
    have begun :=
      invariant_fresh ⟨.plain, .ordered, .naive⟩ (Formula.ofDimacs_eq_ok accepted).2.1
    obtain ⟨last, ran, done⟩ := begun.exists_done
    obtain ⟨right, wrong⟩ := search_decides _ accepted ran
    rcases phase_of_isDone done with satisfied | refuted
    · obtain ⟨model, _, _, valid⟩ := right satisfied
      simp only [isModel, violatedClauses, satisfiesSigned] at valid
      cases held : model.get? 1 with
      | none => simp [held] at valid
      | some truth => cases truth <;> simp [held] at valid
    · exact ⟨formula, _, last, accepted, ran, refuted, wrong refuted⟩

end Solver

end Clausal
