import Mathlib
import Clausal.Proofs.Correctness

/-!
# Learned clauses are a proof by unit propagation

In a search that learns, every reason on the trail is a clause of the formula, input or learned. So
each learned clause follows by unit propagation from the input clauses and the clauses learned before
it, although the facts that resolution drops were forced when fewer clauses were known. A refuted
search has all its entries at level 0, and unit propagation finds them again from nothing.
-/

namespace Clausal

namespace Solver

/-- The reasons of the trail are clauses of the formula, and each learned clause follows by units from
the clauses before it. -/
structure Derives (solver : Solver) : Prop where
  /-- Every reason is a clause of the formula. -/
  reasons : ∀ clause ∈ solver.trail.reasons, clause ∈ solver.formula.allClauses
  /-- Each learned clause follows by units from the clauses before it. -/
  learned : ∀ (place : Nat) (clause : Clause), solver.formula.learned[place]? = some clause →
    FollowsByUnits (solver.formula.clauses ++ solver.formula.learned.take place) clause

variable {formula : Formula} {configuration : Configuration} {solver next : Solver}

/-- The reasons after an extension. -/
theorem mem_reasons_extend {trail : Trail} {literal : Literal} {reason : Option Clause}
    {clause : Clause} (member : clause ∈ (trail.extend literal reason).reasons) :
    clause ∈ trail.reasons ∨ reason = some clause := by
  obtain ⟨entry, present, forced⟩ := Trail.mem_reasons.1 member
  rcases Trail.mem_extend.1 present with old | new
  · exact .inl (Trail.mem_reasons.2 ⟨entry, old, forced⟩)
  · rw [new] at forced
    exact .inr forced

/-- The reasons that forcing adds are clauses it uses. -/
theorem mem_reasons_forces {clauses : List Clause} {trail final : Trail}
    (forces : trail.Forces clauses final) {clause : Clause} (member : clause ∈ final.reasons) :
    clause ∈ trail.reasons ∨ clause ∈ clauses := by
  obtain ⟨entry, present, forced⟩ := Trail.mem_reasons.1 member
  rcases forces.new_entry entry present with old | ⟨_, _, reason, listed, same⟩
  · exact .inl (Trail.mem_reasons.2 ⟨entry, old, forced⟩)
  · rw [same] at forced
    rw [← Option.some.inj forced]
    exact .inr listed

/-- Going back adds no reason. -/
theorem mem_reasons_undoTo {trail : Trail} (coherent : trail.Coherent) {level : Nat}
    {clause : Clause} (member : clause ∈ (trail.undoTo level).1.reasons) :
    clause ∈ trail.reasons := by
  obtain ⟨entry, present, forced⟩ := Trail.mem_reasons.1 member
  exact Trail.mem_reasons.2 ⟨entry, (coherent.mem_undoTo.1 present).1, forced⟩

/-- In a search that learns, transitions keep the derivation. -/
theorem Transition.derives (transition : Transition solver next)
    (invariant : Invariant formula configuration solver) (learns : configuration.variant = .cdcl)
    (derives : solver.Derives) : next.Derives := by
  have coherent := invariant.grounded.coherent
  have forced : ∀ {final : Trail}, solver.trail.Forces solver.formula.allClauses final →
      ∀ clause ∈ final.reasons, clause ∈ solver.formula.allClauses := by
    intro final forces clause member
    rcases mem_reasons_forces forces member with old | listed
    · exact derives.reasons clause old
    · exact listed
  cases transition with
  | blamed _ answer => exact ⟨forced answer.forces, derives.learned⟩
  | satisfied _ answer _ => exact ⟨forced answer.forces, derives.learned⟩
  | @decided propagator final literal _ answer _ =>
    refine ⟨fun clause member => ?_, derives.learned⟩
    rcases mem_reasons_extend member with old | new
    · exact forced answer.forces clause old
    · simp at new
  | refuted _ _ => exact ⟨derives.reasons, derives.learned⟩
  | asserted _ forgets _ => exact absurd (invariant.variant.trans learns) forgets
  | @learned conflict clause level asserting grown conflicting _ asserts added =>
    obtain ⟨_, clauses, extended⟩ := Formula.addLearned_shape added
    have known : ∀ other ∈ conflict :: solver.trail.reasons, other ∈ solver.formula.allClauses := by
      intro other member
      rcases List.mem_cons.1 member with same | reason
      · rw [same]
        exact (invariant.conflicting conflicting).1
      · exact derives.reasons other reason
    have follows : FollowsByUnits solver.formula.allClauses clause.asLearnt :=
      Refutes.mono asserts.follows known
    refine ⟨fun other member => ?_, fun place other here => ?_⟩
    · simp only [Formula.allClauses, clauses, extended, ← List.append_assoc, List.mem_append,
        List.mem_singleton]
      rcases mem_reasons_extend member with old | new
      · exact .inl (List.mem_append.1 (derives.reasons other (mem_reasons_undoTo coherent old)))
      · exact .inr (Option.some.inj new).symm
    · simp only [clauses, extended] at here ⊢
      by_cases earlier : place < solver.formula.learned.length
      · rw [List.getElem?_append_left earlier] at here
        rw [List.take_append_of_le_length earlier.le]
        exact derives.learned place other here
      · rw [List.getElem?_append_right (by omega)] at here
        obtain ⟨_, last⟩ := List.getElem?_eq_some_iff.1 here
        have shape : place = solver.formula.learned.length := by
          have bound := (List.getElem?_eq_some_iff.1 here).1
          simp only [List.length_singleton] at bound
          omega
        rw [shape, List.take_left]
        simp only [List.getElem_singleton] at last
        rw [← last]
        exact follows
  | ended _ => exact derives

/-- A refuted search is refuted by unit propagation from nothing. -/
theorem Invariant.refutes_blank (invariant : Invariant formula configuration solver)
    (derives : solver.Derives) (refuted : solver.phase = .refuted) :
    Refutes solver.formula.allClauses .blank := by
  obtain ⟨ground, conflict, listed, falsified⟩ := invariant.refuted refuted
  have coherent := invariant.grounded.coherent
  refine refutes_of_needed coherent (fun var truth held => by simp [Valuation.blank] at held)
    (fun _ => True) (fun entry member _ => .inr ?_) listed fun literal inside => ?_
  · have low := coherent.level_le member
    obtain ⟨reason, forced, _⟩ := Analysis.fact_explained invariant.grounded member (by omega)
    obtain ⟨_, supports⟩ := invariant.grounded.supported entry member reason forced
    refine ⟨reason, derives.reasons reason (Trail.mem_reasons.2 ⟨entry, member, forced⟩),
      supports.member, fun literal inside different => ?_⟩
    obtain ⟨cause, present, same, before⟩ := supports.earlier literal inside different
    exact ⟨cause, present, trivial, same, before⟩
  · have denied := (Clause.status_eq_falsified_iff ..).1 falsified literal inside
    obtain ⟨cause, present, same⟩ := (coherent.valueOf_eq_false_iff literal).1 denied
    exact ⟨cause, present, trivial, same⟩

/-- A search begins with nothing derived. -/
theorem derives_fresh (configuration : Configuration) (unlearned : formula.learned = []) :
    (fresh configuration formula).Derives := by
  refine ⟨fun clause member => ?_, fun place clause here => ?_⟩
  · simp [fresh, Trail.reasons, Trail.empty] at member
  · simp [fresh, unlearned] at here

/-- In every state of a search that learns, each learned clause follows by unit propagation from the
input clauses and the clauses learned before it: on every trail where its literals are false,
rescanning those clauses blames one of them. So the input clauses imply it, and it changes nothing
about there being a model. Once the search is refuted, unit propagation from nothing over all clauses
reaches a falsified one. -/
theorem learned_follow (strategy : Strategy) (propagation : Propagation) {signed : List (List Int)}
    {count : Int} {formula : Formula} (accepted : Formula.ofDimacs signed count = .ok formula)
    {taken : Nat} {solver : Solver}
    (ran : (fresh ⟨.cdcl, strategy, propagation⟩ formula).steps taken = .ok solver) :
    (∀ (place : Nat) (clause : Clause), solver.formula.learned[place]? = some clause →
      FollowsByUnits (formula.clauses ++ solver.formula.learned.take place) clause ∧
      (∀ trail : Trail, (∀ literal ∈ clause.literals, trail.valueOf literal = some false) →
        ∃ result conflict,
          Naive.propagate (formula.clauses ++ solver.formula.learned.take place) trail =
            .ok result ∧ result.conflict = some conflict) ∧
      formula.Entails clause ∧
      ((∃ reading, formula.Holds reading ∧ clause.Holds reading) ↔ formula.Satisfiable)) ∧
    (solver.phase = .refuted →
      Refutes (formula.clauses ++ solver.formula.learned) .blank ∧
      ∃ result conflict,
        Naive.propagate (formula.clauses ++ solver.formula.learned) .empty = .ok result ∧
          result.conflict = some conflict) := by
  have unlearned := (Formula.ofDimacs_eq_ok accepted).2.1
  have start := invariant_fresh ⟨.cdcl, strategy, propagation⟩ unlearned
  have invariant := start.steps ran
  have derives : solver.Derives := run_keeps start (derives_fresh _ unlearned)
    (fun kept transition before => transition.derives kept rfl before) ran
  have input := invariant.clauses
  refine ⟨fun place clause here => ?_, fun refuted => ?_⟩
  · have follows := derives.learned place clause here
    rw [input] at follows
    have entailed := invariant.learned clause (List.mem_of_getElem? here)
    refine ⟨follows, fun trail denied => ?_, entailed, ?_⟩
    · exact Naive.blames_of_refutes follows (Clause.denial_within denied)
    · constructor
      · rintro ⟨reading, holds, _⟩
        exact ⟨reading, holds⟩
      · rintro ⟨reading, holds⟩
        exact ⟨reading, holds, entailed reading holds⟩
  · have refutes := invariant.refutes_blank derives refuted
    rw [Formula.allClauses, input] at refutes
    refine ⟨refutes, Naive.blames_of_refutes refutes fun var truth held => ?_⟩
    simp [Valuation.blank] at held

/-- Four clauses over two variables exclude every assignment, and none of them forces anything at
first: the search that refutes them has learned a clause, which follows from them by units. -/
theorem learned_follow_two :
    ∃ formula taken solver clause,
      Formula.ofDimacs [[1, 2], [-1, 2], [1, -2], [-1, -2]] 2 = .ok formula ∧
      (fresh ⟨.cdcl, .ordered, .watched⟩ formula).steps taken = .ok solver ∧
      solver.formula.learned[0]? = some clause ∧ FollowsByUnits formula.clauses clause ∧
      Refutes (formula.clauses ++ solver.formula.learned) .blank := by
  obtain ⟨formula, accepted⟩ : ∃ formula,
    Formula.ofDimacs [[1, 2], [-1, 2], [1, -2], [-1, -2]] 2 = .ok formula := ⟨_, rfl⟩
  have begun :=
    invariant_fresh ⟨.cdcl, .ordered, .watched⟩ (Formula.ofDimacs_eq_ok accepted).2.1
  obtain ⟨last, ran, done⟩ := begun.exists_done
  have invariant := begun.steps ran
  obtain ⟨follow, refutes⟩ := learned_follow .ordered .watched accepted ran
  have refuted : last.phase = .refuted := by
    refine (phase_of_isDone done).resolve_left fun satisfied => ?_
    have holds := invariant.holds_model satisfied
    rw [(Formula.ofDimacs_eq_ok accepted).2.2.2] at holds
    generalize (last.trail.model formula.numVars).reading = reading at holds
    simp only [SignedHolds, List.mem_cons, List.not_mem_nil, or_false, forall_eq_or_imp, forall_eq,
      exists_eq_or_imp, exists_eq_left] at holds
    cases first : reading 1 <;> cases second : reading 2 <;> simp [first, second] at holds
  have open_ : ∀ clause ∈ formula.clauses, clause.status .blank = .unresolved := by
    have every : (Formula.ofDimacs [[1, 2], [-1, 2], [1, -2], [-1, -2]] 2).toOption.all fun read =>
      read.clauses.all fun clause => clause.status .blank = .unresolved := by decide
    rw [accepted] at every
    simpa [Except.toOption] using every
  obtain ⟨refutesAll, _⟩ := refutes refuted
  cases learned : last.formula.learned with
  | nil =>
    rw [learned, List.append_nil] at refutesAll
    refine absurd (fun clause listed => ?_) (refutesAll.not_settled (.refl _))
    simp [Clause.Settled, open_ clause listed]
  | cons clause rest =>
    have here : last.formula.learned[0]? = some clause := by simp [learned]
    obtain ⟨follows, _⟩ := follow 0 clause here
    rw [List.take_zero, List.append_nil] at follows
    exact ⟨formula, _, last, clause, accepted, ran, here, follows, refutesAll⟩

end Solver

end Clausal
