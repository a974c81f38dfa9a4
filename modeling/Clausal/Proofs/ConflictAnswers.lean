import Mathlib
import Clausal.Proofs.SearchStates

/-!
# Conflicts are answered

In every conflict that a search comes to, each of the three variants has an answer, whichever of them
is at work. At level 0 the formula is refuted. Above it the answer is a clause that the input clauses
imply and that is false on the trail; exactly one of its literals belongs to the current level, and
going back to the highest level of the others makes the clause unit.

Nothing is refused on the way. The walks along the trail end where they should, the clauses that they
give can be built and learned, and their literals can be pushed. So a search can take any number of
steps, in all its phases.
-/

namespace Clausal

namespace Trail

/-- An assigned variable has a level. -/
theorem exists_levelOf {trail : Trail} {var : Int} (assigned : trail.isAssigned var = true) :
    ∃ level, trail.levelOf var = .ok level := by
  obtain ⟨entry, held⟩ := Option.isSome_iff_exists.1 assigned
  exact ⟨entry.level, by simp only [levelOf, held]⟩

end Trail

namespace Analysis

/-- What the answer to a conflict above level 0 promises. -/
structure Contract (formula : Formula) (trail : Trail) (clause : Clause) (level : Nat)
    (asserting : Literal) : Prop where
  /-- The input clauses imply the clause. -/
  entailed : formula.Entails clause
  /-- The clause is false on the trail. -/
  falsified : clause.status trail.value = .falsified
  /-- No literal of the clause is a fact. -/
  lifted : ∀ literal ∈ clause.literals, ∃ above, 0 < above ∧ trail.levelOf literal.var = .ok above
  /-- The asserting literal is the one literal of the current level. -/
  single : ∀ literal, literal ∈ clause.literals ∧
    trail.levelOf literal.var = .ok trail.level ↔ literal = asserting
  /-- No other literal is above the level to go back to. -/
  bound : ∀ literal ∈ clause.literals, literal ≠ asserting →
    ∃ low ≤ level, trail.levelOf literal.var = .ok low
  /-- The level is that of another literal, or 0 where there is no other. -/
  attained : (∃ literal ∈ clause.literals, literal ≠ asserting ∧
    trail.levelOf literal.var = .ok level) ∨
    ((∀ literal ∈ clause.literals, literal = asserting) ∧ level = 0)
  /-- The level is below the current one. -/
  below : level < trail.level
  /-- After going back the clause is unit, and the asserting literal is the one without a value. -/
  unit : clause.status (trail.undoTo level).1.value = .unit asserting

/-- A clause that asserts and that the input clauses imply keeps the promises. -/
theorem Asserts.contract {formula : Formula} {conflict clause : Clause} {trail : Trail}
    {level : Nat} {asserting : Literal}
    (asserts : Asserts conflict trail clause level asserting) (coherent : trail.Coherent)
    (entailed : formula.Entails clause) : Contract formula trail clause level asserting := by
  have below := asserts.below
  obtain ⟨flipped, present, denies, top⟩ := asserts.flipped
  have current : trail.levelOf asserting.var = .ok trail.level := by
    rw [coherent.levelOf_of_denies present denies, top]
  have others : ∀ literal ∈ clause.literals, literal ≠ asserting →
      ∃ low, 0 < low ∧ low ≤ level ∧ trail.levelOf literal.var = .ok low := by
    intro literal inside different
    obtain ⟨cause, here, same, positive, low⟩ := asserts.others literal inside different
    exact ⟨cause.level, positive, low, coherent.levelOf_of_denies here same⟩
  refine ⟨entailed, ?_, fun literal inside => ?_, fun literal => ⟨fun both => ?_, fun same => ?_⟩,
    fun literal inside different => ?_, ?_, below, ?_⟩
  · rw [Clause.status_eq_falsified_iff]
    intro literal inside
    exact (coherent.valueOf_eq_false_iff literal).2 (asserts.denied literal inside)
  · by_cases same : literal = asserting
    · rw [same]
      exact ⟨trail.level, by omega, current⟩
    · obtain ⟨low, positive, _, known⟩ := others literal inside same
      exact ⟨low, positive, known⟩
  · by_contra different
    obtain ⟨low, _, bound, known⟩ := others literal both.1 different
    rw [both.2] at known
    have equal := Except.ok.inj known
    omega
  · rw [same]
    exact ⟨asserts.member, current⟩
  · obtain ⟨low, _, bound, known⟩ := others literal inside different
    exact ⟨low, bound, known⟩
  · by_cases ground : level = 0
    · refine .inr ⟨fun literal inside => ?_, ground⟩
      by_contra different
      obtain ⟨low, positive, bound, _⟩ := others literal inside different
      omega
    · obtain ⟨literal, inside, different, cause, here, same, peak⟩ := asserts.peak (by omega)
      have known := coherent.levelOf_of_denies here same
      rw [peak] at known
      exact .inl ⟨literal, inside, different, known⟩
  · rw [coherent.value_undoTo]
    exact asserts.unit coherent

/-- What is asked for in answering a conflict above level 0 is granted. -/
structure Unhindered (formula : Formula) (conflict : Clause) (trail : Trail) : Prop where
  /-- Every variable that the conflict depends on has a level. -/
  levels : ∀ var, trail.Reaches conflict.literals var → ∃ level, trail.levelOf var = .ok level
  /-- The walk back from the conflict finds a decision. -/
  relevant : ∃ decisions, relevantDecisions conflict trail = .ok decisions ∧ decisions ≠ []
  /-- Resolution starts from a literal of the current level and ends within one walk down the trail,
  so that it never goes round. -/
  resolved : ∃ gathered found,
    Resolvent.absorbAll trail trail.level .start conflict = .ok gathered ∧ gathered.pending ≠ 0 ∧
    resolve trail trail.level trail.entries.toList.reverse gathered = .ok found ∧
    resolve trail trail.level (trail.entries.toList.reverse ++ trail.entries.toList.reverse)
      gathered = .ok found
  /-- Each variant gives a clause that can be learned, a lower level that can be gone back to, and a
  literal that can be pushed there. -/
  answered : ∀ variant, ∃ clause level asserting,
    ofConflict variant conflict trail =
      .ok (.backjump clause level asserting (decide (variant = .cdcl))) ∧
    level < trail.level ∧ (∃ grown, formula.addLearned clause = .ok grown) ∧
    ∃ undone removed, trail.undo level = .ok (undone, removed) ∧
      ∀ reason, undone.push asserting reason = .ok (undone.extend asserting reason)

end Analysis

namespace Solver

variable {formula : Formula} {configuration : Configuration} {solver : Solver}

/-- In a conflict above level 0 every variant gives a clause that asserts. -/
theorem Invariant.asserts (invariant : Invariant formula configuration solver) {conflict : Clause}
    (conflicting : solver.phase = .conflicting conflict) (above : 0 < solver.trail.level)
    (variant : Variant) :
    ∃ clause level asserting, Analysis.ofConflict variant conflict solver.trail =
        .ok (.backjump clause level asserting (Decidable.decide (variant = .cdcl))) ∧
      Analysis.Asserts conflict solver.trail clause level asserting := by
  obtain ⟨analysis, found, answers⟩ := invariant.answers conflicting variant
  cases answers with
  | refuted ground => omega
  | backjump asserts => exact ⟨_, _, _, found, asserts⟩

/-- In a conflict at level 0 every variant finds the formula refuted. -/
theorem Invariant.ofConflict_ground (invariant : Invariant formula configuration solver)
    {conflict : Clause} (conflicting : solver.phase = .conflicting conflict)
    (ground : solver.trail.level = 0) (variant : Variant) :
    Analysis.ofConflict variant conflict solver.trail = .ok .refuted := by
  obtain ⟨analysis, found, answers⟩ := invariant.answers conflicting variant
  cases answers with
  | refuted _ => exact found
  | backjump asserts =>
    have below := asserts.below
    omega

/-- A conflict above level 0 is answered without hindrance. -/
theorem Invariant.unhindered (invariant : Invariant formula configuration solver)
    {conflict : Clause} (conflicting : solver.phase = .conflicting conflict)
    (above : 0 < solver.trail.level) :
    Analysis.Unhindered solver.formula conflict solver.trail := by
  have grounded := invariant.grounded
  have coherent := grounded.coherent
  have falsified := (invariant.conflicting conflicting).2.1
  have current := invariant.conflict_current conflicting above
  refine ⟨fun var reached => ?_, ?_, ?_, fun variant => ?_⟩
  · exact Trail.exists_levelOf (Analysis.assigned_of_reaches grounded falsified reached)
  · obtain ⟨decisions, read, relevant, _⟩ :=
      Analysis.relevantDecisions_ascending grounded falsified
    obtain ⟨deepest, needed, _⟩ := Analysis.exists_relevant grounded above current
    exact ⟨decisions, read, List.ne_nil_of_mem ((relevant deepest).2 needed)⟩
  · obtain ⟨gathered, entry, resolved, taken, pending, walked, _⟩ :=
      Analysis.resolve_conflict grounded falsified current (fun _ _ => True)
        (fun _ _ _ _ _ _ _ => trivial) fun _ _ => trivial
    exact ⟨gathered, (entry, resolved), taken, pending, walked, Analysis.resolve_append walked _⟩
  · obtain ⟨clause, level, asserting, found, asserts⟩ :=
      invariant.asserts conflicting above variant
    have range : clause.InRange solver.formula.numVars := by
      rw [invariant.numVars]
      exact asserts.inRange grounded
    have free : (solver.trail.undoTo level).1.value asserting.var = none := by
      rw [coherent.value_undoTo]
      exact asserts.free coherent le_rfl
    exact ⟨clause, level, asserting, found, asserts.below, Formula.addLearned_eq_ok range, _, _,
      coherent.undo_natCast level, fun reason => Trail.push_eq_extend free reason⟩

/-- A search of a literal and its negation, as clauses of their own, meets a conflict at level 0. -/
theorem exists_conflict_ground (configuration : Configuration) :
    ∃ formula solver conflict, Formula.ofDimacs [[1], [-1]] 1 = .ok formula ∧
      (fresh configuration formula).steps 1 = .ok solver ∧
      solver.phase = .conflicting conflict ∧ solver.trail.level = 0 := by
  obtain ⟨formula, accepted⟩ : ∃ formula, Formula.ofDimacs [[1], [-1]] 1 = .ok formula := ⟨_, rfl⟩
  have read : (Formula.ofDimacs [[1], [-1]] 1).toOption.all fun formula =>
      (∃ clause ∈ formula.allClauses, clause.literals = [⟨1, false⟩]) ∧
      ∃ clause ∈ formula.allClauses, clause.literals = [⟨1, true⟩] := by decide
  rw [accepted] at read
  simp only [Except.toOption, Option.all_some, decide_eq_true_eq] at read
  obtain ⟨⟨left, leftListed, leftShape⟩, right, rightListed, rightShape⟩ := read
  have begun := invariant_fresh configuration (Formula.ofDimacs_eq_ok accepted).2.1
  obtain ⟨solver, conflict, stepped, conflicting, _, forces⟩ :=
    begun.step_of_blocked rfl fun valuation _ => by
      by_contra settled
      simp only [not_exists, not_and, not_not] at settled
      have leftOthers : ∀ other ∈ left.literals, other ≠ ⟨1, false⟩ →
          other.value valuation = some false := by
        simp [leftShape]
      have rightOthers : ∀ other ∈ right.literals, other ≠ (⟨1, false⟩ : Literal).negate →
          other.value valuation = some false := by
        simp [rightShape, Literal.negate]
      exact Clause.not_settled_both leftOthers rightOthers (settled left leftListed)
        (settled right rightListed)
  refine ⟨formula, solver, conflict, accepted, ?_, conflicting, forces.level_eq⟩
  simp only [steps, stepped, bind, Except.bind]

/-- In every conflict of a search each variant, whichever is at work, keeps the contract of an
analysis above level 0 and finds the formula refuted at level 0. -/
theorem conflict_answered (configuration : Configuration) {signed : List (List Int)} {count : Int}
    {formula : Formula} (accepted : Formula.ofDimacs signed count = .ok formula) {taken : Nat}
    {solver : Solver} (ran : (fresh configuration formula).steps taken = .ok solver)
    {conflict : Clause} (conflicting : solver.phase = .conflicting conflict) (variant : Variant) :
    (0 < solver.trail.level → ∃ clause level asserting,
      Analysis.ofConflict variant conflict solver.trail =
        .ok (.backjump clause level asserting (Decidable.decide (variant = .cdcl))) ∧
      Analysis.Contract formula solver.trail clause level asserting) ∧
    (solver.trail.level = 0 →
      Analysis.ofConflict variant conflict solver.trail = .ok .refuted) := by
  have invariant := invariant_of_steps accepted ran
  refine ⟨fun above => ?_, fun ground => invariant.ofConflict_ground conflicting ground variant⟩
  obtain ⟨clause, level, asserting, found, asserts⟩ := invariant.asserts conflicting above variant
  have entailed := invariant.entails_asserts conflicting asserts
  exact ⟨clause, level, asserting, found,
    asserts.contract invariant.grounded.coherent entailed⟩

/-- In a conflict at level 2 of a search that jumps back without learning, resolution still gives a
clause that is unit after going back below level 2. A conflict at level 0 is refuted. -/
theorem conflict_answered_both :
    (∃ formula solver conflict clause level asserting,
      Formula.ofDimacs [[2, 3], [2, -3], [-2, 3], [-2, -3]] 3 = .ok formula ∧
      (fresh ⟨.backjump, .ordered, .watched⟩ formula).steps 3 = .ok solver ∧
      solver.phase = .conflicting conflict ∧ solver.trail.level = 2 ∧
      Analysis.ofConflict .cdcl conflict solver.trail =
        .ok (.backjump clause level asserting true) ∧
      level < 2 ∧ clause.status solver.trail.value = .falsified ∧
      clause.status (solver.trail.undoTo level).1.value = .unit asserting) ∧
    ∃ formula solver conflict, Formula.ofDimacs [[1], [-1]] 1 = .ok formula ∧
      (fresh ⟨.plain, .jeroslow, .naive⟩ formula).steps 1 = .ok solver ∧
      solver.phase = .conflicting conflict ∧
      Analysis.ofConflict .plain conflict solver.trail = .ok .refuted := by
  constructor
  · obtain ⟨formula, solver, conflict, accepted, ran, conflicting, _, forces⟩ :=
      exists_conflict_above .backjump .watched
    have two : solver.trail.level = 2 := forces.level_eq
    obtain ⟨clause, level, asserting, found, contract⟩ :=
      (conflict_answered _ accepted ran conflicting .cdcl).1 (by omega)
    have below := contract.below
    rw [two] at below
    exact ⟨formula, solver, conflict, clause, level, asserting, accepted, ran, conflicting, two, found,
      below, contract.falsified, contract.unit⟩
  · obtain ⟨formula, solver, conflict, accepted, ran, conflicting, ground⟩ :=
      exists_conflict_ground ⟨.plain, .jeroslow, .naive⟩
    exact ⟨formula, solver, conflict, accepted, ran, conflicting,
      (conflict_answered _ accepted ran conflicting .plain).2 ground⟩

/-- A search of a formula read from signed clauses is never refused a step. In every state the
decisions of the trail can be listed; while it searches, propagation ends and the next decision can
be pushed; and a conflict above level 0 is answered without hindrance. -/
theorem search_unhindered (configuration : Configuration) {signed : List (List Int)} {count : Int}
    {formula : Formula} (accepted : Formula.ofDimacs signed count = .ok formula) (taken : Nat) :
    ∃ solver, (fresh configuration formula).steps taken = .ok solver ∧
      (∃ next, solver.step = .ok next) ∧
      (∃ decisions, solver.trail.decisions = .ok decisions) ∧
      (solver.phase = .searching → ∃ propagator final conflict,
        solver.propagator.propagate solver.formula solver.trail = .ok (propagator, final, conflict) ∧
        ∀ literal, solver.decider.pick final = some literal →
          final.newLevel.push literal none = .ok (final.newLevel.extend literal none)) ∧
      ∀ conflict, solver.phase = .conflicting conflict → 0 < solver.trail.level →
        Analysis.Unhindered solver.formula conflict solver.trail := by
  have unlearned := (Formula.ofDimacs_eq_ok accepted).2.1
  have begun := invariant_fresh configuration unlearned
  obtain ⟨solver, ran⟩ := begun.steps_eq_ok taken
  have invariant := begun.steps ran
  obtain ⟨next, stepped, _⟩ := invariant.step_eq_ok
  refine ⟨solver, ran, ⟨next, stepped⟩, ⟨_, invariant.grounded.decisions_eq_filter⟩,
    fun searching => ?_, fun conflict => invariant.unhindered⟩
  obtain ⟨propagator, final, conflict, found, _⟩ := invariant.propagates searching
  refine ⟨propagator, final, conflict, found, fun literal picked => ?_⟩
  rw [invariant.decider] at picked
  have free : final.newLevel.value literal.var = none := (Decider.pick_eq_some picked).2
  exact Trail.push_eq_extend free none

/-- After three steps of a plain search that rescans, a conflict at level 2 has been met. It depends on
some decision, can be answered by every variant, and is followed by a further step. -/
theorem search_unhindered_three :
    ∃ formula solver next conflict decisions,
      Formula.ofDimacs [[2, 3], [2, -3], [-2, 3], [-2, -3]] 3 = .ok formula ∧
      (fresh ⟨.plain, .ordered, .naive⟩ formula).steps 3 = .ok solver ∧
      solver.step = .ok next ∧ solver.phase = .conflicting conflict ∧ solver.trail.level = 2 ∧
      Analysis.relevantDecisions conflict solver.trail = .ok decisions ∧ decisions ≠ [] ∧
      Analysis.Unhindered formula conflict solver.trail := by
  obtain ⟨formula, solver, conflict, accepted, ran, conflicting, same, forces⟩ :=
    exists_conflict_above .plain .naive
  have two : solver.trail.level = 2 := forces.level_eq
  obtain ⟨reached, again, ⟨next, stepped⟩, _, _, answered⟩ :=
    search_unhindered ⟨.plain, .ordered, .naive⟩ accepted 3
  rw [ran] at again
  obtain rfl := Except.ok.inj again
  have unhindered := answered conflict conflicting (by omega)
  rw [same] at unhindered
  obtain ⟨decisions, read, some_⟩ := unhindered.relevant
  exact ⟨formula, solver, next, conflict, decisions, accepted, ran, stepped, conflicting, two, read,
    some_, unhindered⟩

end Solver

end Clausal
