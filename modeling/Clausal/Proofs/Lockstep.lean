import Mathlib
import Clausal.Proofs.Confluence
import Clausal.Proofs.JumpOrder
import Clausal.Proofs.Termination

/-!
# Plain searches in lockstep

Two plain searches of one formula that differ only in the scheme of propagation go through the same
phases, levels and decisions. They may force literals in different orders, give different reasons and
blame different clauses, and in a conflict they may differ in what the current level assigns. None of
this lasts: a plain search answers a conflict by undoing the current level and flipping its decision,
which both share.

So what two such searches share is this: their trails stand abreast, with the same decisions at the same
levels, and while there is no conflict the values are the same too. One step of both keeps it.
-/

namespace Clausal

/-- A decision depends on the trail through its values only. -/
theorem Decider.pick_congr (decider : Decider) {left right : Trail} (same : left.value = right.value) :
    decider.pick left = decider.pick right := by
  have assigned : ∀ var, left.isAssigned var = right.isAssigned var := by
    intro var
    rw [Bool.eq_iff_iff, ← not_iff_not, Bool.not_eq_true, Bool.not_eq_true,
      Trail.isAssigned_eq_false_iff, Trail.isAssigned_eq_false_iff, same]
  rw [pick_eq_find?, pick_eq_find?]
  simp only [assigned]

/-- Phases of one name are equal, unless they are conflicts, which may blame different clauses. -/
theorem Phase.eq_or_conflicting {left right : Phase} (named : left.name = right.name) :
    left = right ∨ ∃ conflict blame, left = .conflicting conflict ∧ right = .conflicting blame := by
  cases left <;> cases right <;> simp [name] at named ⊢

namespace Trail

/-- The literal was decided at the level. -/
def Opens (trail : Trail) (literal : Literal) (level : Nat) : Prop :=
  ∃ entry ∈ trail.entries, entry.reason = none ∧ entry.literal = literal ∧ entry.level = level

variable {clauses : List Clause} {trail final left right : Trail}

/-- A forced literal is no decision. -/
theorem opens_extend (trail : Trail) (forced : Literal) (reason : Clause) (literal : Literal)
    (level : Nat) :
    (trail.extend forced (some reason)).Opens literal level ↔ trail.Opens literal level := by
  simp only [Opens, mem_extend, or_and_right, exists_or, exists_eq_left, reduceCtorEq, false_and,
    or_false]

/-- A decision is one more. -/
theorem opens_decide (trail : Trail) (decided literal : Literal) (level : Nat) :
    (trail.newLevel.extend decided none).Opens literal level ↔
      trail.Opens literal level ∨ decided = literal ∧ trail.level + 1 = level := by
  simp only [Opens, mem_extend, or_and_right, exists_or, exists_eq_left, level_newLevel, true_and]
  rfl

/-- Undoing takes back the decisions above the level. -/
theorem Coherent.opens_undoTo (coherent : trail.Coherent) (last : Nat) (literal : Literal)
    (level : Nat) :
    (trail.undoTo last).1.Opens literal level ↔ trail.Opens literal level ∧ level ≤ last := by
  unfold Opens
  constructor
  · rintro ⟨entry, member, decision, named, rfl⟩
    obtain ⟨present, low⟩ := coherent.mem_undoTo.1 member
    exact ⟨⟨entry, present, decision, named, rfl⟩, low⟩
  · rintro ⟨⟨entry, present, decision, named, rfl⟩, low⟩
    exact ⟨entry, coherent.mem_undoTo.2 ⟨present, low⟩, decision, named, rfl⟩

/-- Forcing takes no decision. -/
theorem Forces.opens_iff (forces : trail.Forces clauses final) (literal : Literal) (level : Nat) :
    final.Opens literal level ↔ trail.Opens literal level := by
  induction forces with
  | done => exact Iff.rfl
  | unit _ _ _ ih => exact ih.trans (opens_extend ..)

/-- A level is opened by one literal. -/
theorem Grounded.opens_unique {numVars : Nat} {Admitted : Clause → Prop}
    (grounded : trail.Grounded numVars Admitted) {first second : Literal} {level : Nat}
    (one : trail.Opens first level) (other : trail.Opens second level) : first = second := by
  obtain ⟨entry, member, decision, rfl, rfl⟩ := one
  obtain ⟨twin, present, decided, rfl, same⟩ := other
  rw [grounded.decision_unique member decision present decided same.symm]

/-- The two trails are abreast and come from the same decisions. -/
structure Paced (left right : Trail) : Prop extends left.Abreast right where
  /-- The same literals were decided at the same levels. -/
  opened : ∀ literal level, left.Opens literal level ↔ right.Opens literal level

namespace Paced

/-- Trails stay paced when literals are forced on both. -/
theorem forces (paced : left.Paced right) {leftFinal rightFinal : Trail}
    (first : left.Forces clauses leftFinal) (second : right.Forces clauses rightFinal) :
    leftFinal.Paced rightFinal := by
  refine ⟨paced.toAbreast.forces first second, fun literal level => ?_⟩
  rw [first.opens_iff, second.opens_iff]
  exact paced.opened literal level

/-- Trails with the same values stay paced when both take the same decision. -/
theorem decide (paced : left.Paced right) (leftCoherent : left.Coherent)
    (rightCoherent : right.Coherent) (same : left.value = right.value) {literal : Literal}
    (free : left.value literal.var = none) :
    (left.newLevel.extend literal none).Paced (right.newLevel.extend literal none) := by
  have levels : left.newLevel.level = right.newLevel.level := by
    rw [level_newLevel, level_newLevel, paced.level]
  refine ⟨⟨levels, fun lower below => ?_⟩, fun other level => ?_⟩
  · have leftFree : left.newLevel.value literal.var = none := free
    have rightFree : right.newLevel.value literal.var = none := same ▸ free
    rw [upTo_extend leftFree _ below, upTo_extend rightFree _ (levels ▸ below), upTo_newLevel,
      upTo_newLevel]
    exact paced.upTo_eq leftCoherent rightCoherent same lower
  · rw [opens_decide, opens_decide, paced.opened, paced.level]

/-- Trails stay paced, and get the same values, when both go back to one level below the current one and
take up the same literal there, whatever their reasons. -/
theorem backtrack (paced : left.Paced right) (leftCoherent : left.Coherent)
    (rightCoherent : right.Coherent) {level : Nat} (below : level < left.level) {literal : Literal}
    (free : left.upTo level literal.var = none) (leftReason rightReason : Clause) :
    ((left.undoTo level).1.extend literal (some leftReason)).Paced
        ((right.undoTo level).1.extend literal (some rightReason)) ∧
      ((left.undoTo level).1.extend literal (some leftReason)).value =
        ((right.undoTo level).1.extend literal (some rightReason)).value := by
  have rest := paced.below level below
  have leftFree : (left.undoTo level).1.value literal.var = none := by
    rw [leftCoherent.value_undoTo]
    exact free
  have rightFree : (right.undoTo level).1.value literal.var = none := by
    rw [rightCoherent.value_undoTo, ← rest]
    exact free
  have leftLevel : (left.undoTo level).1.level = level := by
    rw [level_undoTo]
    omega
  have rightLevel : (right.undoTo level).1.level = level := by
    rw [level_undoTo, ← paced.level]
    omega
  refine ⟨⟨⟨leftLevel.trans rightLevel.symm, fun lower lowest => ?_⟩, fun other opening => ?_⟩, ?_⟩
  · have low : lower < level := leftLevel ▸ lowest
    rw [upTo_extend leftFree _ lowest, upTo_extend rightFree _ (by omega),
      leftCoherent.upTo_undoTo low.le, rightCoherent.upTo_undoTo low.le]
    exact paced.below lower (by omega)
  · rw [opens_extend, opens_extend, leftCoherent.opens_undoTo, rightCoherent.opens_undoTo,
      paced.opened]
  · rw [value_extend, value_extend, leftCoherent.value_undoTo, rightCoherent.value_undoTo, rest]

/-- Paced trails list the same decisions. Both lists hold one decision for each level in turn. -/
theorem decisions_eq (paced : left.Paced right) {numVars : Nat} {Admitted : Clause → Prop}
    (leftGrounded : left.Grounded numVars Admitted)
    (rightGrounded : right.Grounded numVars Admitted) :
    ∃ first second, left.decisions = .ok first ∧ right.decisions = .ok second ∧
      first.map Entry.literal = second.map Entry.literal := by
  obtain ⟨first, firstRead, firstMembers, firstLevels⟩ := leftGrounded.decisions_eq_ok
  obtain ⟨second, secondRead, secondMembers, secondLevels⟩ := rightGrounded.decisions_eq_ok
  refine ⟨first, second, firstRead, secondRead, ?_⟩
  have levels : first.map Entry.level = second.map Entry.level := by
    rw [firstLevels, secondLevels, paced.level]
  have length : first.length = second.length := by
    rw [← List.length_map Entry.level, levels, List.length_map]
  refine List.ext_getElem (by simpa using length) fun place here there => ?_
  rw [List.length_map] at here there
  have same : first[place].level = second[place].level := by
    have both := List.getElem_of_eq levels (i := place) (by simpa using here)
    simpa using both
  obtain ⟨member, decision⟩ := (firstMembers _).1 (List.getElem_mem here)
  obtain ⟨present, decided⟩ := (secondMembers _).1 (List.getElem_mem there)
  have opened := (paced.opened _ _).1 ⟨first[place], member, decision, rfl, rfl⟩
  rw [List.getElem_map, List.getElem_map]
  exact rightGrounded.opens_unique opened ⟨second[place], present, decided, rfl, same.symm⟩

end Paced

end Trail

namespace Solver

variable {formula : Formula} {configuration leftConfiguration rightConfiguration : Configuration}
  {solver next left right leftNext rightNext : Solver}

/-- A plain search answers a conflict above level 0 by undoing one level and flipping its decision. -/
theorem Transition.flips (transition : Transition solver next)
    (invariant : Invariant formula configuration solver) (plain : configuration.variant = .plain)
    {conflict : Clause} (conflicting : solver.phase = .conflicting conflict)
    (above : 0 < solver.trail.level) :
    ∃ literal reason, solver.trail.Opens literal.negate solver.trail.level ∧
      solver.trail.upTo (solver.trail.level - 1) literal.var = none ∧
      next = { solver with
        trail := (solver.trail.undoTo (solver.trail.level - 1)).1.extend literal (some reason)
        propagator := solver.propagator.backtracked
          (solver.trail.undoTo (solver.trail.level - 1)).1
        phase := .searching } := by
  have variant := invariant.variant.trans plain
  have coherent := invariant.grounded.coherent
  cases transition with
  | @asserted _ clause level asserting _ _ asserts analysed =>
    rw [variant] at analysed
    obtain ⟨previous, denies⟩ := Analysis.chronological_eq_ok invariant.grounded analysed
    obtain ⟨entry, member, decision, top, negated⟩ :=
      asserts.flips_decision coherent denies fun entry chosen => chosen
    have counted : solver.jumped level = solver.stats := by
      have adjacent : solver.trail.level - level - 1 = 0 := by omega
      rw [jumped_eq, adjacent]
      rfl
    have free := asserts.free coherent le_rfl
    rw [counted, previous]
    rw [previous] at free
    refine ⟨asserting, clause, ⟨entry, member, decision, ?_, top⟩, free, rfl⟩
    rw [← negated, Literal.negate_negate]
  | refuted _ ground => omega
  | learned _ learns _ _ => simp [variant] at learns
  | blamed searching _ => simp [conflicting] at searching
  | satisfied searching _ _ => simp [conflicting] at searching
  | decided searching _ _ => simp [conflicting] at searching
  | ended done => simp [isDone, conflicting, Phase.isFinal] at done

/-- A conflict at level 0 refutes the formula. -/
theorem Transition.refutes (transition : Transition solver next) {conflict : Clause}
    (conflicting : solver.phase = .conflicting conflict) (ground : solver.trail.level = 0) :
    next = { solver with phase := .refuted } := by
  cases transition with
  | refuted _ _ => rfl
  | asserted _ _ asserts _ => exact absurd asserts.below (by omega)
  | learned _ _ asserts _ => exact absurd asserts.below (by omega)
  | blamed searching _ => simp [conflicting] at searching
  | satisfied searching _ _ => simp [conflicting] at searching
  | decided searching _ _ => simp [conflicting] at searching
  | ended done => simp [isDone, conflicting, Phase.isFinal] at done

/-- A search that has ended is left by no transition. -/
theorem Transition.eq_of_isDone (transition : Transition solver next)
    (done : solver.isDone = true) : next = solver := by
  cases transition with
  | ended _ => rfl
  | blamed searching _ => simp [isDone, searching, Phase.isFinal] at done
  | satisfied searching _ _ => simp [isDone, searching, Phase.isFinal] at done
  | decided searching _ _ => simp [isDone, searching, Phase.isFinal] at done
  | refuted conflicting _ => simp [isDone, conflicting, Phase.isFinal] at done
  | asserted conflicting _ _ _ => simp [isDone, conflicting, Phase.isFinal] at done
  | learned conflicting _ _ _ => simp [isDone, conflicting, Phase.isFinal] at done

/-- What two plain searches share that differ only in the scheme of propagation. -/
structure Matched (left right : Solver) : Prop where
  /-- They search one formula. -/
  formula : left.formula = right.formula
  /-- They are in the same phase, though perhaps with different clauses to blame. -/
  phase : left.phase.name = right.phase.name
  /-- Their trails come from the same decisions. -/
  paced : left.trail.Paced right.trail
  /-- Their counters differ at most in the number of forced literals. -/
  stats : left.stats = { right.stats with propagations := left.stats.propagations }
  /-- Unless a conflict was met, their trails have the same values. -/
  values : left.phase = .searching ∨ left.phase = .satisfied →
    left.trail.value = right.trail.value

namespace Matched

/-- A search matches one that is searching only by searching. -/
theorem searching (matched : Matched left right) (phase : left.phase = .searching) :
    right.phase = .searching := by
  rcases Phase.eq_or_conflicting matched.phase with same | ⟨_, _, met, _⟩
  · exact same ▸ phase
  · simp [phase] at met

/-- A search matches one that has met a conflict only by having met one. -/
theorem conflicting (matched : Matched left right) {conflict : Clause}
    (phase : left.phase = .conflicting conflict) : ∃ blame, right.phase = .conflicting blame := by
  rcases Phase.eq_or_conflicting matched.phase with same | ⟨_, blame, _, blaming⟩
  · exact ⟨conflict, same ▸ phase⟩
  · exact ⟨blame, blaming⟩

/-- Matched searches have ended both or neither. -/
theorem isDone (matched : Matched left right) : left.isDone = right.isDone := by
  unfold Solver.isDone
  rcases Phase.eq_or_conflicting matched.phase with same | ⟨_, _, met, blaming⟩
  · rw [same]
  · rw [met, blaming]
    rfl

/-- Matched searches have found out the same. -/
theorem outcome (matched : Matched left right) : left.outcome = right.outcome := by
  unfold Solver.outcome
  rcases Phase.eq_or_conflicting matched.phase with same | ⟨_, _, met, blaming⟩
  · rw [← same]
    cases phase : left.phase with
    | satisfied =>
      have values := matched.values (.inr phase)
      simp only [Trail.model, values, matched.formula]
    | searching | conflicting _ | refuted => rfl
  · rw [met, blaming]

variable {strategy : Strategy} {leftScheme rightScheme : Propagation}
  (matched : Matched left right)
  (leftInvariant : Invariant formula ⟨.plain, strategy, leftScheme⟩ left)
  (rightInvariant : Invariant formula ⟨.plain, strategy, rightScheme⟩ right)
include matched leftInvariant rightInvariant

/-- Searches stay matched when both propagate and proceed. -/
theorem proceed (searching : left.phase = .searching)
    {leftPropagator rightPropagator : Propagator} {leftFinal rightFinal : Trail}
    {conflict blame : Option Clause}
    (first : left.propagator.Answer leftPropagator left.formula.allClauses left.trail leftFinal
      conflict)
    (second : right.propagator.Answer rightPropagator right.formula.allClauses right.trail rightFinal
      blame) :
    Matched (left.proceed leftPropagator leftFinal conflict)
      (right.proceed rightPropagator rightFinal blame) := by
  rw [← matched.formula] at second
  have paced := matched.paced.forces first.forces second.forces
  have stats := matched.stats
  obtain ⟨both, agree⟩ := first.agree second (matched.values (.inl searching))
  cases conflict with
  | some clause =>
    obtain ⟨other, rfl⟩ : ∃ other, blame = some other := by
      rw [← Option.ne_none_iff_exists', ne_eq, ← both]
      simp
    refine ⟨matched.formula, rfl, paced, ?_, ?_⟩
    · simp only [Solver.proceed, propagated]
      rw [stats]
    · simp [Solver.proceed]
  | none =>
    obtain rfl := both.1 rfl
    have same := agree rfl
    have pick : right.decider.pick rightFinal = left.decider.pick leftFinal := by
      rw [leftInvariant.decider, rightInvariant.decider]
      exact (Decider.pick_congr _ same).symm
    cases picked : left.decider.pick leftFinal with
    | none =>
      simp only [Solver.proceed, pick, picked]
      refine ⟨matched.formula, rfl, paced, ?_, fun _ => same⟩
      simp only [propagated]
      rw [stats]
    | some literal =>
      simp only [Solver.proceed, pick, picked]
      have free : leftFinal.value literal.var = none := by
        rw [leftInvariant.decider] at picked
        exact (Decider.pick_eq_some picked).2
      have decided := paced.decide (first.forces.coherent leftInvariant.grounded.coherent)
        (second.forces.coherent rightInvariant.grounded.coherent) same free
      refine ⟨matched.formula, matched.phase, decided, ?_, fun _ => ?_⟩
      · simp only [propagated]
        rw [stats, decided.level]
      · rw [Trail.value_extend, Trail.value_extend]
        exact congrArg (·.assign literal) same

/-- Searches stay matched when both answer a conflict, each its own. Both flip the decision of the current
level. -/
theorem answer {conflict : Clause} (conflicting : left.phase = .conflicting conflict)
    (first : Transition left leftNext) (second : Transition right rightNext) :
    Matched leftNext rightNext := by
  obtain ⟨blame, blaming⟩ := matched.conflicting conflicting
  have level := matched.paced.level
  by_cases ground : left.trail.level = 0
  · rw [first.refutes conflicting ground, second.refutes blaming (level ▸ ground)]
    exact ⟨matched.formula, rfl, matched.paced, matched.stats, by simp⟩
  · obtain ⟨literal, leftReason, leftOpens, free, leftShape⟩ :=
      first.flips leftInvariant rfl conflicting (by omega)
    obtain ⟨other, rightReason, rightOpens, _, rightShape⟩ :=
      second.flips rightInvariant rfl blaming (by omega)
    rw [matched.paced.opened, level] at leftOpens
    have flipped := rightInvariant.grounded.opens_unique leftOpens rightOpens
    obtain rfl : literal = other := by
      rw [← Literal.negate_negate literal, flipped, Literal.negate_negate]
    obtain ⟨paced, same⟩ := matched.paced.backtrack leftInvariant.grounded.coherent
      rightInvariant.grounded.coherent (by omega) free leftReason rightReason
    rw [leftShape, rightShape, ← level]
    exact ⟨matched.formula, rfl, paced, matched.stats, fun _ => same⟩

/-- Searches stay matched when both take a step. -/
theorem step (first : Transition left leftNext) (second : Transition right rightNext) :
    Matched leftNext rightNext := by
  cases phase : left.phase with
  | searching =>
    obtain ⟨_, _, _, leftAnswer, rfl⟩ := first.proceeds leftInvariant phase
    obtain ⟨_, _, _, rightAnswer, rfl⟩ :=
      second.proceeds rightInvariant (matched.searching phase)
    exact matched.proceed leftInvariant rightInvariant phase leftAnswer rightAnswer
  | conflicting conflict => exact matched.answer leftInvariant rightInvariant phase first second
  | satisfied | refuted =>
    have done : left.isDone = true := by simp [Solver.isDone, phase, Phase.isFinal]
    rw [first.eq_of_isDone done, second.eq_of_isDone (matched.isDone ▸ done)]
    exact matched

/-- Searches stay matched over any number of steps. -/
theorem steps (taken : Nat) : ∃ leftLast rightLast,
    left.steps taken = .ok leftLast ∧ right.steps taken = .ok rightLast ∧
      Matched leftLast rightLast := by
  induction taken generalizing left right with
  | zero => exact ⟨left, right, rfl, rfl, matched⟩
  | succ taken ih =>
    obtain ⟨leftNext, leftStep, first⟩ := leftInvariant.step_eq_ok
    obtain ⟨rightNext, rightStep, second⟩ := rightInvariant.step_eq_ok
    obtain ⟨leftLast, rightLast, leftRan, rightRan, kept⟩ :=
      ih (matched.step leftInvariant rightInvariant first second) (first.invariant leftInvariant)
        (second.invariant rightInvariant)
    refine ⟨leftLast, rightLast, ?_, ?_, kept⟩
    · rw [Solver.steps, leftStep]
      exact leftRan
    · rw [Solver.steps, rightStep]
      exact rightRan

end Matched

/-- What can be told of two searches that are in step. -/
structure InStep (left right : Solver) : Prop where
  /-- They are in the same phase. -/
  phase : left.phase.name = right.phase.name
  /-- They are at the same level. -/
  level : left.trail.level = right.trail.level
  /-- They have taken the same decisions. -/
  decisions : ∃ first second, left.trail.decisions = .ok first ∧ right.trail.decisions = .ok second ∧
    first.map Entry.literal = second.map Entry.literal
  /-- Their counters are the same, except the number of forced literals. -/
  stats : left.stats = { right.stats with propagations := left.stats.propagations }
  /-- While searching and when satisfied, they make the same literals true at the same levels. -/
  alike : left.phase = .searching ∨ left.phase = .satisfied → left.trail.Alike right.trail

/-- Matched searches are in step. -/
theorem Matched.inStep (matched : Matched left right)
    (leftInvariant : Invariant formula leftConfiguration left)
    (rightInvariant : Invariant formula rightConfiguration right) : left.InStep right where
  phase := matched.phase
  level := matched.paced.level
  decisions := matched.paced.decisions_eq leftInvariant.grounded rightInvariant.grounded
  stats := matched.stats
  alike := fun quiet => matched.paced.alike leftInvariant.grounded.coherent
    rightInvariant.grounded.coherent (matched.values quiet)

/-- Fresh plain searches of one formula are matched. -/
theorem matched_fresh (strategy : Strategy) (leftScheme rightScheme : Propagation)
    (formula : Formula) :
    Matched (fresh ⟨.plain, strategy, leftScheme⟩ formula)
      (fresh ⟨.plain, strategy, rightScheme⟩ formula) :=
  ⟨rfl, rfl, ⟨.refl _, fun _ _ => Iff.rfl⟩, rfl, fun _ => rfl⟩

/-- The search ends after that many steps and no fewer, with that outcome. -/
def EndsAfter (solver : Solver) (taken : Nat) (outcome : Outcome) : Prop :=
  (∃ last, solver.steps taken = .ok last ∧ last.isDone = true ∧ last.outcome = outcome) ∧
    ∀ fewer < taken, ∃ last, solver.steps fewer = .ok last ∧ last.isDone = false

/-- Every search ends after some number of steps. -/
theorem Invariant.exists_endsAfter (invariant : Invariant formula configuration solver) :
    ∃ taken outcome, solver.EndsAfter taken outcome := by
  classical
  have ends : ∃ taken last, solver.steps taken = .ok last ∧ last.isDone = true := by
    obtain ⟨last, ran, done⟩ := invariant.exists_done
    exact ⟨_, last, ran, done⟩
  obtain ⟨last, ran, done⟩ := Nat.find_spec ends
  refine ⟨Nat.find ends, last.outcome, ⟨last, ran, done, rfl⟩, fun fewer less => ?_⟩
  obtain ⟨earlier, reached⟩ := invariant.steps_eq_ok fewer
  refine ⟨earlier, reached, ?_⟩
  rw [← Bool.not_eq_true]
  exact fun early => Nat.find_min ends less ⟨earlier, reached, early⟩

/-- Matched searches end together. -/
theorem Matched.endsAfter {strategy : Strategy} {leftScheme rightScheme : Propagation}
    (matched : Matched left right)
    (leftInvariant : Invariant formula ⟨.plain, strategy, leftScheme⟩ left)
    (rightInvariant : Invariant formula ⟨.plain, strategy, rightScheme⟩ right) {taken : Nat}
    {outcome : Outcome} (ends : left.EndsAfter taken outcome) : right.EndsAfter taken outcome := by
  have twin : ∀ {count last}, left.steps count = .ok last →
      ∃ other, right.steps count = .ok other ∧ Matched last other := by
    intro count last ran
    obtain ⟨_, other, found, otherRan, kept⟩ := matched.steps leftInvariant rightInvariant count
    rw [ran] at found
    cases found
    exact ⟨other, otherRan, kept⟩
  obtain ⟨⟨last, ran, done, said⟩, going⟩ := ends
  obtain ⟨other, otherRan, kept⟩ := twin ran
  refine ⟨⟨other, otherRan, kept.isDone ▸ done, kept.outcome ▸ said⟩, fun fewer less => ?_⟩
  obtain ⟨earlier, reached, unfinished⟩ := going fewer less
  obtain ⟨another, anotherRan, before⟩ := twin reached
  exact ⟨another, anotherRan, before.isDone ▸ unfinished⟩

/-- Plain searches of one formula, one that rescans and one that watches, run in lockstep: after any
number of steps they are in step, and they end after the same number of steps with the same outcome. -/
theorem plain_lockstep (strategy : Strategy) {signed : List (List Int)} {count : Int}
    {formula : Formula} (accepted : Formula.ofDimacs signed count = .ok formula) :
    (∀ taken, ∃ rescanning watching,
      (fresh ⟨.plain, strategy, .naive⟩ formula).steps taken = .ok rescanning ∧
      (fresh ⟨.plain, strategy, .watched⟩ formula).steps taken = .ok watching ∧
      rescanning.InStep watching) ∧
    ∃ taken outcome,
      (fresh ⟨.plain, strategy, .naive⟩ formula).EndsAfter taken outcome ∧
      (fresh ⟨.plain, strategy, .watched⟩ formula).EndsAfter taken outcome := by
  have unlearned := (Formula.ofDimacs_eq_ok accepted).2.1
  have first := invariant_fresh ⟨.plain, strategy, .naive⟩ unlearned
  have second := invariant_fresh ⟨.plain, strategy, .watched⟩ unlearned
  have matched := matched_fresh strategy .naive .watched formula
  refine ⟨fun taken => ?_, ?_⟩
  · obtain ⟨rescanning, watching, firstRan, secondRan, kept⟩ := matched.steps first second taken
    exact ⟨rescanning, watching, firstRan, secondRan,
      kept.inStep (first.steps firstRan) (second.steps secondRan)⟩
  · obtain ⟨taken, outcome, ends⟩ := first.exists_endsAfter
    exact ⟨taken, outcome, ends, matched.endsAfter first second ends⟩

/-- After three steps the plain searches of clauses that exclude every assignment have both met a
conflict at level 2, and they end together. -/
theorem plain_lockstep_three :
    ∃ formula rescanning watching conflict,
      Formula.ofDimacs [[2, 3], [2, -3], [-2, 3], [-2, -3]] 3 = .ok formula ∧
      (fresh ⟨.plain, .ordered, .naive⟩ formula).steps 3 = .ok rescanning ∧
      (fresh ⟨.plain, .ordered, .watched⟩ formula).steps 3 = .ok watching ∧
      rescanning.phase = .conflicting conflict ∧ watching.phase.name = "CONFLICT" ∧
      rescanning.trail.level = 2 ∧ watching.trail.level = 2 ∧ rescanning.InStep watching ∧
      ∃ taken outcome,
        (fresh ⟨.plain, .ordered, .naive⟩ formula).EndsAfter taken outcome ∧
        (fresh ⟨.plain, .ordered, .watched⟩ formula).EndsAfter taken outcome := by
  obtain ⟨formula, solver, conflict, accepted, ran, conflicting, _, forces⟩ :=
    exists_conflict_above .plain .naive
  obtain ⟨every, ends⟩ := plain_lockstep .ordered accepted
  obtain ⟨rescanning, watching, firstRan, secondRan, inStep⟩ := every 3
  rw [ran] at firstRan
  cases firstRan
  have two : solver.trail.level = 2 := forces.level_eq
  have named := inStep.phase
  rw [conflicting] at named
  exact ⟨formula, solver, watching, conflict, accepted, ran, secondRan, conflicting, named.symm, two,
    inStep.level ▸ two, inStep, ends⟩

end Solver

end Clausal
