import Mathlib
import Clausal.Proofs.SearchInvariant
import Clausal.Proofs.SignedMeaning

/-!
# The states of a search

Two things are true of every state that a search comes to. It is saturated: below the current level no
clause, learned ones included, is left falsified or unit by what the levels up to there assign, and the
same holds of the whole trail whenever propagation blames no clause. And its trail is an implication
graph: each entry is a decision that opens its level or is explained by its reason, so the input clauses
and the decisions up to its level imply it.

Both are read off the invariant of the search. What is shown besides is how a search gets on when
nothing can be forced and when nothing can be saved, which is enough to follow a small one into a
conflict at level 2.
-/

namespace Clausal

/-- Two clauses whose other literals are false and that hold opposite literals are not both settled. -/
theorem Clause.not_settled_both {left right : Clause} {valuation : Valuation} {literal : Literal}
    (leftOthers : ∀ other ∈ left.literals, other ≠ literal → other.value valuation = some false)
    (rightOthers : ∀ other ∈ right.literals, other ≠ literal.negate →
      other.value valuation = some false)
    (leftSettled : left.Settled valuation) : ¬right.Settled valuation := by
  intro rightSettled
  have positive := leftSettled.value_eq_true leftOthers
  have negative := rightSettled.value_eq_true rightOthers
  rw [Literal.value_negate_eq_true_iff, positive] at negative
  simp at negative

namespace Trail

/-- Nothing is assigned at first. -/
theorem isAssigned_empty (var : Int) : empty.isAssigned var = false := by
  simp [isAssigned, entryOf?, empty]

/-- The valuation of the trail without entries. -/
theorem value_empty : empty.value = .blank := by
  funext var
  exact (isAssigned_eq_false_iff empty var).1 (isAssigned_empty var)

/-- Nothing is forced on a trail where every clause is settled. -/
theorem Forces.eq_of_settled {clauses : List Clause} {trail final : Trail}
    (forces : trail.Forces clauses final)
    (settled : ∀ clause ∈ clauses, clause.Settled trail.value) : final = trail := by
  cases forces with
  | done => rfl
  | unit listed forced _ => exact absurd forced ((settled _ listed).2 _)

namespace Grounded

variable {trail : Trail} {numVars : Nat} {Admitted : Clause → Prop}

/-- The other literals of a reason are false on the trail, each from an earlier place and at a level
that is not above the entry's. -/
theorem denied_of_reason (grounded : trail.Grounded numVars Admitted) {entry : Entry}
    (member : entry ∈ trail.entries) {reason : Clause} (forced : entry.reason = some reason)
    {literal : Literal} (inside : literal ∈ reason.literals) (different : literal ≠ entry.literal) :
    trail.valueOf literal = some false ∧ ∃ cause, trail.entryOf? literal.var = some cause ∧
      cause.index < entry.index ∧ cause.level ≤ entry.level := by
  have coherent := grounded.coherent
  have supports := (grounded.supported entry member reason forced).2
  obtain ⟨cause, present, denies, before⟩ := supports.earlier literal inside different
  have held : trail.entryOf? literal.var = some cause :=
    (coherent.indexed _ _).2 ⟨present, Entry.var_of_denies denies⟩
  have low := grounded.cause_level_le member present before
  exact ⟨(coherent.valueOf_eq_false_iff literal).2 ⟨cause, present, denies⟩, cause, held, before, low⟩

/-- Above level 0 a reason names another literal of the entry's own level. -/
theorem companion_of_reason (grounded : trail.Grounded numVars Admitted) {entry : Entry}
    (member : entry ∈ trail.entries) {reason : Clause} (forced : entry.reason = some reason)
    (above : 0 < entry.level) :
    ∃ literal ∈ reason.literals, literal ≠ entry.literal ∧
      trail.levelOf literal.var = .ok entry.level := by
  have supports := (grounded.supported entry member reason forced).2
  obtain ⟨literal, inside, different, cause, present, denies, level⟩ := supports.sameLevel above
  have known := grounded.coherent.levelOf_of_denies present denies
  rw [level] at known
  exact ⟨literal, inside, different, known⟩

end Grounded

end Trail

namespace Solver

variable {formula : Formula} {configuration : Configuration} {solver : Solver}

/-- Every state of a search of a formula read from signed clauses keeps the invariant. -/
theorem invariant_of_steps {signed : List (List Int)} {count : Int}
    (accepted : Formula.ofDimacs signed count = .ok formula) {taken : Nat}
    (ran : (fresh configuration formula).steps taken = .ok solver) :
    Invariant formula configuration solver := by
  have unlearned := (Formula.ofDimacs_eq_ok accepted).2.1
  exact (invariant_fresh configuration unlearned).steps ran

/-- A search takes its next decision when every clause is settled. -/
theorem Invariant.step_of_settled (invariant : Invariant formula configuration solver)
    (searching : solver.phase = .searching)
    (settled : ∀ clause ∈ solver.formula.allClauses, clause.Settled solver.trail.value)
    {literal : Literal} (picked : solver.decider.pick solver.trail = some literal) :
    ∃ next, solver.step = .ok next ∧ Invariant formula configuration next ∧
      next.phase = .searching ∧ next.formula = solver.formula ∧
      next.trail = solver.trail.newLevel.extend literal none := by
  obtain ⟨next, stepped, transition⟩ := invariant.step_eq_ok
  refine ⟨next, stepped, transition.invariant invariant, ?_⟩
  obtain ⟨propagator, final, conflict, answer, rfl⟩ := transition.proceeds invariant searching
  obtain rfl := answer.forces.eq_of_settled settled
  cases conflict with
  | some clause =>
    obtain ⟨listed, falsified, _⟩ := answer.blamed clause rfl
    exact absurd falsified (settled clause listed).1
  | none => simpa [proceed, Solver.propagated, picked] using searching

/-- A search meets a conflict when no larger valuation leaves every clause settled. -/
theorem Invariant.step_of_blocked (invariant : Invariant formula configuration solver)
    (searching : solver.phase = .searching)
    (blocked : ∀ valuation, solver.trail.value.Within valuation →
      ∃ clause ∈ solver.formula.allClauses, ¬clause.Settled valuation) :
    ∃ next conflict, solver.step = .ok next ∧ next.phase = .conflicting conflict ∧
      next.formula = solver.formula ∧ solver.trail.Forces solver.formula.allClauses next.trail := by
  obtain ⟨next, stepped, transition⟩ := invariant.step_eq_ok
  obtain ⟨propagator, final, conflict, answer, rfl⟩ := transition.proceeds invariant searching
  cases conflict with
  | some clause => exact ⟨_, clause, stepped, rfl, rfl, answer.forces⟩
  | none =>
    obtain ⟨clause, listed, unsettled⟩ := blocked final.value answer.forces.within
    exact absurd ((answer.settled rfl).1 clause listed) unsettled

/-- The clauses that exclude every assignment of the variables 2 and 3 leave the decisions of the variables
1 and 2 free, and cannot be settled once 2 is true. Each of them names the variable 3. With 2 true, one of
the clauses asks for 3 and another for its negation. -/
theorem excluding_clauses {formula : Formula}
    (accepted : Formula.ofDimacs [[2, 3], [2, -3], [-2, 3], [-2, -3]] 3 = .ok formula) :
    (∀ clause ∈ formula.allClauses, clause.Settled .blank ∧
      clause.Settled (Valuation.blank.assign ⟨1, false⟩)) ∧
    (∀ valuation, (⟨2, true⟩ : Literal).value valuation = some false →
      ∃ clause ∈ formula.allClauses, ¬clause.Settled valuation) ∧
    ∀ clause ∈ formula.allClauses, ∃ literal ∈ clause.literals, literal.var = 3 := by
  have read : (Formula.ofDimacs [[2, 3], [2, -3], [-2, 3], [-2, -3]] 3).toOption.all fun formula =>
      (∀ clause ∈ formula.allClauses, clause.status .blank = .unresolved ∧
        clause.status (Valuation.blank.assign ⟨1, false⟩) = .unresolved) ∧
      (∃ clause ∈ formula.allClauses, clause.literals = [⟨2, true⟩, ⟨3, false⟩]) ∧
      (∃ clause ∈ formula.allClauses, clause.literals = [⟨2, true⟩, ⟨3, true⟩]) ∧
      ∀ clause ∈ formula.allClauses, ∃ literal ∈ clause.literals, literal.var = 3 := by decide
  rw [accepted] at read
  simp only [Except.toOption, Option.all_some, decide_eq_true_eq] at read
  obtain ⟨open_, ⟨left, leftListed, leftShape⟩, ⟨right, rightListed, rightShape⟩, named⟩ := read
  refine ⟨fun clause listed => ?_, fun valuation denied => ?_, named⟩
  · simp [Clause.Settled, open_ clause listed]
  · by_contra settled
    simp only [not_exists, not_and, not_not] at settled
    have leftOthers : ∀ other ∈ left.literals, other ≠ ⟨3, false⟩ →
        other.value valuation = some false := by
      simp [leftShape, denied]
    have rightOthers : ∀ other ∈ right.literals, other ≠ (⟨3, false⟩ : Literal).negate →
        other.value valuation = some false := by
      simp [rightShape, denied, Literal.negate]
    exact Clause.not_settled_both leftOthers rightOthers (settled left leftListed)
      (settled right rightListed)

/-- Whatever the variant and the scheme, the ordered search of these clauses decides the variables 1
and 2 and then meets a conflict. -/
theorem exists_conflict_above (variant : Variant) (propagation : Propagation) :
    ∃ formula solver conflict,
      Formula.ofDimacs [[2, 3], [2, -3], [-2, 3], [-2, -3]] 3 = .ok formula ∧
      (fresh ⟨variant, .ordered, propagation⟩ formula).steps 3 = .ok solver ∧
      solver.phase = .conflicting conflict ∧ solver.formula = formula ∧
      ((Trail.empty.newLevel.extend ⟨1, false⟩ none).newLevel.extend ⟨2, false⟩ none).Forces
        formula.allClauses solver.trail := by
  obtain ⟨formula, accepted⟩ : ∃ formula,
    Formula.ofDimacs [[2, 3], [2, -3], [-2, 3], [-2, -3]] 3 = .ok formula := ⟨_, rfl⟩
  obtain ⟨settled, blocked, _⟩ := excluding_clauses accepted
  obtain ⟨numVars, unlearned, _⟩ := Formula.ofDimacs_eq_ok accepted
  have three : formula.numVars = 3 := by omega
  have begun := invariant_fresh ⟨variant, .ordered, propagation⟩ unlearned
  have unassigned : ∀ var, Trail.empty.newLevel.isAssigned var = false := Trail.isAssigned_empty
  have one : (fresh ⟨variant, .ordered, propagation⟩ formula).decider.pick .empty =
      some ⟨1, false⟩ := by
    simp [fresh, Decider.start, three, Decider.pick, Decider.firstFree, Trail.isAssigned_empty]
  obtain ⟨first, firstStep, firstInvariant, firstPhase, firstFormula, firstTrail⟩ :=
    begun.step_of_settled rfl (fun clause listed => by
      show clause.Settled Trail.empty.value
      rw [Trail.value_empty]
      exact (settled clause listed).1) one
  have firstValue : first.trail.value = Valuation.blank.assign ⟨1, false⟩ := by
    rw [firstTrail, Trail.value_extend, ← Trail.value_empty]
    rfl
  have two : first.decider.pick first.trail = some ⟨2, false⟩ := by
    rw [firstInvariant.decider, firstTrail]
    simp [fresh, Decider.start, three, Decider.pick, Decider.firstFree, Trail.isAssigned_extend,
      unassigned]
  obtain ⟨second, secondStep, secondInvariant, secondPhase, secondFormula, secondTrail⟩ :=
    firstInvariant.step_of_settled firstPhase (fun clause listed => by
      rw [firstFormula] at listed
      rw [firstValue]
      exact (settled clause listed).2) two
  have same : second.formula = formula := secondFormula.trans firstFormula
  have denied : (⟨2, true⟩ : Literal).value second.trail.value = some false := by
    rw [secondTrail, Trail.value_extend, Literal.value_eq_false_iff]
    simp [Valuation.assign]
  obtain ⟨third, conflict, thirdStep, phase, thirdFormula, forces⟩ :=
    secondInvariant.step_of_blocked secondPhase fun valuation larger => by
      rw [same]
      exact blocked valuation (larger.value denied)
  rw [secondTrail, firstTrail, same] at forces
  refine ⟨formula, third, conflict, accepted, ?_, phase, thirdFormula.trans same, forces⟩
  simp only [steps, firstStep, secondStep, thirdStep, bind, Except.bind]

/-- Every state of a search is saturated. Where propagation blames no clause, no clause is falsified
or unit on the whole trail; at no level below the current one is a clause falsified or unit by what
the levels up to there assign; and a conflict above level 0 has a literal of the current level. -/
theorem search_saturated (configuration : Configuration) {signed : List (List Int)} {count : Int}
    {formula : Formula} (accepted : Formula.ofDimacs signed count = .ok formula) {taken : Nat}
    {solver : Solver} (ran : (fresh configuration formula).steps taken = .ok solver) :
    (solver.phase = .searching → ∃ propagator final conflict,
      solver.propagator.propagate solver.formula solver.trail = .ok (propagator, final, conflict) ∧
      (conflict = none → ∀ clause ∈ solver.formula.allClauses, clause.Settled final.value)) ∧
    (∀ level < solver.trail.level, ∀ clause ∈ solver.formula.allClauses,
      clause.Settled (solver.trail.upTo level)) ∧
    ∀ conflict, solver.phase = .conflicting conflict → 0 < solver.trail.level →
      ∃ literal ∈ conflict.literals,
        solver.trail.levelOf literal.var = .ok solver.trail.level := by
  have invariant := invariant_of_steps accepted ran
  have coherent := invariant.grounded.coherent
  refine ⟨fun searching => ?_, invariant.saturated, fun conflict conflicting above => ?_⟩
  · obtain ⟨propagator, final, conflict, found, answer⟩ := invariant.propagates searching
    exact ⟨propagator, final, conflict, found, fun clean => (answer.settled clean).1⟩
  · obtain ⟨literal, inside, entry, present, denies, level⟩ :=
      invariant.conflict_current conflicting above
    have known := coherent.levelOf_of_denies present denies
    rw [level] at known
    exact ⟨literal, inside, known⟩

/-- A search that learns and watches meets a conflict at level 2, which has a literal of that level,
while the levels 0 and 1 leave every clause settled. -/
theorem search_saturated_above :
    ∃ formula solver conflict,
      Formula.ofDimacs [[2, 3], [2, -3], [-2, 3], [-2, -3]] 3 = .ok formula ∧
      (fresh ⟨.cdcl, .ordered, .watched⟩ formula).steps 3 = .ok solver ∧
      solver.phase = .conflicting conflict ∧ solver.trail.level = 2 ∧
      (∀ level < 2, ∀ clause ∈ formula.allClauses, clause.Settled (solver.trail.upTo level)) ∧
      ∃ literal ∈ conflict.literals, solver.trail.levelOf literal.var = .ok 2 := by
  obtain ⟨formula, solver, conflict, accepted, ran, conflicting, same, forces⟩ :=
    exists_conflict_above .cdcl .watched
  obtain ⟨_, saturated, current⟩ := search_saturated _ accepted ran
  have level : solver.trail.level = 2 := forces.level_eq
  rw [level, same] at saturated
  have found := current conflict conflicting (by omega)
  rw [level] at found
  exact ⟨formula, solver, conflict, accepted, ran, conflicting, level, saturated, found⟩

/-- The trail of every state of a search is an implication graph. Each entry knows its place. A reason
holds the literal of its entry; its other literals are false from earlier places and from levels not
above the entry's, above level 0 one of them from that very level. The entries without a reason are
the decisions, one for each level in turn, and each comes first in its level. The variables are those
of the formula. Each entry with a reason is implied by the input clauses and the decisions of the
levels up to its own. -/
theorem search_explained (configuration : Configuration) {signed : List (List Int)} {count : Int}
    {formula : Formula} (accepted : Formula.ofDimacs signed count = .ok formula) {taken : Nat}
    {solver : Solver} (ran : (fresh configuration formula).steps taken = .ok solver) :
    (∀ (position : Nat) (entry : Entry), solver.trail.entries[position]? = some entry →
      entry.index = position) ∧
    (∀ entry ∈ solver.trail.entries, ∀ reason, entry.reason = some reason →
      entry.literal ∈ reason.literals ∧
      (∀ literal ∈ reason.literals, literal ≠ entry.literal →
        solver.trail.valueOf literal = some false ∧
        ∃ cause, solver.trail.entryOf? literal.var = some cause ∧
          cause.index < entry.index ∧ cause.level ≤ entry.level) ∧
      (0 < entry.level → ∃ literal ∈ reason.literals, literal ≠ entry.literal ∧
        solver.trail.levelOf literal.var = .ok entry.level)) ∧
    (∃ decisions, solver.trail.decisions = .ok decisions ∧
      decisions = solver.trail.entries.toList.filter Entry.isDecision ∧
      decisions.map Entry.level = List.range' 1 solver.trail.level ∧
      ∀ decision ∈ decisions, ∀ entry ∈ solver.trail.entries,
        entry.level = decision.level → decision.index ≤ entry.index) ∧
    (∀ entry ∈ solver.trail.entries, 1 ≤ entry.var ∧ entry.var ≤ count) ∧
    ∀ entry ∈ solver.trail.entries, entry.isDecision = false →
      ∀ reading : Int → Bool, formula.Holds reading →
        (∀ decision ∈ solver.trail.entries, decision.isDecision = true →
          decision.level ≤ entry.level → decision.literal.Holds reading) →
        entry.literal.Holds reading := by
  have grounded := (invariant_of_steps accepted ran).grounded
  refine ⟨grounded.coherent.placed, fun entry member reason forced => ?_, ?_,
    fun entry member => ?_, fun entry member _ reading holds decided => ?_⟩
  · exact ⟨(grounded.supported entry member reason forced).2.member,
      fun literal inside different => grounded.denied_of_reason member forced inside different,
      grounded.companion_of_reason member forced⟩
  · obtain ⟨decisions, read, members, levels⟩ := grounded.decisions_eq_ok
    have listed := grounded.decisions_eq_filter
    rw [read] at listed
    refine ⟨decisions, read, Except.ok.inj listed, levels, fun decision inside entry present level => ?_⟩
    obtain ⟨member, opens⟩ := (members decision).1 inside
    exact grounded.decision_first member opens present level.ge
  · have range := grounded.inRange entry member
    rw [Literal.InRange, (Formula.ofDimacs_eq_ok accepted).1] at range
    exact range
  · apply grounded.holds_of_decisions (fun clause entailed => entailed reading holds)
      (fun decision present opens low => ?_) entry member le_rfl
    exact decided decision present (by simp [Entry.isDecision, opens]) low

/-- In the conflict at level 2 of a search without learning, the variable 3 was forced: the reason
holds its literal and another one of level 2, while the decisions open the levels 1 and 2. -/
theorem search_explained_above :
    ∃ formula solver entry reason,
      Formula.ofDimacs [[2, 3], [2, -3], [-2, 3], [-2, -3]] 3 = .ok formula ∧
      (fresh ⟨.backjump, .ordered, .watched⟩ formula).steps 3 = .ok solver ∧
      entry ∈ solver.trail.entries ∧ entry.var = 3 ∧ entry.reason = some reason ∧
      entry.literal ∈ reason.literals ∧
      (∃ literal ∈ reason.literals, literal ≠ entry.literal ∧
        solver.trail.levelOf literal.var = .ok 2) ∧
      ∃ decisions, solver.trail.decisions = .ok decisions ∧ decisions.map Entry.level = [1, 2] := by
  obtain ⟨formula, solver, conflict, accepted, ran, conflicting, same, forces⟩ :=
    exists_conflict_above .backjump .watched
  obtain ⟨_, explained, ⟨decisions, read, _, levels, _⟩, _⟩ := search_explained _ accepted ran
  have level : solver.trail.level = 2 := forces.level_eq
  have invariant := invariant_of_steps accepted ran
  obtain ⟨listed, falsified, _⟩ := invariant.conflicting conflicting
  rw [same] at listed
  obtain ⟨literal, inside, named⟩ := (excluding_clauses accepted).2.2 conflict listed
  have denied := (Clause.status_eq_falsified_iff ..).1 falsified literal inside
  obtain ⟨entry, member, denies⟩ := (invariant.grounded.coherent.valueOf_eq_false_iff literal).1 denied
  have var : entry.var = 3 := (Entry.var_of_denies denies).trans named
  rcases forces.new_entry entry member with old | ⟨top, _, reason, _, forced⟩
  · have early : entry.var = 1 ∨ entry.var = 2 := by
      simp only [Trail.mem_extend, Trail.newLevel, Trail.empty, Array.not_mem_empty, false_or] at old
      rcases old with one | two
      · exact .inl (by rw [one]; rfl)
      · exact .inr (by rw [two]; rfl)
    omega
  · obtain ⟨holds, _, companion⟩ := explained entry member reason forced
    have two : entry.level = 2 := top
    rw [two] at companion
    rw [level] at levels
    exact ⟨formula, solver, entry, reason, accepted, ran, member, var, forced, holds,
      companion (by omega), decisions, read, levels⟩

end Solver

end Clausal
