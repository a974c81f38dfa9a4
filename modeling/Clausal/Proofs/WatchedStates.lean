import Mathlib
import Clausal.Proofs.Confluence

/-!
# Watches between the steps of a search

What `WatchLists.Ready` and `WatchLists.Held` say of watch lists and a trail holds of every state that a
search with watching comes to. While it goes on, and once it has found a model, every watched literal that
is false and was worked off stands beside one that is true at no higher level. After a conflict this is only
left for the levels below the current one, which are the ones that going back returns to.
-/

namespace Clausal

/-- The first literal is watched, and the second one is the other watch. -/
def Watcher.Beside (watcher : Watcher) (watched other : Literal) : Prop :=
  (watched = watcher.first ∧ other = watcher.second) ∨
    (watched = watcher.second ∧ other = watcher.first)

/-- Of a guarded watcher either watch answers for the other. -/
theorem Watcher.Guarded.answers {watcher : Watcher} {trail : Trail} {Worked : Entry → Prop}
    (guarded : watcher.Guarded trail Worked) {watched other : Literal}
    (beside : watcher.Beside watched other) : trail.Answers Worked watched other := by
  rcases beside with ⟨rfl, rfl⟩ | ⟨rfl, rfl⟩
  · exact guarded.first
  · exact guarded.second

namespace Solver

variable {formula : Formula} {configuration : Configuration} {solver : Solver} {lists : WatchLists}

/-- The watches of a search that goes on, or that has found a model, look after its clauses and are
ready. -/
theorem Invariant.watches_ready (invariant : Invariant formula configuration solver)
    (engine : solver.propagator.engine = .watched lists)
    (phase : solver.phase = .searching ∨ solver.phase = .satisfied) :
    lists.Linked solver.formula.allClauses ∧ lists.Ready solver.trail := by
  have standing := invariant.standing
  rcases phase with searching | satisfied
  · rw [Standing, searching] at standing
    simp only [Propagator.Ready, engine] at standing
    exact standing
  · have drained := (invariant.satisfied satisfied).2.2
    simp only [Propagator.Drained, engine] at drained
    exact ⟨drained.1, drained.2.1⟩

/-- The watches of a search in conflict are held. -/
theorem Invariant.watches_held (invariant : Invariant formula configuration solver)
    (engine : solver.propagator.engine = .watched lists) {conflict : Clause}
    (phase : solver.phase = .conflicting conflict) : lists.Held solver.trail := by
  have held := (invariant.conflicting phase).2.2
  simp only [Propagator.Held, engine] at held
  exact held.2

/-- In every state of a search with watching that goes on or has found a model, the queue starts on the
trail or at its end, all that waits in it belongs to the current level, and a watched literal that is false
from a place before the queue has a true one beside it, from a level that is not above its own. In every
state of conflict the last still holds of the watched literals that are false below the current level. -/
theorem watches_answered (variant : Variant) (strategy : Strategy) {signed : List (List Int)}
    {count : Int} (accepted : Formula.ofDimacs signed count = .ok formula) {taken : Nat}
    (ran : (fresh ⟨variant, strategy, .watched⟩ formula).steps taken = .ok solver) :
    ∃ lists, solver.propagator.engine = .watched lists ∧
      (solver.phase = .searching ∨ solver.phase = .satisfied →
        lists.queueHead ≤ solver.trail.size ∧
        (∀ (position : Nat) (entry : Entry), solver.trail.entries[position]? = some entry →
          lists.queueHead ≤ position → entry.level = solver.trail.level) ∧
        ∀ watcher ∈ lists.watchers, ∀ watched other, watcher.Beside watched other →
          ∀ (position : Nat) (entry : Entry), solver.trail.entries[position]? = some entry →
            position < lists.queueHead → entry.literal = watched.negate →
            ∃ answer ∈ solver.trail.entries, answer.literal = other ∧ answer.level ≤ entry.level) ∧
      ∀ conflict, solver.phase = .conflicting conflict →
        ∀ watcher ∈ lists.watchers, ∀ watched other, watcher.Beside watched other →
          ∀ entry ∈ solver.trail.entries, entry.level < solver.trail.level →
            entry.literal = watched.negate →
            ∃ answer ∈ solver.trail.entries, answer.literal = other ∧ answer.level ≤ entry.level := by
  have invariant := invariant_of_steps accepted ran
  have placed := invariant.grounded.coherent.placed
  have scheme := scheme_of_steps (Formula.ofDimacs_eq_ok accepted).2.1 ran
  cases engine : solver.propagator.engine with
  | naive => simp [Propagator.scheme, engine] at scheme
  | watched lists =>
    refine ⟨lists, rfl, fun phase => ?_, fun conflict phase watcher listed watched other beside => ?_⟩
    · obtain ⟨_, ready⟩ := invariant.watches_ready engine phase
      refine ⟨ready.head_le, fun position entry here late => ?_,
        fun watcher listed watched other beside position entry here early denied => ?_⟩
      · have index := placed position entry here
        exact ready.current entry (Array.mem_of_getElem? here) (by omega)
      · have index := placed position entry here
        have answers := (ready.guarded watcher listed).answers beside
        exact answers entry (Array.mem_of_getElem? here) (by omega) denied
    · have held := invariant.watches_held engine phase
      exact (held.guarded watcher listed).answers beside

/-- The first step of a search makes 1 true at level 0, where it stands as a clause of its own, and then
decides about 3. The watch on the negation of 1 was worked off by then, and the watch beside it, on 2, is
true at level 0. -/
theorem watches_answered_ground :
    ∃ formula solver lists watcher,
      Formula.ofDimacs [[1], [-1, 2]] 3 = .ok formula ∧
      (fresh ⟨.cdcl, .ordered, .watched⟩ formula).steps 1 = .ok solver ∧
      solver.phase = .searching ∧ solver.propagator.engine = .watched lists ∧
      watcher ∈ lists.watchers ∧ watcher.Beside ⟨1, true⟩ ⟨2, false⟩ ∧
      ∃ (position : Nat) (entry : Entry), solver.trail.entries[position]? = some entry ∧
        position < lists.queueHead ∧ entry.literal = ⟨1, false⟩ ∧
        ∃ answer ∈ solver.trail.entries, answer.literal = ⟨2, false⟩ ∧ answer.level ≤ 0 := by
  obtain ⟨formula, accepted⟩ : ∃ formula, Formula.ofDimacs [[1], [-1, 2]] 3 = .ok formula :=
    ⟨_, rfl⟩
  have read : (Formula.ofDimacs [[1], [-1, 2]] 3).toOption.all fun formula =>
      (∀ clause ∈ formula.allClauses,
        clause.status ((Valuation.blank.assign ⟨1, false⟩).assign ⟨2, false⟩) = .satisfied) ∧
      (∃ clause ∈ formula.allClauses, clause.literals = [⟨1, false⟩]) ∧
      ∃ clause ∈ formula.allClauses, clause.literals = [⟨1, true⟩, ⟨2, false⟩] := by decide
  rw [accepted] at read
  simp only [Except.toOption, Option.all_some, decide_eq_true_eq] at read
  obtain ⟨satisfied, ⟨unit, unitListed, unitShape⟩, pair, pairListed, pairShape⟩ := read
  obtain ⟨numVars, unlearned, _⟩ := Formula.ofDimacs_eq_ok accepted
  have begun := invariant_fresh ⟨.cdcl, .ordered, .watched⟩ unlearned
  obtain ⟨solver, stepped, transition⟩ := begun.step_eq_ok
  have ran : (fresh ⟨.cdcl, .ordered, .watched⟩ formula).steps 1 = .ok solver := by
    simp only [steps, stepped, bind, Except.bind]
  have invariant := transition.invariant begun
  obtain ⟨propagator, final, conflict, answer, rfl⟩ := transition.proceeds begun rfl
  have settled : ∀ clause ∈ formula.allClauses,
      clause.Settled ((Valuation.blank.assign ⟨1, false⟩).assign ⟨2, false⟩) := by
    intro clause listed
    simp [Clause.Settled, satisfied clause listed]
  have within : Trail.empty.value.Within
      ((Valuation.blank.assign ⟨1, false⟩).assign ⟨2, false⟩) := by
    rw [Trail.value_empty]
    intro var truth held
    simp [Valuation.blank] at held
  obtain ⟨rfl, bounded⟩ := answer.quiet settled within
  have free : final.isAssigned 3 = false := by
    rw [Trail.isAssigned_eq_false_iff]
    cases held : final.value 3 with
    | none => rfl
    | some truth => simpa [Valuation.assign, Valuation.blank] using bounded 3 truth held
  obtain ⟨decision, picked⟩ : ∃ decision,
      (fresh ⟨.cdcl, .ordered, .watched⟩ formula).decider.pick final = some decision := by
    cases picked : (fresh ⟨.cdcl, .ordered, .watched⟩ formula).decider.pick final with
    | some decision => exact ⟨decision, rfl⟩
    | none =>
      have assigned : final.isAssigned 3 = true :=
        begun.covers.pick_eq_none picked (by decide) (by omega)
      simp [free] at assigned
  simp only [proceed, picked] at ran invariant
  have coherent := answer.forces.coherent begun.grounded.coherent
  have one : (⟨1, false⟩ : Literal).value final.value = some true :=
    ((answer.settled rfl).1 unit unitListed).value_eq_true (by simp [unitShape])
  have two : (⟨2, false⟩ : Literal).value final.value = some true := by
    refine ((answer.settled rfl).1 pair pairListed).value_eq_true fun other inside apart => ?_
    have denied : other = ⟨1, true⟩ := by simpa [pairShape, apart] using inside
    rw [denied]
    exact (Literal.value_negate_eq_true_iff _ _).1 one
  obtain ⟨cause, present, named⟩ := (coherent.valueOf_eq_true_iff _).1 one
  have level : final.level = 0 := answer.forces.level_eq
  have low := coherent.level_le present
  obtain ⟨lists, engine, answered, _⟩ := watches_answered .cdcl .ordered accepted ran
  obtain ⟨_, waiting, guards⟩ := answered (.inl rfl)
  obtain ⟨linked, _⟩ := invariant.watches_ready engine (.inl rfl)
  obtain ⟨watcher, listed, own⟩ := linked.links.exists_watcher pairListed (by
    simp [Clause.length, pairShape])
  have beside : watcher.Beside ⟨1, true⟩ ⟨2, false⟩ := by
    have same := linked.links.literals watcher listed
    rw [own, pairShape, List.perm_pair, Watcher.literals] at same
    simp only [List.cons.injEq] at same
    exact same.imp (fun equal => ⟨equal.1.symm, equal.2.1.symm⟩)
      fun equal => ⟨equal.2.1.symm, equal.1.symm⟩
  have inside : cause ∈ (final.newLevel.extend decision none).entries :=
    Trail.mem_extend.2 (.inl present)
  have here := invariant.grounded.coherent.getElem?_index inside
  have worked : cause.index < lists.queueHead := by
    by_contra late
    have current : cause.level = final.newLevel.level := waiting cause.index cause here (by omega)
    rw [Trail.level_newLevel] at current
    omega
  obtain ⟨other, held, answers, bound⟩ := guards watcher listed _ _ beside cause.index cause here
    worked named
  exact ⟨formula, _, lists, watcher, accepted, ran, rfl, engine, listed, beside, cause.index, cause,
    here, worked, named, other, held, answers, by omega⟩

end Solver

end Clausal
