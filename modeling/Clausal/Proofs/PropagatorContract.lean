import Mathlib
import Clausal.Propagation
import Clausal.Proofs.WatchGuards

/-!
# What a propagator promises

The two schemes meet one contract. A propagator that is ready for a trail forces literals without
being refused. Either it blames a falsified clause and holds what it needs for going back, or it
leaves every clause settled and its queue drained, so that a decision may follow. Which scheme is at
work plays no part from here on.
-/

namespace Clausal

namespace Propagator

/-- The scheme at work. -/
def scheme (propagator : Propagator) : Propagation :=
  match propagator.engine with
  | .naive => .naive
  | .watched _ => .watched

/-- The propagator may be asked for the literals forced on the trail. -/
def Ready (propagator : Propagator) (clauses : List Clause) (trail : Trail) : Prop :=
  match propagator.engine with
  | .naive => True
  | .watched lists => lists.Linked clauses ∧ lists.Ready trail

/-- The propagator has nothing more to force on the trail. -/
def Drained (propagator : Propagator) (clauses : List Clause) (trail : Trail) : Prop :=
  match propagator.engine with
  | .naive => True
  | .watched lists => lists.Linked clauses ∧ lists.Ready trail ∧ lists.queueHead = trail.size

/-- The propagator has blamed a clause and waits for the trail to be undone. -/
def Held (propagator : Propagator) (clauses : List Clause) (trail : Trail) : Prop :=
  match propagator.engine with
  | .naive => True
  | .watched lists => lists.Linked clauses ∧ lists.Held trail

/-- A scheme at the start of its work is ready. -/
theorem ready_start (scheme : Propagation) (formula : Formula) :
    (start scheme formula).Ready formula.allClauses .empty := by
  cases scheme with
  | naive => trivial
  | watched => exact ⟨WatchLists.linked_ofClauses _, WatchLists.ready_ofClauses _⟩

/-- What a propagator answers: the new trail comes from the old one by forced literals, which are
counted; a blamed clause is falsified; without blame every clause is settled. -/
structure Answer (propagator next : Propagator) (clauses : List Clause) (trail final : Trail)
    (conflict : Option Clause) : Prop where
  /-- The scheme stays. -/
  scheme : next.scheme = propagator.scheme
  /-- Each new entry is forced by a unit clause. -/
  forces : trail.Forces clauses final
  /-- The forced literals are counted. -/
  counted : next.propagations + trail.size = propagator.propagations + final.size
  /-- A blamed clause is one of the clauses and is falsified. -/
  blamed : ∀ clause, conflict = some clause →
    clause ∈ clauses ∧ clause.status final.value = .falsified ∧ next.Held clauses final
  /-- Without blame nothing is left to be forced. -/
  settled : conflict = none →
    (∀ clause ∈ clauses, clause.Settled final.value) ∧ next.Drained clauses final

/-- A ready propagator is never refused and keeps its promises. -/
theorem propagate_eq_ok {propagator : Propagator} {formula : Formula} {trail : Trail}
    (coherent : trail.Coherent) (ready : propagator.Ready formula.allClauses trail) :
    ∃ next final conflict, propagator.propagate formula trail = .ok (next, final, conflict) ∧
      Answer propagator next formula.allClauses trail final conflict := by
  unfold Ready at ready
  cases scheme : propagator.engine with
  | naive =>
    obtain ⟨result, finished, sound, complete⟩ :=
      Naive.propagate_eq_ok formula.allClauses trail
    refine ⟨_, _, _, by simp only [propagate, scheme, finished]; rfl,
      by simp only [Propagator.scheme, scheme], sound.forces, ?_, ?_, ?_⟩
    · have counted := sound.counted
      simp only
      omega
    · intro clause blamed
      obtain ⟨listed, falsified⟩ := sound.blamed clause blamed
      exact ⟨listed, falsified, trivial⟩
    · exact fun clean => ⟨complete clean, trivial⟩
  | watched lists =>
    rw [scheme] at ready
    obtain ⟨linked, ready⟩ := ready
    obtain ⟨result, finished, ordered, sound⟩ := WatchLists.propagate_eq_ok coherent linked
    obtain ⟨quiet, loud⟩ := WatchLists.propagate_complete coherent linked ready finished
    refine ⟨_, _, _, by simp only [propagate, scheme, finished]; rfl,
      by simp only [Propagator.scheme, scheme], sound.forces, ?_, ?_, ?_⟩
    · have counted := sound.counted
      simp only
      omega
    · intro clause blamed
      obtain ⟨listed, falsified⟩ := sound.blamed clause blamed
      exact ⟨listed, falsified, ordered, loud (by simp [blamed])⟩
    · intro clean
      obtain ⟨still, empty, settled⟩ := quiet clean
      exact ⟨settled, ordered, still, empty⟩

/-- A decision on a drained trail leaves the propagator ready. -/
theorem Drained.decide {propagator : Propagator} {clauses : List Clause} {trail : Trail}
    (coherent : trail.Coherent) (drained : propagator.Drained clauses trail) (literal : Literal) :
    propagator.Ready clauses (trail.newLevel.extend literal none) := by
  unfold Drained at drained
  unfold Ready
  cases scheme : propagator.engine with
  | naive => trivial
  | watched lists =>
    rw [scheme] at drained
    obtain ⟨linked, ready, empty⟩ := drained
    exact ⟨linked, ready.decide coherent empty literal⟩

/-- Pushing a literal leaves the propagator ready. -/
theorem Ready.extend {propagator : Propagator} {clauses : List Clause} {trail : Trail}
    (ready : propagator.Ready clauses trail) (literal : Literal) (reason : Option Clause) :
    propagator.Ready clauses (trail.extend literal reason) := by
  unfold Ready at ready ⊢
  cases scheme : propagator.engine with
  | naive => trivial
  | watched lists =>
    rw [scheme] at ready
    exact ⟨ready.1, ready.2.extend literal reason⟩

/-- Going back below the level of a conflict leaves the propagator ready. -/
theorem Held.backtracked {propagator : Propagator} {clauses : List Clause} {trail : Trail}
    (coherent : trail.Coherent) (held : propagator.Held clauses trail) {level : Nat}
    (below : level < trail.level) :
    (propagator.backtracked (trail.undoTo level).1).Ready clauses (trail.undoTo level).1 := by
  unfold Held at held
  cases scheme : propagator.engine with
  | naive =>
    unfold Propagator.backtracked Ready
    rw [scheme]
    simp only [scheme]
  | watched lists =>
    rw [scheme] at held
    unfold Propagator.backtracked Ready
    rw [scheme]
    exact ⟨held.1.backtracked _, held.2.backtracked coherent below⟩

/-- Learning a clause that is unit under the trail, and pushing its literal, leaves the propagator
ready. -/
theorem Ready.attach {propagator : Propagator} {clauses : List Clause} {trail : Trail}
    {clause : Clause} {asserting : Literal} (coherent : trail.Coherent)
    (ready : propagator.Ready clauses trail) (forced : clause.status trail.value = .unit asserting)
    (peak : 0 < trail.level → ∃ other ∈ clause.literals, other ≠ asserting ∧
      ∃ cause ∈ trail.entries, cause.literal = other.negate ∧ cause.level = trail.level) :
    (propagator.attach clause trail).Ready (clauses ++ [clause])
      (trail.extend asserting (some clause)) := by
  unfold Ready at ready
  cases scheme : propagator.engine with
  | naive =>
    unfold Propagator.attach Ready
    rw [scheme]
    simp only [scheme]
  | watched lists =>
    rw [scheme] at ready
    unfold Propagator.attach Ready
    rw [scheme]
    exact ⟨ready.1.attach clause trail, ready.2.attach coherent forced peak⟩

end Propagator

end Clausal
