import Mathlib
import Clausal.Solver
import Clausal.Proofs.AnalysisContract
import Clausal.Proofs.Preference
import Clausal.Proofs.PropagatorContract

/-!
# The invariant of a search

A search keeps its trail an implication graph, saturated below the current level; what its propagator
and its phase promise depends on the phase. So much is `Upheld` whatever the clauses say; they only have
to be admitted, where what admitted clauses imply is admitted too. The `Invariant` of a search of a
formula admits what the input clauses imply, and adds what the search never changes: its variant, its
preferences and the input clauses.

The relation `Transition` lists what one step of a search that is upheld can do. No step is refused,
each is a transition, and transitions keep the invariant, so a property of every run is proved by looking
at transitions only.
-/

namespace Clausal

/-- A clause within the variables can be learned. -/
theorem Formula.addLearned_eq_ok {formula : Formula} {clause : Clause}
    (range : clause.InRange formula.numVars) :
    ∃ grown, formula.addLearned clause = .ok grown := by
  unfold addLearned
  split
  · rename_i var stray
    obtain ⟨literal, found, _⟩ := Option.map_eq_some_iff.1 stray
    have outside := List.find?_some found
    simp only [decide_eq_true_eq] at outside
    exact absurd (range literal (List.mem_of_find?_eq_some found)) outside
  · exact ⟨_, rfl⟩

/-- Learning appends one clause and changes nothing else. -/
theorem Formula.addLearned_shape {formula grown : Formula} {clause : Clause}
    (added : formula.addLearned clause = .ok grown) :
    grown.numVars = formula.numVars ∧ grown.clauses = formula.clauses ∧
      grown.learned = formula.learned ++ [clause.asLearnt] := by
  unfold addLearned at added
  split at added
  · simp at added
  · cases added
    exact ⟨rfl, rfl, rfl⟩

/-- Every clause of a formula keeps within its variables. -/
theorem Formula.allClauses_inRange (formula : Formula) :
    ∀ clause ∈ formula.allClauses, clause.InRange formula.numVars := by
  intro clause listed
  rcases List.mem_append.1 listed with input | learned
  · exact formula.clausesInRange clause input
  · exact formula.learnedInRange clause learned

namespace Solver

/-- The solver after a propagation. -/
def propagated (solver : Solver) (next : Propagator) (final : Trail) : Solver :=
  { solver with
    propagator := next
    trail := final
    stats := { solver.stats with propagations := next.propagations } }

/-- The counters after going back to a level. -/
def jumped (solver : Solver) (level : Nat) : Stats :=
  if 0 < solver.trail.level - level - 1 then { solver.stats with
    backjumps := solver.stats.backjumps + 1
    skippedLevels := solver.stats.skippedLevels + (solver.trail.level - level - 1) }
  else solver.stats

/-- Going back counts the levels passed over and, if there are any, one backjump. -/
theorem jumped_eq (solver : Solver) (level : Nat) :
    solver.jumped level = { solver.stats with
      backjumps := solver.stats.backjumps + min 1 (solver.trail.level - level - 1)
      skippedLevels := solver.stats.skippedLevels + (solver.trail.level - level - 1) } := by
  unfold jumped
  split
  · have one : min 1 (solver.trail.level - level - 1) = 1 := by omega
    rw [one]
  · have adjacent : solver.trail.level - level - 1 = 0 := by omega
    rw [adjacent]
    rfl

/-- What one step of a search can do. -/
inductive Transition (solver : Solver) : Solver → Prop
  /-- Propagation blames a clause. -/
  | blamed {next : Propagator} {final : Trail} {clause : Clause}
      (searching : solver.phase = .searching)
      (answer : solver.propagator.Answer next solver.formula.allClauses solver.trail final
        (some clause)) :
      Transition solver { solver.propagated next final with
        phase := .conflicting clause
        stats := { (solver.propagated next final).stats with
          conflicts := solver.stats.conflicts + 1 } }
  /-- Propagation leaves every variable assigned. -/
  | satisfied {next : Propagator} {final : Trail} (searching : solver.phase = .searching)
      (answer : solver.propagator.Answer next solver.formula.allClauses solver.trail final none)
      (full : final.size = solver.formula.numVars ∨ solver.decider.pick final = none) :
      Transition solver { solver.propagated next final with phase := .satisfied }
  /-- Propagation leaves room for a decision. -/
  | decided {next : Propagator} {final : Trail} {literal : Literal}
      (searching : solver.phase = .searching)
      (answer : solver.propagator.Answer next solver.formula.allClauses solver.trail final none)
      (picked : solver.decider.pick final = some literal) :
      Transition solver { solver.propagated next final with
        trail := final.newLevel.extend literal none
        stats := { (solver.propagated next final).stats with
          decisions := solver.stats.decisions + 1
          maxLevel := max solver.stats.maxLevel (final.newLevel.extend literal none).level } }
  /-- A conflict at level 0 refutes the formula. -/
  | refuted {conflict : Clause} (conflicting : solver.phase = .conflicting conflict)
      (ground : solver.trail.level = 0) : Transition solver { solver with phase := .refuted }
  /-- A clause that is not kept answers a conflict. -/
  | asserted {conflict clause : Clause} {level : Nat} {asserting : Literal}
      (conflicting : solver.phase = .conflicting conflict) (forgets : solver.variant ≠ .cdcl)
      (asserts : Analysis.Asserts conflict solver.trail clause level asserting)
      (analysed : Analysis.ofConflict solver.variant conflict solver.trail =
        .ok (.backjump clause level asserting false)) :
      Transition solver { solver with
        trail := (solver.trail.undoTo level).1.extend asserting (some clause)
        propagator := solver.propagator.backtracked (solver.trail.undoTo level).1
        phase := .searching
        stats := solver.jumped level }
  /-- A learned clause answers a conflict. -/
  | learned {conflict clause : Clause} {level : Nat} {asserting : Literal} {grown : Formula}
      (conflicting : solver.phase = .conflicting conflict) (learns : solver.variant = .cdcl)
      (asserts : Analysis.Asserts conflict solver.trail clause level asserting)
      (added : solver.formula.addLearned clause = .ok grown) :
      Transition solver { solver with
        formula := grown
        trail := (solver.trail.undoTo level).1.extend asserting (some clause.asLearnt)
        propagator := (solver.propagator.backtracked (solver.trail.undoTo level).1).attach
          clause.asLearnt (solver.trail.undoTo level).1
        phase := .searching
        stats := { solver.jumped level with learned := (solver.jumped level).learned + 1 } }
  /-- A search that has ended stays as it is. -/
  | ended (done : solver.isDone = true) : Transition solver solver

/-- The solver after its propagator has answered. -/
def proceed (solver : Solver) (next : Propagator) (final : Trail) : Option Clause → Solver
  | some clause => { solver.propagated next final with
      phase := .conflicting clause
      stats := { (solver.propagated next final).stats with
        conflicts := solver.stats.conflicts + 1 } }
  | none =>
    match solver.decider.pick final with
    | none => { solver.propagated next final with phase := .satisfied }
    | some literal => { solver.propagated next final with
        trail := final.newLevel.extend literal none
        stats := { (solver.propagated next final).stats with
          decisions := solver.stats.decisions + 1
          maxLevel := max solver.stats.maxLevel (final.newLevel.extend literal none).level } }

/-- What the phase of a search promises. -/
def Standing (solver : Solver) : Prop :=
  match solver.phase with
  | .searching => solver.propagator.Ready solver.formula.allClauses solver.trail
  | .conflicting clause => clause ∈ solver.formula.allClauses ∧
      clause.status solver.trail.value = .falsified ∧
      solver.propagator.Held solver.formula.allClauses solver.trail
  | .satisfied =>
      (∀ var : Int, 1 ≤ var → var ≤ solver.formula.numVars →
        solver.trail.isAssigned var = true) ∧
      (∀ clause ∈ solver.formula.allClauses, clause.Settled solver.trail.value) ∧
      solver.propagator.Drained solver.formula.allClauses solver.trail
  | .refuted => solver.trail.level = 0 ∧
      ∃ clause ∈ solver.formula.allClauses, clause.status solver.trail.value = .falsified

/-- Steps add up. -/
theorem steps_add (first second : Nat) (solver : Solver) :
    solver.steps (first + second) = solver.steps first >>= steps second := by
  induction first generalizing solver with
  | zero =>
    rw [Nat.zero_add]
    rfl
  | succ first ih =>
    rw [Nat.succ_add, steps, steps]
    cases solver.step with
    | error fault => rfl
    | ok next => exact ih next

/-- A run is followed by another one. -/
theorem steps_trans {solver next last : Solver} {first second : Nat}
    (ran : solver.steps first = .ok next) (further : next.steps second = .ok last) :
    solver.steps (first + second) = .ok last := by
  rw [steps_add, ran]
  exact further

/-- A run goes on by one step. -/
theorem steps_concat {solver last next : Solver} {taken : Nat} (ran : solver.steps taken = .ok last)
    (stepped : last.step = .ok next) : solver.steps (taken + 1) = .ok next := by
  refine steps_trans ran ?_
  rw [steps, stepped]
  rfl

/-- A run can be cut at any place. -/
theorem steps_cut {solver last : Solver} {first second : Nat}
    (ran : solver.steps (first + second) = .ok last) :
    ∃ middle, solver.steps first = .ok middle ∧ middle.steps second = .ok last := by
  rw [steps_add] at ran
  cases begun : solver.steps first with
  | error fault =>
    rw [begun] at ran
    cases ran
  | ok middle =>
    rw [begun] at ran
    exact ⟨middle, rfl, ran⟩

/-- What a search over the given variables keeps, whatever its clauses say. Which clauses may serve as
reasons is left open, as long as what they imply may serve too. -/
structure Upheld (count : Nat) (Admitted : Clause → Prop) (solver : Solver) : Prop where
  /-- The variables stay. -/
  numVars : solver.formula.numVars = count
  /-- The preferences name the variables. -/
  covers : solver.decider.Covers count
  /-- What admitted clauses imply is admitted. -/
  closed : ∀ clause : Clause, (∀ reading : Int → Bool,
    (∀ other, Admitted other → other.Holds reading) → clause.Holds reading) → Admitted clause
  /-- Every clause of the search is admitted. -/
  admitted : ∀ clause ∈ solver.formula.allClauses, Admitted clause
  /-- The trail is an implication graph with admitted reasons. -/
  grounded : solver.trail.Grounded count Admitted
  /-- Nothing is left to be forced below the current level. -/
  saturated : solver.trail.Saturated solver.formula.allClauses
  /-- The phase keeps its promise. -/
  standing : solver.Standing

namespace Upheld

variable {count : Nat} {Admitted : Clause → Prop} {solver : Solver}

/-- Every clause of the search keeps within the variables. -/
theorem inRange (upheld : Upheld count Admitted solver) :
    ∀ clause ∈ solver.formula.allClauses, clause.InRange count := by
  rw [← upheld.numVars]
  exact solver.formula.allClauses_inRange

/-- A conflict is one of the clauses and is false on the trail. -/
theorem conflicting (upheld : Upheld count Admitted solver) {conflict : Clause}
    (phase : solver.phase = .conflicting conflict) : conflict ∈ solver.formula.allClauses ∧
      conflict.status solver.trail.value = .falsified ∧
      solver.propagator.Held solver.formula.allClauses solver.trail := by
  have standing := upheld.standing
  rwa [Standing, phase] at standing

/-- A satisfied search has assigned every variable and left every clause settled. -/
theorem satisfied (upheld : Upheld count Admitted solver)
    (phase : solver.phase = .satisfied) :
    (∀ var : Int, 1 ≤ var → var ≤ count → solver.trail.isAssigned var = true) ∧
      (∀ clause ∈ solver.formula.allClauses, clause.Settled solver.trail.value) ∧
      solver.propagator.Drained solver.formula.allClauses solver.trail := by
  have standing := upheld.standing
  rwa [Standing, phase, upheld.numVars] at standing

/-- A refuted search has met a falsified clause at level 0. -/
theorem refuted (upheld : Upheld count Admitted solver)
    (phase : solver.phase = .refuted) : solver.trail.level = 0 ∧
      ∃ clause ∈ solver.formula.allClauses, clause.status solver.trail.value = .falsified := by
  have standing := upheld.standing
  rwa [Standing, phase] at standing

/-- A conflict above level 0 has a literal of the current level. -/
theorem conflict_current (upheld : Upheld count Admitted solver) {conflict : Clause}
    (phase : solver.phase = .conflicting conflict) (above : 0 < solver.trail.level) :
    ∃ literal ∈ conflict.literals, ∃ entry ∈ solver.trail.entries,
      entry.literal = literal.negate ∧ entry.level = solver.trail.level := by
  obtain ⟨listed, falsified, _⟩ := upheld.conflicting phase
  exact upheld.grounded.exists_current upheld.saturated listed falsified above

/-- While the search goes on, its propagator answers. -/
theorem propagates (upheld : Upheld count Admitted solver)
    (searching : solver.phase = .searching) :
    ∃ next final conflict,
      solver.propagator.propagate solver.formula solver.trail = .ok (next, final, conflict) ∧
      solver.propagator.Answer next solver.formula.allClauses solver.trail final conflict := by
  have ready := upheld.standing
  rw [Standing, searching] at ready
  exact Propagator.propagate_eq_ok upheld.grounded.coherent ready

/-- Every variant, whichever is at work, answers a conflict of the search. -/
theorem answers (upheld : Upheld count Admitted solver) {conflict : Clause}
    (phase : solver.phase = .conflicting conflict) (variant : Variant) :
    ∃ analysis, Analysis.ofConflict variant conflict solver.trail = .ok analysis ∧
      Analysis.Answers conflict solver.trail (Decidable.decide (variant = .cdcl)) analysis := by
  have falsified := (upheld.conflicting phase).2.1
  exact Analysis.ofConflict_answers variant upheld.grounded falsified
    (upheld.conflict_current phase)

/-- The implication graph after a propagation. -/
theorem grounded_forces (upheld : Upheld count Admitted solver) {final : Trail}
    (forces : solver.trail.Forces solver.formula.allClauses final) :
    final.Grounded count Admitted :=
  forces.grounded upheld.admitted upheld.inRange upheld.grounded upheld.saturated

/-- What answers a conflict is admitted. -/
theorem admitted_asserts (upheld : Upheld count Admitted solver) {conflict clause : Clause}
    {level : Nat} {asserting : Literal} (phase : solver.phase = .conflicting conflict)
    (asserts : Analysis.Asserts conflict solver.trail clause level asserting) :
    Admitted clause := by
  refine upheld.closed clause fun reading holds => ?_
  obtain ⟨listed, _⟩ := upheld.conflicting phase
  exact asserts.holds upheld.grounded holds (holds conflict (upheld.admitted conflict listed))

/-- The step of the searching phase is a transition. -/
theorem search_eq_ok (upheld : Upheld count Admitted solver)
    (searching : solver.phase = .searching) :
    ∃ next, solver.search = .ok next ∧ Transition solver next := by
  obtain ⟨next, final, conflict, found, answer⟩ := upheld.propagates searching
  unfold search
  simp only [found, bind, Except.bind]
  cases conflict with
  | some clause => exact ⟨_, rfl, .blamed searching answer⟩
  | none =>
    by_cases full : final.size = solver.formula.numVars
    · simp only [full, if_true]
      exact ⟨_, rfl, .satisfied searching answer (.inl full)⟩
    · simp only [full, if_false]
      cases picked : solver.decider.pick final with
      | none => exact ⟨_, rfl, .satisfied searching answer (.inr picked)⟩
      | some literal =>
        have free : final.newLevel.value literal.var = none :=
          (upheld.covers.pick_eq_some picked).2
        refine ⟨_, ?_, .decided searching answer picked⟩
        simp only [decide, Trail.push_eq_extend free]
        rfl

/-- The step of the conflicting phase is a transition. -/
theorem answer_eq_ok (upheld : Upheld count Admitted solver) {conflict : Clause}
    (conflicting : solver.phase = .conflicting conflict) :
    ∃ next, solver.answer conflict = .ok next ∧ Transition solver next := by
  have coherent := upheld.grounded.coherent
  obtain ⟨analysis, found, answers⟩ := upheld.answers conflicting solver.variant
  unfold answer
  simp only [found, bind, Except.bind]
  cases answers with
  | refuted ground => exact ⟨_, rfl, .refuted conflicting ground⟩
  | @backjump clause level asserting asserts =>
    have free : (solver.trail.undoTo level).1.value asserting.var = none := by
      rw [coherent.value_undoTo]
      exact ((Clause.status_eq_unit_iff ..).1 (asserts.unit coherent)).2.1
    have undone := coherent.undo_natCast level
    by_cases learns : solver.variant = .cdcl
    · have range : clause.InRange solver.formula.numVars := by
        rw [upheld.numVars]
        exact asserts.inRange upheld.grounded
      obtain ⟨grown, added⟩ := Formula.addLearned_eq_ok range
      refine ⟨_, ?_, .learned conflicting learns asserts added⟩
      simp only [assertLiteral, undone, learns, decide_true, if_true, added, bind, Except.bind,
        Trail.push_eq_extend free]
      rfl
    · have analysed := found
      rw [decide_eq_false learns] at analysed
      refine ⟨_, ?_, .asserted conflicting learns asserts analysed⟩
      simp only [assertLiteral, undone, learns, decide_false, Bool.false_eq_true, if_false, bind,
        Except.bind, Trail.push_eq_extend free]
      rfl

/-- A search is never refused a step, and each step is a transition. -/
theorem step_eq_ok (upheld : Upheld count Admitted solver) :
    ∃ next, solver.step = .ok next ∧ Transition solver next := by
  unfold step
  cases phase : solver.phase with
  | searching => exact upheld.search_eq_ok phase
  | conflicting conflict => exact upheld.answer_eq_ok phase
  | satisfied => exact ⟨solver, rfl, .ended (by simp [isDone, phase, Phase.isFinal])⟩
  | refuted => exact ⟨solver, rfl, .ended (by simp [isDone, phase, Phase.isFinal])⟩

/-- A propagation keeps everything but what the phase promises. -/
theorem propagated (upheld : Upheld count Admitted solver) {next : Propagator} {final : Trail}
    {phase : Phase} {stats : Stats} (forces : solver.trail.Forces solver.formula.allClauses final)
    (standing : ({ solver.propagated next final with phase := phase, stats := stats } :
      Solver).Standing) :
    Upheld count Admitted { solver.propagated next final with phase := phase, stats := stats } :=
  ⟨upheld.numVars, upheld.covers, upheld.closed, upheld.admitted, upheld.grounded_forces forces,
    forces.saturated upheld.saturated, standing⟩

end Upheld

/-- Every transition keeps what a search keeps. -/
theorem Transition.upheld {count : Nat} {Admitted : Clause → Prop} {solver next : Solver}
    (transition : Transition solver next) (upheld : Upheld count Admitted solver) :
    Upheld count Admitted next := by
  have coherent := upheld.grounded.coherent
  cases transition with
  | @blamed propagator final clause searching answer =>
    exact upheld.propagated answer.forces (answer.blamed clause rfl)
  | @satisfied propagator final searching answer full =>
    have grounded := upheld.grounded_forces answer.forces
    refine upheld.propagated answer.forces ⟨fun var low high => ?_, answer.settled rfl⟩
    have bound : var ≤ count := by
      rw [← upheld.numVars]
      exact high
    rcases full with size | unpicked
    · exact grounded.assigned_of_size_eq (size.trans upheld.numVars) low bound
    · exact upheld.covers.pick_eq_none unpicked low bound
  | @decided propagator final literal searching answer picked =>
    have grounded := upheld.grounded_forces answer.forces
    obtain ⟨settled, drained⟩ := answer.settled rfl
    obtain ⟨range, free⟩ := upheld.covers.pick_eq_some picked
    refine ⟨upheld.numVars, upheld.covers, upheld.closed, upheld.admitted,
      grounded.decide free range, ?_, ?_⟩
    · exact (answer.forces.saturated upheld.saturated).decide grounded.coherent settled free
    · rw [Standing, show ({ solver.propagated propagator final with
        trail := final.newLevel.extend literal none } : Solver).phase = .searching from searching]
      exact drained.decide grounded.coherent literal
  | @refuted conflict conflicting ground =>
    obtain ⟨listed, falsified, _⟩ := upheld.conflicting conflicting
    exact ⟨upheld.numVars, upheld.covers, upheld.closed, upheld.admitted, upheld.grounded,
      upheld.saturated, ground, conflict, listed, falsified⟩
  | @asserted conflict clause level asserting conflicting forgets asserts =>
    obtain ⟨_, _, held⟩ := upheld.conflicting conflicting
    have free := asserts.free coherent le_rfl
    rw [← coherent.value_undoTo] at free
    refine ⟨upheld.numVars, upheld.covers, upheld.closed, upheld.admitted, ?_, ?_, ?_⟩
    · exact asserts.grounded_extend upheld.grounded
        (upheld.admitted_asserts conflicting asserts) rfl
    · exact (upheld.saturated.undoTo coherent level).extend free _
    · exact (held.backtracked coherent asserts.below).extend asserting _
  | @learned conflict clause level asserting grown conflicting learns asserts added =>
    obtain ⟨_, _, held⟩ := upheld.conflicting conflicting
    obtain ⟨numVars, clauses, learned⟩ := Formula.addLearned_shape added
    have granted := upheld.admitted_asserts conflicting asserts
    have all : grown.allClauses = solver.formula.allClauses ++ [clause.asLearnt] := by
      simp only [Formula.allClauses, clauses, learned, List.append_assoc]
    have free := asserts.free coherent le_rfl
    rw [← coherent.value_undoTo] at free
    refine ⟨numVars.trans upheld.numVars, upheld.covers, upheld.closed, fun other member => ?_,
      ?_, ?_, ?_⟩
    · rw [all] at member
      rcases List.mem_append.1 member with old | new
      · exact upheld.admitted other old
      · rw [List.mem_singleton.1 new]
        exact upheld.closed _ fun reading holds => holds clause granted
    · exact asserts.grounded_extend upheld.grounded
        (upheld.closed _ fun reading holds => holds clause granted) rfl
    · refine Trail.Saturated.extend (fun lower below other member => ?_) free _
      rw [all] at member
      rcases List.mem_append.1 member with old | new
      · exact upheld.saturated.undoTo coherent level lower below other old
      · rw [List.mem_singleton.1 new]
        rw [asserts.level_undoTo] at below
        have same : (solver.trail.undoTo level).1.upTo lower = solver.trail.upTo lower :=
          coherent.upTo_undoTo below.le
        rw [same]
        exact asserts.settled coherent below
    · have unit : clause.asLearnt.status (solver.trail.undoTo level).1.value = .unit asserting := by
        rw [coherent.value_undoTo]
        exact asserts.unit coherent
      have ready := (held.backtracked coherent asserts.below).attach (coherent.undoTo level) unit
        (asserts.peak_undoTo coherent)
      rw [Standing]
      simp only [all]
      exact ready
  | ended done => exact upheld

/-- A search of any formula starts with what a search keeps, even if clauses that nothing implies were
learned before. -/
theorem upheld_fresh (configuration : Configuration) (formula : Formula)
    {Admitted : Clause → Prop} (closed : ∀ clause : Clause, (∀ reading : Int → Bool,
      (∀ other, Admitted other → other.Holds reading) → clause.Holds reading) → Admitted clause)
    (admitted : ∀ clause ∈ formula.allClauses, Admitted clause) :
    Upheld formula.numVars Admitted (fresh configuration formula) := by
  refine ⟨rfl, Decider.covers_start _ _, closed, admitted, Trail.grounded_empty _ _, ?_,
    Propagator.ready_start _ _⟩
  intro level below
  simp [fresh, Trail.empty, Trail.level] at below

/-- Where every clause may serve as a reason, a search of any formula starts so. -/
theorem upheld_fresh_any (configuration : Configuration) (formula : Formula) :
    Upheld formula.numVars (fun _ => True) (fresh configuration formula) :=
  upheld_fresh configuration formula (fun _ _ => trivial) fun _ _ => trivial

namespace Upheld

variable {count : Nat} {Admitted : Clause → Prop} {solver : Solver}

/-- A search takes any number of steps without being refused. -/
theorem steps_eq_ok (upheld : Upheld count Admitted solver) (taken : Nat) :
    ∃ last, solver.steps taken = .ok last := by
  induction taken generalizing solver with
  | zero => exact ⟨solver, rfl⟩
  | succ taken ih =>
    obtain ⟨next, stepped, transition⟩ := upheld.step_eq_ok
    rw [Solver.steps, stepped]
    exact ih (transition.upheld upheld)

/-- What transitions keep, a run keeps. -/
theorem run_keeps (upheld : Upheld count Admitted solver) (Kept : Solver → Prop)
    (start : Kept solver)
    (step : ∀ {before after}, Upheld count Admitted before → Transition before after →
      Kept before → Kept after)
    {taken : Nat} {last : Solver} (ran : solver.steps taken = .ok last) : Kept last := by
  induction taken generalizing solver with
  | zero =>
    cases ran
    exact start
  | succ taken ih =>
    obtain ⟨next, stepped, transition⟩ := upheld.step_eq_ok
    rw [Solver.steps, stepped] at ran
    exact ih (transition.upheld upheld) (step upheld transition start) ran

/-- A run keeps what a search keeps. -/
theorem steps (upheld : Upheld count Admitted solver) {taken : Nat} {last : Solver}
    (ran : solver.steps taken = .ok last) : Upheld count Admitted last :=
  upheld.run_keeps (Upheld count Admitted) upheld
    (fun _ transition kept => transition.upheld kept) ran

end Upheld

/-- What a search of the formula in the configuration keeps. -/
structure Invariant (formula : Formula) (configuration : Configuration) (solver : Solver) : Prop
    extends Upheld formula.numVars formula.Entails solver where
  /-- The variant stays. -/
  variant : solver.variant = configuration.variant
  /-- The preferences stay. -/
  decider : solver.decider = .start configuration.strategy formula
  /-- The input clauses stay. -/
  clauses : solver.formula.clauses = formula.clauses

namespace Invariant

variable {formula : Formula} {configuration : Configuration} {solver : Solver}

/-- The input clauses imply every clause of the search. -/
theorem entails (invariant : Invariant formula configuration solver) :
    ∀ clause ∈ solver.formula.allClauses, formula.Entails clause :=
  invariant.admitted

/-- The input clauses imply every learned clause. -/
theorem learned (invariant : Invariant formula configuration solver) :
    ∀ clause ∈ solver.formula.learned, formula.Entails clause := fun clause member =>
  invariant.admitted clause (List.mem_append_right _ member)

/-- What answers a conflict is implied by the input clauses. -/
theorem entails_asserts (invariant : Invariant formula configuration solver)
    {conflict clause : Clause} {level : Nat} {asserting : Literal}
    (conflicting : solver.phase = .conflicting conflict)
    (asserts : Analysis.Asserts conflict solver.trail clause level asserting) :
    formula.Entails clause :=
  invariant.admitted_asserts conflicting asserts

end Invariant

/-- Every transition keeps the invariant. -/
theorem Transition.invariant {formula : Formula} {configuration : Configuration}
    {solver next : Solver} (transition : Transition solver next)
    (invariant : Invariant formula configuration solver) :
    Invariant formula configuration next := by
  refine ⟨transition.upheld invariant.toUpheld, ?_, ?_, ?_⟩
  · cases transition <;> exact invariant.variant
  · cases transition <;> exact invariant.decider
  · cases transition with
    | learned _ _ _ added => exact (Formula.addLearned_shape added).2.1.trans invariant.clauses
    | _ => exact invariant.clauses

/-- While a search goes on, a transition is what its propagator's answer leads to. -/
theorem Transition.proceeds {formula : Formula} {configuration : Configuration}
    {solver next : Solver} (transition : Transition solver next)
    (invariant : Invariant formula configuration solver) (searching : solver.phase = .searching) :
    ∃ propagator final conflict,
      solver.propagator.Answer propagator solver.formula.allClauses solver.trail final conflict ∧
      next = solver.proceed propagator final conflict := by
  cases transition with
  | blamed _ answer => exact ⟨_, _, _, answer, rfl⟩
  | @satisfied propagator final _ answer full =>
    have unpicked : solver.decider.pick final = none := by
      rcases full with size | unpicked
      · exact (invariant.grounded_forces answer.forces).pick_eq_none
          (size.trans invariant.numVars) invariant.covers
      · exact unpicked
    refine ⟨propagator, final, none, answer, ?_⟩
    simp only [proceed, unpicked]
  | @decided propagator final literal _ answer picked =>
    refine ⟨propagator, final, none, answer, ?_⟩
    simp only [proceed, picked]
  | refuted conflicting _ => simp [searching] at conflicting
  | asserted conflicting _ _ _ => simp [searching] at conflicting
  | learned conflicting _ _ _ => simp [searching] at conflicting
  | ended done => simp [isDone, searching, Phase.isFinal] at done

/-- A search of a formula without learned clauses starts with the invariant. -/
theorem invariant_fresh (configuration : Configuration) {formula : Formula}
    (unlearned : formula.learned = []) :
    Invariant formula configuration (fresh configuration formula) := by
  refine ⟨upheld_fresh configuration formula ?_ ?_, rfl, rfl, rfl⟩
  · intro clause follows reading holds
    exact follows reading fun other entailed => entailed reading holds
  · intro clause listed reading holds
    rw [Formula.allClauses, unlearned, List.append_nil] at listed
    exact holds clause listed

/-- What transitions keep, a run keeps. -/
theorem run_keeps {formula : Formula} {configuration : Configuration} {solver last : Solver}
    (invariant : Invariant formula configuration solver) {Kept : Solver → Prop}
    (start : Kept solver)
    (step : ∀ {before after}, Invariant formula configuration before → Transition before after →
      Kept before → Kept after)
    {count : Nat} (ran : solver.steps count = .ok last) : Kept last := by
  have both := invariant.toUpheld.run_keeps
    (fun reached => Invariant formula configuration reached ∧ Kept reached) ⟨invariant, start⟩
    (fun _ transition held =>
      ⟨transition.invariant held.1, step held.1 transition held.2⟩) ran
  exact both.2

/-- A run keeps the invariant. -/
theorem Invariant.steps {formula : Formula} {configuration : Configuration} {solver last : Solver}
    (invariant : Invariant formula configuration solver) {count : Nat}
    (ran : solver.steps count = .ok last) : Invariant formula configuration last :=
  run_keeps invariant invariant (fun _ transition kept => transition.invariant kept) ran

end Solver

end Clausal
