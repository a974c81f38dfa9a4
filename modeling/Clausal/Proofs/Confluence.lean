import Mathlib
import Clausal.Proofs.SearchStates

/-!
# The order of forcing plays no part

A literal that a unit clause forces is true in every larger valuation that leaves all clauses settled.
So where one order of forcing comes to rest with every clause settled, no other order can go beyond it
or falsify a clause. Two propagators that start from the same values therefore blame a clause both or
neither, and where neither does they come to the same values.

Levels agree as well. Forcing adds to the current level only, so two trails that agree below it still
do afterwards; what they share is said by `Abreast`.
-/

namespace Clausal

/-- Valuations within each other are equal. -/
theorem Valuation.Within.antisymm {left right : Valuation} (forward : left.Within right)
    (backward : right.Within left) : left = right := by
  funext var
  cases held : left var with
  | some truth => exact (forward var truth held).symm
  | none =>
    cases other : right var with
    | none => rfl
    | some truth =>
      rw [backward var truth other] at held
      simp at held

/-- A falsified clause stays falsified when more variables get a value. -/
theorem Clause.falsified_mono {clause : Clause} {small large : Valuation} (within : small.Within large)
    (falsified : clause.status small = .falsified) : clause.status large = .falsified := by
  rw [status_eq_falsified_iff] at falsified ⊢
  exact fun literal member => within.value (falsified literal member)

namespace Trail

/-- The two trails make the same literals true at the same levels. -/
def Alike (left right : Trail) : Prop :=
  ∀ literal level, (∃ entry ∈ left.entries, entry.literal = literal ∧ entry.level = level) ↔
    ∃ entry ∈ right.entries, entry.literal = literal ∧ entry.level = level

/-- The two trails stand at one level and agree about every level below it. -/
structure Abreast (left right : Trail) : Prop where
  /-- The current level is the same. -/
  level : left.level = right.level
  /-- Below it the same values were assigned up to each level. -/
  below : ∀ lower < left.level, left.upTo lower = right.upTo lower

variable {clauses : List Clause} {trail final left right : Trail}

/-- What the clauses force is true in every larger valuation that leaves them settled. -/
theorem Forces.within_settled (forces : trail.Forces clauses final) {valuation : Valuation}
    (settled : ∀ clause ∈ clauses, clause.Settled valuation)
    (within : trail.value.Within valuation) : final.value.Within valuation := by
  induction forces with
  | done => exact within
  | @unit trail _ clause literal listed forced _ ih =>
    obtain ⟨_, _, others⟩ := (Clause.status_eq_unit_iff ..).1 forced
    have held : literal.value valuation = some true :=
      (settled clause listed).value_eq_true fun other inside different =>
        within.value (others other inside different)
    apply ih
    rw [value_extend]
    exact within.assign held

/-- Forcing does not touch the levels below the current one. -/
theorem Forces.upTo_eq (forces : trail.Forces clauses final) {lower : Nat}
    (below : lower < trail.level) : final.upTo lower = trail.upTo lower := by
  induction forces with
  | done => rfl
  | unit _ forced _ ih => exact (ih below).trans (upTo_extend (free_of_unit forced) _ below)

/-- A trail is abreast with itself. -/
theorem Abreast.refl (trail : Trail) : trail.Abreast trail :=
  ⟨rfl, fun _ _ => rfl⟩

/-- Trails stay abreast when literals are forced on both. -/
theorem Abreast.forces (abreast : left.Abreast right) {leftFinal rightFinal : Trail}
    (first : left.Forces clauses leftFinal) (second : right.Forces clauses rightFinal) :
    leftFinal.Abreast rightFinal := by
  refine ⟨?_, fun lower below => ?_⟩
  · rw [first.level_eq, second.level_eq]
    exact abreast.level
  · rw [first.level_eq] at below
    rw [first.upTo_eq below, second.upTo_eq (abreast.level ▸ below)]
    exact abreast.below lower below

/-- Trails abreast with the same values agree about every level. -/
theorem Abreast.upTo_eq (abreast : left.Abreast right) (leftCoherent : left.Coherent)
    (rightCoherent : right.Coherent) (same : left.value = right.value) (level : Nat) :
    left.upTo level = right.upTo level := by
  by_cases below : level < left.level
  · exact abreast.below level below
  · have top := abreast.level
    rw [leftCoherent.upTo_level (by omega), rightCoherent.upTo_level (by omega)]
    exact same

/-- An entry has a counterpart on every trail that agrees about all levels. Were the counterpart at a lower
level, so would be the entry itself. -/
theorem Coherent.exists_counterpart (leftCoherent : left.Coherent) (rightCoherent : right.Coherent)
    (same : ∀ level, left.upTo level = right.upTo level) {entry : Entry}
    (member : entry ∈ left.entries) :
    ∃ twin ∈ right.entries, twin.literal = entry.literal ∧ twin.level = entry.level := by
  have held : entry.literal.value (left.upTo entry.level) = some true :=
    (leftCoherent.value_upTo_eq_true_iff ..).2 ⟨entry, member, rfl, le_rfl⟩
  rw [same] at held
  obtain ⟨twin, present, named, low⟩ := (rightCoherent.value_upTo_eq_true_iff ..).1 held
  have back : entry.literal.value (right.upTo twin.level) = some true :=
    (rightCoherent.value_upTo_eq_true_iff ..).2 ⟨twin, present, named, le_rfl⟩
  rw [← same] at back
  obtain ⟨again, here, equal, bound⟩ := (leftCoherent.value_upTo_eq_true_iff ..).1 back
  rw [leftCoherent.eq_of_var here member (congrArg Literal.var equal)] at bound
  exact ⟨twin, present, named, le_antisymm low bound⟩

/-- Trails abreast with the same values are alike. -/
theorem Abreast.alike (abreast : left.Abreast right) (leftCoherent : left.Coherent)
    (rightCoherent : right.Coherent) (same : left.value = right.value) : left.Alike right := by
  have levels := abreast.upTo_eq leftCoherent rightCoherent same
  intro literal level
  constructor
  · rintro ⟨entry, member, rfl, rfl⟩
    exact leftCoherent.exists_counterpart rightCoherent levels member
  · rintro ⟨entry, member, rfl, rfl⟩
    exact rightCoherent.exists_counterpart leftCoherent (fun level => (levels level).symm) member

end Trail

namespace Propagator

variable {left right leftNext rightNext : Propagator} {clauses : List Clause}
  {leftTrail rightTrail leftFinal rightFinal : Trail} {conflict blame : Option Clause}

/-- Where a larger valuation leaves every clause settled, no clause is blamed and nothing beyond that
valuation is forced. -/
theorem Answer.quiet (answer : left.Answer leftNext clauses leftTrail leftFinal conflict)
    {valuation : Valuation} (settled : ∀ clause ∈ clauses, clause.Settled valuation)
    (within : leftTrail.value.Within valuation) :
    conflict = none ∧ leftFinal.value.Within valuation := by
  have bounded := answer.forces.within_settled settled within
  refine ⟨?_, bounded⟩
  cases conflict with
  | none => rfl
  | some clause =>
    obtain ⟨listed, falsified, _⟩ := answer.blamed clause rfl
    exact absurd (Clause.falsified_mono bounded falsified) (settled clause listed).1

/-- Propagators that start from the same values blame a clause both or neither, and come to the same
values where they blame none. -/
theorem Answer.agree (first : left.Answer leftNext clauses leftTrail leftFinal conflict)
    (second : right.Answer rightNext clauses rightTrail rightFinal blame)
    (same : leftTrail.value = rightTrail.value) :
    (conflict = none ↔ blame = none) ∧
      (conflict = none → leftFinal.value = rightFinal.value) := by
  have forward : conflict = none → blame = none ∧ rightFinal.value.Within leftFinal.value := by
    intro clean
    apply second.quiet (first.settled clean).1
    rw [← same]
    exact first.forces.within
  have backward : blame = none → conflict = none ∧ leftFinal.value.Within rightFinal.value := by
    intro clean
    apply first.quiet (second.settled clean).1
    rw [same]
    exact second.forces.within
  refine ⟨⟨fun clean => (forward clean).1, fun clean => (backward clean).1⟩, fun clean => ?_⟩
  obtain ⟨quiet, within⟩ := forward clean
  exact (backward quiet).2.antisymm within

/-- Taking notice of an undoing keeps the scheme. -/
theorem scheme_backtracked (propagator : Propagator) (trail : Trail) :
    (propagator.backtracked trail).scheme = propagator.scheme := by
  cases scheme : propagator.engine <;> simp only [backtracked, Propagator.scheme, scheme]

/-- Taking notice of a learned clause keeps the scheme. -/
theorem scheme_attach (propagator : Propagator) (clause : Clause) (trail : Trail) :
    (propagator.attach clause trail).scheme = propagator.scheme := by
  cases scheme : propagator.engine <;> simp only [attach, Propagator.scheme, scheme]

end Propagator

namespace Solver

variable {formula : Formula} {configuration : Configuration} {solver next : Solver}

/-- A transition keeps the scheme of propagation. -/
theorem Transition.scheme (transition : Transition solver next) :
    next.propagator.scheme = solver.propagator.scheme := by
  cases transition with
  | blamed _ answer => exact answer.scheme
  | satisfied _ answer _ => exact answer.scheme
  | decided _ answer _ => exact answer.scheme
  | refuted _ _ => rfl
  | asserted _ _ _ _ => exact Propagator.scheme_backtracked _ _
  | learned _ _ _ _ =>
    exact (Propagator.scheme_attach _ _ _).trans (Propagator.scheme_backtracked _ _)
  | ended _ => rfl

/-- A search keeps to the scheme of its configuration. -/
theorem scheme_of_steps (unlearned : formula.learned = []) {taken : Nat}
    (ran : (fresh configuration formula).steps taken = .ok solver) :
    solver.propagator.scheme = configuration.propagation := by
  have start : (fresh configuration formula).propagator.scheme = configuration.propagation := by
    cases named : configuration.propagation <;>
      simp only [fresh, named, Propagator.start, Propagator.scheme]
  exact run_keeps (invariant_fresh configuration unlearned) start
    (fun _ transition kept => transition.scheme.trans kept) ran

/-- While a search that watches goes on, rescanning a copy of its trail for the same clauses gives the
same answer: both schemes blame a clause or neither does, and where neither does their trails make the
same literals true at the same levels. -/
theorem watching_agrees_rescanning (variant : Variant) (strategy : Strategy)
    {signed : List (List Int)} {count : Int} {formula : Formula}
    (accepted : Formula.ofDimacs signed count = .ok formula) {taken : Nat} {solver : Solver}
    (ran : (fresh ⟨variant, strategy, .watched⟩ formula).steps taken = .ok solver)
    (searching : solver.phase = .searching) :
    (∃ lists, solver.propagator.engine = .watched lists) ∧
    ∃ watching watched conflict rescanning rescanned blame,
      solver.propagator.propagate solver.formula solver.trail = .ok (watching, watched, conflict) ∧
      (Propagator.start .naive solver.formula).propagate solver.formula solver.trail =
        .ok (rescanning, rescanned, blame) ∧
      (conflict.isSome ↔ blame.isSome) ∧
      (conflict = none → blame = none → watched.Alike rescanned) := by
  have invariant := invariant_of_steps accepted ran
  have coherent := invariant.grounded.coherent
  have scheme := scheme_of_steps (Formula.ofDimacs_eq_ok accepted).2.1 ran
  obtain ⟨watching, watched, conflict, found, answer⟩ := invariant.propagates searching
  have ready : (Propagator.start .naive solver.formula).Ready solver.formula.allClauses
    solver.trail := trivial
  obtain ⟨rescanning, rescanned, blame, scanned, other⟩ :=
    Propagator.propagate_eq_ok coherent ready
  obtain ⟨both, values⟩ := answer.agree other rfl
  refine ⟨?_, watching, watched, conflict, rescanning, rescanned, blame, found, scanned, ?_, ?_⟩
  · cases engine : solver.propagator.engine with
    | naive => simp [Propagator.scheme, engine] at scheme
    | watched lists => exact ⟨lists, rfl⟩
  · rw [Option.isSome_iff_ne_none, Option.isSome_iff_ne_none]
    exact not_congr both
  · intro clean _
    exact ((Trail.Abreast.refl solver.trail).forces answer.forces other.forces).alike
      (answer.forces.coherent coherent) (other.forces.coherent coherent) (values clean)

/-- After the decision to make 1 true, a search that learns and watches forces 2 at level 1, and so does
rescanning. -/
theorem watching_agrees_rescanning_one :
    ∃ formula solver watching watched rescanning rescanned,
      Formula.ofDimacs [[-1, 2]] 2 = .ok formula ∧
      (fresh ⟨.cdcl, .ordered, .watched⟩ formula).steps 1 = .ok solver ∧
      solver.phase = .searching ∧
      solver.propagator.propagate solver.formula solver.trail = .ok (watching, watched, none) ∧
      (Propagator.start .naive solver.formula).propagate solver.formula solver.trail =
        .ok (rescanning, rescanned, none) ∧
      (∃ entry ∈ watched.entries, entry.literal = ⟨2, false⟩ ∧ entry.level = 1) ∧
      ∃ entry ∈ rescanned.entries, entry.literal = ⟨2, false⟩ ∧ entry.level = 1 := by
  obtain ⟨formula, accepted⟩ : ∃ formula, Formula.ofDimacs [[-1, 2]] 2 = .ok formula := ⟨_, rfl⟩
  have read : (Formula.ofDimacs [[-1, 2]] 2).toOption.all fun formula =>
      (∀ clause ∈ formula.allClauses, clause.status .blank = .unresolved ∧
        clause.status ((Valuation.blank.assign ⟨1, false⟩).assign ⟨2, false⟩) = .satisfied) ∧
      ∃ clause ∈ formula.allClauses, clause.literals = [⟨1, true⟩, ⟨2, false⟩] := by decide
  rw [accepted] at read
  simp only [Except.toOption, Option.all_some, decide_eq_true_eq] at read
  obtain ⟨standing, clause, listed, shape⟩ := read
  obtain ⟨numVars, unlearned, _⟩ := Formula.ofDimacs_eq_ok accepted
  have two : formula.numVars = 2 := by omega
  have begun := invariant_fresh ⟨.cdcl, .ordered, .watched⟩ unlearned
  have picked : (fresh ⟨.cdcl, .ordered, .watched⟩ formula).decider.pick .empty =
      some ⟨1, false⟩ := by
    simp [fresh, Decider.start, two, Decider.pick, Decider.firstFree, Trail.isAssigned_empty]
  obtain ⟨solver, stepped, invariant, searching, same, trail⟩ :=
    begun.step_of_settled rfl (fun clause listed => by
      show clause.Settled Trail.empty.value
      rw [Trail.value_empty]
      simp [Clause.Settled, standing clause listed]) picked
  have ran : (fresh ⟨.cdcl, .ordered, .watched⟩ formula).steps 1 = .ok solver := by
    simp only [steps, stepped, bind, Except.bind]
  have values : solver.trail.value = Valuation.blank.assign ⟨1, false⟩ := by
    rw [trail, Trail.value_extend, ← Trail.value_empty]
    rfl
  obtain ⟨_, watching, watched, conflict, rescanning, rescanned, blame, found, scanned, both, alike⟩ :=
    watching_agrees_rescanning .cdcl .ordered accepted ran searching
  obtain ⟨_, _, _, again, answer⟩ := invariant.propagates searching
  rw [found] at again
  cases again
  have settled : ∀ clause ∈ solver.formula.allClauses,
      clause.Settled ((Valuation.blank.assign ⟨1, false⟩).assign ⟨2, false⟩) := by
    intro clause listed
    rw [same] at listed
    simp [Clause.Settled, standing clause listed]
  have within : solver.trail.value.Within
      ((Valuation.blank.assign ⟨1, false⟩).assign ⟨2, false⟩) := by
    rw [values]
    exact Valuation.within_assign rfl
  obtain rfl := (answer.quiet settled within).1
  obtain rfl : blame = none := by simpa using both
  have held : (⟨2, false⟩ : Literal).value watched.value = some true := by
    refine ((answer.settled rfl).1 clause (by rwa [same])).value_eq_true fun other inside apart => ?_
    have denied : other = ⟨1, true⟩ := by simpa [shape, apart] using inside
    apply answer.forces.within.value
    rw [denied, values]
    rfl
  obtain ⟨entry, member, named⟩ :=
    ((answer.forces.coherent invariant.grounded.coherent).valueOf_eq_true_iff _).1 held
  have top : entry.level = 1 := by
    rcases answer.forces.new_entry entry member with old | ⟨new, _⟩
    · have free : solver.trail.value 2 = none := by
        rw [values]
        rfl
      exact absurd (congrArg Literal.var named)
        ((invariant.grounded.coherent.value_eq_none_iff 2).1 free entry old)
    · rw [new, trail]
      rfl
  exact ⟨formula, solver, watching, watched, rescanning, rescanned, accepted, ran, searching, found,
    scanned, ⟨entry, member, named, top⟩, (alike rfl rfl _ _).1 ⟨entry, member, named, top⟩⟩

end Solver

end Clausal
