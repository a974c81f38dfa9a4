import Mathlib
import Clausal.Proofs.ConflictAnswers

/-!
# How far the variants go back

The three variants answer one conflict by clauses over ever fewer levels. The plain one denies every
decision of the trail. Backjumping denies the decisions that the conflict depends on, which are some of
these, the decision of the current level among them. Resolution names only literals that the conflict
depends on; since each entry above level 0 depends on the decision of its level, every level that the
learned clause names is the level of a decision that backjumping denies. So the levels to go back to
fall from one variant to the next.

What a variant answers is read here off its definition. The clauses are compared by what they deny.
-/

namespace Clausal

/-- The clause consists of the negations of the chosen entries' literals. -/
def Clause.Denies (clause : Clause) (Chosen : Entry → Prop) : Prop :=
  ∀ literal, literal ∈ clause.literals ↔ ∃ entry, Chosen entry ∧ entry.literal.negate = literal

/-- Each literal of the clause became false at the level of some literal of the other clause. -/
def Clause.Covered (clause other : Clause) (trail : Trail) : Prop :=
  ∀ literal ∈ clause.literals, ∃ entry ∈ trail.entries, entry.literal = literal.negate ∧
    ∃ named ∈ other.literals, ∃ cause ∈ trail.entries, cause.literal = named.negate ∧
      cause.level = entry.level

/-- A clause built from the negations of the listed entries denies what is listed. -/
theorem Clause.denies_of_built {entries : List Entry} {Chosen : Entry → Prop} {clause : Clause}
    (listed : ∀ entry, entry ∈ entries ↔ Chosen entry)
    (built : Clause.ofLiterals (entries.map fun entry => entry.literal.negate) = .ok clause) :
    clause.Denies Chosen := by
  intro literal
  rw [Clause.ofLiterals_literals built, mem_keepFirst, List.mem_map]
  simp only [listed]

namespace Analysis

variable {trail : Trail} {numVars : Nat} {Admitted : Clause → Prop} {conflict clause : Clause}
  {level : Nat} {asserting : Literal} {learn : Bool}

/-- The plain variant denies every decision and goes back by one level. -/
theorem chronological_eq_ok (grounded : trail.Grounded numVars Admitted)
    (found : chronological trail = .ok (.backjump clause level asserting learn)) :
    level = trail.level - 1 ∧
      clause.Denies fun entry => entry ∈ trail.entries ∧ entry.reason = none := by
  obtain ⟨decisions, read, members, _⟩ := grounded.decisions_eq_ok
  unfold chronological at found
  split at found
  · cases found
  · simp only [read, bind, Except.bind] at found
    split at found
    · cases found
    · cases built : Clause.ofLiterals (decisions.map fun entry => entry.literal.negate) with
      | error fault => simp [built] at found
      | ok denial =>
        rw [built] at found
        cases found
        exact ⟨rfl, Clause.denies_of_built members built⟩

/-- Backjumping denies the decisions that the conflict depends on. -/
theorem nonChronological_eq_ok (grounded : trail.Grounded numVars Admitted)
    (falsified : conflict.status trail.value = .falsified)
    (found : nonChronological conflict trail = .ok (.backjump clause level asserting learn)) :
    clause.Denies (trail.Relevant conflict.literals) := by
  obtain ⟨decisions, read, relevant, _⟩ := relevantDecisions_ascending grounded falsified
  unfold nonChronological at found
  split at found
  · cases found
  · simp only [read, bind, Except.bind] at found
    split at found
    · cases found
    · cases built : Clause.ofLiterals (decisions.map fun entry => entry.literal.negate) with
      | error fault => simp [built] at found
      | ok denial =>
        rw [built] at found
        cases found
        exact Clause.denies_of_built relevant built

/-- Where a clause denies decisions only, its asserting literal is the opposite of the decision of the
current level. -/
theorem Asserts.flips_decision {Chosen : Entry → Prop}
    (asserts : Asserts conflict trail clause level asserting) (coherent : trail.Coherent)
    (denies : clause.Denies Chosen)
    (decided : ∀ entry, Chosen entry → entry ∈ trail.entries ∧ entry.reason = none) :
    ∃ entry ∈ trail.entries, entry.reason = none ∧ entry.level = trail.level ∧
      entry.literal.negate = asserting := by
  obtain ⟨entry, chosen, negated⟩ := (denies asserting).1 asserts.member
  obtain ⟨member, decision⟩ := decided entry chosen
  obtain ⟨flipped, present, opposite, top⟩ := asserts.flipped
  have same : entry = flipped := by
    refine coherent.eq_of_denies member present ?_ opposite
    rw [← negated]
    rfl
  exact ⟨entry, member, decision, by rw [same, top], negated⟩

/-- A literal of the clause that became false below the current level did so no higher than the level to
go back to. -/
theorem Asserts.level_le (asserts : Asserts conflict trail clause level asserting)
    (coherent : trail.Coherent) {literal : Literal} (member : literal ∈ clause.literals)
    {entry : Entry} (present : entry ∈ trail.entries) (denies : entry.literal = literal.negate)
    (below : entry.level < trail.level) : entry.level ≤ level := by
  have named := Entry.var_of_denies denies
  by_cases itself : literal = asserting
  · obtain ⟨flipped, here, opposite, top⟩ := asserts.flipped
    rw [itself] at named
    rw [coherent.eq_of_denies present here named opposite, top] at below
    omega
  · obtain ⟨cause, here, opposite, _, low⟩ := asserts.others literal member itself
    rw [coherent.eq_of_denies present here named opposite]
    exact low

/-- Every literal of the clause became false above level 0. -/
theorem Asserts.lifted (asserts : Asserts conflict trail clause level asserting) {literal : Literal}
    (member : literal ∈ clause.literals) :
    ∃ entry ∈ trail.entries, entry.literal = literal.negate ∧ 0 < entry.level := by
  by_cases itself : literal = asserting
  · obtain ⟨flipped, present, opposite, top⟩ := asserts.flipped
    have below := asserts.below
    exact ⟨flipped, present, by rw [itself, opposite], by omega⟩
  · obtain ⟨cause, present, opposite, positive, _⟩ := asserts.others literal member itself
    exact ⟨cause, present, opposite, positive⟩

/-- Where a clause denies the decisions that the conflict depends on, it denies one at the level of
everything else that the conflict depends on, facts excepted. -/
theorem exists_denied_level (grounded : trail.Grounded numVars Admitted)
    (denies : clause.Denies (trail.Relevant conflict.literals)) {entry : Entry}
    (present : entry ∈ trail.entries) (above : 0 < entry.level)
    (reached : trail.Reaches conflict.literals entry.var) :
    ∃ literal ∈ clause.literals, ∃ decision ∈ trail.entries,
      decision.literal = literal.negate ∧ decision.level = entry.level := by
  obtain ⟨decision, member, decided, level, route⟩ :=
    reaches_decision grounded present above reached
  have relevant : trail.Relevant conflict.literals decision := ⟨member, route, by omega, decided⟩
  exact ⟨decision.literal.negate, (denies _).2 ⟨decision, relevant, rfl⟩, decision, member,
    (Literal.negate_negate _).symm, level⟩

/-- Clauses that deny decisions only assert the same literal. -/
theorem Asserts.asserting_eq {other : Clause} {otherLevel : Nat} {flipped : Literal}
    {Chosen Picked : Entry → Prop} (grounded : trail.Grounded numVars Admitted)
    (first : Asserts conflict trail clause level asserting) (denies : clause.Denies Chosen)
    (chosen : ∀ entry, Chosen entry → entry ∈ trail.entries ∧ entry.reason = none)
    (second : Asserts conflict trail other otherLevel flipped) (refuses : other.Denies Picked)
    (picked : ∀ entry, Picked entry → entry ∈ trail.entries ∧ entry.reason = none) :
    asserting = flipped := by
  obtain ⟨entry, member, decision, top, negated⟩ :=
    first.flips_decision grounded.coherent denies chosen
  obtain ⟨twin, present, decided, height, opposite⟩ :=
    second.flips_decision grounded.coherent refuses picked
  rw [← negated, ← opposite,
    grounded.decision_unique member decision present decided (top.trans height.symm)]

/-- Where a clause denies the decisions that the conflict depends on, it covers every other clause that
answers the conflict by literals that the conflict depends on. -/
theorem Asserts.covered {other : Clause} (grounded : trail.Grounded numVars Admitted)
    (denies : other.Denies (trail.Relevant conflict.literals))
    (asserts : Asserts conflict trail clause level asserting)
    (reached : ∀ literal ∈ clause.literals, trail.Reaches conflict.literals literal.var) :
    clause.Covered other trail := by
  intro literal member
  obtain ⟨entry, present, opposite, positive⟩ := asserts.lifted member
  have route : trail.Reaches conflict.literals entry.var := by
    rw [Entry.var_of_denies opposite]
    exact reached literal member
  exact ⟨entry, present, opposite, exists_denied_level grounded denies present positive route⟩

/-- Of two clauses that answer a conflict, the one that the other covers goes back no less. -/
theorem Asserts.level_le_of_covered {other : Clause} {otherLevel : Nat} {flipped : Literal}
    (coherent : trail.Coherent) (first : Asserts conflict trail clause level asserting)
    (second : Asserts conflict trail other otherLevel flipped) (covered : clause.Covered other trail) :
    level ≤ otherLevel := by
  by_cases positive : 0 < level
  · obtain ⟨literal, member, _, cause, here, opposite, peak⟩ := first.peak positive
    obtain ⟨entry, present, denies, named, inside, twin, there, denied, same⟩ := covered literal member
    rw [← coherent.eq_of_denies here present (Entry.var_of_denies opposite) denies, peak] at same
    have below := first.below
    have bound := second.level_le coherent inside there denied (by omega)
    omega
  · omega

/-- Along the trail, above level 0, only variables are met that the literals depend on. -/
theorem reaches_along (coherent : trail.Coherent) (above : 0 < trail.level) (literals : List Literal) :
    KeptAlong trail fun _ seen => ∀ var ∈ seen, trail.Reaches literals var := by
  intro entry member seen more passes _ reached
  cases passes with
  | unmet _ => exact reached
  | resolved met current forced noted =>
    intro var here
    rcases (noted var).1 here with old | ⟨literal, inside, rfl⟩
    · exact reached var old
    · exact .cause (reached entry.var met) (coherent.entryOf?_var member) (by omega) forced inside

/-- Every literal that resolution learns is one that the conflict depends on. -/
theorem firstUip_reaches (grounded : trail.Grounded numVars Admitted)
    (falsified : conflict.status trail.value = .falsified) (above : 0 < trail.level)
    (current : ∃ literal ∈ conflict.literals, ∃ entry ∈ trail.entries,
      entry.literal = literal.negate ∧ entry.level = trail.level)
    (found : firstUip conflict trail = .ok (.backjump clause level asserting learn)) :
    ∀ literal ∈ clause.literals, trail.Reaches conflict.literals literal.var := by
  have start : ∀ seen : List Int,
      (∀ var, var ∈ seen ↔ ∃ literal ∈ conflict.literals, literal.var = var) →
        ∀ var ∈ seen, trail.Reaches conflict.literals var := by
    intro seen begun var met
    obtain ⟨literal, inside, rfl⟩ := (begun var).1 met
    exact .named inside
  obtain ⟨entry, resolved, learned, top, answered, _, singled, shape, _, reached⟩ :=
    firstUip_eq_ok grounded falsified above current _
      (reaches_along grounded.coherent above conflict.literals) start
  rw [found] at answered
  cases answered
  intro literal member
  rcases List.mem_cons.1 ((shape literal).1 member) with single | lower
  · rw [single]
    exact reached entry.var singled.met
  · obtain ⟨other, _, denies, met, _⟩ := (singled.aside literal).1 lower
    rw [← Entry.var_of_denies denies]
    exact reached other.var met

end Analysis

namespace Solver

/-- The three variants answer a conflict of a search above level 0 by going back ever further. What
backjumping denies, the plain variant denies, and both assert the same literal; each level of a literal
that resolution learns is the level of a literal that backjumping denies. -/
theorem variants_jump_further (configuration : Configuration) {signed : List (List Int)} {count : Int}
    {formula : Formula} (accepted : Formula.ofDimacs signed count = .ok formula) {taken : Nat}
    {solver : Solver} (ran : (fresh configuration formula).steps taken = .ok solver)
    {conflict : Clause} (conflicting : solver.phase = .conflicting conflict)
    (above : 0 < solver.trail.level) :
    ∃ plain jumping learned plainLevel jumpLevel learnedLevel asserting single,
      Analysis.ofConflict .plain conflict solver.trail =
        .ok (.backjump plain plainLevel asserting false) ∧
      Analysis.ofConflict .backjump conflict solver.trail =
        .ok (.backjump jumping jumpLevel asserting false) ∧
      Analysis.ofConflict .cdcl conflict solver.trail =
        .ok (.backjump learned learnedLevel single true) ∧
      learnedLevel ≤ jumpLevel ∧ jumpLevel ≤ plainLevel ∧
      (∀ literal ∈ jumping.literals, literal ∈ plain.literals) ∧
      ∀ literal ∈ learned.literals, ∃ level, solver.trail.levelOf literal.var = .ok level ∧
        ∃ other ∈ jumping.literals, solver.trail.levelOf other.var = .ok level := by
  have invariant := invariant_of_steps accepted ran
  have grounded := invariant.grounded
  have coherent := grounded.coherent
  have falsified := (invariant.conflicting conflicting).2.1
  have current := invariant.conflict_current conflicting above
  obtain ⟨plain, plainLevel, asserting, plainFound, plainAsserts⟩ :=
    invariant.asserts conflicting above .plain
  obtain ⟨jumping, jumpLevel, flipped, jumpFound, jumpAsserts⟩ :=
    invariant.asserts conflicting above .backjump
  obtain ⟨learned, learnedLevel, single, learnedFound, learnedAsserts⟩ :=
    invariant.asserts conflicting above .cdcl
  obtain ⟨previous, all⟩ := Analysis.chronological_eq_ok grounded plainFound
  have needed := Analysis.nonChronological_eq_ok grounded falsified jumpFound
  have reached := Analysis.firstUip_reaches grounded falsified above current learnedFound
  have covered := learnedAsserts.covered grounded needed reached
  obtain rfl : flipped = asserting := jumpAsserts.asserting_eq grounded needed
    (fun entry relevant => ⟨relevant.1, relevant.2.2.2⟩) plainAsserts all fun entry chosen => chosen
  refine ⟨plain, jumping, learned, plainLevel, jumpLevel, learnedLevel, flipped, single, plainFound,
    jumpFound, learnedFound, learnedAsserts.level_le_of_covered coherent jumpAsserts covered, ?_,
    fun literal member => ?_, fun literal member => ?_⟩
  · have below := jumpAsserts.below
    omega
  · obtain ⟨entry, relevant, negated⟩ := (needed literal).1 member
    exact (all literal).2 ⟨entry, ⟨relevant.1, relevant.2.2.2⟩, negated⟩
  · obtain ⟨entry, present, denies, other, inside, decision, decided, denied, level⟩ :=
      covered literal member
    refine ⟨entry.level, coherent.levelOf_of_denies present denies, other, inside, ?_⟩
    rw [coherent.levelOf_of_denies decided denied, level]

/-- In a conflict at level 2 of a plain search that rescans, resolution goes back no less than
backjumping, and backjumping no less than by one level. -/
theorem variants_jump_further_above :
    ∃ formula solver conflict plain jumping learned plainLevel jumpLevel learnedLevel asserting single,
      Formula.ofDimacs [[2, 3], [2, -3], [-2, 3], [-2, -3]] 3 = .ok formula ∧
      (fresh ⟨.plain, .ordered, .naive⟩ formula).steps 3 = .ok solver ∧
      solver.phase = .conflicting conflict ∧ solver.trail.level = 2 ∧
      Analysis.ofConflict .plain conflict solver.trail =
        .ok (.backjump plain plainLevel asserting false) ∧
      Analysis.ofConflict .backjump conflict solver.trail =
        .ok (.backjump jumping jumpLevel asserting false) ∧
      Analysis.ofConflict .cdcl conflict solver.trail =
        .ok (.backjump learned learnedLevel single true) ∧
      learnedLevel ≤ jumpLevel ∧ jumpLevel ≤ plainLevel ∧
      ∀ literal ∈ jumping.literals, literal ∈ plain.literals := by
  obtain ⟨formula, solver, conflict, accepted, ran, conflicting, _, forces⟩ :=
    exists_conflict_above .plain .naive
  have two : solver.trail.level = 2 := forces.level_eq
  obtain ⟨plain, jumping, learned, plainLevel, jumpLevel, learnedLevel, asserting, single, plainFound,
    jumpFound, learnedFound, further, least, fewer, _⟩ :=
    variants_jump_further _ accepted ran conflicting (by omega)
  exact ⟨formula, solver, conflict, plain, jumping, learned, plainLevel, jumpLevel, learnedLevel,
    asserting, single, accepted, ran, conflicting, two, plainFound, jumpFound, learnedFound, further,
    least, fewer⟩

end Solver

end Clausal
