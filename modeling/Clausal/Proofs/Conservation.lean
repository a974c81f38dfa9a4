import Mathlib
import Clausal.Proofs.Lockstep

/-!
# What the counters of a search conserve

A decision opens a level. An answer to a conflict goes back below the current level, so it takes back the
level of one decision and those of the levels it passes over. The counters therefore balance with the
level: every decision is still on the trail, or was answered, or was passed over.

The laws are about the account of a search, which is what its counters, its level and its learned clauses
say once a conflict without an answer is left out. On accounts a step moves in one of four ways, and the
laws are kept by each of these.
-/

namespace Clausal

/-- The conflicts that were met but not answered by going back: one in a conflict, and the last one of a
formula that is refuted. -/
def Phase.unanswered : Phase → Nat
  | .conflicting _ | .refuted => 1
  | .searching | .satisfied => 0

/-- What a search has done so far. -/
structure Account where
  /-- The current level. -/
  level : Nat
  /-- Decisions taken. -/
  decisions : Nat
  /-- Conflicts answered by going back. -/
  resolved : Nat
  /-- Answers that passed over a level. -/
  backjumps : Nat
  /-- Levels passed over. -/
  skippedLevels : Nat
  /-- Clauses counted as learned. -/
  learned : Nat
  /-- The deepest level noted. -/
  maxLevel : Nat
  /-- The learned clauses. -/
  clauses : List Clause

namespace Account

/-- A decision opens a level. -/
def deepen (account : Account) : Account :=
  { account with
    level := account.level + 1
    decisions := account.decisions + 1
    maxLevel := max account.maxLevel (account.level + 1) }

/-- An answer goes back to a level. -/
def jump (account : Account) (level : Nat) : Account :=
  { account with
    level := level
    resolved := account.resolved + 1
    backjumps := account.backjumps + min 1 (account.level - level - 1)
    skippedLevels := account.skippedLevels + (account.level - level - 1) }

/-- A clause is learned. -/
def learn (account : Account) (clause : Clause) : Account :=
  { account with
    learned := account.learned + 1
    clauses := account.clauses ++ [clause] }

/-- How a step of a search of the variant moves its account. -/
inductive Moves (variant : Variant) (account : Account) : Account → Prop
  /-- Nothing is counted. -/
  | stayed : Moves variant account account
  /-- A decision is taken. -/
  | decided : Moves variant account account.deepen
  /-- A conflict is answered by a clause that is not kept. A plain search goes back by one level. -/
  | jumped {level : Nat} (below : level < account.level) (forgets : variant ≠ .cdcl)
      (adjacent : variant = .plain → level = account.level - 1) :
      Moves variant account (account.jump level)
  /-- A conflict is answered by a learned clause. -/
  | learned {level : Nat} {clause : Clause} (below : level < account.level)
      (learns : variant = .cdcl) (marked : clause.learnt = true) :
      Moves variant account ((account.jump level).learn clause)

/-- The laws of an account. -/
structure Balanced (variant : Variant) (account : Account) : Prop where
  /-- Each decision is on the trail, was answered or was passed over. -/
  decisions : account.decisions = account.level + account.resolved + account.skippedLevels
  /-- A backjump is an answer and passes over a level. -/
  backjumps : account.backjumps ≤ min account.resolved account.skippedLevels
  /-- A plain search passes over no level. -/
  plain : variant = .plain → account.backjumps = 0 ∧ account.skippedLevels = 0
  /-- Resolution learns one clause from each conflict it answers. -/
  learns : variant = .cdcl → account.learned = account.clauses.length ∧
    account.clauses.length = account.resolved ∧ ∀ clause ∈ account.clauses, clause.learnt = true
  /-- The other variants learn nothing. -/
  forgets : variant ≠ .cdcl → account.learned = 0 ∧ account.clauses = []

variable {variant : Variant} {account next : Account}

/-- Moves keep the laws. -/
theorem Moves.balanced (moves : Moves variant account next) (balanced : account.Balanced variant) :
    next.Balanced variant := by
  have decisions := balanced.decisions
  have backjumps := balanced.backjumps
  cases moves with
  | stayed => exact balanced
  | decided =>
    refine ⟨?_, backjumps, balanced.plain, balanced.learns, balanced.forgets⟩
    simp only [deepen]
    omega
  | @jumped level below forgets adjacent =>
    refine ⟨?_, ?_, fun plain => ?_, fun learns => absurd learns forgets, balanced.forgets⟩
    · simp only [jump]
      omega
    · simp only [jump]
      omega
    · have previous := adjacent plain
      have unused := balanced.plain plain
      simp only [jump]
      omega
  | @learned level clause below learns marked =>
    obtain ⟨counted, length, all⟩ := balanced.learns learns
    refine ⟨?_, ?_, fun plain => ?_, fun _ => ⟨?_, ?_, ?_⟩, fun forgets => absurd learns forgets⟩
    · simp only [learn, jump]
      omega
    · simp only [learn, jump]
      omega
    · simp [plain] at learns
    · simp [learn, jump, counted]
    · simp [learn, jump, length]
    · simp only [learn, jump, List.forall_mem_append, List.forall_mem_singleton]
      exact ⟨all, marked⟩

/-- A level that is noted keeps up with the current level. -/
theorem Moves.maxLevel_eq (moves : Moves variant account next)
    (noted : account.level ≤ account.maxLevel) :
    next.maxLevel = max next.level account.maxLevel := by
  cases moves with
  | stayed => omega
  | decided =>
    simp only [deepen]
    omega
  | jumped below _ _ =>
    simp only [jump]
    omega
  | learned below _ _ =>
    simp only [learn, jump]
    omega

/-- Learned clauses stay, in their order. -/
theorem Moves.clauses_grow (moves : Moves variant account next) :
    account.clauses <+: next.clauses := by
  cases moves with
  | stayed => exact List.prefix_refl _
  | decided => exact List.prefix_refl _
  | jumped _ _ _ => exact List.prefix_refl _
  | learned _ _ _ => exact List.prefix_append ..

end Account

namespace Solver

variable {formula : Formula} {configuration : Configuration} {solver next last : Solver}

/-- The account of a search. -/
def account (solver : Solver) : Account where
  level := solver.trail.level
  decisions := solver.stats.decisions
  resolved := solver.stats.conflicts - solver.phase.unanswered
  backjumps := solver.stats.backjumps
  skippedLevels := solver.stats.skippedLevels
  learned := solver.stats.learned
  maxLevel := solver.stats.maxLevel
  clauses := solver.formula.learned

/-- A conflict without an answer is always one that was counted. -/
theorem Transition.unanswered_le (transition : Transition solver next)
    (counted : solver.phase.unanswered ≤ solver.stats.conflicts) :
    next.phase.unanswered ≤ next.stats.conflicts := by
  cases transition with
  | blamed _ _ => exact Nat.le_add_left 1 _
  | satisfied _ _ _ => exact Nat.zero_le _
  | decided _ _ _ => exact counted
  | refuted conflicting _ =>
    rw [conflicting] at counted
    exact counted
  | asserted _ _ _ _ => exact Nat.zero_le _
  | learned _ _ _ _ => exact Nat.zero_le _
  | ended _ => exact counted

/-- Every transition moves the account. -/
theorem Transition.moves (transition : Transition solver next)
    (invariant : Invariant formula configuration solver)
    (counted : solver.phase.unanswered ≤ solver.stats.conflicts) :
    solver.account.Moves configuration.variant next.account := by
  have variant := invariant.variant
  have answered : ∀ {conflict}, solver.phase = .conflicting conflict →
      solver.stats.conflicts - 1 + 1 = solver.stats.conflicts := by
    intro conflict conflicting
    rw [conflicting] at counted
    exact Nat.sub_add_cancel counted
  cases transition with
  | @blamed propagator final clause searching answer =>
    convert Account.Moves.stayed using 1
    simp [account, propagated, answer.forces.level_eq, searching, Phase.unanswered]
  | @satisfied propagator final searching answer full =>
    convert Account.Moves.stayed using 1
    simp [account, propagated, answer.forces.level_eq, searching, Phase.unanswered]
  | @decided propagator final literal searching answer picked =>
    have level : (final.newLevel.extend literal none).level = solver.trail.level + 1 := by
      rw [← answer.forces.level_eq]
      exact final.level_newLevel
    convert Account.Moves.decided using 1
    simp [account, propagated, Account.deepen, level]
  | @refuted conflict conflicting ground =>
    convert Account.Moves.stayed using 1
    simp [account, conflicting, Phase.unanswered]
  | @asserted conflict clause level asserting conflicting forgets asserts analysed =>
    have back : ((solver.trail.undoTo level).1.extend asserting (some clause)).level = level :=
      asserts.level_undoTo
    rw [variant] at forgets
    have moved : solver.account.Moves configuration.variant (solver.account.jump level) := by
      refine .jumped asserts.below forgets fun plain => ?_
      rw [variant, plain] at analysed
      exact (Analysis.chronological_eq_ok invariant.grounded analysed).1
    convert moved using 1
    simp [account, Account.jump, jumped_eq, back, conflicting, Phase.unanswered,
      answered conflicting]
  | @learned conflict clause level asserting grown conflicting learns asserts added =>
    have back : ((solver.trail.undoTo level).1.extend asserting (some clause.asLearnt)).level =
      level := asserts.level_undoTo
    rw [variant] at learns
    have extended := (Formula.addLearned_shape added).2.2
    have moved : solver.account.Moves configuration.variant
        ((solver.account.jump level).learn clause.asLearnt) := .learned asserts.below learns rfl
    convert moved using 1
    simp [account, Account.jump, Account.learn, jumped_eq, back, conflicting, Phase.unanswered,
      answered conflicting, extended]
  | ended _ => exact .stayed

/-- The counters of a search of the variant keep the laws. -/
structure Lawful (variant : Variant) (solver : Solver) : Prop where
  /-- A conflict without an answer is one that was counted. -/
  counted : solver.phase.unanswered ≤ solver.stats.conflicts
  /-- The account is balanced. -/
  balanced : solver.account.Balanced variant

/-- A search begins with nothing to balance. -/
theorem lawful_fresh (configuration : Configuration) (unlearned : formula.learned = []) :
    (fresh configuration formula).Lawful configuration.variant := by
  refine ⟨Nat.zero_le _, rfl, Nat.zero_le _, fun _ => ⟨rfl, rfl⟩, fun _ => ?_, fun _ => ?_⟩
  · simp [account, fresh, Stats.zero, unlearned]
  · simp [account, fresh, Stats.zero, unlearned]

/-- Every transition keeps the laws. -/
theorem Transition.lawful (transition : Transition solver next)
    (invariant : Invariant formula configuration solver)
    (lawful : solver.Lawful configuration.variant) : next.Lawful configuration.variant :=
  ⟨transition.unanswered_le lawful.counted,
    (transition.moves invariant lawful.counted).balanced lawful.balanced⟩

/-- A run keeps the laws. -/
theorem Lawful.steps (lawful : solver.Lawful configuration.variant)
    (invariant : Invariant formula configuration solver) {taken : Nat}
    (ran : solver.steps taken = .ok last) : last.Lawful configuration.variant :=
  run_keeps invariant lawful (fun kept transition before => transition.lawful kept before) ran

/-- A run keeps the learned clauses, in their order. -/
theorem Lawful.learned_grow (lawful : solver.Lawful configuration.variant)
    (invariant : Invariant formula configuration solver) {taken : Nat}
    (ran : solver.steps taken = .ok last) : solver.formula.learned <+: last.formula.learned := by
  have both : last.Lawful configuration.variant ∧
      solver.formula.learned <+: last.formula.learned := by
    apply run_keeps invariant ⟨lawful, List.prefix_refl _⟩ (fun kept transition before => ?_) ran
    have moves := transition.moves kept before.1.counted
    exact ⟨transition.lawful kept before.1, before.2.trans moves.clauses_grow⟩
  exact both.2

/-- The levels that a search comes to within a number of steps. -/
def levelsWithin (solver : Solver) (taken : Nat) : Set Nat :=
  { level | ∃ earlier ≤ taken, ∃ before, solver.steps earlier = .ok before ∧
    before.trail.level = level }

/-- One more step comes to one more level. -/
theorem levelsWithin_succ {taken : Nat} (ran : solver.steps (taken + 1) = .ok last) :
    solver.levelsWithin (taken + 1) = insert last.trail.level (solver.levelsWithin taken) := by
  ext level
  rw [Set.mem_insert_iff]
  constructor
  · rintro ⟨earlier, early, before, reached, rfl⟩
    rcases Nat.le_succ_iff.1 early with sooner | rfl
    · exact .inr ⟨earlier, sooner, before, reached, rfl⟩
    · rw [ran] at reached
      exact .inl (congrArg (fun solver => solver.trail.level) (Except.ok.inj reached).symm)
  · rintro (rfl | ⟨earlier, early, before, reached, rfl⟩)
    · exact ⟨taken + 1, le_rfl, last, ran, rfl⟩
    · exact ⟨earlier, Nat.le_succ_of_le early, before, reached, rfl⟩

/-- The level that is noted is the largest that the search has come to. -/
theorem Lawful.isGreatest_maxLevel (lawful : solver.Lawful configuration.variant)
    (invariant : Invariant formula configuration solver)
    (start : solver.stats.maxLevel = solver.trail.level) {taken : Nat}
    (ran : solver.steps taken = .ok last) :
    IsGreatest (solver.levelsWithin taken) last.stats.maxLevel := by
  induction taken generalizing last with
  | zero =>
    cases ran
    rw [start]
    refine ⟨⟨0, le_rfl, solver, rfl, rfl⟩, ?_⟩
    rintro level ⟨earlier, early, before, reached, rfl⟩
    obtain rfl := Nat.le_zero.1 early
    cases reached
    exact le_rfl
  | succ taken ih =>
    obtain ⟨before, reached, further⟩ := steps_cut ran
    have greatest := ih reached
    have noted : before.trail.level ≤ before.stats.maxLevel :=
      greatest.2 ⟨taken, le_rfl, before, reached, rfl⟩
    obtain ⟨next, stepped, transition⟩ := (invariant.steps reached).step_eq_ok
    have moves := transition.moves (invariant.steps reached) (lawful.steps invariant reached).counted
    have same : next = last := by
      have again := steps_concat reached stepped
      rw [ran] at again
      exact (Except.ok.inj again).symm
    have keeps : last.stats.maxLevel = max last.trail.level before.stats.maxLevel := by
      rw [← same]
      exact moves.maxLevel_eq noted
    rw [levelsWithin_succ ran, keeps]
    exact greatest.insert _

/-- The counters of a search of a formula read from signed clauses keep the laws. The level that is noted
is the largest so far and is bounded by the number of variables. The formula changes only by learned
clauses that are appended. A refuted search is at level 0, and a plain one has then met one conflict more
than it has taken decisions. -/
theorem counters_conserved (configuration : Configuration) {signed : List (List Int)} {count : Int}
    {formula : Formula} (accepted : Formula.ofDimacs signed count = .ok formula) {taken : Nat}
    {solver : Solver} (ran : (fresh configuration formula).steps taken = .ok solver) :
    solver.Lawful configuration.variant ∧
    IsGreatest ((fresh configuration formula).levelsWithin taken) solver.stats.maxLevel ∧
    solver.stats.maxLevel ≤ count ∧
    solver.formula.clauses = formula.clauses ∧ (solver.formula.numVars : Int) = count ∧
    (∀ earlier ≤ taken, ∀ before, (fresh configuration formula).steps earlier = .ok before →
      before.formula.learned <+: solver.formula.learned) ∧
    (solver.phase = .refuted → solver.trail.level = 0 ∧
      (configuration.variant = .plain → solver.stats.conflicts = solver.stats.decisions + 1)) := by
  obtain ⟨numVars, unlearned, _⟩ := Formula.ofDimacs_eq_ok accepted
  have begun := invariant_fresh configuration unlearned
  have start := lawful_fresh configuration unlearned
  have invariant := begun.steps ran
  have lawful := start.steps begun ran
  have greatest := start.isGreatest_maxLevel begun rfl ran
  refine ⟨lawful, greatest, ?_, invariant.clauses, ?_, fun earlier early before reached => ?_,
    fun refuted => ?_⟩
  · obtain ⟨earlier, _, before, reached, peak⟩ := greatest.1
    have bound := (begun.steps reached).level_le
    omega
  · rw [invariant.numVars]
    exact numVars
  · obtain ⟨spare, rfl⟩ := Nat.exists_eq_add_of_le early
    obtain ⟨middle, led, further⟩ := steps_cut ran
    rw [reached] at led
    obtain rfl := Except.ok.inj led
    exact (start.steps begun reached).learned_grow (begun.steps reached) further
  · have ground := (invariant.refuted refuted).1
    refine ⟨ground, fun plain => ?_⟩
    have counted := lawful.counted
    have decisions := lawful.balanced.decisions
    have skipped := (lawful.balanced.plain plain).2
    simp only [account, refuted, Phase.unanswered, ground] at counted decisions skipped
    omega

/-- In a conflict at level 2 a search that learns has taken two decisions more than it has answered
conflicts and passed over levels. A plain search that is refuted at once has met one conflict without a
decision. -/
theorem counters_conserved_both :
    (∃ formula solver conflict,
      Formula.ofDimacs [[2, 3], [2, -3], [-2, 3], [-2, -3]] 3 = .ok formula ∧
      (fresh ⟨.cdcl, .ordered, .watched⟩ formula).steps 3 = .ok solver ∧
      solver.phase = .conflicting conflict ∧
      solver.stats.decisions = 2 + (solver.stats.conflicts - 1) + solver.stats.skippedLevels ∧
      2 ≤ solver.stats.maxLevel ∧ solver.stats.maxLevel ≤ 3 ∧
      solver.formula.learned.length = solver.stats.conflicts - 1) ∧
    ∃ formula solver, Formula.ofDimacs [[1], [-1]] 1 = .ok formula ∧
      (fresh ⟨.plain, .jeroslow, .naive⟩ formula).steps 2 = .ok solver ∧
      solver.phase = .refuted ∧ solver.stats.conflicts = solver.stats.decisions + 1 := by
  constructor
  · obtain ⟨formula, solver, conflict, accepted, ran, conflicting, _, forces⟩ :=
      exists_conflict_above .cdcl .watched
    have two : solver.trail.level = 2 := forces.level_eq
    obtain ⟨lawful, greatest, bound, _⟩ := counters_conserved _ accepted ran
    have decisions := lawful.balanced.decisions
    have learned := (lawful.balanced.learns rfl).2.1
    have deep : solver.trail.level ≤ solver.stats.maxLevel :=
      greatest.2 ⟨3, le_rfl, solver, ran, rfl⟩
    simp only [account, conflicting, Phase.unanswered, two] at decisions learned
    exact ⟨formula, solver, conflict, accepted, ran, conflicting, decisions, by omega, by omega,
      learned⟩
  · obtain ⟨formula, solver, conflict, accepted, ran, conflicting, ground⟩ :=
      exists_conflict_ground ⟨.plain, .jeroslow, .naive⟩
    obtain ⟨next, stepped, transition⟩ := (invariant_of_steps accepted ran).step_eq_ok
    have refuted : next.phase = .refuted := by
      rw [transition.refutes conflicting ground]
    have further := steps_concat ran stepped
    obtain ⟨_, _, _, _, _, _, ended⟩ := counters_conserved _ accepted further
    exact ⟨formula, next, accepted, further, refuted, (ended refuted).2 rfl⟩

end Solver

end Clausal
