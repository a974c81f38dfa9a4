import Mathlib
import Clausal.Proofs.Correctness

/-!
# The model a search finds

Every decision was the first preferred literal without a value when it was taken, so all variables
preferred to it have values of lower levels. Everything else on the trail is implied by the input
clauses and the decisions up to its level. Together these single out the model at the end of a search:
against any other model it has the preferred value at the first variable, in order of preference, on
which the two differ. There is one such model only, so neither the variant nor the scheme of
propagation has any say in the outcome.
-/

namespace Clausal

/-- Against every assignment of the variables that satisfies the signed clauses, the model has the
preferred value at the first variable, in order of preference, on which the two differ. -/
def Assignment.Preferred (model : Assignment) (preferences : List Literal)
    (signed : List (List Int)) (count : Int) : Prop :=
  ∀ other : Assignment, other.TotalOn count → isModel signed other = true →
    ∀ before literal after, preferences = before ++ literal :: after →
      (∀ earlier ∈ before, model.get? earlier.var = other.get? earlier.var) →
      model.get? literal.var ≠ other.get? literal.var →
      model.get? literal.var = some (!literal.negated)

namespace Trail

/-- Every decision is a preferred literal, and the variables of all literals preferred to it have
values of lower levels. -/
def Chosen (trail : Trail) (preferences : List Literal) : Prop :=
  ∀ entry ∈ trail.entries, entry.reason = none → ∃ before after,
    preferences = before ++ entry.literal :: after ∧
      ∀ earlier ∈ before, ∃ cause ∈ trail.entries, cause.var = earlier.var ∧
        cause.level < entry.level

variable {trail final : Trail} {preferences : List Literal}

/-- A decision stays chosen when the trail has more entries. -/
theorem Chosen.kept (chosen : trail.Chosen preferences) {entry : Entry}
    (member : entry ∈ trail.entries) (decision : entry.reason = none)
    (larger : ∀ other ∈ trail.entries, other ∈ final.entries) :
    ∃ before after, preferences = before ++ entry.literal :: after ∧
      ∀ earlier ∈ before, ∃ cause ∈ final.entries, cause.var = earlier.var ∧
        cause.level < entry.level := by
  obtain ⟨before, after, split, causes⟩ := chosen entry member decision
  refine ⟨before, after, split, fun earlier inside => ?_⟩
  obtain ⟨cause, present, rest⟩ := causes earlier inside
  exact ⟨cause, larger cause present, rest⟩

/-- Forcing literals takes no decision. -/
theorem Chosen.forces (chosen : trail.Chosen preferences) {clauses : List Clause}
    (forces : trail.Forces clauses final) : final.Chosen preferences := by
  intro entry member decision
  rcases forces.new_entry entry member with old | ⟨_, _, _, _, forced⟩
  · exact chosen.kept old decision forces.mem
  · simp [decision] at forced

/-- An asserted literal is no decision. -/
theorem Chosen.extend (chosen : trail.Chosen preferences) (literal : Literal) (reason : Clause) :
    (trail.extend literal (some reason)).Chosen preferences := by
  intro entry member decision
  rcases mem_extend.1 member with old | new
  · exact chosen.kept old decision fun other present => mem_extend.2 (.inl present)
  · simp [new] at decision

/-- Going back keeps what lies below a decision that stays. -/
theorem Chosen.undoTo (chosen : trail.Chosen preferences) (coherent : trail.Coherent)
    (level : Nat) : (trail.undoTo level).1.Chosen preferences := by
  intro entry member decision
  obtain ⟨present, low⟩ := coherent.mem_undoTo.1 member
  obtain ⟨before, after, split, causes⟩ := chosen entry present decision
  refine ⟨before, after, split, fun earlier inside => ?_⟩
  obtain ⟨cause, here, same, lower⟩ := causes earlier inside
  exact ⟨cause, coherent.mem_undoTo.2 ⟨here, by omega⟩, same, lower⟩

/-- Taking the first preferred literal without a value keeps decisions chosen. -/
theorem Chosen.decide (chosen : trail.Chosen preferences) (coherent : trail.Coherent)
    {literal : Literal}
    (picked : preferences.find? (fun other => !trail.isAssigned other.var) = some literal) :
    (trail.newLevel.extend literal none).Chosen preferences := by
  intro entry member decision
  rcases mem_extend.1 member with old | new
  · exact chosen.kept old decision fun other present => mem_extend.2 (.inl present)
  · obtain ⟨_, before, after, split, assigned⟩ := List.find?_eq_some_iff_append.1 picked
    subst new
    refine ⟨before, after, split, fun earlier inside => ?_⟩
    have given : trail.isAssigned earlier.var = true := by simpa using assigned earlier inside
    obtain ⟨cause, held⟩ := Option.isSome_iff_exists.1 given
    obtain ⟨present, same⟩ := (coherent.indexed _ _).1 held
    have low := coherent.level_le present
    refine ⟨cause, mem_extend.2 (.inl present), same, ?_⟩
    simp only [level_newLevel]
    omega

/-- Where every preferred variable has a value, a reading that agrees with the admitted clauses and
with the trail on all variables preferred to a literal either agrees with the trail on the literal's
variable too, or the trail holds the preferred literal. -/
theorem Chosen.holds_or (chosen : trail.Chosen preferences) {numVars : Nat}
    {Admitted : Clause → Prop} (grounded : trail.Grounded numVars Admitted)
    (distinct : (preferences.map Literal.var).Nodup) {reading : Int → Bool}
    (agrees : ∀ clause, Admitted clause → clause.Holds reading) {before after : List Literal}
    {literal : Literal} (split : preferences = before ++ literal :: after)
    (earlier : ∀ entry ∈ trail.entries, entry.var ∈ before.map Literal.var →
      entry.literal.Holds reading)
    {entry : Entry} (member : entry ∈ trail.entries) (named : entry.var = literal.var) :
    entry.literal = literal ∨ entry.literal.Holds reading := by
  have coherent := grounded.coherent
  cases forced : entry.reason with
  | none =>
    obtain ⟨first, last, shape, _⟩ := chosen entry member forced
    have inside : entry.literal ∈ preferences := by simp [shape]
    have listed : literal ∈ preferences := by simp [split]
    exact .inl (List.inj_on_of_nodup_map distinct inside listed named)
  | some clause =>
    refine .inr (grounded.holds_of_decisions agrees (fun decision present decided low => ?_) entry
      member le_rfl)
    obtain ⟨first, last, shape, causes⟩ := chosen decision present decided
    by_cases preferred : decision.var ∈ before.map Literal.var
    · exact earlier decision present preferred
    · exfalso
      have placed : literal ∈ first ∨ literal = decision.literal := by
        rw [split] at shape
        rcases List.append_eq_append_iff.1 shape with ⟨middle, front, back⟩ | ⟨middle, front, back⟩
        · cases middle with
          | nil => exact .inr (List.cons.inj back).1
          | cons head rest =>
            rw [(List.cons.inj back).1, front]
            exact .inl (by simp)
        · cases middle with
          | nil => exact .inr (List.cons.inj back).1.symm
          | cons head rest =>
            have inside : decision.literal ∈ before := by
              rw [front, (List.cons.inj back).1]
              simp
            exact absurd (List.mem_map_of_mem inside) preferred
      rcases placed with ahead | same
      · obtain ⟨cause, here, equal, lower⟩ := causes literal ahead
        rw [coherent.eq_of_var here member (equal.trans named.symm)] at lower
        omega
      · have equal : decision = entry := by
          refine coherent.eq_of_var present member ?_
          rw [named, same]
          rfl
        rw [equal, forced] at decided
        simp at decided

/-- The model of a trail gives the variable of each entry the value that the entry does. -/
theorem Grounded.get?_model {numVars : Nat} {Admitted : Clause → Prop}
    (grounded : trail.Grounded numVars Admitted) {entry : Entry} (member : entry ∈ trail.entries) :
    (trail.model numVars).get? entry.var = some (!entry.literal.negated) := by
  have range : 1 ≤ entry.var ∧ entry.var ≤ numVars := grounded.inRange entry member
  rw [Trail.get?_model, if_pos range, value, grounded.coherent.entryOf?_var member]
  rfl

/-- Trails with the same values in range have one model. -/
theorem model_congr {left right : Trail} {count : Nat}
    (same : ∀ var, (left.model count).get? var = (right.model count).get? var) :
    left.model count = right.model count := by
  unfold model
  refine congrArg Assignment.mk (List.map_congr_left fun number member => ?_)
  have range := List.mem_range'_1.1 member
  have values := same number
  rw [Trail.get?_model, Trail.get?_model, if_pos (by omega), if_pos (by omega)] at values
  rw [Option.some.inj values]

end Trail

namespace Assignment

/-- A total assignment gives each variable in range the value that it reads. -/
theorem TotalOn.get?_eq {model : Assignment} {count : Int} (total : model.TotalOn count) {var : Int}
    (low : 1 ≤ var) (high : var ≤ count) : model.get? var = some (model.reading var) := by
  obtain ⟨truth, held⟩ := Option.isSome_iff_exists.1 ((total var).2 ⟨low, high⟩)
  rw [reading, held, Option.getD_some]

/-- Two preferred models, each of which is a model in the sense of the other, agree. Otherwise take the
first variable on which they differ: both would have the preferred value there. -/
theorem Preferred.get?_eq {left right : Assignment} {preferences : List Literal}
    {signed others : List (List Int)} {count : Int}
    (covers : ∀ var, 1 ≤ var → var ≤ count → var ∈ preferences.map Literal.var)
    (leftPreferred : left.Preferred preferences signed count)
    (rightPreferred : right.Preferred preferences others count)
    (leftTotal : left.TotalOn count) (leftValid : isModel others left = true)
    (rightTotal : right.TotalOn count) (rightValid : isModel signed right = true) (var : Int) :
    left.get? var = right.get? var := by
  by_cases range : 1 ≤ var ∧ var ≤ count
  · by_contra differ
    obtain ⟨literal, listed, named⟩ := List.mem_map.1 (covers var range.1 range.2)
    have exists_ : (preferences.find? fun literal =>
        left.get? literal.var ≠ right.get? literal.var).isSome := by
      rw [List.find?_isSome]
      refine ⟨literal, listed, ?_⟩
      rw [named]
      simpa using differ
    obtain ⟨first, found⟩ := Option.isSome_iff_exists.1 exists_
    obtain ⟨apart, before, after, split, same⟩ := List.find?_eq_some_iff_append.1 found
    have apart : left.get? first.var ≠ right.get? first.var := by simpa using apart
    have same : ∀ earlier ∈ before, left.get? earlier.var = right.get? earlier.var := by
      simpa using same
    have leftValue := leftPreferred right rightTotal rightValid before first after split same apart
    have rightValue := rightPreferred left leftTotal leftValid before first after split
      (fun earlier inside => (same earlier inside).symm) apart.symm
    exact apart (leftValue.trans rightValue.symm)
  · have leftFree := (leftTotal var).not.2 range
    have rightFree := (rightTotal var).not.2 range
    rw [Bool.not_eq_true, Option.isSome_eq_false_iff, Option.isNone_iff_eq_none] at leftFree rightFree
    rw [leftFree, rightFree]

end Assignment

namespace Solver

variable {formula : Formula} {configuration : Configuration} {solver next : Solver}

/-- Transitions keep decisions chosen. -/
theorem Transition.chosen (transition : Transition solver next)
    (invariant : Invariant formula configuration solver)
    (chosen : solver.trail.Chosen (Decider.start configuration.strategy formula).preferences) :
    next.trail.Chosen (Decider.start configuration.strategy formula).preferences := by
  have coherent := invariant.grounded.coherent
  cases transition with
  | blamed _ answer => exact chosen.forces answer.forces
  | satisfied _ answer _ => exact chosen.forces answer.forces
  | @decided propagator final literal _ answer picked =>
    rw [invariant.decider, Decider.pick_eq_find?] at picked
    exact (chosen.forces answer.forces).decide (answer.forces.coherent coherent) picked
  | refuted _ _ => exact chosen
  | @asserted conflict clause level asserting _ _ _ =>
    exact (chosen.undoTo coherent level).extend asserting clause
  | @learned conflict clause level asserting grown _ _ _ _ =>
    exact (chosen.undoTo coherent level).extend asserting clause.asLearnt
  | ended _ => exact chosen

/-- The model of a satisfied search is preferred to every other model. -/
theorem Invariant.preferred (invariant : Invariant formula configuration solver)
    (chosen : solver.trail.Chosen (Decider.start configuration.strategy formula).preferences)
    (satisfied : solver.phase = .satisfied) {signed : List (List Int)} {count : Int}
    (accepted : Formula.ofDimacs signed count = .ok formula) :
    (solver.trail.model formula.numVars).Preferred
      (Decider.start configuration.strategy formula).preferences signed count := by
  intro other total valid before literal after split same differ
  have grounded := invariant.grounded
  have counted := (Formula.ofDimacs_eq_ok accepted).1
  have holds := (total.isModel_iff accepted).1 valid
  obtain ⟨low, high⟩ := (Decider.mem_map_var_preferences_iff configuration.strategy formula
    literal.var).1 (List.mem_map_of_mem (by simp [split]))
  obtain ⟨entry, held⟩ := Option.isSome_iff_exists.1
    ((invariant.satisfied satisfied).1 literal.var low high)
  obtain ⟨member, named⟩ := (grounded.coherent.indexed _ _).1 held
  have distinct : ((Decider.start configuration.strategy formula).preferences.map
      Literal.var).Nodup := by
    rw [(Decider.map_var_preferences_perm configuration.strategy formula).nodup_iff]
    exact List.Nodup.map Nat.cast_injective List.nodup_range'
  have earlier : ∀ entry ∈ solver.trail.entries, entry.var ∈ before.map Literal.var →
      entry.literal.Holds other.reading := by
    intro cause present inside
    obtain ⟨ahead, listed, equal⟩ := List.mem_map.1 inside
    have value := same ahead listed
    rw [equal, grounded.get?_model present] at value
    rw [Literal.Holds, Assignment.reading]
    change (other.get? cause.var).getD false = _
    rw [← value]
    rfl
  rw [← named, grounded.get?_model member] at differ ⊢
  rcases chosen.holds_or grounded distinct (fun clause admitted => admitted other.reading holds)
    split earlier member named with preferred | agrees
  · rw [preferred]
  · refine absurd ?_ differ
    rw [total.get?_eq (by omega) (by omega), ← agrees]
    rfl

/-- Running to the end decides the signed clauses with a preferred model or none. -/
theorem solve_cases (configuration : Configuration) {signed : List (List Int)} {count : Int}
    {formula : Formula} (accepted : Formula.ofDimacs signed count = .ok formula) :
    (∃ last trail, (fresh configuration formula).solve =
        .ok (last, .satisfiable (Trail.model trail formula.numVars)) ∧
      (trail.model formula.numVars).TotalOn count ∧
      isModel signed (trail.model formula.numVars) = true ∧
      (trail.model formula.numVars).Preferred
        (Decider.start configuration.strategy formula).preferences signed count) ∨
    ∃ last, (fresh configuration formula).solve = .ok (last, .unsatisfiable) ∧
      ∀ model : Assignment, model.TotalOn count → isModel signed model = false := by
  obtain ⟨counted, unlearned, _⟩ := Formula.ofDimacs_eq_ok accepted
  have start := invariant_fresh configuration unlearned
  obtain ⟨last, ended, ran, done⟩ := start.run_eq_ok
  have invariant := start.steps ran
  have solved : (fresh configuration formula).solve = .ok (last, last.outcome) := by
    rw [solve, ended]
    rfl
  rcases phase_of_isDone done with satisfied | refuted
  · left
    have chosen : last.trail.Chosen (Decider.start configuration.strategy formula).preferences := by
      refine run_keeps start (fun entry member => ?_)
        (fun kept transition before => transition.chosen kept before) ran
      simp [fresh, Trail.empty] at member
    have total := last.trail.totalOn_model formula.numVars
    rw [counted] at total
    refine ⟨last, last.trail, ?_, total,
      (total.isModel_iff accepted).2 (invariant.holds_model satisfied),
      invariant.preferred chosen satisfied accepted⟩
    rw [solved, outcome, satisfied, invariant.numVars]
  · right
    refine ⟨last, by rw [solved, outcome, refuted], fun model total => ?_⟩
    rw [← Bool.not_eq_true, total.isModel_iff accepted]
    exact fun holds => invariant.not_satisfiable refuted ⟨_, holds⟩

/-- Searches with the same preferences, of signed clauses with the same models, have one outcome. -/
theorem solve_agree {signed others : List (List Int)} {count : Int} {formula other : Formula}
    (accepted : Formula.ofDimacs signed count = .ok formula)
    (acceptedOther : Formula.ofDimacs others count = .ok other)
    (models : ∀ model : Assignment, model.TotalOn count → isModel signed model = isModel others model)
    (left right : Configuration)
    (preferences : (Decider.start left.strategy formula).preferences =
      (Decider.start right.strategy other).preferences) :
    ∃ leftLast rightLast outcome, (fresh left formula).solve = .ok (leftLast, outcome) ∧
      (fresh right other).solve = .ok (rightLast, outcome) := by
  have numVars : formula.numVars = other.numVars := by
    have first := (Formula.ofDimacs_eq_ok accepted).1
    have second := (Formula.ofDimacs_eq_ok acceptedOther).1
    omega
  have covers : ∀ var, 1 ≤ var → var ≤ count →
      var ∈ (Decider.start left.strategy formula).preferences.map Literal.var := by
    intro var low high
    have counted := (Formula.ofDimacs_eq_ok accepted).1
    exact (Decider.mem_map_var_preferences_iff ..).2 ⟨low, by omega⟩
  rcases solve_cases left accepted with
    ⟨leftLast, leftTrail, leftSolved, leftTotal, leftValid, leftPreferred⟩ |
    ⟨leftLast, leftSolved, leftNone⟩ <;>
  rcases solve_cases right acceptedOther with
    ⟨rightLast, rightTrail, rightSolved, rightTotal, rightValid, rightPreferred⟩ |
    ⟨rightLast, rightSolved, rightNone⟩
  · rw [← numVars] at rightSolved rightTotal rightValid rightPreferred
    rw [← preferences] at rightPreferred
    have same := Trail.model_congr (leftPreferred.get?_eq covers rightPreferred leftTotal
      ((models _ leftTotal).symm.trans leftValid) rightTotal ((models _ rightTotal).trans rightValid))
    rw [← same] at rightSolved
    exact ⟨leftLast, rightLast, _, leftSolved, rightSolved⟩
  · rw [models _ leftTotal, rightNone _ leftTotal] at leftValid
    simp at leftValid
  · rw [← models _ rightTotal, leftNone _ rightTotal] at rightValid
    simp at rightValid
  · exact ⟨leftLast, rightLast, _, leftSolved, rightSolved⟩

/-- The outcome does not depend on the variant or the scheme of propagation. If the signed clauses
have a model, every search with the strategy gives one and the same model, which is preferred to all
others; if they have none, every search says so. In the `ordered` strategy the outcome depends on
nothing but the models of the clauses. -/
theorem outcome_independent (strategy : Strategy) {signed : List (List Int)} {count : Int}
    {formula : Formula} (accepted : Formula.ofDimacs signed count = .ok formula) :
    ((∃ model : Assignment, model.TotalOn count ∧ isModel signed model = true) →
      ∃ model : Assignment, model.TotalOn count ∧ isModel signed model = true ∧
        model.Preferred (Decider.start strategy formula).preferences signed count ∧
        ∀ variant propagation, ∃ last,
          (fresh ⟨variant, strategy, propagation⟩ formula).solve = .ok (last, .satisfiable model)) ∧
    ((¬∃ model : Assignment, model.TotalOn count ∧ isModel signed model = true) →
      ∀ variant propagation, ∃ last,
        (fresh ⟨variant, strategy, propagation⟩ formula).solve = .ok (last, .unsatisfiable)) ∧
    ∀ (others : List (List Int)) (other : Formula),
      Formula.ofDimacs others count = .ok other →
      (∀ model : Assignment, model.TotalOn count → isModel signed model = isModel others model) →
      ∀ variant propagation variant' propagation', ∃ last last' outcome,
        (fresh ⟨variant, .ordered, propagation⟩ formula).solve = .ok (last, outcome) ∧
        (fresh ⟨variant', .ordered, propagation'⟩ other).solve = .ok (last', outcome) := by
  refine ⟨fun ⟨given, givenTotal, givenValid⟩ => ?_, fun none variant propagation => ?_,
    fun others other acceptedOther models variant propagation variant' propagation' => ?_⟩
  · rcases solve_cases ⟨.plain, strategy, .naive⟩ accepted with
      ⟨last, trail, solved, total, valid, preferred⟩ | ⟨_, _, none⟩
    · refine ⟨_, total, valid, preferred, fun variant propagation => ?_⟩
      obtain ⟨_, next, outcome, first, second⟩ := solve_agree accepted accepted (fun _ _ => rfl)
        ⟨.plain, strategy, .naive⟩ ⟨variant, strategy, propagation⟩ rfl
      rw [solved] at first
      obtain ⟨_, same⟩ := Prod.mk.inj (Except.ok.inj first)
      rw [← same] at second
      exact ⟨next, second⟩
    · rw [none given givenTotal] at givenValid
      simp at givenValid
  · rcases solve_cases ⟨variant, strategy, propagation⟩ accepted with
      ⟨_, trail, _, total, valid, _⟩ | ⟨last, solved, _⟩
    · exact absurd ⟨_, total, valid⟩ none
    · exact ⟨last, solved⟩
  · refine solve_agree accepted acceptedOther models ⟨variant, .ordered, propagation⟩
      ⟨variant', .ordered, propagation'⟩ ?_
    have numVars : formula.numVars = other.numVars := by
      have first := (Formula.ofDimacs_eq_ok accepted).1
      have second := (Formula.ofDimacs_eq_ok acceptedOther).1
      omega
    simp only [Decider.start, Decider.preferences, numVars]

/-- Among the three models of one clause over two variables, every search that prefers low variables
and true values finds the one that makes both variables true. -/
theorem outcome_independent_two : ∃ formula model, Formula.ofDimacs [[1, 2]] 2 = .ok formula ∧
    model.get? 1 = some true ∧ model.get? 2 = some true ∧
    ∀ variant propagation, ∃ last, (fresh ⟨variant, .ordered, propagation⟩ formula).solve =
      .ok (last, .satisfiable model) := by
  obtain ⟨formula, accepted⟩ : ∃ formula, Formula.ofDimacs [[1, 2]] 2 = .ok formula := ⟨_, rfl⟩
  have counted := (Formula.ofDimacs_eq_ok accepted).1
  have total : (⟨[(1, true), (2, true)]⟩ : Assignment).TotalOn 2 := by
    refine Assignment.totalOn_of_vars fun var => ?_
    simp only [List.map_cons, List.map_nil, List.mem_cons, List.not_mem_nil, or_false]
    omega
  have valid : isModel [[1, 2]] ⟨[(1, true), (2, true)]⟩ = true := by decide
  obtain ⟨model, _, _, preferred, found⟩ :=
    (outcome_independent .ordered accepted).1 ⟨_, total, valid⟩
  have numVars : formula.numVars = 2 := by omega
  have shape : (Decider.start .ordered formula).preferences = [⟨1, false⟩, ⟨2, false⟩] := by
    rw [Decider.start, numVars]
    rfl
  have first : model.get? 1 = some true := by
    by_contra differ
    exact differ (preferred _ total valid [] _ _ shape (by simp) differ)
  have second : model.get? 2 = some true := by
    by_contra differ
    refine differ (preferred _ total valid [⟨1, false⟩] ⟨2, false⟩ [] shape (fun earlier member => ?_)
      differ)
    rw [List.mem_singleton.1 member]
    exact first
  exact ⟨formula, model, accepted, first, second, found⟩

end Solver

end Clausal
