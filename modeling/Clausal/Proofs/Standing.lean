import Mathlib
import Clausal.Clause

/-!
# How a clause stands

The executing classification of a clause is read here by its conditions. A clause is falsified when
every literal is false, and unit when exactly one literal has no value and every other is false. It
is settled in every other case, which means that some literal is true or two literals have no value.
Propagation has nothing to do for a settled clause.

Valuations are compared by what they assign. A falsified clause stays falsified when more variables
get a value.
-/

namespace Clausal

namespace Literal

/-- A literal is true exactly when its variable has the value that it asks for. -/
theorem value_eq_true_iff (literal : Literal) (valuation : Valuation) :
    literal.value valuation = some true ↔ valuation literal.var = some (!literal.negated) := by
  unfold value
  cases valuation literal.var with
  | none => simp
  | some truth => cases truth <;> cases literal.negated <;> simp

/-- A literal is false exactly when its variable has the other value. -/
theorem value_eq_false_iff (literal : Literal) (valuation : Valuation) :
    literal.value valuation = some false ↔ valuation literal.var = some literal.negated := by
  unfold value
  cases valuation literal.var with
  | none => simp
  | some truth => cases truth <;> cases literal.negated <;> simp

/-- A literal is false exactly when its negation is true. -/
theorem value_negate_eq_true_iff (literal : Literal) (valuation : Valuation) :
    literal.negate.value valuation = some true ↔ literal.value valuation = some false := by
  rw [value_eq_true_iff, value_eq_false_iff]
  simp [negate]

/-- Negation tells literals apart. -/
theorem negate_inj {left right : Literal} : left.negate = right.negate ↔ left = right := by
  constructor
  · intro same
    rw [← negate_negate left, same, negate_negate]
  · intro same
    rw [same]

/-- Literals of one variable are equal or opposite. -/
theorem eq_or_eq_negate {left right : Literal} (same : left.var = right.var) :
    left = right ∨ left = right.negate := by
  obtain ⟨leftVar, leftNegated⟩ := left
  obtain ⟨rightVar, rightNegated⟩ := right
  cases leftNegated <;> cases rightNegated <;> simp_all [negate]

/-- A reading makes exactly one of two opposite literals hold. -/
theorem holds_negate_iff (literal : Literal) (reading : Int → Bool) :
    literal.negate.Holds reading ↔ ¬literal.Holds reading := by
  unfold Holds negate
  cases reading literal.var <;> cases literal.negated <;> simp

end Literal

namespace Valuation

/-- Every value of the one is a value of the other. -/
def Within (small large : Valuation) : Prop :=
  ∀ var truth, small var = some truth → large var = some truth

/-- Nothing is assigned. -/
def blank : Valuation := fun _ => none

/-- The valuation with one more literal made true. -/
def assign (valuation : Valuation) (literal : Literal) : Valuation :=
  fun var => if var = literal.var then some (!literal.negated) else valuation var

/-- Every valuation is within itself. -/
theorem Within.refl (valuation : Valuation) : Within valuation valuation :=
  fun _ _ held => held

/-- Being within is transitive. -/
theorem Within.trans {small middle large : Valuation} (first : Within small middle)
    (second : Within middle large) : Within small large :=
  fun var truth held => second var truth (first var truth held)

/-- A value of a literal is kept by every larger valuation. -/
theorem Within.value {small large : Valuation} (within : Within small large) {literal : Literal}
    {truth : Bool} (held : literal.value small = some truth) : literal.value large = some truth := by
  cases truth with
  | true =>
    rw [Literal.value_eq_true_iff] at held ⊢
    exact within _ _ held
  | false =>
    rw [Literal.value_eq_false_iff] at held ⊢
    exact within _ _ held

/-- Making a literal true keeps a valuation within one that has the literal true. -/
theorem Within.assign {small large : Valuation} (within : Within small large) {literal : Literal}
    (held : literal.value large = some true) : Within (small.assign literal) large := by
  intro var truth assigned
  unfold Valuation.assign at assigned
  split at assigned
  · rename_i same
    rw [same, (Literal.value_eq_true_iff ..).1 held, assigned]
  · exact within var truth assigned

/-- The literal made true is true. -/
theorem value_assign_self (valuation : Valuation) (literal : Literal) :
    literal.value (valuation.assign literal) = some true := by
  rw [Literal.value_eq_true_iff]
  simp [assign]

/-- Making a literal without a value true keeps every value. -/
theorem within_assign {valuation : Valuation} {literal : Literal}
    (free : valuation literal.var = none) : Within valuation (valuation.assign literal) := by
  intro var truth held
  unfold assign
  split
  · rename_i same
    rw [same, free] at held
    simp at held
  · exact held

end Valuation

namespace Clause

/-- A clause is satisfied when some literal is true. -/
theorem status_eq_satisfied_iff (clause : Clause) (valuation : Valuation) :
    clause.status valuation = .satisfied ↔
      ∃ literal ∈ clause.literals, literal.value valuation = some true := by
  have found : clause.literals.any (·.isTrue valuation) = true ↔
      ∃ literal ∈ clause.literals, literal.value valuation = some true := by
    simp [Literal.isTrue]
  unfold status
  split
  · rename_i some
    simpa using found.1 some
  · rename_i none
    constructor
    · intro satisfied
      split at satisfied <;> simp at satisfied
    · intro exists_
      exact absurd (found.2 exists_) none

/-- A clause is falsified when every literal is false. -/
theorem status_eq_falsified_iff (clause : Clause) (valuation : Valuation) :
    clause.status valuation = .falsified ↔
      ∀ literal ∈ clause.literals, literal.value valuation = some false := by
  unfold status
  constructor
  · intro falsified literal member
    split at falsified
    · simp at falsified
    · rename_i untrue
      split at falsified
      · rename_i shape
        have assigned := (List.filter_eq_nil_iff.1 shape) literal member
        have notTrue : literal.value valuation ≠ some true := by
          intro holds
          exact untrue (List.any_eq_true.2 ⟨literal, member, by simp [Literal.isTrue, holds]⟩)
        cases state : literal.value valuation with
        | none =>
          rw [Literal.value_eq_none_iff] at state
          simp [Literal.isUnassigned, state] at assigned
        | some truth => cases truth <;> simp_all
      · simp at falsified
      · simp at falsified
  · intro allFalse
    have untrue : clause.literals.any (·.isTrue valuation) = false := by
      rw [List.any_eq_false]
      intro literal member
      simp [Literal.isTrue, allFalse literal member]
    have assigned : clause.literals.filter (·.isUnassigned valuation) = [] := by
      rw [List.filter_eq_nil_iff]
      intro literal member
      have held := (Literal.value_eq_false_iff ..).1 (allFalse literal member)
      simp [Literal.isUnassigned, held]
    simp [untrue, assigned]

/-- In a list without repetition the only element with a property is the list of those that have
it. -/
theorem filter_eq_singleton {literals : List Literal} {free : Literal → Bool} {literal : Literal}
    (distinct : literals.Nodup) (member : literal ∈ literals) (held : free literal = true)
    (only : ∀ other ∈ literals, other ≠ literal → free other = false) :
    literals.filter free = [literal] := by
  induction literals with
  | nil => simp at member
  | cons head rest ih =>
    obtain ⟨fresh, tail⟩ := List.nodup_cons.1 distinct
    rcases List.mem_cons.1 member with same | deeper
    · subst same
      rw [List.filter_cons_of_pos held, List.filter_eq_nil_iff.2]
      intro other inside
      have different : other ≠ literal := fun equal => fresh (equal ▸ inside)
      simp [only other (List.mem_cons_of_mem _ inside) different]
    · have different : head ≠ literal := fun equal => fresh (equal ▸ deeper)
      rw [List.filter_cons_of_neg (by simp [only head List.mem_cons_self different])]
      exact ih tail deeper fun other inside => only other (List.mem_cons_of_mem _ inside)

/-- A clause is unit when one literal has no value and every other is false. -/
theorem status_eq_unit_iff (clause : Clause) (valuation : Valuation) (literal : Literal) :
    clause.status valuation = .unit literal ↔
      literal ∈ clause.literals ∧ valuation literal.var = none ∧
        ∀ other ∈ clause.literals, other ≠ literal → other.value valuation = some false := by
  constructor
  · intro unit
    obtain ⟨member, free⟩ := mem_of_status_unit unit
    refine ⟨member, free, fun other inside different => ?_⟩
    have notSatisfied : clause.status valuation ≠ .satisfied := by simp [unit]
    rw [Ne, status_eq_satisfied_iff] at notSatisfied
    cases state : other.value valuation with
    | some truth =>
      cases truth with
      | true => exact absurd ⟨other, inside, state⟩ notSatisfied
      | false => rfl
    | none =>
      rw [Literal.value_eq_none_iff] at state
      unfold status at unit
      split at unit
      · simp at unit
      · split at unit
        · simp at unit
        · rename_i only shape
          have first : literal ∈ clause.literals.filter (·.isUnassigned valuation) :=
            List.mem_filter.2 ⟨member, by simp [Literal.isUnassigned, free]⟩
          have second : other ∈ clause.literals.filter (·.isUnassigned valuation) :=
            List.mem_filter.2 ⟨inside, by simp [Literal.isUnassigned, state]⟩
          rw [shape, List.mem_singleton] at first second
          exact absurd (second.trans first.symm) different
        · simp at unit
  · rintro ⟨member, free, others⟩
    have untrue : clause.literals.any (·.isTrue valuation) = false := by
      rw [List.any_eq_false]
      intro other inside
      by_cases same : other = literal
      · simp [same, Literal.isTrue, Literal.value, free]
      · simp [Literal.isTrue, others other inside same]
    have shape : clause.literals.filter (·.isUnassigned valuation) = [literal] := by
      apply filter_eq_singleton clause.distinct member
      · simp [Literal.isUnassigned, free]
      · intro other inside different
        have held := (Literal.value_eq_false_iff ..).1 (others other inside different)
        simp [Literal.isUnassigned, held]
    simp [status, untrue, shape]

/-- The clause is neither falsified nor unit. -/
def Settled (clause : Clause) (valuation : Valuation) : Prop :=
  clause.status valuation ≠ .falsified ∧ ∀ literal, clause.status valuation ≠ .unit literal

/-- A clause is settled when some literal is true or two literals have no value. -/
theorem settled_iff (clause : Clause) (valuation : Valuation) :
    clause.Settled valuation ↔
      (∃ literal ∈ clause.literals, literal.value valuation = some true) ∨
        ∃ left ∈ clause.literals, ∃ right ∈ clause.literals, left ≠ right ∧
          valuation left.var = none ∧ valuation right.var = none := by
  constructor
  · rintro ⟨notFalsified, notUnit⟩
    by_contra neither
    simp only [not_or, not_exists, not_and] at neither
    obtain ⟨untrue, crowded⟩ := neither
    have decided : ∀ other ∈ clause.literals, valuation other.var ≠ none →
        other.value valuation = some false := by
      intro other inside assigned
      cases state : other.value valuation with
      | none => exact absurd ((Literal.value_eq_none_iff ..).1 state) assigned
      | some truth =>
        cases truth with
        | true => exact absurd state (untrue other inside)
        | false => rfl
    by_cases open_ : ∃ literal ∈ clause.literals, valuation literal.var = none
    · obtain ⟨literal, member, free⟩ := open_
      refine notUnit literal ((status_eq_unit_iff ..).2 ⟨member, free, ?_⟩)
      intro other inside different
      exact decided other inside (crowded literal member other inside (Ne.symm different) free)
    · refine notFalsified ((status_eq_falsified_iff ..).2 fun literal member => ?_)
      exact decided literal member fun free => open_ ⟨literal, member, free⟩
  · rintro (⟨literal, member, held⟩ | ⟨left, leftMember, right, rightMember, different, free, open_⟩)
    · have satisfied := (status_eq_satisfied_iff clause valuation).2 ⟨literal, member, held⟩
      simp [Settled, satisfied]
    · constructor
      · intro falsified
        have held := (status_eq_falsified_iff ..).1 falsified left leftMember
        rw [Literal.value_eq_false_iff, free] at held
        simp at held
      · intro literal unit
        obtain ⟨_, _, others⟩ := (status_eq_unit_iff ..).1 unit
        by_cases same : left = literal
        · have held := others right rightMember fun equal => different (same.trans equal.symm)
          rw [Literal.value_eq_false_iff, open_] at held
          simp at held
        · have held := others left leftMember same
          rw [Literal.value_eq_false_iff, free] at held
          simp at held

/-- A settled clause of which every literal but one is false has that one true. -/
theorem Settled.value_eq_true {clause : Clause} {valuation : Valuation}
    (settled : clause.Settled valuation) {literal : Literal}
    (others : ∀ other ∈ clause.literals, other ≠ literal → other.value valuation = some false) :
    literal.value valuation = some true := by
  rcases (settled_iff ..).1 settled with ⟨found, member, held⟩ | ⟨left, leftMember, right,
      rightMember, different, free, open_⟩
  · by_cases same : found = literal
    · rw [← same]
      exact held
    · rw [others found member same] at held
      simp at held
  · have settledBy : ∀ other ∈ clause.literals, valuation other.var = none → other = literal := by
      intro other inside unassigned
      by_contra apart
      have held := (Literal.value_eq_false_iff ..).1 (others other inside apart)
      simp [unassigned] at held
    exact absurd ((settledBy left leftMember free).trans (settledBy right rightMember open_).symm)
      different

/-- A falsified clause fails in every reading that keeps to the valuation. -/
theorem not_holds_of_falsified {clause : Clause} {valuation : Valuation} {reading : Int → Bool}
    (falsified : clause.status valuation = .falsified)
    (kept : ∀ var truth, valuation var = some truth → reading var = truth) :
    ¬clause.Holds reading := by
  rintro ⟨literal, member, held⟩
  have denied := (Literal.value_eq_false_iff ..).1 ((status_eq_falsified_iff ..).1 falsified _ member)
  have value := kept _ _ denied
  unfold Literal.Holds at held
  rw [value] at held
  simp at held

end Clause

end Clausal
