import Clausal.Fault

/-!
# Clauses

A clause is a disjunction of distinct literals, no two of them complementary; both conditions are
part of the type, so every clause that exists satisfies them. Building one from a list keeps the
first occurrence of each literal and refuses a list that names both polarities of a variable.
-/

namespace Clausal

/-- The list with later repetitions removed. -/
def keepFirst : List Literal → List Literal
  | [] => []
  | literal :: rest => literal :: (keepFirst rest).filter (· ≠ literal)

/-- Removing repetitions keeps the set of literals. -/
@[simp]
theorem mem_keepFirst {literal : Literal} {given : List Literal} :
    literal ∈ keepFirst given ↔ literal ∈ given := by
  induction given with
  | nil => simp [keepFirst]
  | cons head rest ih =>
    by_cases same : literal = head
    · simp [keepFirst, same]
    · simp [keepFirst, same, ih]

/-- What is left has no repetition. -/
theorem nodup_keepFirst (given : List Literal) : (keepFirst given).Nodup := by
  induction given with
  | nil => simp [keepFirst]
  | cons head rest ih =>
    refine List.nodup_cons.2 ⟨?_, ih.filter _⟩
    simp

/-- A list without repetition is left as it is. -/
theorem keepFirst_of_nodup {given : List Literal} (distinct : given.Nodup) :
    keepFirst given = given := by
  induction given with
  | nil => rfl
  | cons head rest ih =>
    obtain ⟨fresh, tail⟩ := List.nodup_cons.1 distinct
    rw [keepFirst, ih tail, List.filter_eq_self.2]
    intro other member
    have different : other ≠ head := fun same => fresh (same ▸ member)
    simpa using different

/-- A disjunction of distinct literals, no two of them complementary. -/
structure Clause where
  /-- The literals, in the order first given. -/
  literals : List Literal
  /-- Whether the clause was derived from a conflict. -/
  learnt : Bool
  /-- No literal occurs twice. -/
  distinct : literals.Nodup
  /-- No literal occurs with its negation. -/
  consistent : ∀ literal ∈ literals, literal.negate ∉ literals
deriving DecidableEq

/-- How a clause stands under a valuation. -/
inductive Status where
  /-- Some literal is true. -/
  | satisfied
  /-- Every literal is false. -/
  | falsified
  /-- Every literal but this one is false, and this one has no value. -/
  | unit (literal : Literal)
  /-- No literal is true and at least two have no value. -/
  | unresolved
deriving DecidableEq

namespace Clause

/-- The clause of distinct literals, refused when they name both polarities of a variable. The fault
names the first literal whose negation is present. -/
def ofDistinct (literals : List Literal) (distinct : literals.Nodup) : Except Fault Clause :=
  match found : literals.find? (fun literal => literal.negate ∈ literals) with
  | some literal => .error (.tautology literal)
  | none => .ok {
      literals := literals
      learnt := false
      distinct := distinct
      consistent := by simpa using found }

/-- The clause of a list of literals, each of which counts once. -/
def ofLiterals (given : List Literal) : Except Fault Clause :=
  ofDistinct (keepFirst given) (nodup_keepFirst given)

/-- Signed numbers as literals, refused when one is zero. -/
def literalsOfInts : List Int → Except Fault (List Literal)
  | [] => .ok []
  | signed :: rest =>
    match Literal.ofInt? signed with
    | none => .error .zeroLiteral
    | some literal => (literalsOfInts rest).map (literal :: ·)

/-- The clause of a list of signed numbers. -/
def ofInts (signed : List Int) : Except Fault Clause :=
  literalsOfInts signed >>= ofLiterals

/-- The literals in signed form. -/
def toInts (clause : Clause) : List Int :=
  clause.literals.map Literal.toInt

/-- The number of literals. -/
def length (clause : Clause) : Nat :=
  clause.literals.length

/-- The same clause, marked as derived from a conflict. -/
def asLearnt (clause : Clause) : Clause :=
  { clause with learnt := true }

/-- The variables are among 1 to `count`. -/
def InRange (clause : Clause) (count : Nat) : Prop :=
  ∀ literal ∈ clause.literals, literal.InRange count

/-- Whether a clause is in range can be decided. -/
instance (clause : Clause) (count : Nat) : Decidable (clause.InRange count) :=
  inferInstanceAs (Decidable (∀ literal ∈ clause.literals, _))

/-- The first variable that is not among 1 to `count`. -/
def strayVar? (clause : Clause) (count : Nat) : Option Int :=
  (clause.literals.find? fun literal => ¬literal.InRange count).map Literal.var

/-- How the clause stands under a valuation. -/
def status (clause : Clause) (valuation : Valuation) : Status :=
  if clause.literals.any (·.isTrue valuation) then .satisfied
  else match clause.literals.filter (·.isUnassigned valuation) with
    | [] => .falsified
    | [literal] => .unit literal
    | _ => .unresolved

/-- Some literal is true. -/
def isSatisfied (clause : Clause) (valuation : Valuation) : Bool :=
  clause.literals.any (·.isTrue valuation)

/-- Every literal is false. -/
def isFalsified (clause : Clause) (valuation : Valuation) : Bool :=
  clause.literals.all (·.isFalse valuation)

/-- The clause has one literal without a value and all others are false. -/
def isUnit (clause : Clause) (valuation : Valuation) : Bool :=
  match clause.status valuation with
  | .unit _ => true
  | _ => false

/-- The clause holds in a total reading of the variables. -/
def Holds (clause : Clause) (reading : Int → Bool) : Prop :=
  ∃ literal ∈ clause.literals, literal.Holds reading

/-- Whether a clause holds can be decided. -/
instance (clause : Clause) (reading : Int → Bool) : Decidable (clause.Holds reading) :=
  inferInstanceAs (Decidable (∃ literal ∈ clause.literals, _))

/-- The literals between parentheses. -/
def text (clause : Clause) : String :=
  literalsText clause.literals

/-- The display form, which also tells whether the clause was learnt. -/
def display (clause : Clause) : String :=
  let signed := "[" ++ ", ".intercalate (clause.toInts.map toString) ++ "]"
  "Clause(" ++ signed ++ (if clause.learnt then ", learnt" else "") ++ ")"

/-- A built clause has the given literals, each once. -/
theorem ofLiterals_literals {given : List Literal} {clause : Clause}
    (built : ofLiterals given = .ok clause) : clause.literals = keepFirst given := by
  unfold ofLiterals ofDistinct at built
  split at built
  · simp at built
  · cases built
    rfl

/-- A clause is built exactly from literals without a complementary pair. -/
theorem exists_ofLiterals_iff (given : List Literal) :
    (∃ clause, ofLiterals given = .ok clause) ↔ ∀ literal ∈ given, literal.negate ∉ given := by
  unfold ofLiterals ofDistinct
  constructor
  · rintro ⟨clause, built⟩
    split at built
    · simp at built
    · rename_i absent
      simpa using absent
  · intro consistent
    split
    · rename_i literal found
      have member := List.mem_of_find?_eq_some found
      have both := List.find?_some found
      simp only [mem_keepFirst, decide_eq_true_eq] at member both
      exact absurd both (consistent literal member)
    · exact ⟨_, rfl⟩

/-- A freshly built clause is not marked as learnt. -/
theorem ofLiterals_learnt {given : List Literal} {clause : Clause}
    (built : ofLiterals given = .ok clause) : clause.learnt = false := by
  unfold ofLiterals ofDistinct at built
  split at built
  · simp at built
  · cases built
    rfl

/-- The literal of a unit status belongs to the clause and has no value. -/
theorem mem_of_status_unit {clause : Clause} {valuation : Valuation} {literal : Literal}
    (unit : clause.status valuation = .unit literal) :
    literal ∈ clause.literals ∧ valuation literal.var = none := by
  unfold status at unit
  split at unit
  · simp at unit
  · split at unit
    · simp at unit
    · rename_i only shape
      have same : only = literal := by simpa using unit
      have member : only ∈ clause.literals.filter (·.isUnassigned valuation) := by
        rw [shape]
        exact List.mem_cons_self
      obtain ⟨present, free⟩ := List.mem_filter.1 member
      subst same
      exact ⟨present, by simpa [Literal.isUnassigned] using free⟩
    · simp at unit

end Clause

end Clausal
