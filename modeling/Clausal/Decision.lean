import Clausal.Trail

/-!
# Decisions

A decider prefers literals in a fixed order and picks the first whose variable has no value. In the
`ordered` strategy the order is that of the variables, each tried true first. In the `jeroslow`
strategy every literal scores the sum of 2 to the minus length over the input clauses that hold it,
added in clause order as doubles; variables are ranked by their better literal, lower variables
first among equals, and the denied literal is tried first exactly when it scores more.
-/

namespace Clausal

/-- The strategies for choosing a decision. -/
inductive Strategy where
  /-- The lowest variable without a value, tried true first. -/
  | ordered
  /-- The variable whose better literal has the highest score. -/
  | jeroslow
deriving DecidableEq

namespace Strategy

/-- The name of a strategy. -/
def name : Strategy → String
  | ordered => "ordered"
  | jeroslow => "jeroslow"

/-- Every strategy, in the order of their listing. -/
def all : List Strategy := [ordered, jeroslow]

/-- The strategy of a name. -/
def ofName (given : String) : Except Fault Strategy :=
  match all.find? (·.name == given) with
  | some strategy => .ok strategy
  | none => .error (.unknownStrategy (all.map name))

end Strategy

/-- The scores of the two literals of a variable. -/
structure Score where
  /-- The score of the positive literal. -/
  affirmed : Float
  /-- The score of the negated literal. -/
  denied : Float

namespace Score

/-- The score of a variable that occurs nowhere. -/
def zero : Score := ⟨0.0, 0.0⟩

/-- The score after one more occurrence. -/
def add (score : Score) (literal : Literal) (weight : Float) : Score :=
  if literal.negated then { score with denied := score.denied + weight }
  else { score with affirmed := score.affirmed + weight }

/-- The score of the better literal. -/
def best (score : Score) : Float :=
  if score.affirmed < score.denied then score.denied else score.affirmed

/-- The literal of a variable to be tried first. -/
def preferred (score : Score) (var : Int) : Literal :=
  ⟨var, decide (score.denied > score.affirmed)⟩

/-- The weight of an occurrence in a clause of the given length: 2 to the minus length. -/
def weight (length : Nat) : Float :=
  Float.scaleB 1.0 (-(length : Int))

/-- The scores of the variables 0 to `count` over the clauses. -/
def table (clauses : List Clause) (count : Nat) : Array Score :=
  clauses.foldl (fun scores clause =>
      clause.literals.foldl (fun scores literal =>
        scores.modify literal.var.toNat (·.add literal (weight clause.length))) scores)
    (Array.replicate (count + 1) zero)

end Score

/-- A fixed order of preference among literals. -/
inductive Decider where
  /-- The positive literals of the variables 1 to `count`. -/
  | ordered (count : Nat)
  /-- The listed literals. -/
  | ranked (preferences : List Literal)

namespace Decider

/-- The literals of the scored variables, best variable first. -/
def ranking (clauses : List Clause) (count : Nat) : List Literal :=
  let scores := Score.table clauses count
  let scored := (List.range' 1 count).map fun var => (var, scores.getD var Score.zero)
  let sorted := scored.mergeSort fun left right => !(left.2.best < right.2.best)
  sorted.map fun (var, score) => score.preferred var

/-- The decider of a strategy for a formula. -/
def start (strategy : Strategy) (formula : Formula) : Decider :=
  match strategy with
  | .ordered => .ordered formula.numVars
  | .jeroslow => .ranked (ranking formula.clauses formula.numVars)

/-- The literals in order of preference. -/
def preferences : Decider → List Literal
  | ordered count => (List.range' 1 count).map fun (var : Nat) => ⟨var, false⟩
  | ranked literals => literals

/-- The first variable without a value among the given number of variables from `candidate` on. -/
def firstFree (trail : Trail) (candidate : Nat) : Nat → Option Nat
  | 0 => none
  | remaining + 1 =>
    if trail.isAssigned candidate then firstFree trail (candidate + 1) remaining
    else some candidate

/-- The next decision, or none when every variable has a value. -/
def pick (decider : Decider) (trail : Trail) : Option Literal :=
  match decider with
  | ordered count => (firstFree trail 1 count).map fun (var : Nat) => ⟨var, false⟩
  | ranked literals => literals.find? fun literal => !trail.isAssigned literal.var

/-- Searching variables one by one finds the same as searching their list. -/
theorem firstFree_eq_find? (trail : Trail) (candidate remaining : Nat) :
    firstFree trail candidate remaining =
      (List.range' candidate remaining).find? fun (var : Nat) => !trail.isAssigned var := by
  induction remaining generalizing candidate with
  | zero => rfl
  | succ remaining ih =>
    rw [firstFree, List.range'_succ, List.find?_cons]
    cases trail.isAssigned (candidate : Nat) with
    | true => simpa using ih (candidate + 1)
    | false => rfl

/-- Under either strategy a decision is the first preferred literal without a value. -/
theorem pick_eq_find? (decider : Decider) (trail : Trail) :
    decider.pick trail = decider.preferences.find? fun literal => !trail.isAssigned literal.var := by
  cases decider with
  | ranked literals => rfl
  | ordered count =>
    simp only [pick, preferences, firstFree_eq_find?, List.find?_map]
    rfl

end Decider

end Clausal
