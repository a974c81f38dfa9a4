import Clausal.Clause

/-!
# Assignments

An assignment lists variables with truth values in the order in which they were first assigned,
each variable once. Assigning a variable again changes its value and keeps its place. A model is an
assignment of every variable of a formula; its signed form is sorted by variable, so two models that
agree everywhere have one signed form whatever their order.
-/

namespace Clausal

/-- Variables with truth values, in the order first assigned. -/
structure Assignment where
  /-- Each variable with its value. -/
  pairs : List (Int × Bool)
deriving DecidableEq

namespace Assignment

/-- Nothing is assigned. -/
def empty : Assignment := ⟨[]⟩

/-- The value of a variable, if it has one. -/
def get? (assignment : Assignment) : Valuation :=
  fun var => (assignment.pairs.find? (·.1 == var)).map (·.2)

/-- Gives a variable a value; a variable assigned before keeps its place. -/
def insert (assignment : Assignment) (var : Int) (value : Bool) : Assignment :=
  if assignment.pairs.any (·.1 == var) then
    ⟨assignment.pairs.map fun pair => if pair.1 == var then (var, value) else pair⟩
  else
    ⟨assignment.pairs ++ [(var, value)]⟩

/-- Assigns the pairs one after another. -/
def ofPairs (pairs : List (Int × Bool)) : Assignment :=
  pairs.foldl (fun assignment pair => assignment.insert pair.1 pair.2) empty

/-- Assigns by signed numbers: a positive one makes its variable true, any other false. -/
def ofInts (signed : List Int) : Assignment :=
  ofPairs (signed.map fun number => (number.natAbs, decide (number > 0)))

/-- The signed form of one variable with its value. -/
def signed (pair : Int × Bool) : Int :=
  if pair.2 then pair.1 else -pair.1

/-- Signed numbers in the order first assigned. -/
def toInts (assignment : Assignment) : List Int :=
  assignment.pairs.map signed

/-- The pairs sorted by variable. -/
def sorted (assignment : Assignment) : List (Int × Bool) :=
  assignment.pairs.mergeSort fun left right => left.1 ≤ right.1

/-- Signed numbers sorted by variable. -/
def toDimacs (assignment : Assignment) : List Int :=
  assignment.sorted.map signed

/-- The two assignments give the same variables the same values. -/
def agrees (left right : Assignment) : Bool :=
  left.sorted == right.sorted

/-- A total reading: variables without a value are read as false. -/
def reading (assignment : Assignment) : Int → Bool :=
  fun var => (assignment.get? var).getD false

end Assignment

/-- Some signed literal of the clause has the value that its sign asks for. -/
def satisfiesSigned (model : Assignment) (clause : List Int) : Bool :=
  clause.any fun number => model.get? number.natAbs == some (decide (number > 0))

/-- The signed clauses that the model does not satisfy, in their order. -/
def violatedClauses (clauses : List (List Int)) (model : Assignment) : List (List Int) :=
  clauses.filter fun clause => !satisfiesSigned model clause

/-- The model satisfies every signed clause. -/
def isModel (clauses : List (List Int)) (model : Assignment) : Bool :=
  (violatedClauses clauses model).isEmpty

end Clausal
