import Clausal.Clause

/-!
# Formulas

A formula is a list of input clauses over the variables 1 to its variable count, with the clauses
learned since. Input clauses never change; learned clauses are only appended. Every clause keeps
within the variable range, which is part of the type.

Reading signed clauses checks each of them in turn: first for a zero, then for a variable above the
count. A clause that holds a literal with its negation is true in every reading and is left out.
-/

namespace Clausal

/-- Clauses over the variables 1 to `numVars`. -/
structure Formula where
  /-- The number of variables. -/
  numVars : Nat
  /-- The input clauses. -/
  clauses : List Clause
  /-- The clauses learned since, oldest first. -/
  learned : List Clause
  /-- The input clauses keep within the variables. -/
  clausesInRange : ∀ clause ∈ clauses, clause.InRange numVars
  /-- The learned clauses keep within the variables. -/
  learnedInRange : ∀ clause ∈ learned, clause.InRange numVars

namespace Formula

/-- The fault of the first clause, if any, that leaves the variable range. -/
def rangeFault? (clauses : List Clause) (numVars : Nat) : Option Fault :=
  clauses.findSome? fun clause =>
    (clause.strayVar? numVars).map fun var => .variableOutOfRange clause.literals var numVars

/-- A clause without a stray variable is in range. -/
theorem inRange_of_strayVar?_eq_none {clause : Clause} {numVars : Nat}
    (absent : clause.strayVar? numVars = none) : clause.InRange numVars := by
  intro literal member
  have kept := List.find?_eq_none.1 (Option.map_eq_none_iff.1 absent) literal member
  simpa using kept

/-- Without a range fault every clause is in range. -/
theorem inRange_of_rangeFault?_eq_none {clauses : List Clause} {numVars : Nat}
    (absent : rangeFault? clauses numVars = none) : ∀ clause ∈ clauses, clause.InRange numVars := by
  intro clause member
  have kept := List.findSome?_eq_none_iff.1 absent clause member
  exact inRange_of_strayVar?_eq_none (Option.map_eq_none_iff.1 kept)

/-- The formula of finished clauses. The variable count is checked first, then every clause. -/
def ofClauses (clauses : List Clause) (count : Int) : Except Fault Formula :=
  if count < 0 then .error (.negativeVariableCount count)
  else match checked : rangeFault? clauses count.toNat with
    | some fault => .error fault
    | none => .ok {
        numVars := count.toNat
        clauses := clauses
        learned := []
        clausesInRange := inRange_of_rangeFault?_eq_none checked
        learnedInRange := by simp }

/-- Reads one signed clause; `none` is a clause left out for holding a literal with its negation.
The position counts from 1 and serves the report of a variable above the count. -/
def readClause (position : Nat) (count : Int) (signed : List Int) :
    Except Fault (Option Clause) :=
  match Clause.literalsOfInts signed with
  | .error fault => .error fault
  | .ok literals =>
    match literals.find? (fun literal => literal.var > count) with
    | some literal => .error (.variableAboveCount position literal.var count)
    | none => .ok (Clause.ofLiterals literals).toOption

/-- Reads signed clauses in order, the first of them at the given position. -/
def readClauses (count : Int) : Nat → List (List Int) → Except Fault (List Clause)
  | _, [] => .ok []
  | position, signed :: rest =>
    match readClause position count signed with
    | .error fault => .error fault
    | .ok read => (readClauses count (position + 1) rest).map (read.toList ++ ·)

/-- The formula of signed clauses. The variable count is judged after the clauses. -/
def ofDimacs (signed : List (List Int)) (count : Int) : Except Fault Formula :=
  match readClauses count 1 signed with
  | .error fault => .error fault
  | .ok clauses => ofClauses clauses count

/-- The signed clauses that reading leaves out, each with its position counted from 1. -/
def leftOut (signed : List (List Int)) : List (Nat × List Int) :=
  (signed.zipIdx 1).filterMap fun (clause, position) =>
    match Clause.ofInts clause with
    | .error (.tautology _) => some (position, clause)
    | _ => none

/-- Input clauses, then learned ones. -/
def allClauses (formula : Formula) : List Clause :=
  formula.clauses ++ formula.learned

/-- The number of clauses, learned ones included. -/
def length (formula : Formula) : Nat :=
  formula.clauses.length + formula.learned.length

/-- The input clauses in signed form. -/
def toDimacs (formula : Formula) : List (List Int) :=
  formula.clauses.map Clause.toInts

/-- Appends a clause to the learned ones and marks it as learnt. -/
def addLearned (formula : Formula) (clause : Clause) : Except Fault Formula :=
  match checked : clause.strayVar? formula.numVars with
  | some var => .error (.variableOutOfRange clause.literals var formula.numVars)
  | none => .ok { formula with
      learned := formula.learned ++ [clause.asLearnt]
      learnedInRange := by
        intro other member
        rcases List.mem_append.1 member with old | new
        · exact formula.learnedInRange other old
        · rw [List.mem_singleton.1 new]
          exact inRange_of_strayVar?_eq_none checked }

/-- Every input clause holds in the reading. -/
def Holds (formula : Formula) (reading : Int → Bool) : Prop :=
  ∀ clause ∈ formula.clauses, clause.Holds reading

/-- Every reading in which the input clauses hold makes the clause hold too. -/
def Entails (formula : Formula) (clause : Clause) : Prop :=
  ∀ reading : Int → Bool, formula.Holds reading → clause.Holds reading

/-- Some reading makes every input clause hold. -/
def Satisfiable (formula : Formula) : Prop :=
  ∃ reading : Int → Bool, formula.Holds reading

end Formula

end Clausal
