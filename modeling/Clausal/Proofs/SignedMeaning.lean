import Mathlib
import Clausal.Trail
import Clausal.Proofs.Standing

/-!
# The meaning of signed clauses

Reading signed clauses leaves out those that hold a literal with its negation and counts a repeated
literal once. Neither changes what the clauses say: a total reading makes every signed clause hold
exactly when it makes the formula hold. For an assignment of exactly the variables of the formula,
the direct check of the signed clauses says the same.
-/

namespace Clausal

/-- Some signed literal of the clause has in the reading the value that its sign asks for. -/
def SignedHolds (clause : List Int) (reading : Int → Bool) : Prop :=
  ∃ number ∈ clause, reading number.natAbs = decide (0 < number)

/-- A literal holds where its signed form asks for its value. -/
theorem Literal.holds_ofInt?_iff {number : Int} {literal : Literal}
    (named : Literal.ofInt? number = some literal) (reading : Int → Bool) :
    literal.Holds reading ↔ reading number.natAbs = decide (0 < number) := by
  unfold Literal.ofInt? at named
  split at named
  · simp at named
  · rename_i nonzero
    rw [← Option.some.inj named]
    have opposite : (!decide (number < 0)) = decide (0 < number) := by
      rw [← decide_not, decide_eq_decide]
      omega
    simp only [Holds, opposite]

/-- The variable of a literal is the magnitude of its signed form. -/
theorem Literal.var_ofInt? {number : Int} {literal : Literal}
    (named : Literal.ofInt? number = some literal) : literal.var = number.natAbs := by
  unfold Literal.ofInt? at named
  split at named
  · simp at named
  · rw [← Option.some.inj named]

/-- Of two lists matched with each other, what is in one has its match in the other. -/
theorem exists_of_forall₂ {Left Right : Type} {Matches : Left → Right → Prop} {left : List Left}
    {right : List Right} (matched : List.Forall₂ Matches left right) {item : Left}
    (member : item ∈ left) : ∃ other ∈ right, Matches item other := by
  induction matched with
  | nil => simp at member
  | cons here _ ih =>
    rcases List.mem_cons.1 member with same | later
    · rw [same]
      exact ⟨_, List.mem_cons_self, here⟩
    · obtain ⟨other, inside, holds⟩ := ih later
      exact ⟨other, List.mem_cons_of_mem _ inside, holds⟩

namespace Clause

/-- Signed numbers are read one by one. -/
theorem literalsOfInts_eq_ok {signed : List Int} {literals : List Literal}
    (read : literalsOfInts signed = .ok literals) :
    List.Forall₂ (fun number literal => Literal.ofInt? number = some literal) signed literals := by
  induction signed generalizing literals with
  | nil =>
    cases read
    exact .nil
  | cons number rest ih =>
    unfold literalsOfInts at read
    cases named : Literal.ofInt? number with
    | none => simp [named] at read
    | some literal =>
      simp only [named] at read
      cases tail : literalsOfInts rest with
      | error fault =>
        rw [tail] at read
        simp [Except.map] at read
      | ok others =>
        rw [tail] at read
        cases read
        exact .cons named (ih tail)

/-- Every signed number is read as a literal. -/
theorem exists_literal {signed : List Int} {literals : List Literal}
    (read : literalsOfInts signed = .ok literals) {number : Int} (member : number ∈ signed) :
    ∃ literal ∈ literals, Literal.ofInt? number = some literal :=
  exists_of_forall₂ (literalsOfInts_eq_ok read) member

/-- Every literal read is that of a signed number. -/
theorem exists_number {signed : List Int} {literals : List Literal}
    (read : literalsOfInts signed = .ok literals) {literal : Literal} (member : literal ∈ literals) :
    ∃ number ∈ signed, Literal.ofInt? number = some literal :=
  exists_of_forall₂ (literalsOfInts_eq_ok read).flip member

/-- Signed numbers other than zero are read. -/
theorem exists_literalsOfInts {signed : List Int} (nonzero : ∀ number ∈ signed, number ≠ 0) :
    ∃ literals, literalsOfInts signed = .ok literals := by
  induction signed with
  | nil => exact ⟨[], rfl⟩
  | cons number rest ih =>
    obtain ⟨here, behind⟩ := List.forall_mem_cons.1 nonzero
    obtain ⟨others, tail⟩ := ih behind
    refine ⟨⟨number.natAbs, decide (number < 0)⟩ :: others, ?_⟩
    rw [literalsOfInts, Literal.ofInt?, if_neg here, tail]
    rfl

/-- Read literals hold where the signed clause does. -/
theorem exists_holds_iff {signed : List Int} {literals : List Literal}
    (read : literalsOfInts signed = .ok literals) (reading : Int → Bool) :
    (∃ literal ∈ literals, literal.Holds reading) ↔ SignedHolds signed reading := by
  have matched := literalsOfInts_eq_ok read
  unfold SignedHolds
  clear read
  induction matched with
  | nil => simp
  | cons named _ ih =>
    simp only [List.mem_cons, exists_eq_or_imp, ih, Literal.holds_ofInt?_iff named]

/-- A clause built from literals holds where one of them does; where none can be built, one of them
holds in any case. -/
theorem ofLiterals_holds_iff (literals : List Literal) (reading : Int → Bool) :
    (∀ clause ∈ (ofLiterals literals).toOption, clause.Holds reading) ↔
      ∃ literal ∈ literals, literal.Holds reading := by
  cases built : ofLiterals literals with
  | ok clause =>
    simp only [Except.toOption, Option.mem_some_iff, forall_eq', Holds, ofLiterals_literals built,
      mem_keepFirst]
  | error fault =>
    simp only [Except.toOption, Option.mem_def, reduceCtorEq, IsEmpty.forall_iff, implies_true,
      true_iff]
    have refused : ¬∃ clause, ofLiterals literals = .ok clause := by simp [built]
    rw [exists_ofLiterals_iff] at refused
    simp only [not_forall, not_not] at refused
    obtain ⟨literal, member, both⟩ := refused
    by_cases holds : literal.Holds reading
    · exact ⟨literal, member, holds⟩
    · exact ⟨literal.negate, both, (Literal.holds_negate_iff literal reading).2 holds⟩

end Clause

namespace Formula

/-- Reading one signed clause keeps its meaning and its range. -/
theorem readClause_eq_ok {position : Nat} {count : Int} {signed : List Int}
    {read : Option Clause} (accepted : readClause position count signed = .ok read) :
    (∀ number ∈ signed, number ≠ 0 ∧ (number.natAbs : Int) ≤ count) ∧
      ∀ reading, (∀ clause ∈ read, clause.Holds reading) ↔ SignedHolds signed reading := by
  unfold readClause at accepted
  cases named : Clause.literalsOfInts signed with
  | error fault => simp [named] at accepted
  | ok literals =>
    simp only [named] at accepted
    cases above : literals.find? (fun literal => literal.var > count) with
    | some literal => simp [above] at accepted
    | none =>
      simp only [above] at accepted
      cases accepted
      refine ⟨fun number member => ?_, fun reading => ?_⟩
      · obtain ⟨literal, inside, shape⟩ := Clause.exists_literal named member
        have low := List.find?_eq_none.1 above literal inside
        rw [Literal.var_ofInt? shape] at low
        refine ⟨?_, by simpa using low⟩
        rintro rfl
        simp [Literal.ofInt?] at shape
      · rw [Clause.ofLiterals_holds_iff, Clause.exists_holds_iff named]

/-- Reading signed clauses keeps their meaning and their range. -/
theorem readClauses_eq_ok {count : Int} {position : Nat} {signed : List (List Int)}
    {clauses : List Clause} (accepted : readClauses count position signed = .ok clauses) :
    (∀ clause ∈ signed, ∀ number ∈ clause, number ≠ 0 ∧ (number.natAbs : Int) ≤ count) ∧
      ∀ reading, (∀ clause ∈ clauses, clause.Holds reading) ↔
        ∀ clause ∈ signed, SignedHolds clause reading := by
  induction signed generalizing position clauses with
  | nil =>
    cases accepted
    simp
  | cons first rest ih =>
    unfold readClauses at accepted
    cases head : readClause position count first with
    | error fault => simp [head] at accepted
    | ok read =>
      simp only [head] at accepted
      cases tail : readClauses count (position + 1) rest with
      | error fault =>
        rw [tail] at accepted
        simp [Except.map] at accepted
      | ok others =>
        rw [tail] at accepted
        cases accepted
        obtain ⟨range, meaning⟩ := readClause_eq_ok head
        obtain ⟨ranges, meanings⟩ := ih tail
        refine ⟨?_, fun reading => ?_⟩
        · simp only [List.mem_cons, forall_eq_or_imp]
          exact ⟨range, ranges⟩
        · rw [List.forall_mem_append, List.forall_mem_cons, ← meaning, ← meanings]
          simp only [Option.mem_toList, Option.mem_def]

/-- A formula read from signed clauses has the given variables and no learned clause, and holds in
the readings in which the signed clauses hold. -/
theorem ofDimacs_eq_ok {signed : List (List Int)} {count : Int} {formula : Formula}
    (accepted : ofDimacs signed count = .ok formula) :
    (formula.numVars : Int) = count ∧ formula.learned = [] ∧
      (∀ clause ∈ signed, ∀ number ∈ clause, number ≠ 0 ∧ (number.natAbs : Int) ≤ count) ∧
      ∀ reading, formula.Holds reading ↔ ∀ clause ∈ signed, SignedHolds clause reading := by
  unfold ofDimacs at accepted
  cases read : readClauses count 1 signed with
  | error fault => simp [read] at accepted
  | ok clauses =>
    simp only [read] at accepted
    obtain ⟨range, meaning⟩ := readClauses_eq_ok read
    unfold ofClauses at accepted
    split at accepted
    · simp at accepted
    · rename_i nonnegative
      split at accepted
      · simp at accepted
      · cases accepted
        exact ⟨by simp only; omega, rfl, range, meaning⟩

/-- A signed clause within the variables is read as one within them. -/
theorem exists_readClause (position : Nat) {count : Int} {signed : List Int}
    (range : ∀ number ∈ signed, number ≠ 0 ∧ (number.natAbs : Int) ≤ count) :
    ∃ read, readClause position count signed = .ok read ∧
      ∀ clause ∈ read, clause.InRange count.toNat := by
  obtain ⟨literals, named⟩ := Clause.exists_literalsOfInts fun number inside =>
    (range number inside).1
  have within : ∀ literal ∈ literals, 1 ≤ literal.var ∧ literal.var ≤ count := by
    intro literal inside
    obtain ⟨number, member, shape⟩ := Clause.exists_number named inside
    have positive := Literal.var_pos_of_ofInt? shape
    rw [Literal.var_ofInt? shape] at positive ⊢
    exact ⟨positive, (range number member).2⟩
  have above : literals.find? (fun literal => literal.var > count) = none := by
    rw [List.find?_eq_none]
    intro literal inside
    simpa using (within literal inside).2
  refine ⟨(Clause.ofLiterals literals).toOption, ?_, fun clause read literal inside => ?_⟩
  · rw [readClause, named]
    simp only [above]
  cases built : Clause.ofLiterals literals with
  | error fault => simp [built, Except.toOption] at read
  | ok same =>
    rw [built] at read
    cases read
    rw [Clause.ofLiterals_literals built, mem_keepFirst] at inside
    have bounds := within literal inside
    exact ⟨bounds.1, by omega⟩

/-- Signed clauses within the variables are read as clauses within them. -/
theorem exists_readClauses {count : Int} {signed : List (List Int)}
    (range : ∀ clause ∈ signed, ∀ number ∈ clause, number ≠ 0 ∧ (number.natAbs : Int) ≤ count)
    (position : Nat) : ∃ clauses, readClauses count position signed = .ok clauses ∧
      ∀ clause ∈ clauses, clause.InRange count.toNat := by
  induction signed generalizing position with
  | nil => exact ⟨[], rfl, by simp⟩
  | cons first rest ih =>
    obtain ⟨here, behind⟩ := List.forall_mem_cons.1 range
    obtain ⟨read, head, inside⟩ := exists_readClause position here
    obtain ⟨others, tail, insides⟩ := ih behind (position + 1)
    refine ⟨read.toList ++ others, by rw [readClauses, head, tail]; rfl, ?_⟩
    rw [List.forall_mem_append]
    exact ⟨by simpa using inside, insides⟩

/-- Clauses within the variables have no range fault. -/
theorem rangeFault?_eq_none {clauses : List Clause} {numVars : Nat}
    (inside : ∀ clause ∈ clauses, clause.InRange numVars) : rangeFault? clauses numVars = none := by
  rw [rangeFault?, List.findSome?_eq_none_iff]
  intro clause member
  rw [Option.map_eq_none_iff, Clause.strayVar?, Option.map_eq_none_iff, List.find?_eq_none]
  intro literal within
  simpa using inside clause member literal within

/-- Signed clauses within the variables make a formula. -/
theorem exists_ofDimacs {signed : List (List Int)} {count : Int} (nonnegative : 0 ≤ count)
    (range : ∀ clause ∈ signed, ∀ number ∈ clause, number ≠ 0 ∧ (number.natAbs : Int) ≤ count) :
    ∃ formula, ofDimacs signed count = .ok formula := by
  obtain ⟨clauses, read, inside⟩ := exists_readClauses range 1
  have checked := rangeFault?_eq_none inside
  unfold ofDimacs ofClauses
  simp only [read]
  split
  · omega
  · split
    · simp_all
    · exact ⟨_, rfl⟩

end Formula

namespace Assignment

/-- The assignment gives a value to the variables 1 to `count` and to no others. -/
def TotalOn (assignment : Assignment) (count : Int) : Prop :=
  ∀ var, (assignment.get? var).isSome ↔ 1 ≤ var ∧ var ≤ count

/-- An assignment of pairs is total on the variables that the pairs name. -/
theorem totalOn_of_vars {pairs : List (Int × Bool)} {count : Int}
    (vars : ∀ var, var ∈ pairs.map Prod.fst ↔ 1 ≤ var ∧ var ≤ count) :
    TotalOn ⟨pairs⟩ count := by
  intro var
  rw [← vars, get?, Option.isSome_map, List.find?_isSome, List.mem_map]
  simp only [beq_iff_eq]

/-- A total assignment satisfies a signed clause over its variables where its reading does. -/
theorem TotalOn.satisfiesSigned_iff {model : Assignment} {count : Int}
    (total : model.TotalOn count) {clause : List Int}
    (range : ∀ number ∈ clause, number ≠ 0 ∧ (number.natAbs : Int) ≤ count) :
    satisfiesSigned model clause = true ↔ SignedHolds clause model.reading := by
  unfold satisfiesSigned SignedHolds
  rw [List.any_eq_true]
  refine exists_congr fun number => and_congr_right fun member => ?_
  obtain ⟨nonzero, bound⟩ := range number member
  obtain ⟨truth, held⟩ := Option.isSome_iff_exists.1
    ((total number.natAbs).2 ⟨by omega, bound⟩)
  rw [reading, held, beq_iff_eq, Option.some.injEq, Option.getD_some]

/-- The check of signed clauses succeeds on an assignment of the formula's variables exactly when the
formula holds in its reading. -/
theorem TotalOn.isModel_iff {signed : List (List Int)} {count : Int} {formula : Formula}
    (accepted : Formula.ofDimacs signed count = .ok formula) {model : Assignment}
    (total : model.TotalOn count) : isModel signed model = true ↔ formula.Holds model.reading := by
  obtain ⟨_, _, range, meaning⟩ := Formula.ofDimacs_eq_ok accepted
  rw [meaning, isModel, violatedClauses, List.isEmpty_iff, List.filter_eq_nil_iff]
  refine forall₂_congr fun clause member => ?_
  rw [← total.satisfiesSigned_iff (range clause member)]
  simp

end Assignment

namespace Trail

/-- The model of a trail gives each variable in its range the value on the trail. -/
theorem get?_model (trail : Trail) (count : Nat) (var : Int) :
    (trail.model count).get? var =
      if 1 ≤ var ∧ var ≤ count then some ((trail.value var).getD false) else none := by
  unfold Assignment.get? model
  split
  · rename_i range
    obtain ⟨number, rfl⟩ := Int.eq_ofNat_of_zero_le (show 0 ≤ var by omega)
    have found : (List.range' 1 count).find? (fun other : Nat => (other : Int) == number) =
        some number := by
      rw [List.find?_eq_some_iff_getElem]
      refine ⟨by simp, number - 1, by simp; omega, by simp; omega, fun place before => ?_⟩
      simp
      omega
    rw [List.find?_map]
    simp only [Function.comp_def, found, Option.map_some]
  · rename_i outside
    rw [Option.map_eq_none_iff, List.find?_eq_none]
    intro pair member
    obtain ⟨number, inside, rfl⟩ := List.mem_map.1 member
    rw [List.mem_range'_1] at inside
    simp only [beq_iff_eq]
    omega

/-- The model of a trail assigns exactly the variables of its range. -/
theorem totalOn_model (trail : Trail) (count : Nat) : (trail.model count).TotalOn count := by
  intro var
  rw [get?_model]
  split <;> simp_all

/-- On assigned variables in range the model reads what the trail holds. -/
theorem reading_model {trail : Trail} {count : Nat} {var : Int} {truth : Bool} (low : 1 ≤ var)
    (high : var ≤ count) (held : trail.value var = some truth) :
    (trail.model count).reading var = truth := by
  rw [Assignment.reading, get?_model, if_pos ⟨low, high⟩, held]
  rfl

end Trail

end Clausal
