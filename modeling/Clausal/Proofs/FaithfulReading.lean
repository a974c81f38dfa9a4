import Mathlib
import Clausal.Proofs.SignedMeaning

/-!
# Faithful reading

Reading signed clauses is refused by a zero and by a variable above the count, wherever it stands, and
after that by a negative count. Nothing else is refused. What is read keeps the order of the clauses,
leaves out those that hold a number with its negative and drops later repetitions of a number.

Numbers other than zero and literals over positive variables correspond one to one, so all of this can be
said of the signed forms. A formula that was read is read again from its signed form.
-/

namespace Clausal

/-- The signed clause holds a number with its negative. -/
def SignedTautology (clause : List Int) : Prop :=
  ∃ number ∈ clause, -number ∈ clause

/-- Whether a list of signed numbers is a tautology can be decided. -/
instance (clause : List Int) : Decidable (SignedTautology clause) :=
  inferInstanceAs (Decidable (∃ number ∈ clause, _))

/-- The signed clauses without those that hold a number with its negative, each without later
repetitions. -/
def cleaned (signed : List (List Int)) : List (List Int) :=
  (signed.filter fun clause => ¬SignedTautology clause).map List.eraseDups

namespace Literal

/-- A literal over a positive variable is named by its signed form. -/
theorem ofInt?_toInt {literal : Literal} (positive : 0 < literal.var) :
    ofInt? literal.toInt = some literal := by
  obtain ⟨var, negated⟩ := literal
  have high : 0 < var := positive
  have magnitude : ((var.natAbs : Nat) : Int) = var := by omega
  cases negated with
  | false =>
    have upper : ¬var < 0 := by omega
    simp [ofInt?, toInt, high.ne', magnitude, upper]
  | true => simp [ofInt?, toInt, high.ne', magnitude, high]

/-- Literals over positive variables are told apart by their signed forms. -/
theorem toInt_inj {left right : Literal} (leftPositive : 0 < left.var)
    (rightPositive : 0 < right.var) : left.toInt = right.toInt ↔ left = right := by
  constructor
  · intro same
    have named := ofInt?_toInt leftPositive
    rw [same, ofInt?_toInt rightPositive] at named
    exact (Option.some.inj named).symm
  · exact congrArg toInt

/-- The signed form of a negation is the negative. -/
theorem toInt_negate (literal : Literal) : literal.negate.toInt = -literal.toInt := by
  obtain ⟨var, negated⟩ := literal
  cases negated <;> simp [negate, toInt]

end Literal

/-- Removing repetitions and choosing literals may change places. -/
theorem filter_keepFirst (chosen : Literal → Bool) (given : List Literal) :
    (keepFirst given).filter chosen = keepFirst (given.filter chosen) := by
  induction given with
  | nil => rfl
  | cons head rest ih =>
    by_cases kept : chosen head = true
    · rw [keepFirst, List.filter_cons_of_pos kept, List.filter_cons_of_pos kept, keepFirst, ← ih,
        List.filter_comm]
    · rw [keepFirst, List.filter_cons_of_neg kept, List.filter_cons_of_neg kept, ← ih,
        List.filter_comm, List.filter_eq_self]
      intro literal member
      have passed := (List.mem_filter.1 member).2
      have different : literal ≠ head := by
        rintro rfl
        exact kept passed
      simpa using different

namespace Clause

/-- Signed numbers are read as the literals over positive variables whose signed forms they are. -/
theorem map_toInt_of_literalsOfInts {signed : List Int} {literals : List Literal}
    (read : literalsOfInts signed = .ok literals) :
    literals.map Literal.toInt = signed ∧ ∀ literal ∈ literals, 0 < literal.var := by
  have matched := literalsOfInts_eq_ok read
  clear read
  induction matched with
  | nil => simp
  | @cons number literal numbers others named _ ih =>
    rw [List.map_cons, List.forall_mem_cons, ih.1, Literal.toInt_of_ofInt? named]
    exact ⟨rfl, Literal.var_pos_of_ofInt? named, ih.2⟩

/-- Literals over positive variables are read from their signed forms. -/
theorem literalsOfInts_map_toInt {literals : List Literal}
    (positive : ∀ literal ∈ literals, 0 < literal.var) :
    literalsOfInts (literals.map Literal.toInt) = .ok literals := by
  induction literals with
  | nil => rfl
  | cons literal rest ih =>
    obtain ⟨here, behind⟩ := List.forall_mem_cons.1 positive
    rw [List.map_cons, literalsOfInts, Literal.ofInt?_toInt here, ih behind]
    rfl

/-- Removing repetitions of literals removes those of their signed forms. The tail is read after the head
has been taken out of it, so the induction is on the length. -/
theorem map_toInt_keepFirst {literals : List Literal}
    (positive : ∀ literal ∈ literals, 0 < literal.var) :
    (keepFirst literals).map Literal.toInt = (literals.map Literal.toInt).eraseDups := by
  induction size : literals.length using Nat.strong_induction_on generalizing literals with
  | _ length ih =>
    cases literals with
    | nil => rfl
    | cons head rest =>
      obtain ⟨here, behind⟩ := List.forall_mem_cons.1 positive
      have shorter := List.length_filter_le (fun literal => decide (literal ≠ head)) rest
      rw [List.length_cons] at size
      have tail := ih _ (by omega) (fun literal member => behind literal (List.mem_filter.1 member).1)
        (rfl : (rest.filter fun literal => decide (literal ≠ head)).length = _)
      have apart : (rest.map Literal.toInt).filter (fun number => !number == head.toInt) =
          (rest.filter fun literal => decide (literal ≠ head)).map Literal.toInt := by
        rw [List.filter_map]
        congr 1
        apply List.filter_congr
        intro literal member
        have same := Literal.toInt_inj (behind literal member) here
        rw [Bool.eq_iff_iff]
        simp [same]
      rw [keepFirst, filter_keepFirst, List.map_cons, List.map_cons, List.eraseDups_cons, apart, tail]

/-- The signed forms of literals hold a number with its negative where the literals hold a complementary
pair. -/
theorem signedTautology_map_toInt_iff {literals : List Literal}
    (positive : ∀ literal ∈ literals, 0 < literal.var) :
    SignedTautology (literals.map Literal.toInt) ↔
      ∃ literal ∈ literals, literal.negate ∈ literals := by
  constructor
  · rintro ⟨number, inside, opposite⟩
    obtain ⟨literal, member, rfl⟩ := List.mem_map.1 inside
    obtain ⟨other, present, same⟩ := List.mem_map.1 opposite
    have negated : 0 < literal.negate.var := positive literal member
    rw [← Literal.toInt_negate, Literal.toInt_inj (positive other present) negated] at same
    exact ⟨literal, member, same ▸ present⟩
  · rintro ⟨literal, member, both⟩
    refine ⟨literal.toInt, List.mem_map_of_mem member, ?_⟩
    rw [← Literal.toInt_negate]
    exact List.mem_map_of_mem both

/-- The clause of literals over positive variables, if there is one, has their signed forms cleaned. -/
theorem toInts_ofLiterals {literals : List Literal}
    (positive : ∀ literal ∈ literals, 0 < literal.var) :
    (ofLiterals literals).toOption.toList.map toInts = cleaned [literals.map Literal.toInt] := by
  have tautology := signedTautology_map_toInt_iff positive
  cases built : ofLiterals literals with
  | ok clause =>
    have consistent : ¬SignedTautology (literals.map Literal.toInt) := by
      rw [tautology]
      have apart := (exists_ofLiterals_iff literals).1 ⟨clause, built⟩
      simpa using apart
    simp [Except.toOption, cleaned, consistent, toInts, ofLiterals_literals built,
      map_toInt_keepFirst positive]
  | error fault =>
    have refused : ¬∃ clause, ofLiterals literals = .ok clause := by simp [built]
    have holds : SignedTautology (literals.map Literal.toInt) := by
      rw [exists_ofLiterals_iff] at refused
      rw [tautology]
      simpa using refused
    simp [Except.toOption, cleaned, holds]

end Clause

namespace Formula

/-- A clause that is read has the signed form cleaned and is not marked as learnt. -/
theorem readClause_cleaned {position : Nat} {count : Int} {signed : List Int} {read : Option Clause}
    (accepted : readClause position count signed = .ok read) :
    read.toList.map Clause.toInts = cleaned [signed] ∧ ∀ clause ∈ read, clause.learnt = false := by
  unfold readClause at accepted
  cases named : Clause.literalsOfInts signed with
  | error fault => simp [named] at accepted
  | ok literals =>
    simp only [named] at accepted
    split at accepted
    · simp at accepted
    · cases accepted
      obtain ⟨shape, positive⟩ := Clause.map_toInt_of_literalsOfInts named
      refine ⟨?_, fun clause built => ?_⟩
      · rw [Clause.toInts_ofLiterals positive, shape]
      · cases found : Clause.ofLiterals literals with
        | error fault => simp [found, Except.toOption] at built
        | ok other =>
          rw [found] at built
          cases built
          exact Clause.ofLiterals_learnt found

/-- Clauses that are read have the signed forms cleaned and are not marked as learnt. -/
theorem readClauses_cleaned {position : Nat} {count : Int} {signed : List (List Int)}
    {clauses : List Clause} (accepted : readClauses count position signed = .ok clauses) :
    clauses.map Clause.toInts = cleaned signed ∧ ∀ clause ∈ clauses, clause.learnt = false := by
  induction signed generalizing position clauses with
  | nil =>
    cases accepted
    simp [cleaned]
  | cons first rest ih =>
    unfold readClauses at accepted
    cases head : readClause position count first with
    | error fault => simp [head] at accepted
    | ok read =>
      simp only [head] at accepted
      cases tail : readClauses count (position + 1) rest with
      | error fault =>
        rw [tail] at accepted
        simp [Except.map] at accepted
      | ok others =>
        rw [tail] at accepted
        cases accepted
        obtain ⟨shape, plain⟩ := readClause_cleaned head
        obtain ⟨shapes, plains⟩ := ih tail
        have split : cleaned (first :: rest) = cleaned [first] ++ cleaned rest := by
          rw [cleaned, cleaned, cleaned, ← List.map_append, ← List.filter_append,
            List.singleton_append]
        refine ⟨by rw [split, List.map_append, shape, shapes], ?_⟩
        rw [List.forall_mem_append]
        exact ⟨by simpa using plain, plains⟩

/-- A list of numbers is refused only for a zero. -/
theorem literalsOfInts_eq_error {signed : List Int} {fault : Fault}
    (refused : Clause.literalsOfInts signed = .error fault) : fault = .zeroLiteral := by
  induction signed with
  | nil => cases refused
  | cons number rest ih =>
    unfold Clause.literalsOfInts at refused
    split at refused
    · exact (Except.error.inj refused).symm
    · cases tail : Clause.literalsOfInts rest with
      | error other =>
        rw [tail] at refused
        cases refused
        exact ih tail
      | ok literals =>
        rw [tail] at refused
        cases refused

/-- Reading clauses is refused only for the shape of a clause. -/
theorem readClauses_eq_error {position : Nat} {count : Int} {signed : List (List Int)} {fault : Fault}
    (refused : readClauses count position signed = .error fault) : fault.isMalformedClause = true := by
  induction signed generalizing position with
  | nil => cases refused
  | cons first rest ih =>
    unfold readClauses readClause at refused
    cases named : Clause.literalsOfInts first with
    | error other =>
      simp only [named] at refused
      cases refused
      rw [literalsOfInts_eq_error named]
      rfl
    | ok literals =>
      simp only [named] at refused
      cases above : literals.find? (fun literal => literal.var > count) with
      | some literal =>
        simp only [above] at refused
        cases refused
        rfl
      | none =>
        simp only [above] at refused
        cases tail : readClauses count (position + 1) rest with
        | error other =>
          rw [tail] at refused
          cases refused
          exact ih tail
        | ok others =>
          rw [tail] at refused
          cases refused

/-- A clause within the variables that is not marked as learnt is read from its signed form. -/
theorem readClause_toInts (position : Nat) {count : Nat} {clause : Clause}
    (inside : clause.InRange count) (plain : clause.learnt = false) :
    readClause position count clause.toInts = .ok (some clause) := by
  have positive : ∀ literal ∈ clause.literals, 0 < literal.var :=
    fun literal member => (inside literal member).1
  have low : clause.literals.find? (fun literal => literal.var > (count : Int)) = none := by
    rw [List.find?_eq_none]
    intro literal member
    simpa using (inside literal member).2
  obtain ⟨other, built⟩ := (Clause.exists_ofLiterals_iff clause.literals).2 clause.consistent
  have same : other = clause := by
    have literals := Clause.ofLiterals_literals built
    have unmarked := Clause.ofLiterals_learnt built
    rw [keepFirst_of_nodup clause.distinct] at literals
    cases other
    cases clause
    simp_all
  have named := Clause.literalsOfInts_map_toInt positive
  rw [readClause, Clause.toInts, named]
  simp only [low, built, same]
  rfl

/-- Clauses within the variables that are not marked as learnt are read from their signed forms. -/
theorem readClauses_toInts {count : Nat} {clauses : List Clause}
    (inside : ∀ clause ∈ clauses, clause.InRange count)
    (plain : ∀ clause ∈ clauses, clause.learnt = false) (position : Nat) :
    readClauses count position (clauses.map Clause.toInts) = .ok clauses := by
  induction clauses generalizing position with
  | nil => rfl
  | cons first rest ih =>
    obtain ⟨here, behind⟩ := List.forall_mem_cons.1 inside
    obtain ⟨unmarked, others⟩ := List.forall_mem_cons.1 plain
    rw [List.map_cons, readClauses, readClause_toInts position here unmarked, ih behind others]
    rfl

/-- A formula without learned clauses is made again from its clauses. -/
theorem ofClauses_clauses {formula : Formula} (unlearned : formula.learned = []) :
    ofClauses formula.clauses formula.numVars = .ok formula := by
  have checked := rangeFault?_eq_none formula.clausesInRange
  have nonnegative : ¬(formula.numVars : Int) < 0 := by omega
  unfold ofClauses
  rw [if_neg nonnegative]
  split
  · rename_i fault found
    rw [Int.toNat_natCast, checked] at found
    cases found
  · cases formula
    simp_all

/-- A formula without learned clauses is read again from its signed form. -/
theorem ofDimacs_toDimacs {formula : Formula} (unlearned : formula.learned = [])
    (plain : ∀ clause ∈ formula.clauses, clause.learnt = false) :
    ofDimacs formula.toDimacs formula.numVars = .ok formula := by
  rw [ofDimacs, toDimacs, readClauses_toInts formula.clausesInRange plain]
  exact ofClauses_clauses unlearned

/-- What makes a formula the faithful reading of signed clauses over the variables 1 to `count`. -/
structure Faithful (signed : List (List Int)) (count : Int) (formula : Formula) : Prop where
  /-- It is over these variables. -/
  numVars : (formula.numVars : Int) = count
  /-- Nothing has been learned. -/
  unlearned : formula.learned = []
  /-- Its clauses are, in the given order, those that do not hold a number with its negative, each
  without later repetitions of a number. -/
  shape : formula.toDimacs = cleaned signed
  /-- No clause repeats a literal, holds a complementary pair or leaves the variables. -/
  wellFormed : ∀ clause ∈ formula.clauses, clause.literals.Nodup ∧
    ∀ literal ∈ clause.literals, literal.negate ∉ clause.literals ∧
      1 ≤ literal.var ∧ literal.var ≤ count
  /-- The check of the signed clauses finds no clause violated by an assignment of the variables exactly
  when it satisfies every clause of the formula. -/
  sameModels : ∀ model : Assignment, model.TotalOn count →
    (violatedClauses signed model = [] ↔
      ∀ clause ∈ formula.clauses, clause.isSatisfied model.get? = true)
  /-- It is read again from its signed form. -/
  stable : ofDimacs formula.toDimacs count = .ok formula

end Formula

/-- A total assignment satisfies a clause over its variables where its reading does. -/
theorem Assignment.TotalOn.isSatisfied_iff {model : Assignment} {count : Int}
    (total : model.TotalOn count) {clause : Clause}
    (range : ∀ literal ∈ clause.literals, 1 ≤ literal.var ∧ literal.var ≤ count) :
    clause.isSatisfied model.get? = true ↔ clause.Holds model.reading := by
  unfold Clause.isSatisfied Clause.Holds
  rw [List.any_eq_true]
  refine exists_congr fun literal => and_congr_right fun member => ?_
  obtain ⟨truth, held⟩ := Option.isSome_iff_exists.1 ((total literal.var).2 (range literal member))
  rw [Literal.isTrue, beq_iff_eq, Literal.value_eq_true_iff, Literal.Holds, Assignment.reading, held,
    Option.some.injEq, Option.getD_some]

namespace Formula

/-- What is read is read faithfully. -/
theorem faithful_of_ofDimacs {signed : List (List Int)} {count : Int} {formula : Formula}
    (accepted : ofDimacs signed count = .ok formula) : Faithful signed count formula := by
  obtain ⟨numVars, unlearned, _⟩ := ofDimacs_eq_ok accepted
  have inside : ∀ clause ∈ formula.clauses, ∀ literal ∈ clause.literals,
      1 ≤ literal.var ∧ literal.var ≤ count := by
    intro clause listed literal member
    rw [← numVars]
    exact formula.clausesInRange clause listed literal member
  have shape : formula.toDimacs = cleaned signed ∧
      ∀ clause ∈ formula.clauses, clause.learnt = false := by
    unfold ofDimacs at accepted
    cases read : readClauses count 1 signed with
    | error fault => simp [read] at accepted
    | ok clauses =>
      simp only [read] at accepted
      unfold ofClauses at accepted
      split at accepted
      · simp at accepted
      · split at accepted
        · simp at accepted
        · cases accepted
          exact readClauses_cleaned read
  refine ⟨numVars, unlearned, shape.1, fun clause listed => ?_, fun model total => ?_, ?_⟩
  · exact ⟨clause.distinct, fun literal member =>
      ⟨clause.consistent literal member, inside clause listed literal member⟩⟩
  · have checked := total.isModel_iff accepted
    rw [isModel, List.isEmpty_iff] at checked
    rw [checked]
    exact forall₂_congr fun clause listed => (total.isSatisfied_iff (inside clause listed)).symm
  · rw [← numVars]
    exact ofDimacs_toDimacs unlearned shape.2

/-- Reading clauses within the variables is refused for a negative count. -/
theorem ofDimacs_of_negative {signed : List (List Int)} {count : Int}
    (range : ∀ clause ∈ signed, ∀ number ∈ clause, number ≠ 0 ∧ (number.natAbs : Int) ≤ count)
    (below : count < 0) : ofDimacs signed count = .error (.negativeVariableCount count) := by
  obtain ⟨clauses, read, _⟩ := exists_readClauses range 1
  rw [ofDimacs, read]
  simp only [ofClauses, if_pos below]

/-- Clauses with a number out of range are refused for their shape, before the count is looked at. -/
theorem ofDimacs_of_stray {signed : List (List Int)} {count : Int} {clause : List Int}
    (listed : clause ∈ signed) {number : Int} (member : number ∈ clause)
    (bad : number = 0 ∨ count < number.natAbs) :
    ∃ fault, ofDimacs signed count = .error fault ∧ fault.isMalformedClause = true := by
  cases read : readClauses count 1 signed with
  | ok clauses =>
    have good := (readClauses_eq_ok read).1 clause listed number member
    omega
  | error fault =>
    refine ⟨fault, ?_, readClauses_eq_error read⟩
    rw [ofDimacs, read]

/-- Reading is refused for the shape of a clause only if a number is out of range. -/
theorem exists_stray {signed : List (List Int)} {count : Int} {fault : Fault}
    (refused : ofDimacs signed count = .error fault) (malformed : fault.isMalformedClause = true) :
    ∃ clause ∈ signed, ∃ number ∈ clause, number = 0 ∨ count < number.natAbs := by
  by_contra harmless
  have range : ∀ clause ∈ signed, ∀ number ∈ clause,
      number ≠ 0 ∧ (number.natAbs : Int) ≤ count := by
    intro clause listed number member
    by_contra bad
    exact harmless ⟨clause, listed, number, member, by omega⟩
  by_cases below : count < 0
  · rw [ofDimacs_of_negative range below] at refused
    cases refused
    cases malformed
  · obtain ⟨formula, accepted⟩ := exists_ofDimacs (by omega) range
    rw [accepted] at refused
    cases refused

/-- Reading signed clauses is refused for the shape of a clause exactly when a number is zero or exceeds
the count in magnitude. Otherwise it is refused for the count exactly when that is negative. Otherwise
it gives a formula, which is the faithful reading of the clauses. -/
theorem ofDimacs_exact (signed : List (List Int)) (count : Int) :
    ((∃ fault, ofDimacs signed count = .error fault ∧ fault.isMalformedClause = true) ↔
      ∃ clause ∈ signed, ∃ number ∈ clause, number = 0 ∨ count < number.natAbs) ∧
    ((∀ clause ∈ signed, ∀ number ∈ clause, number ≠ 0 ∧ (number.natAbs : Int) ≤ count) →
      (ofDimacs signed count = .error (.negativeVariableCount count) ↔ count < 0) ∧
      (0 ≤ count → ∃ formula, ofDimacs signed count = .ok formula ∧
        Faithful signed count formula)) := by
  refine ⟨⟨?_, ?_⟩, fun range => ⟨⟨fun refused => ?_, ofDimacs_of_negative range⟩,
    fun nonnegative => ?_⟩⟩
  · rintro ⟨fault, refused, malformed⟩
    exact exists_stray refused malformed
  · rintro ⟨clause, listed, number, member, bad⟩
    exact ofDimacs_of_stray listed member bad
  · by_contra high
    obtain ⟨formula, accepted⟩ := exists_ofDimacs (by omega) range
    rw [accepted] at refused
    cases refused
  · obtain ⟨formula, accepted⟩ := exists_ofDimacs nonnegative range
    exact ⟨formula, accepted, faithful_of_ofDimacs accepted⟩

end Formula

end Clausal
