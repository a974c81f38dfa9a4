import Mathlib
import Clausal.Proofs.SearchInvariant

/-!
# Entry counts per level

The number of entries at each level, listed from level 0 on, grows lexicographically in a search. A
forced literal adds to the current level, a decision adds to a level that was empty, and going back
empties the levels above the one at which a literal is then asserted.

Lists of one length whose members lie below a base are ranked by the number that they write in that
base; the ranks grow with the lists.
-/

namespace Clausal

/-- The number that a list of digits writes in a base, highest digit first. -/
def rankIn (base : Nat) : List Nat → Nat
  | [] => 0
  | digit :: rest => digit * base ^ rest.length + rankIn base rest

/-- A number is below the power of its base that its length gives. -/
theorem rankIn_lt {base : Nat} {digits : List Nat} (small : ∀ digit ∈ digits, digit < base) :
    rankIn base digits < base ^ digits.length := by
  induction digits with
  | nil => simp [rankIn]
  | cons digit rest ih =>
    have tail := ih fun other member => small other (List.mem_cons_of_mem _ member)
    have head : digit + 1 ≤ base := small digit List.mem_cons_self
    calc digit * base ^ rest.length + rankIn base rest
        < digit * base ^ rest.length + base ^ rest.length := by omega
      _ = (digit + 1) * base ^ rest.length := by ring
      _ ≤ base * base ^ rest.length := Nat.mul_le_mul_right _ head
      _ = base ^ (digit :: rest).length := by rw [List.length_cons, pow_succ, mul_comm]

/-- Among lists of one length the lexicographically larger one writes the larger number. -/
theorem rankIn_lt_rankIn {base : Nat} {left right : List Nat} (length : left.length = right.length)
    (small : ∀ digit ∈ left, digit < base) (less : left < right) :
    rankIn base left < rankIn base right := by
  induction left generalizing right with
  | nil =>
    rw [List.length_nil, eq_comm, List.length_eq_zero_iff] at length
    rw [length] at less
    exact absurd less (List.not_lt_nil _)
  | cons first rest ih =>
    cases right with
    | nil => simp at length
    | cons other more =>
      have same : rest.length = more.length := by simpa using length
      have tail : ∀ digit ∈ rest, digit < base :=
        fun digit member => small digit (List.mem_cons_of_mem _ member)
      simp only [rankIn]
      rcases List.cons_lt_cons_iff.1 less with head | ⟨equal, later⟩
      · have bound := rankIn_lt tail
        calc first * base ^ rest.length + rankIn base rest
            < first * base ^ rest.length + base ^ rest.length := by omega
          _ = (first + 1) * base ^ more.length := by rw [same]; ring
          _ ≤ other * base ^ more.length := Nat.mul_le_mul_right _ head
          _ ≤ other * base ^ more.length + rankIn base more := Nat.le_add_right ..
      · have step := ih same tail later
        rw [equal, same]
        omega

namespace Trail

/-- The number of entries at a level. -/
def countAt (trail : Trail) (level : Nat) : Nat :=
  trail.entries.toList.countP fun entry => entry.level = level

/-- The numbers of entries at the levels 0 to `numVars`. -/
def levelCounts (numVars : Nat) (trail : Trail) : List Nat :=
  (List.range (numVars + 1)).map trail.countAt

/-- The counts list every level up to the number of variables. -/
theorem length_levelCounts (numVars : Nat) (trail : Trail) :
    (trail.levelCounts numVars).length = numVars + 1 := by
  simp [levelCounts]

/-- More entries at some level, and no change below it, make the counts grow. -/
theorem levelCounts_lt {numVars : Nat} {earlier later : Trail} (level : Nat) (bound : level ≤ numVars)
    (below : ∀ lower < level, earlier.countAt lower = later.countAt lower)
    (grows : earlier.countAt level < later.countAt level) :
    earlier.levelCounts numVars < later.levelCounts numVars := by
  rw [List.lt_iff_exists]
  refine .inr ⟨level, by rw [length_levelCounts]; omega, by rw [length_levelCounts]; omega, ?_, ?_⟩
  · intro lower before
    simp only [levelCounts, List.getElem_map, List.getElem_range]
    exact below lower before
  · simp only [levelCounts, List.getElem_map, List.getElem_range]
    exact grows

/-- Entries of one level more. -/
theorem countAt_extend (trail : Trail) (literal : Literal) (reason : Option Clause) (level : Nat) :
    (trail.extend literal reason).countAt level =
      trail.countAt level + if trail.level = level then 1 else 0 := by
  simp [countAt, extend, List.countP_append, List.countP_cons]

/-- Going back leaves the counts of the levels that remain. What is cut off stands at a level above the one
gone back to. -/
theorem Coherent.countAt_undoTo {trail : Trail} (coherent : trail.Coherent) {level lower : Nat}
    (low : lower ≤ level) : (trail.undoTo level).1.countAt lower = trail.countAt lower := by
  by_cases below : level < trail.level
  · obtain ⟨start, found⟩ := exists_start below
    unfold countAt
    rw [entries_undoTo found, toList_take]
    nth_rewrite 2 [← List.take_append_drop start trail.entries.toList]
    rw [List.countP_append]
    have none : (trail.entries.toList.drop start).countP (fun entry => entry.level = lower) = 0 := by
      rw [List.countP_eq_zero]
      intro entry member same
      obtain ⟨place, here⟩ := List.mem_iff_getElem?.1 member
      rw [List.getElem?_drop, Array.getElem?_toList] at here
      have placed := coherent.placed _ _ here
      have early := (coherent.level_le_iff (Array.mem_of_getElem? here) found).1 (by
        simp only [decide_eq_true_eq] at same
        omega)
      omega
    rw [none, Nat.add_zero]
  · rw [undoTo_of_le (by omega)]

/-- Forcing adds to the current level only. -/
theorem Forces.countAt_eq {clauses : List Clause} {trail final : Trail}
    (forces : Forces clauses trail final) {level : Nat} (other : level ≠ trail.level) :
    final.countAt level = trail.countAt level := by
  induction forces with
  | done => rfl
  | unit _ _ _ ih =>
    rw [ih other, countAt_extend, if_neg (fun same => other same.symm), Nat.add_zero]

/-- Forcing removes nothing. -/
theorem Forces.countAt_le {clauses : List Clause} {trail final : Trail}
    (forces : Forces clauses trail final) (level : Nat) :
    trail.countAt level ≤ final.countAt level := by
  induction forces with
  | done => exact le_rfl
  | unit _ _ _ ih =>
    rw [countAt_extend] at ih
    omega

/-- Forcing never makes the counts fall. -/
theorem Forces.levelCounts_le {clauses : List Clause} {trail final : Trail}
    (forces : Forces clauses trail final) {numVars : Nat} (bound : trail.level ≤ numVars) :
    trail.levelCounts numVars ≤ final.levelCounts numVars := by
  rcases Nat.lt_or_ge (trail.countAt trail.level) (final.countAt trail.level) with forced | idle
  · refine le_of_lt (Trail.levelCounts_lt trail.level bound (fun lower low => ?_) forced)
    rw [forces.countAt_eq (by omega)]
  · refine le_of_eq (List.map_congr_left fun level _ => ?_)
    by_cases current : level = trail.level
    · rw [current]
      exact le_antisymm (forces.countAt_le _) idle
    · rw [forces.countAt_eq current]

/-- A decision makes the counts grow, whatever was forced before it. -/
theorem Forces.levelCounts_lt_decide {clauses : List Clause} {trail final : Trail}
    (forces : Forces clauses trail final) (literal : Literal) {numVars : Nat}
    (bound : trail.level + 1 ≤ numVars) :
    trail.levelCounts numVars < (final.newLevel.extend literal none).levelCounts numVars := by
  refine lt_of_le_of_lt (forces.levelCounts_le (by omega))
    (Trail.levelCounts_lt (trail.level + 1) bound (fun lower low => ?_) ?_)
  · rw [countAt_extend, level_newLevel, forces.level_eq, if_neg (by omega)]
    rfl
  · rw [countAt_extend, level_newLevel, forces.level_eq, if_pos rfl]
    exact Nat.lt_succ_self _

/-- Counts are bounded by the number of variables. -/
theorem Grounded.levelCounts_le {trail : Trail} {numVars : Nat} {Admitted : Clause → Prop}
    (grounded : trail.Grounded numVars Admitted) :
    ∀ count ∈ trail.levelCounts numVars, count < numVars + 1 := by
  intro count member
  obtain ⟨level, _, same⟩ := List.mem_map.1 member
  have bound : trail.countAt level ≤ trail.entries.toList.length := List.countP_le_length
  have size := grounded.size_le
  rw [Array.length_toList] at bound
  unfold Trail.size at size
  omega

end Trail

/-- Going back and asserting a literal makes the counts grow. -/
theorem Analysis.Asserts.levelCounts_lt {conflict clause : Clause} {trail : Trail} {level : Nat}
    {asserting : Literal} (asserts : Asserts conflict trail clause level asserting)
    (coherent : trail.Coherent) (reason : Option Clause) {numVars : Nat}
    (bound : trail.level ≤ numVars) :
    trail.levelCounts numVars <
      ((trail.undoTo level).1.extend asserting reason).levelCounts numVars := by
  have below := asserts.below
  refine Trail.levelCounts_lt level (by omega) (fun lower low => ?_) ?_
  · rw [Trail.countAt_extend, asserts.level_undoTo, coherent.countAt_undoTo low.le,
      if_neg (by omega), Nat.add_zero]
  · rw [Trail.countAt_extend, asserts.level_undoTo, coherent.countAt_undoTo le_rfl, if_pos rfl]
    exact Nat.lt_succ_self _

end Clausal
