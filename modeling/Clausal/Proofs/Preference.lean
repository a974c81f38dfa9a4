import Mathlib
import Clausal.Decision
import Clausal.Proofs.Implication

/-!
# Preferences cover the variables

Under either strategy the preferred literals name each variable of the formula once, whatever the
scores are. So a decision always keeps within the formula, and the lack of one means that every
variable is assigned. The same is said of a trail with as many entries as there are variables.
-/

namespace Clausal

namespace Decider

/-- The preferred literals name the variables of the formula, each once. -/
theorem map_var_preferences_perm (strategy : Strategy) (formula : Formula) :
    ((start strategy formula).preferences.map Literal.var).Perm
      ((List.range' 1 formula.numVars).map fun (var : Nat) => (var : Int)) := by
  cases strategy with
  | ordered => simp [start, preferences, Function.comp_def]
  | jeroslow =>
    simp only [start, preferences, ranking, List.map_map]
    generalize Score.table formula.clauses formula.numVars = scores
    refine ((List.mergeSort_perm _ _).map _).trans ?_
    rw [List.map_map]
    exact .refl _

/-- A variable is named by a preferred literal exactly when it is one of the formula. -/
theorem mem_map_var_preferences_iff (strategy : Strategy) (formula : Formula) (var : Int) :
    var ∈ (start strategy formula).preferences.map Literal.var ↔
      1 ≤ var ∧ var ≤ formula.numVars := by
  rw [(map_var_preferences_perm strategy formula).mem_iff, List.mem_map]
  simp only [List.mem_range'_1]
  constructor
  · rintro ⟨number, bounds, same⟩
    omega
  · rintro ⟨low, high⟩
    exact ⟨var.toNat, by omega, by omega⟩

/-- The preferred literals name the variables 1 to `numVars` and no others. -/
def Covers (decider : Decider) (numVars : Nat) : Prop :=
  ∀ var, var ∈ decider.preferences.map Literal.var ↔ 1 ≤ var ∧ var ≤ numVars

/-- The decider of a strategy covers the variables of the formula. -/
theorem covers_start (strategy : Strategy) (formula : Formula) :
    (start strategy formula).Covers formula.numVars :=
  mem_map_var_preferences_iff strategy formula

/-- A decision is about a covered variable that has no value. -/
theorem Covers.pick_eq_some {decider : Decider} {numVars : Nat} (covers : decider.Covers numVars)
    {trail : Trail} {literal : Literal} (picked : decider.pick trail = some literal) :
    literal.InRange numVars ∧ trail.value literal.var = none := by
  rw [pick_eq_find?] at picked
  refine ⟨?_, ?_⟩
  · exact (covers literal.var).1 (List.mem_map_of_mem (List.mem_of_find?_eq_some picked))
  · rw [← Trail.isAssigned_eq_false_iff]
    simpa using List.find?_some picked

/-- Without a decision every covered variable has a value. -/
theorem Covers.pick_eq_none {decider : Decider} {numVars : Nat} (covers : decider.Covers numVars)
    {trail : Trail} (picked : decider.pick trail = none) {var : Int} (low : 1 ≤ var)
    (high : var ≤ numVars) : trail.isAssigned var = true := by
  rw [pick_eq_find?] at picked
  obtain ⟨literal, member, same⟩ := List.mem_map.1 ((covers var).2 ⟨low, high⟩)
  rw [← same]
  simpa using List.find?_eq_none.1 picked literal member

/-- A decision is about a variable of the formula that has no value. -/
theorem pick_eq_some {strategy : Strategy} {formula : Formula} {trail : Trail} {literal : Literal}
    (picked : (start strategy formula).pick trail = some literal) :
    literal.InRange formula.numVars ∧ trail.value literal.var = none :=
  (covers_start strategy formula).pick_eq_some picked

end Decider

namespace Trail.Grounded

variable {trail : Trail} {numVars : Nat} {Admitted : Clause → Prop}

/-- The variables of a trail, as a set, lie among those of the formula. -/
theorem vars_subset (grounded : trail.Grounded numVars Admitted) :
    (trail.entries.toList.map Entry.var).toFinset ⊆ Finset.Icc 1 (numVars : Int) := by
  intro var member
  simp only [List.mem_toFinset, List.mem_map, Array.mem_toList_iff] at member
  obtain ⟨entry, present, same⟩ := member
  have range := grounded.inRange entry present
  rw [← same, Finset.mem_Icc]
  exact range

/-- A trail has as many entries as variables. -/
theorem card_vars (grounded : trail.Grounded numVars Admitted) :
    (trail.entries.toList.map Entry.var).toFinset.card = trail.size := by
  rw [List.toFinset_card_of_nodup grounded.coherent.distinct, List.length_map,
    Array.length_toList, Trail.size]

/-- A trail has no more entries than the formula has variables. -/
theorem size_le (grounded : trail.Grounded numVars Admitted) : trail.size ≤ numVars := by
  have bound := Finset.card_le_card grounded.vars_subset
  rw [grounded.card_vars, Int.card_Icc] at bound
  omega

/-- A trail with as many entries as the formula has variables assigns them all. -/
theorem assigned_of_size_eq (grounded : trail.Grounded numVars Admitted)
    (full : trail.size = numVars) {var : Int} (low : 1 ≤ var) (high : var ≤ numVars) :
    trail.isAssigned var = true := by
  have whole : (trail.entries.toList.map Entry.var).toFinset = Finset.Icc 1 (numVars : Int) := by
    refine Finset.eq_of_subset_of_card_le grounded.vars_subset ?_
    rw [grounded.card_vars, Int.card_Icc]
    omega
  have inside := Finset.mem_Icc.2 ⟨low, high⟩
  rw [← whole] at inside
  simp only [List.mem_toFinset, List.mem_map, Array.mem_toList_iff] at inside
  obtain ⟨entry, present, same⟩ := inside
  rw [← same, Trail.isAssigned, grounded.coherent.entryOf?_var present]
  rfl

/-- A trail that assigns all variables of the formula has as many entries. -/
theorem size_eq_of_assigned (grounded : trail.Grounded numVars Admitted)
    (all : ∀ var : Int, 1 ≤ var → var ≤ numVars → trail.isAssigned var = true) :
    trail.size = numVars := by
  have covered : Finset.Icc 1 (numVars : Int) ⊆ (trail.entries.toList.map Entry.var).toFinset := by
    intro var range
    obtain ⟨low, high⟩ := Finset.mem_Icc.1 range
    obtain ⟨entry, found⟩ := Option.isSome_iff_exists.1 (all var low high)
    obtain ⟨present, same⟩ := (grounded.coherent.indexed var entry).1 found
    simp only [List.mem_toFinset, List.mem_map, Array.mem_toList_iff]
    exact ⟨entry, present, same⟩
  have bound := Finset.card_le_card covered
  rw [grounded.card_vars, Int.card_Icc] at bound
  have atMost := grounded.size_le
  omega

/-- A trail with as many entries as there are variables leaves nothing to decide. -/
theorem pick_eq_none (grounded : trail.Grounded numVars Admitted) (full : trail.size = numVars)
    {decider : Decider} (covers : decider.Covers numVars) : decider.pick trail = none := by
  cases picked : decider.pick trail with
  | none => rfl
  | some literal =>
    obtain ⟨⟨low, high⟩, free⟩ := covers.pick_eq_some picked
    rw [← Trail.isAssigned_eq_false_iff, grounded.assigned_of_size_eq full low high] at free
    simp at free

/-- Each level above 0 has an entry, so there are no more levels than entries. -/
theorem level_le_size (grounded : trail.Grounded numVars Admitted) : trail.level ≤ trail.size := by
  have distinct : trail.levelStarts.toList.Nodup := grounded.ascending.imp fun less => less.ne
  have inside : trail.levelStarts.toList.toFinset ⊆ Finset.range trail.size := by
    intro start member
    rw [Finset.mem_range]
    exact grounded.started start (by simpa using member)
  have bound := Finset.card_le_card inside
  rw [List.toFinset_card_of_nodup distinct, Finset.card_range, Array.length_toList] at bound
  exact bound

end Trail.Grounded

end Clausal
