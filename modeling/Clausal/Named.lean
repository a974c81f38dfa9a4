/-!
# Named values in order

Lists of named values. A name that is set for the first time goes to the end; a name that is set again
keeps its place. `lookup` is how such a list is seen, and each operation has its equation for it.
-/

namespace Clausal.Named

variable {α : Type}

/-- The value with a name, if it is there. -/
def lookup (key : String) (entries : List (String × α)) : Option α :=
  (entries.find? (·.1 == key)).map (·.2)

/-- Sets the value of a name; a name set before keeps its place. -/
def update (key : String) (value : α) : List (String × α) → List (String × α)
  | [] => [(key, value)]
  | (name, old) :: rest =>
    if name == key then (key, value) :: rest else (name, old) :: update key value rest

/-- Setting a name makes its value readable. -/
theorem lookup_update_self (key : String) (value : α) (entries : List (String × α)) :
    lookup key (update key value entries) = some value := by
  induction entries with
  | nil => simp [update, lookup]
  | cons entry rest ih =>
    obtain ⟨name, old⟩ := entry
    by_cases same : name = key
    · simp [update, lookup, same]
    · simp only [update, lookup, beq_iff_eq, same, if_false, List.find?_cons] at ih ⊢
      have different : (name == key) = false := by simpa using same
      simpa [different] using ih

/-- Setting a name leaves the others alone. -/
theorem lookup_update_of_ne {key other : String} (different : other ≠ key) (value : α)
    (entries : List (String × α)) :
    lookup other (update key value entries) = lookup other entries := by
  induction entries with
  | nil =>
    have reversed : (key == other) = false := by simpa using fun same => different same.symm
    simp [update, lookup, reversed]
  | cons entry rest ih =>
    obtain ⟨name, old⟩ := entry
    by_cases same : name = key
    · subst same
      have reversed : (name == other) = false := by simpa using fun same => different same.symm
      simp [update, lookup, reversed]
    · have unequal : (name == key) = false := by simpa using same
      simp only [update, unequal, Bool.false_eq_true, if_false]
      simp only [lookup, List.find?_cons] at ih ⊢
      cases name == other with
      | true => rfl
      | false => simpa using ih

end Clausal.Named
