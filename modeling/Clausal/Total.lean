/-!
# Totals

The total of a list of counts, with what the measures of the project need to know about it.
-/

namespace Clausal

/-- The counts added up. -/
def total : List Nat → Nat
  | [] => 0
  | count :: rest => count + total rest

/-- Nothing adds up to zero. -/
@[simp]
theorem total_nil : total [] = 0 := rfl

/-- The first count is added to the total of the others. -/
@[simp]
theorem total_cons (count : Nat) (rest : List Nat) : total (count :: rest) = count + total rest :=
  rfl

/-- The total of two lists is the sum of their totals. -/
@[simp]
theorem total_append (first second : List Nat) :
    total (first ++ second) = total first + total second := by
  induction first with
  | nil => simp
  | cons count rest ih => simp [ih, Nat.add_assoc]

end Clausal
