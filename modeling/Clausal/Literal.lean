/-!
# Literals and valuations

A literal is a variable with a polarity. Its signed form is the one that clause files use: the
variable for the positive literal, its negative for the negated one. A valuation is any partial
reading of variables as truth values; clauses and trails are both judged through it.
-/

namespace Clausal

/-- A partial reading of variables as truth values. -/
abbrev Valuation := Int → Option Bool

/-- A variable together with a polarity. Variables count from 1 in a formula; the type leaves them
free, so that a literal outside every formula can still be named and refused. -/
structure Literal where
  /-- The variable. -/
  var : Int
  /-- Whether the literal denies its variable. -/
  negated : Bool
deriving DecidableEq, Hashable

namespace Literal

/-- The literal of a signed number, if the number is not zero. -/
def ofInt? (signed : Int) : Option Literal :=
  if signed = 0 then none else some ⟨signed.natAbs, decide (signed < 0)⟩

/-- The signed form. -/
def toInt (literal : Literal) : Int :=
  if literal.negated then -literal.var else literal.var

/-- The literal of the same variable with the other polarity. -/
def negate (literal : Literal) : Literal :=
  ⟨literal.var, !literal.negated⟩

/-- The truth value of a literal, if its variable has one. -/
def value (literal : Literal) (valuation : Valuation) : Option Bool :=
  (valuation literal.var).map (· != literal.negated)

/-- The literal is satisfied. -/
def isTrue (literal : Literal) (valuation : Valuation) : Bool :=
  literal.value valuation == some true

/-- The literal is falsified. -/
def isFalse (literal : Literal) (valuation : Valuation) : Bool :=
  literal.value valuation == some false

/-- The literal's variable has no value. -/
def isUnassigned (literal : Literal) (valuation : Valuation) : Bool :=
  (valuation literal.var).isNone

/-- The signed form in decimal. -/
def text (literal : Literal) : String :=
  toString literal.toInt

/-- The variable is among 1 to `count`. -/
def InRange (literal : Literal) (count : Nat) : Prop :=
  1 ≤ literal.var ∧ literal.var ≤ count

/-- Whether a literal is in range can be decided. -/
instance (literal : Literal) (count : Nat) : Decidable (literal.InRange count) :=
  inferInstanceAs (Decidable (_ ∧ _))

/-- The literal holds in a total reading of the variables. -/
def Holds (literal : Literal) (reading : Int → Bool) : Prop :=
  reading literal.var = !literal.negated

/-- Whether a literal holds can be decided. -/
instance (literal : Literal) (reading : Int → Bool) : Decidable (literal.Holds reading) :=
  inferInstanceAs (Decidable (_ = _))

/-- Negation is an involution. -/
@[simp]
theorem negate_negate (literal : Literal) : literal.negate.negate = literal := by
  simp [negate]

/-- Negation keeps the variable. -/
@[simp]
theorem var_negate (literal : Literal) : literal.negate.var = literal.var := rfl

/-- No literal is its own negation. -/
theorem negate_ne_self (literal : Literal) : literal.negate ≠ literal := by
  intro same
  have polarity := congrArg Literal.negated same
  simp [negate] at polarity

/-- A non-zero number names a positive variable. -/
theorem var_pos_of_ofInt? {signed : Int} {literal : Literal}
    (named : ofInt? signed = some literal) : 0 < literal.var := by
  unfold ofInt? at named
  split at named
  · simp at named
  · have shape := Option.some.inj named
    subst shape
    simp only
    omega

/-- The signed form of a literal named by a number is that number. -/
theorem toInt_of_ofInt? {signed : Int} {literal : Literal}
    (named : ofInt? signed = some literal) : literal.toInt = signed := by
  unfold ofInt? at named
  split at named
  · simp at named
  · have shape := Option.some.inj named
    subst shape
    simp only [toInt, decide_eq_true_eq]
    split <;> omega

/-- A literal has no value exactly when its variable has none. -/
theorem value_eq_none_iff (literal : Literal) (valuation : Valuation) :
    literal.value valuation = none ↔ valuation literal.var = none := by
  simp [value]

end Literal

end Clausal
