import Clausal.Literal

/-!
# Causes of refusal

Every way in which building a clause or a formula, working on a trail, analysing a conflict or setting a
limit to a search can be refused, with the sentence that reports it. A fault carries the data of its sentence and nothing
else, so two requests refused for one cause are told apart by what they name.
-/

namespace Clausal

/-- Literals between parentheses, in signed form. -/
def literalsText (literals : List Literal) : String :=
  "(" ++ " ".intercalate (literals.map Literal.text) ++ ")"

/-- Names between brackets, each in single quotes. -/
def nameList (names : List String) : String :=
  "[" ++ ", ".intercalate (names.map fun name => "'" ++ name ++ "'") ++ "]"

/-- A cause for which the solver refuses a request. -/
inductive Fault where
  /-- Zero was given where a literal is expected. -/
  | zeroLiteral
  /-- A clause holds this literal and its negation. -/
  | tautology (literal : Literal)
  /-- The clause at this position, counted from 1, names a variable above the count. -/
  | variableAboveCount (position : Nat) (var count : Int)
  /-- A finished clause names a variable outside the formula's range. -/
  | variableOutOfRange (literals : List Literal) (var : Int) (count : Nat)
  /-- A formula was asked for over a negative number of variables. -/
  | negativeVariableCount (count : Int)
  /-- The trail holds the opposite of the literal to be assigned. -/
  | contradictsTrail (literal held : Literal)
  /-- The trail was asked to go back to a level below zero. -/
  | negativeLevel (level : Int)
  /-- A question about an assigned variable named one that has no value. -/
  | unassignedVariable (var : Int)
  /-- The trail has no entry at the position asked for. -/
  | noSuchEntry
  /-- The implication graph leads from the conflict to a variable without a value. -/
  | conflictUnassigned (var : Int)
  /-- No literal of the conflict belongs to the level at which it was met. -/
  | conflictBelowLevel (literals : List Literal) (level : Nat)
  /-- Resolution reached a decision with literals of the conflict level still open. -/
  | decisionResolved
  /-- The named search variant does not exist. -/
  | unknownVariant (known : List String)
  /-- The named decision strategy does not exist. -/
  | unknownStrategy (known : List String)
  /-- The named propagation scheme does not exist. -/
  | unknownPropagation (known : List String)
  /-- No propagation scheme is named at all. -/
  | noPropagation
  /-- A timeout in milliseconds is past every double when counted in seconds. -/
  | timeoutTooLarge
  /-- A timeout in whole seconds is past every double and was to be added to one. -/
  | secondsTooLarge
deriving DecidableEq

namespace Fault

/-- The sentence that reports a fault. -/
def message : Fault → String
  | zeroLiteral => "0 is not a literal"
  | tautology literal => s!"clause contains both {literal.text} and {literal.negate.text}"
  | variableAboveCount position var count =>
    s!"clause {position} mentions variable {var}, expected 1..{count}"
  | variableOutOfRange literals var count =>
    s!"{literalsText literals} mentions variable {var}, expected 1..{count}"
  | negativeVariableCount count => s!"variable count must be >= 0, got {count}"
  | contradictsTrail literal held =>
    s!"cannot assign {literal.text}, trail already holds {held.text}"
  | negativeLevel level => s!"cannot undo to negative level {level}"
  | unassignedVariable var => toString var
  | noSuchEntry => "list index out of range"
  | conflictUnassigned var => s!"conflict depends on unassigned variable {var}"
  | conflictBelowLevel literals level =>
    s!"conflict {literalsText literals} has no literal at level {level}"
  | decisionResolved => "a decision has no antecedent to resolve with"
  | unknownVariant known => s!"Variant must be one of {nameList known}"
  | unknownStrategy known => s!"Strategy must be one of {nameList known}"
  | unknownPropagation known => s!"Propagation must be one of {nameList known}"
  | noPropagation => "unhashable type: 'list'"
  | timeoutTooLarge => "integer division result too large for a float"
  | secondsTooLarge => "int too large to convert to float"

/-- The fault is about the shape of a clause: a zero, a variable out of range, or both polarities
of one variable. -/
def isMalformedClause : Fault → Bool
  | zeroLiteral | tautology _ | variableAboveCount .. | variableOutOfRange .. => true
  | _ => false

end Fault

end Clausal
