import Clausal.Analysis
import Clausal.Decision
import Clausal.Propagation
import Clausal.Text.Quoted

/-!
# Flags

The flags that the program knows, how each of them is spelled, and what each of them sets.
-/

namespace Clausal.CommandLine

/-- A flag of the program. -/
inductive Flag where
  /-- Shows the help text. -/
  | help
  /-- Tells more about the run; may be repeated. -/
  | verbose
  /-- Chooses the variants to run. -/
  | variant
  /-- Chooses the decision strategy. -/
  | strategy
  /-- Chooses the propagation scheme. -/
  | propagation
  /-- Names the expected verdict. -/
  | expect
  /-- Switches the check of models on or off. -/
  | check
  /-- Limits the time of each variant. -/
  | timeout
  /-- Prints models. -/
  | model
deriving DecidableEq

namespace Flag

/-- Every flag, in the order in which candidates are listed. -/
def all : List Flag :=
  [help, verbose, variant, strategy, propagation, expect, check, timeout, model]

/-- The spellings of a flag, the short one first. -/
def spellings : Flag → List String
  | help => ["-h", "--help"]
  | verbose => ["-v", "--verbose"]
  | variant => ["--variant"]
  | strategy => ["--strategy"]
  | propagation => ["--propagation"]
  | expect => ["--expect"]
  | check => ["--check"]
  | timeout => ["-t", "--timeout"]
  | model => ["--model"]

/-- The flag is followed by a value. -/
def takesValue : Flag → Bool
  | help | verbose | model => false
  | variant | strategy | propagation | expect | check | timeout => true

/-- The name of a flag in messages. -/
def title (flag : Flag) : String :=
  "/".intercalate flag.spellings

/-- Every spelling with its flag. -/
def table : List (String × Flag) :=
  all.flatMap fun flag => flag.spellings.map fun spelling => (spelling, flag)

/-- The flag that is spelled so. -/
def ofSpelling? (spelling : String) : Option Flag :=
  (table.find? (·.1 == spelling)).map (·.2)

/-- The flag with this short spelling. -/
def ofLetter? (letter : Char) : Option Flag :=
  ofSpelling? (String.ofList ['-', letter])

end Flag

/-- The variants to run. -/
inductive VariantChoice where
  /-- One variant. -/
  | one (variant : Variant)
  /-- Every variant in turn. -/
  | all
deriving DecidableEq

namespace VariantChoice

/-- The name of a choice. -/
def name : VariantChoice → String
  | one variant => variant.name
  | all => "all"

/-- The variants of a choice. -/
def variants : VariantChoice → List Variant
  | one variant => [variant]
  | all => Variant.all

/-- Every choice. -/
def choices : List VariantChoice :=
  Variant.all.map one ++ [all]

end VariantChoice

/-- A verdict to be expected. -/
inductive Expectation where
  /-- The formula has a model. -/
  | sat
  /-- The formula has no model. -/
  | unsat
deriving DecidableEq

namespace Expectation

/-- The name of an expectation. -/
def name : Expectation → String
  | sat => "sat"
  | unsat => "unsat"

/-- The expectation that a verdict meets. -/
def ofVerdict (satisfiable : Bool) : Expectation :=
  if satisfiable then sat else unsat

end Expectation

/-- What a flag that wants a value was given. -/
inductive Given (α : Type) where
  /-- A value. -/
  | value (chosen : α)
  /-- No value: the word that ends the flags stands in its place. -/
  | nothing
deriving DecidableEq

namespace Given

variable {α : Type}

/-- The value, or what stands for it where none was given. -/
def getD (given : Given α) (otherwise : α) : α :=
  match given with
  | value chosen => chosen
  | nothing => otherwise

end Given

/-- What one run of the program is asked to do. -/
structure Settings where
  /-- The clause file. -/
  file : String
  /-- How often more output was asked for. -/
  verbosity : Nat
  /-- The variants to run. -/
  variant : Given VariantChoice
  /-- The decision strategy. -/
  strategy : Given Strategy
  /-- The propagation scheme. -/
  propagation : Given Propagation
  /-- The expected verdict. -/
  expect : Option (Given Expectation)
  /-- Whether models are checked. -/
  check : Given Bool
  /-- The milliseconds after which a variant is left. -/
  timeout : Option Nat
  /-- Whether models are printed. -/
  showModel : Bool
deriving DecidableEq

end Clausal.CommandLine
