import Clausal.CommandLine.Flag

/-!
# Usage and help

The two texts that explain the command line, as lines. Choices are listed between braces, and the lines
are at most eighty characters long.
-/

namespace Clausal.CommandLine

/-- Names between braces. -/
def among (names : List String) : String :=
  "\x7b" ++ ",".intercalate names ++ "\x7d"

/-- The variants to choose from. -/
def variantChoices : String := among (VariantChoice.choices.map VariantChoice.name)

/-- The strategies to choose from. -/
def strategyChoices : String := among (Strategy.all.map Strategy.name)

/-- The propagation schemes to choose from. -/
def propagationChoices : String := among (Propagation.all.map Propagation.name)

/-- The expectations to choose from. -/
def expectationChoices : String := among ([Expectation.sat, .unsat].map Expectation.name)

/-- How the program is called. -/
def usageLines : List String := [
  s!"usage: satmicro [-h] [-v] [--variant {variantChoices}]",
  s!"                [--strategy {strategyChoices}]",
  s!"                [--propagation {propagationChoices}] [--expect {expectationChoices}]",
  "                [--check on|off] [-t MS] [--model]",
  "                FILE"
]

/-- What the program does and what its flags mean. -/
def helpLines : List String := usageLines ++ [
  "",
  "DPLL, backjumping and CDCL SAT solving on DIMACS CNF files",
  "",
  "positional arguments:",
  "  FILE                  input file (DIMACS CNF, optionally .xz)",
  "",
  "options:",
  "  -h, --help            show this help message and exit",
  "  -v, --verbose         increases verbosity, repeat for debug output",
  s!"  --variant {variantChoices}",
  "                        DPLL variant to run, `all` runs each of them",
  s!"  --strategy {strategyChoices}",
  "                        decision heuristic",
  s!"  --propagation {propagationChoices}",
  "                        unit propagation scheme",
  s!"  --expect {expectationChoices}  the result expected, a different verdict is reported",
  "                        as an error",
  "  --check on|off        (de)activates model checking",
  "  -t MS, --timeout MS   timeout in milliseconds for each variant",
  "  --model               print the model on SAT"
]

end Clausal.CommandLine
