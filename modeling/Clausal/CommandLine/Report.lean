import Clausal.Decimal.Fixed
import Clausal.Event
import Clausal.Outcome

/-!
# Reports

What a run of the program tells. Its output has three kinds of lines: comments with the counters of a
search, verdicts, and models. Beside the output it keeps a log, each line of which has a level and a
source; how much of the log is shown depends on the verbosity.
-/

namespace Clausal.CommandLine

/-- A line of output. -/
inductive OutputLine where
  /-- How a variant fared: the seconds it took and its counters. -/
  | comment (variant : Variant) (elapsed : Number) (stats : Stats)
  /-- What a variant found out. -/
  | verdict (satisfiable : Option Bool)
  /-- A model as signed variables. -/
  | model (signed : List Int)

namespace OutputLine

/-- A line of output in writing. Whole numbers are written with all their digits: that no more than 4300
digits of one may be written is left out, as it takes more steps to count that far than any run has. -/
def text : OutputLine → String
  | comment variant elapsed stats =>
    let seconds := Decimal.fixed 6 elapsed.toFloat
    s!"c {variant.description}: {seconds}s, {stats.decisions} decision(s), " ++
      s!"{stats.conflicts} conflict(s), {stats.learned} learned"
  | verdict none => "s UNKNOWN"
  | verdict (some true) => "s SATISFIABLE"
  | verdict (some false) => "s UNSATISFIABLE"
  | model signed => "v " ++ " ".intercalate (signed.map toString) ++ " 0"

end OutputLine

/-- The weight of a line of the log. -/
inductive LogLevel where
  /-- The course of the search. -/
  | debug
  /-- What has been confirmed. -/
  | info
  /-- What went wrong. -/
  | error
deriving DecidableEq

namespace LogLevel

/-- The name of a level. -/
def name : LogLevel → String
  | debug => "DEBUG"
  | info => "INFO"
  | error => "ERROR"

/-- The verbosity from which on lines of a level are shown. -/
def needs : LogLevel → Nat
  | debug => 2
  | info => 1
  | error => 0

end LogLevel

/-- What a line of the log tells. -/
inductive LogEntry where
  /-- A clause file is about to be read. -/
  | parsing (path : String)
  /-- A clause file has been read. -/
  | parsed (clauses numVars : Nat)
  /-- A clause is left out, because it holds a literal with its negation. -/
  | leftOut (position : Nat) (signed : List Int)
  /-- Something happened in a search. -/
  | event (happened : Event)
  /-- A model satisfies the clauses. -/
  | modelChecked (clauses : Nat)
  /-- A model fails on clauses, the first of which is given. -/
  | modelFalsifies (violated : Nat) (first : List Int)
  /-- A verdict is not the expected one. -/
  | unexpected (expected found : String)

namespace LogEntry

/-- Signed literals between brackets. -/
def signedText (signed : List Int) : String :=
  "[" ++ ", ".intercalate (signed.map toString) ++ "]"

/-- The weight of an entry. -/
def level : LogEntry → LogLevel
  | parsing _ | parsed .. | leftOut .. | event _ => .debug
  | modelChecked _ => .info
  | modelFalsifies .. | unexpected .. => .error

/-- The part of the program that an entry comes from. -/
def source : LogEntry → String
  | leftOut .. => "satmicro.solvers.cnf"
  | event (.skipped _) => "satmicro.solvers.analysis"
  | event _ => "satmicro.solvers.dpll"
  | _ => "satmicro"

/-- What an entry says. -/
def message : LogEntry → String
  | parsing path => s!"parsing {path}"
  | parsed clauses numVars => s!"done parsing {clauses} clause(s) over {numVars} variable(s)"
  | leftOut position signed => s!"dropping tautological clause {position}: {signedText signed}"
  | event happened => happened.text
  | modelChecked clauses => s!"model checked against {clauses} clause(s)"
  | modelFalsifies violated first =>
    s!"model falsifies {violated} clause(s), first one: {signedText first}"
  | unexpected expected found => s!"expected {expected}, got {found}"

/-- An entry in writing. -/
def text (entry : LogEntry) : String :=
  s!"{entry.level.name} {entry.source}: {entry.message}"

/-- The entries that a verbosity shows. -/
def shown (verbosity : Nat) (entries : List LogEntry) : List LogEntry :=
  entries.filter fun entry => entry.level.needs ≤ verbosity

end LogEntry

end Clausal.CommandLine
