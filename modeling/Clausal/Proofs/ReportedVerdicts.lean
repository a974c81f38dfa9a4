import Mathlib
import Clausal.CommandLine
import Clausal.Proofs.Budgets
import Clausal.Proofs.ClauseReading
import Clausal.Proofs.PreferredModel

/-!
# What a run of the program reports

A run without a timeout lets each variant search to its end, and all of them find the same: one model,
or that there is none. So every variant is reported with the same verdict and the same model, the model
passes its check, and the exit status tells whether the verdict is the expected one.

The report of a run is gathered variant by variant. What one variant adds to it is said by `Tells`, and
the reports of several variants are put together by induction on the variants.
-/

namespace Clausal

/-- Some reading of the variables makes every clause of the problem hold. -/
def Dimacs.Problem.Satisfiable (problem : Dimacs.Problem) : Prop :=
  ∃ reading : Int → Bool, ∀ clause ∈ problem.clauses, SignedHolds clause reading

/-- The signed numbers name each variable once, in order, and some number of each clause is among
them. -/
structure Dimacs.Problem.ListsModel (problem : Dimacs.Problem) (signed : List Int) : Prop where
  /-- Each variable is named once, in order. -/
  names : signed.map Int.natAbs = List.range' 1 problem.numVars
  /-- Every clause has a number in common with the list. -/
  clauses : ∀ clause ∈ problem.clauses, ∃ number ∈ clause, number ∈ signed

namespace Assignment

/-- The signed form lists each variable with the sign of its value. -/
theorem mem_toDimacs {model : Assignment} {var : Int} {truth : Bool}
    (held : model.get? var = some truth) : signed (var, truth) ∈ model.toDimacs := by
  obtain ⟨⟨other, value⟩, found, rfl⟩ := Option.map_eq_some_iff.1 held
  have same : other = var := by simpa using List.find?_some found
  subst same
  refine List.mem_map_of_mem ?_
  rw [sorted, List.mem_mergeSort]
  exact List.mem_of_find?_eq_some found

/-- A model has a number in common with every signed clause. -/
theorem exists_mem_toDimacs {model : Assignment} {clauses : List (List Int)}
    (valid : isModel clauses model = true) : ∀ clause ∈ clauses, ∃ number ∈ clause,
      number ∈ model.toDimacs := by
  intro clause member
  rw [isModel, violatedClauses, List.isEmpty_iff, List.filter_eq_nil_iff] at valid
  have satisfied : satisfiesSigned model clause = true := by simpa using valid clause member
  obtain ⟨number, inside, held⟩ := List.any_eq_true.1 satisfied
  refine ⟨number, inside, ?_⟩
  have listed := mem_toDimacs (beq_iff_eq.1 held)
  have shape : signed (number.natAbs, decide (number > 0)) = number := by
    simp only [signed, decide_eq_true_eq]
    split <;> omega
  rwa [shape] at listed

end Assignment

/-- The signed form of a trail's model lists the variables in their order. -/
theorem Trail.natAbs_toDimacs_model (trail : Trail) (count : Nat) :
    (trail.model count).toDimacs.map Int.natAbs = List.range' 1 count := by
  have ordered : (trail.model count).pairs.Pairwise fun left right => left.1 ≤ right.1 := by
    rw [model, List.pairwise_map]
    refine List.Pairwise.imp (fun before => ?_) List.pairwise_lt_range'
    simp only
    omega
  rw [Assignment.toDimacs, Assignment.sorted, List.mergeSort_of_pairwise]
  · rw [model, List.map_map, List.map_map]
    refine List.map_id'' (fun var => ?_) _
    simp [Assignment.signed]
    split <;> simp
  · exact ordered.imp fun before => by simpa using before

/-- What a search of a problem to its end finds. -/
inductive Finds (problem : Dimacs.Problem) : Outcome → Prop
  /-- A model, which can be listed and passes the check. -/
  | model {model : Assignment} (satisfiable : problem.Satisfiable)
      (lists : problem.ListsModel model.toDimacs)
      (checked : violatedClauses problem.clauses model = []) : Finds problem (.satisfiable model)
  /-- That there is none. -/
  | none (unsatisfiable : ¬problem.Satisfiable) : Finds problem .unsatisfiable

namespace Outcome

/-- A model was found. -/
def truth : Outcome → Bool
  | satisfiable _ => true
  | _ => false

/-- The model that was found, in signed form. -/
def signed : Outcome → List Int
  | satisfiable model => model.toDimacs
  | _ => []

end Outcome

/-- A model is found if and only if there is one. -/
theorem Finds.truth_iff {problem : Dimacs.Problem} {outcome : Outcome}
    (found : Finds problem outcome) : outcome.truth = true ↔ problem.Satisfiable := by
  cases found with
  | model satisfiable _ _ => simpa [Outcome.truth] using satisfiable
  | none unsatisfiable => simpa [Outcome.truth] using unsatisfiable

/-- The signed form of what is found lists a model. -/
theorem Finds.lists {problem : Dimacs.Problem} {outcome : Outcome} (found : Finds problem outcome)
    (holds : outcome.truth = true) : problem.ListsModel outcome.signed := by
  cases found with
  | model _ lists _ => exact lists
  | none _ => simp [Outcome.truth] at holds

namespace Solver

/-- The solver that a search to the end leaves has kept what searches keep, and its outcome is the one
that was found. -/
theorem invariant_of_solve {formula : Formula} {configuration : Configuration} {last : Solver}
    {outcome : Outcome} (unlearned : formula.learned = [])
    (solved : (fresh configuration formula).solve = .ok (last, outcome)) :
    Invariant formula configuration last ∧ last.outcome = outcome := by
  have begun := invariant_fresh configuration unlearned
  obtain ⟨final, ended, ran, -⟩ := begun.run_eq_ok
  rw [solve, ended] at solved
  obtain ⟨rfl, same⟩ := Prod.mk.inj (Except.ok.inj solved)
  exact ⟨begun.steps ran, same⟩

/-- A search finds that there is no model only where it has refuted the formula. -/
theorem phase_of_outcome {solver : Solver} (none : solver.outcome = .unsatisfiable) :
    solver.phase = .refuted := by
  unfold outcome at none
  split at none
  · simp at none
  · assumption
  · simp at none

/-- All variants and schemes of propagation find the same in a problem. -/
theorem exists_finds {problem : Dimacs.Problem} {formula : Formula}
    (accepted : Formula.ofDimacs problem.clauses problem.numVars = .ok formula)
    (strategy : Strategy) : ∃ outcome, Finds problem outcome ∧ ∀ variant propagation, ∃ last,
      (fresh ⟨variant, strategy, propagation⟩ formula).solve = .ok (last, outcome) := by
  have agreed : ∀ {last : Solver} {outcome : Outcome},
      (fresh ⟨.plain, strategy, .naive⟩ formula).solve = .ok (last, outcome) →
      ∀ variant propagation, ∃ last,
        (fresh ⟨variant, strategy, propagation⟩ formula).solve = .ok (last, outcome) := by
    intro last outcome solved variant propagation
    obtain ⟨_, next, same, first, second⟩ := solve_agree accepted accepted (fun _ _ => rfl)
      ⟨.plain, strategy, .naive⟩ ⟨variant, strategy, propagation⟩ rfl
    rw [solved] at first
    obtain ⟨_, rfl⟩ := Prod.mk.inj (Except.ok.inj first)
    exact ⟨next, second⟩
  obtain ⟨counted, unlearned, _, meaning⟩ := Formula.ofDimacs_eq_ok accepted
  rcases solve_cases ⟨.plain, strategy, .naive⟩ accepted with
    ⟨last, trail, solved, total, valid, _⟩ | ⟨last, solved, none⟩
  · refine ⟨_, .model ?_ ⟨?_, ?_⟩ ?_, agreed solved⟩
    · exact ⟨_, (meaning _).1 ((total.isModel_iff accepted).1 valid)⟩
    · rw [Trail.natAbs_toDimacs_model]
      rw [Int.ofNat.inj counted]
    · exact Assignment.exists_mem_toDimacs valid
    · simpa [isModel] using valid
  · refine ⟨_, .none ?_, agreed solved⟩
    rintro ⟨reading, holds⟩
    obtain ⟨invariant, same⟩ := invariant_of_solve unlearned solved
    exact invariant.not_satisfiable (phase_of_outcome same) ⟨reading, (meaning reading).2 holds⟩

end Solver

namespace CommandLine

/-! ## The searches of a run -/

variable {settings : Settings} {problem : Dimacs.Problem} {strategy : Strategy}
  {propagation : Propagation}

/-- The settings ask for a search to the end. -/
structure Settings.Complete (settings : Settings) (strategy : Strategy) (propagation : Propagation) :
    Prop where
  /-- A strategy is chosen. -/
  strategy : settings.strategy = .value strategy
  /-- A scheme of propagation is chosen. -/
  propagation : settings.propagation = .value propagation
  /-- There is no timeout. -/
  timeout : settings.timeout = none

/-- Without a timeout a variant searches to the end. -/
theorem Settings.Complete.search (complete : settings.Complete strategy propagation)
    {formula : Formula} (accepted : Formula.ofDimacs problem.clauses problem.numVars = .ok formula)
    (variant : Variant) (clock : Clock) {last : Solver} {outcome : Outcome}
    (solved : (Solver.fresh ⟨variant, strategy, propagation⟩ formula).solve = .ok (last, outcome)) :
    ∃ run, (search settings problem (.value variant) clock).1 = .ok run ∧
      run.solver.variant = variant ∧ run.outcome = outcome := by
  have unlearned := (Formula.ofDimacs_eq_ok accepted).2.1
  have prepared : settings.prepare problem (.value variant) =
      .ok (.fresh ⟨variant, strategy, propagation⟩ formula, ⟨none, none⟩) := by
    simp [Settings.prepare, Settings.solver, Settings.configuration, Settings.budget, accepted,
      complete.strategy, complete.propagation, complete.timeout, bind, Except.bind, pure,
      Except.pure]
  obtain ⟨final, whole, left, found⟩ := Budget.drive_unlimited clock.read.2
    (Solver.invariant_fresh ⟨variant, strategy, propagation⟩ unlearned).toUpheld
  rw [whole] at solved
  obtain ⟨rfl, rfl⟩ := Prod.mk.inj (Except.ok.inj solved)
  have kept := (Solver.invariant_of_solve unlearned whole).1.variant
  simp only [CommandLine.search, prepared, VariantRun.ofFinished, found, Except.map]
  exact ⟨_, rfl, by rw [left]; exact kept, rfl⟩

/-- Without a timeout every variant searches to the end. -/
theorem Settings.Complete.searchAll (complete : settings.Complete strategy propagation)
    {formula : Formula} (accepted : Formula.ofDimacs problem.clauses problem.numVars = .ok formula)
    {outcome : Outcome} (solved : ∀ variant propagation, ∃ last,
      (Solver.fresh ⟨variant, strategy, propagation⟩ formula).solve = .ok (last, outcome))
    (variants : List Variant) (clock : Clock) :
    List.Forall₂ (fun variant result => ∃ run, result = .ok run ∧ run.solver.variant = variant ∧
        run.outcome = outcome) variants
      (searchAll settings problem (variants.map .value) clock) := by
  induction variants generalizing clock with
  | nil => exact .nil
  | cons variant rest ih =>
    obtain ⟨last, whole⟩ := solved variant propagation
    exact .cons (complete.search accepted variant clock whole) (ih _)

/-! ## The report of a variant -/

/-- The entry is about the check of a model. -/
def LogEntry.isCheck : LogEntry → Bool
  | modelChecked _ | modelFalsifies .. => true
  | _ => false

/-- The lines behind the comment on a variant: the verdict and, if it is asked for, the model. -/
def answerLines (settings : Settings) (truth : Bool) (signed : List Int) : List String :=
  (if truth then "s SATISFIABLE" else "s UNSATISFIABLE") ::
    if settings.showModel && truth then ["v " ++ " ".intercalate (signed.map toString) ++ " 0"]
    else []

/-- The checks of a variant: that its model passed, if models are checked and there is one. -/
def passedChecks (settings : Settings) (problem : Dimacs.Problem) (truth : Bool) : List LogEntry :=
  if settings.check.getD false && truth then [.modelChecked problem.clauses.length] else []

/-- The exit status of a verdict: it is an expected one or not. -/
def verdictStatus (settings : Settings) (truth : Bool) : Nat :=
  if settings.expect = none ∨ settings.expect = some (.value (.ofVerdict truth)) then exitOk
  else exitMismatch

/-- The report tells the verdict of a variant, its model and that this passed its check. -/
structure Tells (settings : Settings) (problem : Dimacs.Problem) (truth : Bool) (signed : List Int)
    (variant : Variant) (report : Transcript × Nat) : Prop where
  /-- The output is a comment on the variant and then its answer. -/
  output : ∃ details, report.1.output.map OutputLine.text =
    ("c " ++ variant.description ++ ": " ++ details) :: answerLines settings truth signed
  /-- The check was passed. -/
  checks : report.1.log.filter LogEntry.isCheck = passedChecks settings problem truth
  /-- The status tells whether the verdict was expected. -/
  status : report.2 = verdictStatus settings truth

/-- The comment on a variant names it. -/
theorem comment_text (variant : Variant) (elapsed : Number) (stats : Stats) : ∃ details,
    (OutputLine.comment variant elapsed stats).text =
      "c " ++ variant.description ++ ": " ++ details := by
  refine ⟨s!"{Decimal.fixed 6 elapsed.toFloat}s, {stats.decisions} decision(s), " ++
    s!"{stats.conflicts} conflict(s), {stats.learned} learned", ?_⟩
  simp only [OutputLine.text, String.append_assoc]
  rfl

/-- A verdict in writing. -/
theorem verdict_text (truth : Bool) : (OutputLine.verdict (some truth)).text =
    if truth then "s SATISFIABLE" else "s UNSATISFIABLE" := by
  cases truth <;> rfl

/-- A model in writing. -/
theorem model_text (signed : List Int) : (OutputLine.model signed).text =
    "v " ++ " ".intercalate (signed.map toString) ++ " 0" := rfl

/-- Events are not about checks. -/
theorem filter_events (events : List Event) :
    (events.map LogEntry.event).filter LogEntry.isCheck = [] := by
  rw [List.filter_eq_nil_iff]
  simp [LogEntry.isCheck]

/-- The report of an expectation is not about checks, and there is one if the status says so. -/
theorem mismatch_cases (settings : Settings) (truth : Bool) :
    (mismatch? settings truth).toList.filter LogEntry.isCheck = [] ∧
      (if (mismatch? settings truth).toList.isEmpty then exitOk else exitMismatch) =
        verdictStatus settings truth := by
  unfold mismatch? verdictStatus
  rcases settings.expect with _ | given
  · simp
  · cases given with
    | nothing => simp [LogEntry.isCheck]
    | value expected =>
      by_cases met : expected = .ofVerdict truth <;> simp [met, LogEntry.isCheck]

/-- The report of a variant that has searched to the end tells what was found. -/
theorem report_tells {run : VariantRun} (found : Finds problem run.outcome) (settings : Settings) :
    Tells settings problem run.outcome.truth run.outcome.signed run.solver.variant
      (run.report settings problem.clauses) := by
  obtain ⟨details, comment⟩ := comment_text run.solver.variant run.elapsed run.solver.stats
  obtain ⟨elapsed, solver, outcome, events⟩ := run
  dsimp only at found comment ⊢
  cases found with
  | none _ =>
    obtain ⟨unchecked, status⟩ := mismatch_cases settings false
    refine ⟨⟨details, ?_⟩, ?_, status⟩
    · simp [VariantRun.report, answerLines, Outcome.truth, Outcome.isSat?, comment, verdict_text]
    · simp [VariantRun.report, passedChecks, Outcome.truth, filter_events, unchecked]
  | @model model _ _ checked =>
    obtain ⟨unchecked, status⟩ := mismatch_cases settings true
    have passed : checkModel problem.clauses model = (.modelChecked problem.clauses.length, true) := by
      rw [checkModel, checked]
    refine ⟨⟨details, ?_⟩, ?_, ?_⟩
    · cases shown : settings.showModel <;>
        simp [VariantRun.report, answerLines, Outcome.truth, Outcome.signed, Outcome.isSat?, comment,
          verdict_text, model_text, shown]
    · cases checks : settings.check.getD false <;>
        simp [VariantRun.report, passedChecks, Outcome.truth, filter_events, unchecked, checks,
          passed, List.filter_cons, LogEntry.isCheck]
    · refine Eq.trans ?_ status
      cases checks : settings.check.getD false <;> simp [VariantRun.report, checks, passed]

/-! ## The report of a run -/

/-- What is told of clauses that are left out is not about checks. -/
theorem filter_noticed (problem : Dimacs.Problem) :
    (noticed problem).filter LogEntry.isCheck = [] := by
  rw [noticed, List.filter_eq_nil_iff]
  intro entry member
  obtain ⟨_, _, rfl⟩ := List.mem_map.1 member
  simp [LogEntry.isCheck]

/-- The reports of variants are put together one after another, and the largest status counts. -/
theorem reportAll_tells {outcome : Outcome} (found : Finds problem outcome) (settings : Settings)
    {variants : List Variant} {results : List (Except Fault VariantRun)}
    (ran : List.Forall₂ (fun variant result => ∃ run, result = .ok run ∧
      run.solver.variant = variant ∧ run.outcome = outcome) variants results)
    (status : Nat) (told : Transcript) : ∃ details : List String,
      details.length = variants.length ∧
      (reportAll settings problem results status told).1.output.map OutputLine.text =
        told.output.map OutputLine.text ++ ((variants.zip details).flatMap fun (variant, detail) =>
          ("c " ++ variant.description ++ ": " ++ detail) ::
            answerLines settings outcome.truth outcome.signed) ∧
      (reportAll settings problem results status told).1.log.filter LogEntry.isCheck =
        told.log.filter LogEntry.isCheck ++
          (variants.flatMap fun _ => passedChecks settings problem outcome.truth) ∧
      (reportAll settings problem results status told).2 = .exit
        (variants.foldl (fun status _ => max status (verdictStatus settings outcome.truth)) status)
        none := by
  induction ran generalizing status told with
  | nil => exact ⟨[], rfl, by simp [reportAll], by simp [reportAll], rfl⟩
  | @cons variant _ rest later here _ ih =>
    obtain ⟨run, rfl, rfl, rfl⟩ := here
    obtain ⟨⟨detail, output⟩, checks, status_eq⟩ := report_tells found settings
    rw [reportAll]
    obtain ⟨details, counted, outputs, allChecks, ending⟩ := ih
      (max status (run.report settings problem.clauses).2)
      ((told.append ⟨[], noticed problem⟩).append (run.report settings problem.clauses).1)
    refine ⟨detail :: details, by simp [counted], ?_, ?_, ?_⟩
    · rw [outputs]
      simp [Transcript.append, output]
    · rw [allChecks]
      simp [Transcript.append, checks, filter_noticed]
    · rw [ending, status_eq]
      rfl

/-- A run without a timeout over a file that can be read tells, for every variant it was asked for, the
one verdict that is right and, if asked to, the one model that all variants find; every check of a model
is passed, and the exit status tells whether the verdict was the expected one. -/
theorem shown_decides {words : List String} {files : Files} {choice : VariantChoice}
    (given : readArguments words = .ok settings) (chosen : settings.variant = .value choice)
    (complete : settings.Complete strategy propagation)
    (accepted : Dimacs.read files settings.file = .ok problem) (clock : Clock) :
    ∃ (truth : Bool) (signed : List Int) (details : List String),
      (truth = true ↔ problem.Satisfiable) ∧ (truth = true → problem.ListsModel signed) ∧
      details.length = choice.variants.length ∧
      (shown words files clock).output =
        ((choice.variants.zip details).flatMap fun (variant, detail) =>
          ("c " ++ variant.description ++ ": " ++ detail) :: answerLines settings truth signed) ∧
      (run settings files clock).1.log.filter LogEntry.isCheck =
        (choice.variants.flatMap fun _ => passedChecks settings problem truth) ∧
      (shown words files clock).status = .ok (verdictStatus settings truth) := by
  obtain ⟨formula, formed⟩ := Dimacs.exists_formula accepted
  obtain ⟨outcome, found, solved⟩ := Solver.exists_finds formed strategy
  have variants : settings.variants = choice.variants.map .value := by
    rw [Settings.variants, chosen]
  have ran := complete.searchAll formed solved choice.variants clock
  obtain ⟨details, counted, output, checks, ending⟩ := reportAll_tells found settings ran exitOk
    ⟨[], [.parsing settings.file, .parsed problem.clauses.length problem.numVars]⟩
  have whole : run settings files clock = reportAll settings problem
      (searchAll settings problem (choice.variants.map .value) clock) exitOk
      ⟨[], [.parsing settings.file, .parsed problem.clauses.length problem.numVars]⟩ := by
    simp only [run, reportRun, accepted, variants]
  rw [← whole] at output checks ending
  refine ⟨outcome.truth, outcome.signed, details, found.truth_iff, found.lists, counted, ?_, ?_, ?_⟩
  · rw [shown, given]
    simp only [shownRun, ending]
    rw [output]
    rfl
  · rw [checks]
    rfl
  · rw [shown, given]
    simp only [shownRun, ending]
    cases choice <;> simp [VariantChoice.variants, Variant.all, exitOk]

/-- Asked for all variants, models and their check, with the wrong expectation, a run over one clause of
one variable tells its model three times and ends with status one. -/
theorem shown_decides_all : ∃ first second third,
    (shown ["--variant", "all", "--model", "--check", "on", "--expect", "unsat", "f"]
        ⟨[(["f"], .file (.plain "p cnf 1 1\n1 0\n".toUTF8.toList))]⟩ (.showing .zero)).output =
      ["c Plain DPLL with chronological backtracking: " ++ first, "s SATISFIABLE", "v 1 0",
        "c DPLL with non-chronological backjumping: " ++ second, "s SATISFIABLE", "v 1 0",
        "c DPLL with backjumping and clause learning: " ++ third, "s SATISFIABLE", "v 1 0"] ∧
    (shown ["--variant", "all", "--model", "--check", "on", "--expect", "unsat", "f"]
        ⟨[(["f"], .file (.plain "p cnf 1 1\n1 0\n".toUTF8.toList))]⟩ (.showing .zero)).status =
      .ok 1 := by
  have given : readArguments
      ["--variant", "all", "--model", "--check", "on", "--expect", "unsat", "f"] =
        .ok ⟨"f", 0, .value .all, .value .ordered, .value .watched, some (.value .unsat),
          .value true, none, true⟩ := by cbv
  have accepted : Dimacs.read ⟨[(["f"], .file (.plain "p cnf 1 1\n1 0\n".toUTF8.toList))]⟩ "f" =
      .ok ⟨[[1]], 1⟩ := by cbv
  obtain ⟨truth, signed, details, right, lists, counted, output, _, status⟩ :=
    shown_decides given rfl ⟨rfl, rfl, rfl⟩ accepted (.showing .zero)
  have satisfiable : truth = true := right.2 ⟨fun _ => true, by simp [SignedHolds]⟩
  subst satisfiable
  obtain ⟨first, second, third, rfl⟩ := List.length_eq_three.1 counted
  have model : signed = [1] := by
    obtain ⟨names, clauses⟩ := lists rfl
    obtain ⟨number, rfl⟩ : ∃ number, signed = [number] := by
      refine List.length_eq_one_iff.1 ?_
      rw [← List.length_map Int.natAbs, names]
      rfl
    simpa [eq_comm] using clauses [1] (by simp)
  refine ⟨first, second, third, ?_, status⟩
  rw [output, model]
  rfl

end CommandLine

end Clausal
