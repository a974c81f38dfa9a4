import Mathlib
import Clausal.Proofs.CampaignAccounts
import Clausal.Proofs.ClauselessSearches

/-!
# Counts of instances

A campaign over the instances among files, with names that are known and a clock that shows doubles, counts
every instance once, and in the right class. Every record that is saved on the way is balanced; at the end
every folder has its account, with its row in the table of results if an instance was solved. The campaign
comes to its end unless the mean of the decisions or conflicts of a folder is past every double.

An instance without clauses, alone in its folder, shows both: it is solved with as many decisions as it has
variables, and whether the campaign comes to its end is a question of their number. That an instance counts
as failed without a verdict, although its file is read, takes a timeout that cannot be kept.
-/

namespace Clausal.Benchmark

open Json (Misuse)
open Campaign (runTask runTasks runPair runPairs)

/-! ## Campaigns from an empty ledger -/

/-- A campaign that starts from an empty ledger has no tasks done. -/
theorem Campaign.accounts_start (plan : Plan) (files : Files) (bench : Bench) (tasks : List Task) :
    (Campaign.start bench []).Accounts plan files bench tasks [] where
  sound := ⟨rfl, Ledger.Each.nil _, by simp [start], by simp [start]⟩
  memory := rfl
  within := by simp
  settled := by simp
  known _ _ found := absurd rfl found
  written := by simp [start]

/-- Every task has its account, about the worker as the tasks before it have left it, each of them counted
once, and its rows in the table of results are those of its tally. -/
def Campaign.Complete (plan : Plan) (files : Files) (bench : Bench) (tasks : List Task)
    (rows : List Row) (campaign : Campaign Bench) : Prop :=
  ∀ task ∈ tasks, ∃ earlier tally attempts, task :: earlier <:+ tasks.reverse.dedup ∧
    campaign.ledger.Holds task tally ∧
    Account plan files task (memoryAfter (workerOf plan files) bench earlier) attempts tally ∧
    rows.filter (Row.isOf task.label task.folder) = tally.rows

/-- The mean of the decisions or conflicts of a task is past every double. -/
def Campaign.Overflowed (tasks : List Task) (campaign : Campaign Bench) : Prop :=
  ∃ task ∈ tasks, ∃ tally, campaign.ledger.Holds task tally ∧ tally.Overflows

/-- A campaign from an empty ledger over the instances among files, with known names and a clock that shows
doubles, has balanced records at every time. At its end every task has its account and its row, unless it is
broken off because a mean of a task is past every double. -/
theorem takeUp_accounts (plan : Plan) (files : Files) (clock : Clock)
    (valid : ∀ pair ∈ plan.table.pairs, ∃ configuration,
      Configuration.ofNames pair.1 pair.2 plan.propagation = .ok configuration)
    (shows : ShowsDoubles clock.time) :
    ∃ (rows : List Row) (campaign : Campaign Bench) (misuse : Option Misuse),
      Campaign.takeUp (workerOf plan files) ⟨clock, 0⟩ (instances files) plan.table (.object []) =
          ⟨rows, .ok (campaign, misuse)⟩ ∧
        campaign.Sound clock.time ∧
        ((misuse = none ∧ campaign.Complete plan files ⟨clock, 0⟩
            (tasksOfPairs (instances files) plan.table.pairs) rows) ∨
          (misuse = some .quotientTooLarge ∧
            campaign.Overflowed (tasksOfPairs (instances files) plan.table.pairs))) := by
  have knows : ∀ task ∈ tasksOfPairs (instances files) plan.table.pairs, plan.Knows task :=
    fun task member => valid _ (mem_tasksOfPairs.mp member).1
  have distinct := distinct_tasksOfPairs (instances_nodup files) knows
  have started := Campaign.accounts_start plan files ⟨clock, 0⟩
    (tasksOfPairs (instances files) plan.table.pairs)
  have empty : Ledger.take (.object []) = ⟨[], .ok []⟩ := rfl
  have yields := yields_runPairs files shows distinct knows (instances files) plan.table.pairs
    (fun _ member => member) _ started
  rcases ran : runPairs (workerOf plan files) (instances files) plan.table.pairs (.start ⟨clock, 0⟩ [])
    with ⟨campaign, stopped⟩
  rw [ran, List.append_nil] at yields
  refine ⟨campaign.written.reverse, campaign, stopped, ?_, ?_⟩
  · simp only [Campaign.takeUp, empty, ran, List.nil_append]
  · rcases yields with ⟨unbroken, accounts⟩ | ⟨misuse, broken, off⟩
    · refine ⟨accounts.sound, .inl ⟨unbroken, fun task member => ?_⟩⟩
      obtain ⟨earlier, tally, attempts, before, settles⟩ :=
        accounts.settled task (List.mem_reverse.mpr member)
      refine ⟨earlier, tally, attempts, before, settles.held, settles.account, ?_⟩
      rw [List.filter_reverse, settles.rows, settles.account.reverse_rows]
    · exact ⟨off.sound, .inr ⟨broken.trans (congrArg some off.cause), off.overflows⟩⟩

/-! ## One instance without clauses -/

section Clauseless

variable {plan : Plan} {files : Files} {place : Place} {problem : Dimacs.Problem} {task : Task}
  {bench : Bench}

/-- A folder with one instance, which has no clauses, is gone through with one attempt, and that instance is
solved. -/
theorem course_clauseless (single : task.places = [place]) (knows : plan.Knows task)
    (accepted : Dimacs.read files place.path = .ok problem) (clauses : problem.clauses = [])
    (expected : expectedVerdict task.folder ≠ some false) (met : plan.waiting bench.searches = .met)
    (shows : ShowsDoubles bench.clock.time) (outlasts : Outlasts plan.timeout bench.clock.time) :
    let course := task.course (workerOf plan files) task.places bench .fresh
    ∃ result, result.IsUnforced problem.numVars ∧ task.count (.finished result) = .solved result ∧
      course.attempts = [.finished result] ∧ course.tally = Tally.fresh.add (.solved result) ∧
      course.tally.Measured := by
  obtain ⟨configuration, valid⟩ := knows
  obtain ⟨result, answer, unforced⟩ := attempt_clauseless accepted clauses valid met outlasts
  have answers := (attempt_answers files valid shows place).2.2
  rw [answer] at answers
  have counted : task.count (.finished result) = .solved result := by
    cases answers with
    | finished accepted met small holds elapsed =>
      rw [task.count_of_verdict unforced.verdict holds]
      rcases told : expectedVerdict task.folder with _ | _ | _
      · rfl
      · exact absurd told expected
      · rfl
  have measured := answers.measured task Tally.measured_fresh
  rw [counted] at measured
  rcases asked : attempt plan files bench task.solver task.strategy place with ⟨attempted, remembered⟩
  rw [asked] at answer
  obtain rfl : attempted = .finished result := answer
  have few : ¬ timeoutLimit ≤ Tally.fresh.timeouts := by decide
  have course : task.course (workerOf plan files) task.places bench .fresh =
      ⟨remembered, [.finished result], Tally.fresh.add (.solved result),
        [Attempt.notice task place (Tally.fresh.add (.solved result)).timeouts (.finished result)],
        [Tally.fresh.add (.solved result)]⟩ := by
    rw [single, Task.course_cons few asked, counted]
    rfl
  simp only [course]
  exact ⟨result, unforced, counted, rfl, rfl, measured⟩

/-- The account of a folder with one instance, which has no clauses, is that it was solved, with a row. -/
theorem account_clauseless (single : task.places = [place]) (knows : plan.Knows task)
    (accepted : Dimacs.read files place.path = .ok problem) (clauses : problem.clauses = [])
    (expected : expectedVerdict task.folder ≠ some false) (met : plan.waiting bench.searches = .met)
    (shows : ShowsDoubles bench.clock.time) (outlasts : Outlasts plan.timeout bench.clock.time)
    {attempts : List Attempt} {tally : Tally}
    (account : Account plan files task bench attempts tally) :
    tally.times.length = 1 ∧ tally.inconclusive = 0 ∧ tally.failed = 0 ∧ tally.rows.length = 1 := by
  obtain ⟨result, unforced, counted, attempted, -⟩ :=
    course_clauseless single knows accepted clauses expected met shows outlasts
  have made : attempts = [.finished result] := account.made.symm.trans attempted
  have failed : tally.failed = 0 := by
    rw [account.failed, made]
    simp [Task.fails, counted, Count.isFailed]
  have inconclusive : tally.inconclusive = 0 := by
    rw [account.inconclusive, made]
    simp [Attempt.isUndecided, unforced.verdict, single]
  have times : tally.times.length = 1 := by
    have dealt : tally.dealt = 1 := by rw [account.dealt, single]; rfl
    have sum := account.balanced.counted
    omega
  have some : tally.times.isEmpty = false := by
    cases measured : tally.times with
    | nil => simp [measured] at times
    | cons time rest => rfl
  exact ⟨times, inconclusive, failed, by rw [account.rows, some]; rfl⟩

/-- A folder with one instance, which has no clauses, can be closed unless the number of its variables is
past every double. -/
theorem runTask_clauseless (single : task.places = [place]) (knows : plan.Knows task)
    (accepted : Dimacs.read files place.path = .ok problem) (clauses : problem.clauses = [])
    (expected : expectedVerdict task.folder ≠ some false) {campaign : Campaign Bench}
    (unknown : campaign.ledger.record? task.solver task.strategy task.folder = none)
    (met : plan.waiting campaign.memory.searches = .met)
    (shows : ShowsDoubles campaign.memory.clock.time)
    (outlasts : Outlasts plan.timeout campaign.memory.clock.time) :
    (runTask (workerOf plan files) task campaign).2 =
      if (Binary64.ofQuotient problem.numVars 1).isInf then some .quotientTooLarge else none := by
  obtain ⟨result, unforced, -, -, course, measured⟩ :=
    course_clauseless single knows accepted clauses expected met shows outlasts
  have opened := Tally.open_fresh task
  rw [Campaign.runTask_of_open _ (.inr ⟨unknown, rfl⟩) opened]
  have whole : task.places.drop Tally.fresh.dealt = task.places := List.drop_zero
  have balanced := Tally.balanced_fresh.add (.solved result)
  have overflows : (Tally.fresh.add (.solved result)).close.Overflows ↔
      (Binary64.ofQuotient problem.numVars 1).isInf = true := by
    have decisions : (Tally.fresh.add (.solved result)).close.decisions = problem.numVars :=
      (Nat.zero_add _).trans unforced.decisions
    have conflicts : (Tally.fresh.add (.solved result)).close.conflicts = 0 :=
      (Nat.zero_add _).trans unforced.conflicts
    have single : (Tally.fresh.add (.solved result)).close.times.length = 1 := rfl
    have small : (Binary64.ofQuotient ((0 : Nat) : Int) 1).isInf = false := by decide +kernel
    rw [Tally.Overflows, decisions, conflicts, single, small]
    simp
  rw [course] at measured
  have some : (Tally.fresh.add (.solved result)).times.isEmpty = false := rfl
  simp only [whole, course, Task.ending, some, Bool.false_eq_true, if_false]
  rcases resultRow_cases measured.close balanced.close (List.cons_ne_nil _ _) task.label
    task.folder with ⟨fine, row, made, -⟩ | ⟨refused, large⟩
  · rw [if_neg (fun large => fine (overflows.mpr large))]
    simp [made]
  · rw [if_pos (overflows.mp large)]
    simp [refused]

/-- A plan with one solver, a timeout, and one pace for all searches. -/
def onePlan (timeout : Number) (pace : Pace) : Plan :=
  { table := [("plain", ["ordered"])], timeout := timeout, propagation := "watched"
    bytesBefore := 0, bytesDuring := 0, paces := ⟨fun _ => pace⟩ }

/-- A campaign over one instance without clauses comes to its end unless the number of its variables is past
every double. -/
theorem takeUp_clauseless {folder : String} (found : instances files = [(folder, [place])])
    (accepted : Dimacs.read files place.path = .ok problem) (clauses : problem.clauses = [])
    (expected : expectedVerdict folder ≠ some false) {timeout : Number} {pace : Pace}
    (met : (onePlan timeout pace).waiting 0 = .met) {clock : Clock} (shows : ShowsDoubles clock.time)
    (outlasts : Outlasts timeout clock.time) :
    let plan := onePlan timeout pace
    ∃ (rows : List Row) (campaign : Campaign Bench),
      Campaign.takeUp (workerOf plan files) ⟨clock, 0⟩ (instances files) plan.table (.object []) =
        ⟨rows, .ok (campaign,
          if (Binary64.ofQuotient problem.numVars 1).isInf then some .quotientTooLarge else none)⟩ := by
  intro plan
  let task : Task := ⟨"plain", "ordered", folder, [place]⟩
  have knows : plan.Knows task := ⟨⟨.plain, .ordered, .watched⟩, rfl⟩
  let opened : Campaign Bench := (openPair "plain" "ordered" (.start ⟨clock, 0⟩ [])).1
  have stopped : (runTask (workerOf plan files) task opened).2 =
      if (Binary64.ofQuotient problem.numVars 1).isInf then some .quotientTooLarge else none :=
    runTask_clauseless rfl knows accepted clauses expected rfl met shows outlasts
  rcases ran : runTask (workerOf plan files) task opened with ⟨campaign, misuse⟩
  rw [ran] at stopped
  have pairs : runPairs (workerOf plan files) [(folder, [place])] plan.table.pairs
      (.start ⟨clock, 0⟩ []) = (campaign, misuse) := by
    have listed : plan.table.pairs = [("plain", "ordered")] := rfl
    have tasks : tasksOf [(folder, [place])] "plain" "ordered" = [task] := rfl
    have first : openPair "plain" "ordered" (.start (⟨clock, 0⟩ : Bench) []) = (opened, none) := rfl
    simp only [listed, runPairs_cons, runPair_eq, tasks, runTasks_cons, Stage.andThen, first, ran]
    cases misuse <;> rfl
  have empty : Ledger.take (.object []) = ⟨[], .ok []⟩ := rfl
  refine ⟨campaign.written.reverse, campaign, ?_⟩
  simp only [found, Campaign.takeUp, empty, pairs, List.nil_append]
  rw [← stopped]

end Clauseless

/-! ## Benchmarks -/

/-- A benchmark has ended with what a campaign came to: the table of results holds the rows, and the ledger
that was saved last stands where ledgers are saved. -/
structure Finished.EndsWith (finished : Finished) (prepared : Files) (rows : List Row)
    (campaign : Campaign Bench) (misuse : Option Misuse) : Prop where
  table : finished.table = some (freePathIn prepared (Files.under resultsRoot tableName))
  files :
    let withTable := putTable prepared (freePathIn prepared (Files.under resultsRoot tableName)) rows
    finished.files = match campaign.saved with
      | latest :: _ => putLedger withTable latest.toJson
      | [] => withTable
  ledger : finished.ledger = campaign.ledger.toJson
  fault : finished.fault = misuse.map .ledger

/-- A benchmark that finds no saved ledger, with known names and a clock that shows doubles, counts every
instance once: in every ledger that it saves the counters of each record add up to the instances dealt with,
and no model is found wrong. It ends with all instances of all folders dealt with, those counted as failed
whose file was not read, whose verdict was not the expected one, or the timeout of whose search could not be
kept, and with one row for each folder where an instance was solved; or it is broken off because the mean of
the decisions or conflicts of a folder is past every double. -/
theorem run_accounts (plan : Plan) (files : Files) (clock : Clock) {prepared : Files}
    (made : files.makeDirectories resultsRoot = .ok prepared)
    (fresh : prepared.has (Files.under resultsRoot ledgerName) = false)
    (valid : ∀ pair ∈ plan.table.pairs, ∃ configuration,
      Configuration.ofNames pair.1 pair.2 plan.propagation = .ok configuration)
    (shows : ShowsDoubles clock.time) :
    ∃ (rows : List Row) (campaign : Campaign Bench) (misuse : Option Misuse),
      Campaign.takeUp (workerOf plan prepared) ⟨clock, 0⟩ (instances prepared) plan.table
          (.object []) = ⟨rows, .ok (campaign, misuse)⟩ ∧
        (run plan files clock).EndsWith prepared rows campaign misuse ∧
        campaign.Sound clock.time ∧
        ((misuse = none ∧ campaign.Complete plan prepared ⟨clock, 0⟩
            (tasksOfPairs (instances prepared) plan.table.pairs) rows) ∨
          (misuse = some .quotientTooLarge ∧
            campaign.Overflowed (tasksOfPairs (instances prepared) plan.table.pairs))) := by
  obtain ⟨rows, campaign, misuse, ran, sound, accounts⟩ :=
    takeUp_accounts plan prepared clock valid shows
  have started : run plan files clock = runFrom plan prepared clock .nothing := by
    simp [run, made, findLedger, fresh]
  refine ⟨rows, campaign, misuse, ran, ?_, sound, accounts⟩
  simp only [started, runFrom, Found.documentOrEmpty, ran]
  exact ⟨rfl, rfl, rfl, rfl⟩

/-- The instance of files with one. -/
def firstPlace : Place :=
  ⟨"", ["benchmarks", "uf1", "a.cnf"]⟩

/-- The folder of that instance in the hands of one solver. -/
def firstTask : Task :=
  ⟨"plain", "ordered", "uf1", [firstPlace]⟩

/-- Files with one instance, which has one variable and no clauses. -/
def clauseless : Files :=
  ⟨[(firstPlace.names, .file (.plain "p cnf 1 0\n".toUTF8.toList))]⟩

/-- The same files with a directory for results. -/
def clauselessPrepared : Files :=
  ⟨clauseless.entries ++ [([resultsRoot], .directory)]⟩

/-- A clock that stands still. -/
def stillClock : Clock :=
  ⟨fun _ => .real 0, 0⟩

/-- A clock that stands still shows doubles. -/
theorem shows_stillClock : ShowsDoubles stillClock.time :=
  fun _ => ⟨0, rfl⟩

/-- Five minutes do not end on a clock that stands still. -/
theorem outlasts_stillClock : Outlasts (.whole 300) stillClock.time := by
  intro first
  have early : ((Number.real 0).add? (.whole 300)).any
      (fun limit => !(Number.real 0).atLeast limit) = true := by
    decide +kernel
  cases told : (Number.real 0).add? (.whole 300) with
  | none => simp [told] at early
  | some limit =>
    have before : (Number.real 0).atLeast limit = false := by simpa [told] using early
    exact ⟨limit, told, fun _ => before⟩

/-- The one instance is found. -/
theorem instances_clauselessPrepared : instances clauselessPrepared = [("uf1", [firstPlace])] := by
  decide +kernel

/-- The one instance is read. -/
theorem read_clauselessPrepared :
    Dimacs.read clauselessPrepared firstPlace.path = .ok ⟨[], 1⟩ := by
  with_unfolding_all rfl

/-- A benchmark of one instance without clauses, with five minutes for it and a wait for its search, comes to
its end: the instance is counted as solved, its folder is done, and the table of results has its row. -/
theorem run_accounts_clauseless :
    let plan := onePlan (.whole 300) .timely
    clauseless.makeDirectories resultsRoot = .ok clauselessPrepared ∧
      clauselessPrepared.has (Files.under resultsRoot ledgerName) = false ∧
      (∀ pair ∈ plan.table.pairs, ∃ configuration,
        Configuration.ofNames pair.1 pair.2 plan.propagation = .ok configuration) ∧
      ShowsDoubles stillClock.time ∧
      ∃ (rows : List Row) (campaign : Campaign Bench) (tally : Tally) (attempts : List Attempt),
        (run plan clauseless stillClock).EndsWith clauselessPrepared rows campaign none ∧
          campaign.Sound stillClock.time ∧ campaign.ledger.Holds firstTask tally ∧
          Account plan clauselessPrepared firstTask ⟨stillClock, 0⟩ attempts tally ∧
          tally.times.length = 1 ∧ tally.inconclusive = 0 ∧ tally.failed = 0 ∧
          tally.completed = true ∧ tally.rows.length = 1 ∧
          rows.filter (Row.isOf firstTask.label firstTask.folder) = tally.rows := by
  intro plan
  have made : clauseless.makeDirectories resultsRoot = .ok clauselessPrepared := by
    with_unfolding_all rfl
  have lacks : clauselessPrepared.has (Files.under resultsRoot ledgerName) = false := by
    decide +kernel
  have valid : ∀ pair ∈ plan.table.pairs, ∃ configuration,
      Configuration.ofNames pair.1 pair.2 plan.propagation = .ok configuration := by
    intro pair member
    obtain rfl := List.mem_singleton.mp member
    exact ⟨⟨.plain, .ordered, .watched⟩, rfl⟩
  have knows : plan.Knows firstTask := ⟨⟨.plain, .ordered, .watched⟩, rfl⟩
  have met : plan.waiting 0 = .met := by decide +kernel
  have expected : expectedVerdict firstTask.folder ≠ some false := by decide +kernel
  have small : (Binary64.ofQuotient ((1 : Nat) : Int) 1).isInf = false := by decide +kernel
  obtain ⟨rows, campaign, misuse, ran, ended, sound, accounts⟩ :=
    run_accounts plan clauseless stillClock made lacks valid shows_stillClock
  have unbroken : misuse = none := by
    obtain ⟨otherRows, other, finished⟩ := takeUp_clauseless instances_clauselessPrepared
      read_clauselessPrepared rfl expected met shows_stillClock outlasts_stillClock
    rw [small, ran] at finished
    have same := Except.ok.inj (congrArg Taken.result finished)
    exact (Prod.mk.inj same).2
  subst unbroken
  have tasks : tasksOfPairs (instances clauselessPrepared) plan.table.pairs = [firstTask] := by
    rw [instances_clauselessPrepared]
    rfl
  have complete := (accounts.resolve_right (by simp)).2
  rw [tasks] at complete
  obtain ⟨earlier, tally, attempts, before, held, account, kept⟩ := complete firstTask (by simp)
  have first : earlier = [] := by
    have length := before.length_le
    exact List.length_eq_zero_iff.mp (by simpa using length)
  subst first
  obtain ⟨times, inconclusive, failed, row⟩ :=
    @account_clauseless plan clauselessPrepared firstPlace ⟨[], 1⟩ firstTask ⟨stillClock, 0⟩ rfl knows
      read_clauselessPrepared rfl expected met shows_stillClock outlasts_stillClock _ _ account
  exact ⟨made, lacks, valid, shows_stillClock, rows, campaign, tally, attempts, ended, sound, held,
    account, times, inconclusive, failed, account.completed, row, kept⟩

/-! ## Failures without a verdict, and benchmarks without an end -/

/-- Files with one instance, which has one clause. -/
def oneClause : Files :=
  ⟨[(firstPlace.names, .file (.plain "p cnf 1 1\n1 0\n".toUTF8.toList))]⟩

/-- Files with one instance, which has no clauses and 10 to the 309 variables. -/
def wideFormula : Files :=
  ⟨[(["benchmarks", "wide", "a.cnf"], .file (.plain
    ("p cnf 1".toUTF8.toList ++ List.replicate 309 48 ++ " 0\n".toUTF8.toList)))]⟩

/-- Under a plan the instance with one clause is counted as failed, though its file is read and no verdict
is found. -/
def FailsUndecided (plan : Plan) : Prop :=
  instances oneClause = [("uf1", [firstPlace])] ∧ isRead oneClause firstPlace = true ∧
    (attempt plan oneClause ⟨stillClock, 0⟩ "plain" "ordered" firstPlace).1.verdict? = none ∧
    ∃ (rows : List Row) (campaign : Campaign Bench) (record : Record),
      Campaign.takeUp (workerOf plan oneClause) ⟨stillClock, 0⟩ (instances oneClause) plan.table
          (.object []) = ⟨rows, .ok (campaign, none)⟩ ∧
        campaign.ledger.record? "plain" "ordered" "uf1" = some record ∧
        (record.get .failed).map (Json.equals (.whole 1)) = .ok true

/-- That an instance is counted as failed without a verdict can be evaluated. -/
theorem failsUndecided_of_eval {plan : Plan}
    (undecided : (attempt plan oneClause ⟨stillClock, 0⟩ "plain" "ordered"
      firstPlace).1.verdict? = none)
    (counted : (Campaign.takeUp (workerOf plan oneClause) ⟨stillClock, 0⟩ (instances oneClause)
      plan.table (.object [])).result.toOption.any (fun ended => ended.2.isNone &&
        (ended.1.ledger.record? "plain" "ordered" "uf1").any fun record =>
          (record.get .failed).toOption.any (Json.equals (.whole 1))) = true) :
    FailsUndecided plan := by
  have found : instances oneClause = [("uf1", [firstPlace])] := by decide +kernel
  have read : isRead oneClause firstPlace = true := by decide +kernel
  refine ⟨found, read, undecided, ?_⟩
  generalize ended : Campaign.takeUp (workerOf plan oneClause) ⟨stillClock, 0⟩
    (instances oneClause) plan.table (.object []) = taken at counted
  obtain ⟨rows, misuse | ⟨campaign, stopped⟩⟩ := taken
  · simp [Except.toOption] at counted
  · cases held : campaign.ledger.record? "plain" "ordered" "uf1" with
    | none => simp [Except.toOption, held] at counted
    | some record =>
      cases failed : record.get .failed with
      | error misuse => simp [Except.toOption, held, failed] at counted
      | ok document =>
        obtain ⟨rfl, equal⟩ : stopped = none ∧ document.equals (.whole 1) = true := by
          simpa [Except.toOption, held, failed] using counted
        exact ⟨rows, campaign, record, rfl, held, by rw [failed]; exact congrArg Except.ok equal⟩

/-- A timeout past every double makes the search of an instance fail, and one that no wait can be as long
as makes the waiting fail; either way the instance is counted as failed without a verdict. A campaign over an
instance without clauses and with more variables than any double is broken off before its folder is done. -/
theorem takeUp_unaccounted :
    FailsUndecided (onePlan (.whole (10 ^ 400)) .early) ∧
      FailsUndecided (onePlan (.whole (10 ^ 10)) .timely) ∧
      ∃ (rows : List Row) (campaign : Campaign Bench),
        Campaign.takeUp (workerOf (onePlan (.whole 300) .early) wideFormula) ⟨stillClock, 0⟩
            (instances wideFormula) (onePlan (.whole 300) .early).table (.object []) =
          ⟨rows, .ok (campaign, some .quotientTooLarge)⟩ := by
  refine ⟨failsUndecided_of_eval (by decide +kernel) (by decide +kernel),
    failsUndecided_of_eval (by decide +kernel) (by decide +kernel), ?_⟩
  let place : Place := ⟨"", ["benchmarks", "wide", "a.cnf"]⟩
  have found : instances wideFormula = [("wide", [place])] := by decide +kernel
  have read : (Dimacs.read wideFormula place.path).toOption.any (fun problem =>
      problem.clauses.isEmpty && (Binary64.ofQuotient problem.numVars 1).isInf) = true := by
    decide +kernel
  have expected : expectedVerdict "wide" ≠ some false := by decide +kernel
  cases accepted : Dimacs.read wideFormula place.path with
  | error fault => simp [accepted, Except.toOption] at read
  | ok problem =>
    obtain ⟨clauses, large⟩ : problem.clauses = [] ∧
        (Binary64.ofQuotient problem.numVars 1).isInf = true := by
      simpa [accepted, Except.toOption] using read
    have met : (onePlan (.whole 300) .early).waiting 0 = .met := rfl
    obtain ⟨rows, campaign, broken⟩ := takeUp_clauseless found accepted clauses expected met
      shows_stillClock outlasts_stillClock
    rw [if_pos large] at broken
    exact ⟨rows, campaign, broken⟩

end Clausal.Benchmark
