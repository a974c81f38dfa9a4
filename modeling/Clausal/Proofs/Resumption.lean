import Mathlib
import Clausal.Proofs.FolderRuns

/-!
# Campaigns taken up again

A campaign that is taken up from any ledger saved on its way ends like the campaign that was never broken
off, with the same ledger and the same rows in the same order. This holds for a worker whose answer does
not depend on what happened before.

The argument is about stages. A stage passes from one ledger to another one, it may save ledgers on the
way, and from each of them it leads to the same end; a stage that has passed is idle from then on. Stages
of this kind can be put one after another: what was saved in the second one makes the first one idle. New
records come in at the end of the ledger, so that the rows of a saved ledger are those written up to then.
-/

namespace Clausal.Benchmark

open Json (Misuse)
open Named (lookup)

variable {σ : Type}

/-! ## Answers that do not change -/

/-- The answers of a worker do not depend on what it remembers. -/
def Worker.Fixed (worker : Worker σ) : Prop :=
  ∀ (memory other : σ) (solver strategy : String) (place : Place),
    (worker.attempt memory solver strategy place).1 =
      (worker.attempt other solver strategy place).1

variable {worker : Worker σ}

/-- The attempts at a folder come to the same tallies, whatever the worker remembers. -/
theorem Worker.Fixed.course_eq (fixed : worker.Fixed) (task : Task) (places : List Place) :
    ∀ (memory other : σ) (tally : Tally),
      (task.course worker places memory tally).tally = (task.course worker places other tally).tally ∧
        (task.course worker places memory tally).saved =
          (task.course worker places other tally).saved := by
  induction places with
  | nil => exact fun _ _ _ => ⟨rfl, rfl⟩
  | cons place rest ih =>
    intro memory other tally
    by_cases many : timeoutLimit ≤ tally.timeouts
    · simp [Task.course, many]
    · have same := fixed memory other task.solver task.strategy place
      rcases answer : worker.attempt memory task.solver task.strategy place with
        ⟨attempt, remembered⟩
      rcases otherAnswer : worker.attempt other task.solver task.strategy place with
        ⟨otherAttempt, otherwise⟩
      rw [answer, otherAnswer] at same
      obtain rfl : attempt = otherAttempt := same
      obtain ⟨tallies, saves⟩ := ih remembered otherwise (tally.add (task.count attempt))
      rw [Task.course_cons many answer, Task.course_cons many otherAnswer]
      exact ⟨tallies, congrArg (· ++ [tally.add (task.count attempt)]) saves⟩

/-- From a tally saved on the way the attempts come to the same tally. -/
theorem Worker.Fixed.course_saved (fixed : worker.Fixed) (task : Task) (places : List Place) :
    ∀ (memory later : σ) {tally saved : Tally}, task.places.drop tally.dealt = places →
      saved ∈ (task.course worker places memory tally).saved →
      (task.course worker (task.places.drop saved.dealt) later saved).tally =
        (task.course worker places memory tally).tally := by
  induction places with
  | nil => simp [Task.course]
  | cons place rest ih =>
    intro memory later tally saved left found
    by_cases many : timeoutLimit ≤ tally.timeouts
    · simp [Task.course, many] at found
    · rcases answer : worker.attempt memory task.solver task.strategy place with
        ⟨attempt, remembered⟩
      have restLeft := Task.drop_add left (task.count attempt)
      rw [Task.course_cons many answer] at found ⊢
      rcases List.mem_append.mp found with onTheWay | last
      · exact ih remembered later restLeft onTheWay
      · obtain rfl := List.mem_singleton.mp last
        rw [restLeft]
        exact (fixed.course_eq task rest later remembered _).1

/-! ## Ledgers that have come further -/

namespace Ledger

/-- One ledger has come at least as far as another one: it has all its places and all the folders that are
done, and it can be taken over if the other one can. -/
structure Later (before after : Ledger) : Prop where
  opened : ∀ solver strategy, before.Opened solver strategy → after.Opened solver strategy
  done : ∀ (task : Task) (tally : Tally), before.Holds task tally → tally.completed = true →
    after.Holds task tally
  readable : before.Each Readable → after.Each Readable

/-- A ledger is as late as itself. -/
theorem Later.refl (ledger : Ledger) : Later ledger ledger :=
  ⟨fun _ _ opened => opened, fun _ _ held _ => held, id⟩

/-- A ledger later than a later one is later. -/
theorem Later.trans {first second third : Ledger} (earlier : Later first second)
    (later : Later second third) : Later first third where
  opened solver strategy opened := later.opened solver strategy (earlier.opened solver strategy opened)
  done task tally held completed :=
    later.done task tally (earlier.done task tally held completed) completed
  readable readable := later.readable (earlier.readable readable)

/-- A folder that was not known may be set. -/
theorem later_setTally {ledger : Ledger} {task : Task}
    (unknown : ledger.record? task.solver task.strategy task.folder = none) (tally : Tally) :
    Later ledger (ledger.setTally task tally) where
  opened solver strategy opened := opened.setRecords ..
  done other held heldOther completed := by
    have different : (other.solver, other.strategy, other.folder) ≠
        (task.solver, task.strategy, task.folder) := by
      intro same
      simp only [Prod.mk.injEq] at same
      obtain ⟨solver, strategy, folder⟩ := same
      rw [Holds, solver, strategy, folder, unknown] at heldOther
      cases heldOther
    exact (record?_setRecord_of_ne ledger different _).trans heldOther
  readable readable := readable.setRecord _ _ _ tally.readable_record

/-- A place may be made. -/
theorem later_open (ledger : Ledger) (solver strategy : String) :
    Later ledger (ledger.setRecords solver strategy (ledger.records solver strategy)) where
  opened _ _ opened := opened.setRecords ..
  done _ _ held _ := (record?_open ..).trans held
  readable readable := readable.setRecords _ _ (readable.records solver strategy)

end Ledger

/-! ## Stages -/

namespace Stage

open Ledger (Later Readable)

variable {stage first second : Stage σ} {before middle after : Ledger} {rows more : List Row}
  {misuse : Option Misuse}

/-- From one ledger a stage leads to another one and writes rows, in order. -/
def Leads (stage : Stage σ) (before after : Ledger) (rows : List Row) (misuse : Option Misuse) :
    Prop :=
  ∀ campaign : Campaign σ, campaign.ledger = before →
    (stage campaign).2 = misuse ∧ (stage campaign).1.ledger = after ∧
      (stage campaign).1.written = rows.reverse ++ campaign.written

/-- A stage has nothing to do with a ledger. -/
def Idle (stage : Stage σ) (ledger : Ledger) : Prop :=
  stage.Leads ledger ledger [] none

/-- A ledger was saved on the way of a stage: it keeps the rows written up to then, and from it the stage
leads to the same end with the other rows. -/
structure Saved (stage : Stage σ) (before after : Ledger) (rows : List Row) (misuse : Option Misuse)
    (saved : Ledger) : Prop where
  resumes : ∃ earlier others, rows = earlier ++ others ∧ saved.rows = before.rows ++ earlier ∧
    stage.Leads saved after others misuse
  later : Later before saved

/-- A stage passes from one ledger to another one. It can be taken up from what it saves on the way, and it
is idle once it has passed. -/
structure Passes (stage : Stage σ) (before after : Ledger) (rows : List Row)
    (misuse : Option Misuse) : Prop where
  leads : stage.Leads before after rows misuse
  saves : ∀ campaign : Campaign σ, campaign.ledger = before →
    ∀ saved ∈ (stage campaign).1.saved,
      saved ∈ campaign.saved ∨ stage.Saved before after rows misuse saved
  ends : misuse = none → after.rows = before.rows ++ rows ∧ Later before after ∧
    ∀ ledger, Later after ledger → stage.Idle ledger

/-- A stage that is broken off leads to the same end whatever is put after it. -/
theorem Leads.andThen_of_misuse {fault : Misuse} (leads : first.Leads before after rows (some fault)) :
    (first.andThen second).Leads before after rows (some fault) := by
  intro campaign same
  obtain ⟨broken, ledger, written⟩ := leads campaign same
  rcases ran : first campaign with ⟨ended, stopped⟩
  rw [ran] at broken ledger written
  obtain rfl : stopped = some fault := broken
  simpa [Stage.andThen, ran] using ⟨ledger, written⟩

/-- Two stages that lead from ledger to ledger do so one after another, with the rows of both. -/
theorem Leads.andThen (leads : first.Leads before middle rows none)
    (next : second.Leads middle after more misuse) :
    (first.andThen second).Leads before after (rows ++ more) misuse := by
  intro campaign same
  obtain ⟨unbroken, ledger, written⟩ := leads campaign same
  rcases ran : first campaign with ⟨ended, stopped⟩
  rw [ran] at unbroken ledger written
  obtain rfl : stopped = none := unbroken
  obtain ⟨broken, nextLedger, nextWritten⟩ := next ended ledger
  simp only [Stage.andThen, ran]
  refine ⟨broken, nextLedger, ?_⟩
  rw [nextWritten, written]
  simp

/-- A stage that is broken off stays so, whatever was to follow. -/
theorem Passes.andThen_of_misuse {fault : Misuse}
    (passes : first.Passes before after rows (some fault)) :
    (first.andThen second).Passes before after rows (some fault) where
  leads := passes.leads.andThen_of_misuse
  saves campaign same saved found := by
    obtain ⟨broken, -, -⟩ := passes.leads campaign same
    rcases ran : first campaign with ⟨ended, stopped⟩
    rw [ran] at broken
    obtain rfl : stopped = some fault := broken
    simp only [Stage.andThen, ran] at found
    rcases passes.saves campaign same saved (by rw [ran]; exact found) with old | new
    · exact .inl old
    · obtain ⟨earlier, others, split, kept, leads⟩ := new.resumes
      exact .inr ⟨⟨earlier, others, split, kept, leads.andThen_of_misuse⟩, new.later⟩
  ends := nofun

/-- Stages that pass do so one after another. What was saved in the first one leads through it and the
second one; what was saved in the second one finds the first one idle. -/
theorem Passes.andThen (passes : first.Passes before middle rows none)
    (next : second.Passes middle after more misuse) :
    (first.andThen second).Passes before after (rows ++ more) misuse where
  leads := passes.leads.andThen next.leads
  saves campaign same saved found := by
    obtain ⟨keptRows, later, idle⟩ := passes.ends rfl
    obtain ⟨unbroken, ledger, -⟩ := passes.leads campaign same
    rcases ran : first campaign with ⟨ended, stopped⟩
    rw [ran] at unbroken ledger
    obtain rfl : stopped = none := unbroken
    simp only [Stage.andThen, ran] at found
    rcases next.saves ended ledger saved found with old | new
    · rcases passes.saves campaign same saved (by rw [ran]; exact old) with older | newer
      · exact .inl older
      · obtain ⟨earlier, others, split, kept, leads⟩ := newer.resumes
        exact .inr ⟨⟨earlier, others ++ more, by rw [split, List.append_assoc], kept,
          leads.andThen next.leads⟩, newer.later⟩
    · obtain ⟨earlier, others, split, kept, leads⟩ := new.resumes
      refine .inr ⟨⟨rows ++ earlier, others, by rw [split, List.append_assoc], ?_, ?_⟩,
        later.trans new.later⟩
      · rw [kept, keptRows, List.append_assoc]
      · exact (idle saved new.later).andThen leads
  ends ended := by
    obtain ⟨keptRows, later, idle⟩ := passes.ends rfl
    obtain ⟨nextRows, nextLater, nextIdle⟩ := next.ends ended
    refine ⟨by rw [nextRows, keptRows, List.append_assoc], later.trans nextLater, ?_⟩
    intro ledger further
    exact (idle ledger (nextLater.trans further)).andThen (nextIdle ledger further)

/-- A stage that is idle from a ledger on passes from it. -/
theorem passes_of_idle (saveless : ∀ campaign : Campaign σ, campaign.ledger = before →
    (stage campaign).1.saved = campaign.saved)
    (idle : ∀ ledger, Later before ledger → stage.Idle ledger) :
    stage.Passes before before [] none where
  leads := idle before (.refl before)
  saves campaign same saved found := .inl (saveless campaign same ▸ found)
  ends _ := ⟨by simp, .refl before, idle⟩

end Stage

/-! ## One folder -/

open Campaign (runTask runTasks runPair runPairs)
open Ledger (Later)

/-- A folder is done in a ledger. -/
def Ledger.Done (ledger : Ledger) (task : Task) : Prop :=
  ∃ tally : Tally, ledger.Holds task tally ∧ tally.completed = true

/-- A task that is done stays done in later ledgers. -/
theorem Ledger.Done.later {before after : Ledger} {task : Task} (done : before.Done task)
    (later : Later before after) : after.Done task := by
  obtain ⟨tally, held, completed⟩ := done
  exact ⟨tally, later.done task tally held completed, completed⟩

/-- A folder that is done is passed over. -/
theorem Ledger.Done.idle {ledger : Ledger} {task : Task} (done : ledger.Done task)
    (worker : Worker σ) : Stage.Idle (runTask worker task) ledger := by
  obtain ⟨tally, held, completed⟩ := done
  rintro campaign rfl
  rw [Campaign.runTask_of_done worker held completed]
  exact ⟨rfl, rfl, rfl⟩

/-- A folder that is done stays so. -/
theorem passes_runTask_of_done {ledger : Ledger} {task : Task} (done : ledger.Done task)
    (worker : Worker σ) : Stage.Passes (runTask worker task) ledger ledger [] none := by
  refine Stage.passes_of_idle ?_ fun other later => (done.later later).idle worker
  obtain ⟨tally, held, completed⟩ := done
  rintro campaign rfl
  rw [Campaign.runTask_of_done worker held completed]
  rfl

/-- A folder that is closed is saved. -/
theorem Task.ending_mem_saved {task : Task} {tally : Tally}
    (unbroken : (task.ending tally).misuse = none) :
    (task.ending tally).tally ∈ (task.ending tally).saved := by
  unfold Task.ending at unbroken ⊢
  split
  · simp
  · split <;> simp_all

/-- At most one row is written. -/
theorem Task.reverse_rows_ending (task : Task) (tally : Tally) :
    (task.ending tally).rows.reverse = (task.ending tally).rows := by
  unfold Task.ending
  split
  · rfl
  · split <;> rfl

/-- What working on a folder comes to does not depend on what the worker remembers. -/
theorem Worker.Fixed.leads_runTask (fixed : worker.Fixed) (memory : σ) {ledger : Ledger}
    {task : Task} {tally : Tally}
    (held : ledger.Holds task tally ∨
      ledger.record? task.solver task.strategy task.folder = none ∧ tally = .fresh)
    (opened : tally.Open task) :
    let ending := task.ending (task.course worker (task.places.drop tally.dealt) memory tally).tally
    Stage.Leads (runTask worker task) ledger (ledger.setTally task ending.tally) ending.rows
      ending.misuse := by
  rintro ending campaign rfl
  rw [Campaign.runTask_of_open worker held opened]
  simp only [(fixed.course_eq task _ campaign.memory memory tally).1]
  refine ⟨rfl, ?_, ?_⟩
  · simp only [Campaign.worked, (fixed.course_eq task _ campaign.memory memory tally).1, ending]
  · simp only [Campaign.worked, (fixed.course_eq task _ campaign.memory memory tally).1, ending,
      Task.reverse_rows_ending]

/-- A folder that comes in at the end of the ledger is worked on once. What is saved when the folder is
closed leaves nothing to do; what is saved after an attempt leaves the rest of the folder. -/
theorem passes_runTask_of_unknown (fixed : worker.Fixed) (memory : σ) (task : Task)
    {ledger : Ledger} (newest : ledger.Newest task.solver task.strategy)
    (unknown : ledger.record? task.solver task.strategy task.folder = none) :
    ∃ (tally : Tally) (rows : List Row) (misuse : Option Misuse),
      Stage.Passes (runTask worker task) ledger (ledger.setTally task tally) rows misuse ∧
        (misuse = none → tally.completed = true) := by
  let ending := task.ending (task.course worker task.places memory .fresh).tally
  have opened := Tally.open_fresh task
  have fits : Tally.fresh.dealt + task.places.length ≤ task.total := by
    simp [Tally.fresh, Task.total]
  obtain ⟨courseOpen, savedOpen⟩ := task.open_course worker task.places memory opened fits
  have rowsAfter (tally : Tally) : (ledger.setTally task tally).rows = ledger.rows ++ tally.rows := by
    rw [Ledger.setTally, newest.rows_setRecord unknown, Tally.keptRows_record]
  have doneAfter {tally : Tally} (completed : tally.completed = true) :
      (ledger.setTally task tally).Done task :=
    ⟨tally, ledger.holds_setTally task tally, completed⟩
  have leads : Stage.Leads (runTask worker task) ledger (ledger.setTally task ending.tally)
      ending.rows ending.misuse :=
    fixed.leads_runTask memory (.inr ⟨unknown, rfl⟩) opened
  refine ⟨ending.tally, ending.rows, ending.misuse, ⟨leads, ?_, ?_⟩, fun unbroken =>
    (Task.saved_ending courseOpen.bare (Task.ending_mem_saved unbroken)).2.2.2⟩
  · intro campaign same saved found
    subst same
    rw [Campaign.runTask_of_open worker (.inr ⟨unknown, rfl⟩) opened] at found
    obtain ⟨sameTally, sameSaved⟩ := fixed.course_eq task task.places campaign.memory memory .fresh
    have places : task.places.drop Tally.fresh.dealt = task.places := rfl
    simp only [Campaign.worked, places, sameTally, sameSaved, List.mem_append, List.mem_map] at found
    rcases found with ⟨tally, closing | onTheWay, rfl⟩ | old
    · obtain ⟨rfl, unbroken, rows, completed⟩ := Task.saved_ending courseOpen.bare closing
      refine .inr ⟨⟨ending.rows, [], by simp, ?_, ?_⟩, Ledger.later_setTally unknown _⟩
      · rw [rowsAfter, rows]
      · show Stage.Leads _ _ _ _ ending.misuse
        rw [show ending.misuse = none from unbroken]
        exact (doneAfter completed).idle worker
    · have tallyOpen := savedOpen tally onTheWay
      refine .inr ⟨⟨[], ending.rows, rfl, ?_, ?_⟩, Ledger.later_setTally unknown tally⟩
      · rw [rowsAfter, tallyOpen.bare]
      · have again := fixed.leads_runTask memory
          (.inl (campaign.ledger.holds_setTally task tally)) tallyOpen
        rw [fixed.course_saved task task.places memory memory rfl onTheWay] at again
        simpa using again
    · exact .inl old
  · intro unbroken
    obtain ⟨-, -, rows, completed⟩ :=
      Task.saved_ending courseOpen.bare (Task.ending_mem_saved unbroken)
    refine ⟨?_, Ledger.later_setTally unknown _, ?_⟩
    · rw [rowsAfter, rows]
    · exact fun other later => ((doneAfter completed).later later).idle worker

/-! ## Folders one after another -/

/-- Doing nothing passes from a ledger to itself. -/
theorem passes_nothing (ledger : Ledger) :
    Stage.Passes (fun campaign : Campaign σ => (campaign, none)) ledger ledger [] none :=
  Stage.passes_of_idle (fun _ _ => rfl) fun _ _ _ same => ⟨rfl, same, rfl⟩

/-- Folders that are done stay so. -/
theorem passes_runTasks_of_done (worker : Worker σ) (ledger : Ledger) (tasks : List Task)
    (done : ∀ task ∈ tasks, ledger.Done task) :
    Stage.Passes (runTasks worker tasks) ledger ledger [] none := by
  induction tasks with
  | nil => exact passes_nothing ledger
  | cons task rest ih =>
    rw [runTasks_cons]
    exact (passes_runTask_of_done (done task (by simp)) worker).andThen
      (ih fun other member => done other (by simp [member]))

/-- The turn of a solver with a strategy changes no other place of the ledger and leaves all its folders
done. -/
structure Turned (before after : Ledger) (groups : Groups) (solver strategy : String) : Prop where
  solvers : ∀ other, other ≠ solver → lookup other after = lookup other before
  strategies : ∀ other, after.Opened solver other → other = strategy ∨ before.Opened solver other
  done : ∀ task ∈ tasksOf groups solver strategy, after.Done task

/-- What was set for the same solver and strategy before its turn belongs to the turn. -/
theorem Turned.of_setRecords {ledger after : Ledger} {groups : Groups} {solver strategy : String}
    {records : List (String × Record)}
    (turned : Turned (ledger.setRecords solver strategy records) after groups solver strategy) :
    Turned ledger after groups solver strategy where
  solvers other different :=
    (turned.solvers other different).trans
      (Ledger.lookup_setRecords_of_solver_ne ledger different strategy records)
  strategies other opened := by
    rcases turned.strategies other opened with same | before
    · exact .inl same
    · rcases Ledger.opened_of_setRecords before with same | old
      · exact .inl (Prod.mk.inj same).2
      · exact .inr old
  done := turned.done

/-- Folders that come in at the end of the ledger are worked on one after another. -/
theorem passes_runTasks (fixed : worker.Fixed) (memory : σ) (solver strategy : String)
    (groups : Groups) : ∀ {ledger : Ledger}, (groups.map Prod.fst).Nodup →
      ledger.Newest solver strategy →
      (∀ group ∈ groups, ledger.record? solver strategy group.1 = none) →
      ∃ after rows misuse,
        Stage.Passes (runTasks worker (tasksOf groups solver strategy)) ledger after rows misuse ∧
          (misuse = none → after.Newest solver strategy ∧
            Turned ledger after groups solver strategy) := by
  induction groups with
  | nil =>
    intro ledger _ newest _
    exact ⟨ledger, [], none, passes_nothing ledger, fun _ =>
      ⟨newest, fun _ _ => rfl, fun _ opened => .inr opened, by simp [tasksOf]⟩⟩
  | cons group rest ih =>
    intro ledger distinct newest unknown
    obtain ⟨folder, places⟩ := group
    simp only [List.map_cons, List.nodup_cons] at distinct
    let task : Task := ⟨solver, strategy, folder, places⟩
    obtain ⟨tally, rows, misuse, first, completed⟩ :=
      passes_runTask_of_unknown fixed memory task newest (unknown (folder, places) (by simp))
    have all : tasksOf ((folder, places) :: rest) solver strategy =
      task :: tasksOf rest solver strategy := rfl
    rw [all, runTasks_cons]
    cases misuse with
    | some fault => exact ⟨_, _, some fault, first.andThen_of_misuse, nofun⟩
    | none =>
      have stillUnknown : ∀ group ∈ rest,
          (ledger.setTally task tally).record? solver strategy group.1 = none := by
        intro group member
        have different : (solver, strategy, group.1) ≠ (solver, strategy, folder) := by
          intro same
          simp only [Prod.mk.injEq, true_and] at same
          exact distinct.1 (same ▸ List.mem_map_of_mem member)
        exact (Ledger.record?_setRecord_of_ne ledger different _).trans
          (unknown group (by simp [member]))
      obtain ⟨after, more, misuse, others, turned⟩ :=
        ih distinct.2 (newest.setRecord folder tally.record) stillUnknown
      refine ⟨after, _, misuse, first.andThen others, fun unbroken => ?_⟩
      obtain ⟨newestAfter, turned⟩ := turned unbroken
      obtain ⟨-, later, -⟩ := others.ends unbroken
      refine ⟨newestAfter, turned.of_setRecords.solvers, turned.of_setRecords.strategies, ?_⟩
      intro other member
      rcases List.mem_cons.mp member with rfl | found
      · exact Ledger.Done.later ⟨tally, ledger.holds_setTally task tally, completed rfl⟩ later
      · exact turned.done other found

/-! ## Solvers one after another -/

/-- Opening a pair writes no rows, and is idle once it has been done. -/
theorem passes_openPair {ledger : Ledger} {solver strategy : String}
    (sameRows : (ledger.setRecords solver strategy (ledger.records solver strategy)).rows =
      ledger.rows) :
    Stage.Passes (openPair solver strategy : Stage σ) ledger
      (ledger.setRecords solver strategy (ledger.records solver strategy)) [] none where
  leads campaign same := by subst same; exact ⟨rfl, rfl, rfl⟩
  saves _ _ _ found := .inl found
  ends _ := by
    refine ⟨by simp [sameRows], Ledger.later_open ledger solver strategy, ?_⟩
    rintro other later campaign rfl
    have opened := later.opened solver strategy (Ledger.opened_setRecords ..)
    exact ⟨rfl, Ledger.setRecords_of_opened opened, rfl⟩

/-- A solver that stands last in the ledger has its turn with a strategy. A strategy that is named twice
finds everything done. -/
theorem passes_runPair (fixed : worker.Fixed) (memory : σ) {groups : Groups}
    (distinct : (groups.map Prod.fst).Nodup) {ledger : Ledger} {solver strategy : String}
    (latest : ledger.Latest solver)
    (finished : ledger.Opened solver strategy →
      ∀ task ∈ tasksOf groups solver strategy, ledger.Done task) :
    ∃ after rows misuse,
      Stage.Passes (runPair worker groups solver strategy) ledger after rows misuse ∧
        (misuse = none → after.Latest solver ∧ Turned ledger after groups solver strategy) := by
  rw [runPair_eq]
  by_cases opened : ledger.Opened solver strategy
  · have same := Ledger.setRecords_of_opened opened
    have opening : Stage.Passes (openPair solver strategy : Stage σ) ledger _ [] none :=
      passes_openPair (congrArg Ledger.rows same)
    rw [same] at opening
    have tasks := passes_runTasks_of_done worker ledger _ (finished opened)
    exact ⟨ledger, _, none, opening.andThen tasks,
      fun _ => ⟨latest, fun _ _ => rfl, fun _ opened => .inr opened, finished opened⟩⟩
  · obtain ⟨newest, sameRows, empty⟩ := latest.open opened
    obtain ⟨after, rows, misuse, tasks, turned⟩ :=
      passes_runTasks fixed memory solver strategy groups distinct newest
        (fun group _ => by rw [Ledger.record?, empty]; rfl)
    refine ⟨after, _, misuse, (passes_openPair sameRows).andThen tasks, fun unbroken => ?_⟩
    obtain ⟨newestAfter, turned⟩ := turned unbroken
    exact ⟨newestAfter.latest, turned.of_setRecords⟩

/-- Pairs are run one after another. -/
theorem runPairs_append (worker : Worker σ) (groups : Groups) (first second : List (String × String)) :
    runPairs worker groups (first ++ second) =
      Stage.andThen (runPairs worker groups first) (runPairs worker groups second) := by
  induction first with
  | nil => rfl
  | cons pair rest ih =>
    funext campaign
    simp only [List.cons_append, runPairs, Stage.andThen]
    rcases runPair worker groups pair.1 pair.2 campaign with ⟨after, _ | misuse⟩
    · simp only [ih, Stage.andThen]
    · rfl

/-- A solver that stands last in the ledger has its turns with strategies. -/
theorem passes_strategies (fixed : worker.Fixed) (memory : σ) {groups : Groups}
    (distinct : (groups.map Prod.fst).Nodup) (solver : String) (strategies : List String) :
    ∀ {ledger : Ledger}, ledger.Latest solver →
      (∀ strategy, ledger.Opened solver strategy →
        ∀ task ∈ tasksOf groups solver strategy, ledger.Done task) →
      ∃ after rows misuse,
        Stage.Passes (runPairs worker groups (strategies.map fun strategy => (solver, strategy)))
          ledger after rows misuse ∧
        (misuse = none → ∀ other, other ≠ solver → lookup other after = lookup other ledger) := by
  induction strategies with
  | nil =>
    intro ledger _ _
    exact ⟨ledger, [], none, passes_nothing ledger, fun _ _ _ => rfl⟩
  | cons strategy rest ih =>
    intro ledger latest finished
    obtain ⟨middle, rows, misuse, first, turned⟩ :=
      passes_runPair fixed memory distinct latest (finished strategy)
    have cons : runPairs worker groups ((strategy :: rest).map fun strategy => (solver, strategy)) =
        Stage.andThen (runPair worker groups solver strategy)
          (runPairs worker groups (rest.map fun strategy => (solver, strategy))) := rfl
    rw [cons]
    cases misuse with
    | some fault => exact ⟨_, _, some fault, first.andThen_of_misuse, nofun⟩
    | none =>
      obtain ⟨latestAfter, turned⟩ := turned rfl
      obtain ⟨-, later, -⟩ := first.ends rfl
      have finishedAfter : ∀ other, middle.Opened solver other →
          ∀ task ∈ tasksOf groups solver other, middle.Done task := by
        intro other opened task member
        rcases turned.strategies other opened with rfl | before
        · exact turned.done task member
        · exact (finished other before task member).later later
      obtain ⟨after, more, misuse, others, untouched⟩ := ih latestAfter finishedAfter
      refine ⟨after, _, misuse, first.andThen others, fun unbroken other different => ?_⟩
      rw [untouched unbroken other different, turned.solvers other different]

/-- The solvers of a table have their turns one after another. -/
theorem passes_table (fixed : worker.Fixed) (memory : σ) {groups : Groups}
    (distinct : (groups.map Prod.fst).Nodup) (table : SolverTable) :
    ∀ {ledger : Ledger}, (table.map Prod.fst).Nodup →
      (∀ solver ∈ table.map Prod.fst, lookup solver ledger = none) →
      ∃ after rows misuse,
        Stage.Passes (runPairs worker groups table.pairs) ledger after rows misuse := by
  induction table with
  | nil => exact fun {ledger} _ _ => ⟨ledger, [], none, passes_nothing ledger⟩
  | cons entry rest ih =>
    intro ledger distinctSolvers unknown
    obtain ⟨solver, strategies⟩ := entry
    simp only [List.map_cons, List.nodup_cons] at distinctSolvers
    have absent : lookup solver ledger = none := unknown solver (by simp)
    obtain ⟨middle, rows, misuse, first, untouched⟩ :=
      passes_strategies fixed memory distinct solver strategies (.inl absent)
        (fun strategy opened => by simp [Ledger.Opened, absent] at opened)
    have pairs : SolverTable.pairs ((solver, strategies) :: rest) =
        (strategies.map fun strategy => (solver, strategy)) ++ SolverTable.pairs rest := rfl
    rw [pairs, runPairs_append]
    cases misuse with
    | some fault => exact ⟨_, _, some fault, first.andThen_of_misuse⟩
    | none =>
      have stillUnknown : ∀ other ∈ rest.map Prod.fst, lookup other middle = none := by
        intro other member
        have different : other ≠ solver := fun same => distinctSolvers.1 (same ▸ member)
        rw [untouched rfl other different]
        exact unknown other (List.mem_cons_of_mem _ member)
      obtain ⟨after, more, misuse, others⟩ := ih distinctSolvers.2 stillUnknown
      exact ⟨after, _, misuse, first.andThen others⟩

/-! ## Campaigns -/

/-- A campaign over the instances among files, with the solvers of a table that names each one once, is
taken up again from any ledger that was saved on its way, and ends with the same ledger, the same rows in
the same order, and broken off for the same cause, if it is. -/
theorem takeUp_resumes (worker : Worker σ) (fixed : worker.Fixed) (memory later : σ) (files : Files)
    (table : SolverTable) (distinct : (table.map Prod.fst).Nodup) :
    ∃ (rows : List Row) (campaign : Campaign σ) (misuse : Option Misuse),
      Campaign.takeUp worker memory (instances files) table (.object []) =
          ⟨rows, .ok (campaign, misuse)⟩ ∧
        ∀ saved ∈ campaign.saved, ∃ resumed : Campaign σ,
          Campaign.takeUp worker later (instances files) table saved.toJson =
              ⟨rows, .ok (resumed, misuse)⟩ ∧
            resumed.ledger = campaign.ledger := by
  obtain ⟨after, rows, misuse, passes⟩ :=
    passes_table fixed memory (instances_nodup files) table distinct
      (fun solver _ => Named.lookup_nil solver)
  have empty : Ledger.take (.object []) = ⟨[], .ok []⟩ := rfl
  obtain ⟨broken, ledger, written⟩ := passes.leads (.start memory []) rfl
  rcases ran : runPairs worker (instances files) table.pairs (.start memory []) with ⟨campaign, stopped⟩
  rw [ran] at broken ledger written
  obtain rfl : stopped = misuse := broken
  refine ⟨rows, campaign, stopped, ?_, ?_⟩
  · have rowsWritten : campaign.written = rows.reverse := by simpa [Campaign.start] using written
    simp only [Campaign.takeUp, empty, ran, rowsWritten, List.reverse_reverse, List.nil_append]
  · intro saved found
    rcases passes.saves (.start memory []) rfl saved (by rw [ran]; exact found) with old | new
    · simp [Campaign.start] at old
    · obtain ⟨earlier, others, split, kept, leads⟩ := new.resumes
      have readable := new.later.readable (Ledger.Each.nil _)
      obtain ⟨sameBroken, sameLedger, more⟩ := leads (.start later saved) rfl
      refine ⟨(runPairs worker (instances files) table.pairs (.start later saved)).1, ?_,
        sameLedger.trans ledger.symm⟩
      simp only [Campaign.takeUp, Ledger.take_toJson readable, more, kept, split]
      simp [Campaign.start, Ledger.rows, ← sameBroken]

/-- A worker that counts its attempts and solves the instances of one solver, but no others. -/
def partisan : Worker Nat :=
  ⟨fun attempts solver _ _ =>
    (if solver = "plain" then
      .finished ⟨some true, true, 3, 1, .real 1, Memory.Usage.ofReadings 1024 [3072]⟩
    else .hung, attempts + 1)⟩

/-- Files with one instance. -/
def oneInstance : Files :=
  ⟨[(["benchmarks", "easy", "a.cnf"], .file (.plain []))]⟩

/-- One instance under two solvers, one of them with a strategy that is named twice, makes four saves. The
first solver solves it, the second one does not, and the campaign can be taken up from each save with the row
of the first. -/
theorem takeUp_resumes_partisan :
    let table : SolverTable := [("plain", ["ordered"]), ("cdcl", ["ordered", "ordered"])]
    partisan.Fixed ∧ (table.map Prod.fst).Nodup ∧
      ∃ (rows : List Row) (campaign : Campaign Nat) (misuse : Option Misuse),
        Campaign.takeUp partisan 0 (instances oneInstance) table (.object []) =
            ⟨rows, .ok (campaign, misuse)⟩ ∧
          campaign.saved.length = 4 ∧ misuse = none ∧
          rows.map Row.line =
            ["plain-ordered,easy,1.000000,1.000000,1.000000,2.00,2.00,2.00,0,0,3.00,1.00\r\n"] ∧
          ∀ saved ∈ campaign.saved, ∃ resumed : Campaign Nat,
            Campaign.takeUp partisan 7 (instances oneInstance) table saved.toJson =
                ⟨rows, .ok (resumed, misuse)⟩ ∧
              resumed.ledger = campaign.ledger := by
  intro table
  have fixed : partisan.Fixed := fun _ _ _ _ _ => rfl
  have distinct : (table.map Prod.fst).Nodup := by decide
  obtain ⟨rows, campaign, misuse, ran, resumes⟩ :=
    takeUp_resumes partisan fixed 0 7 oneInstance table distinct
  have saves : (Campaign.takeUp partisan 0 (instances oneInstance) table
      (.object [])).result.toOption.any
        (fun ended => ended.1.saved.length == 4 && ended.2.isNone) = true := by
    decide +kernel
  have written : (Campaign.takeUp partisan 0 (instances oneInstance) table (.object [])).rows.map
      Row.line =
        ["plain-ordered,easy,1.000000,1.000000,1.000000,2.00,2.00,2.00,0,0,3.00,1.00\r\n"] := by
    decide +kernel
  rw [ran] at saves written
  obtain ⟨four, unbroken⟩ : campaign.saved.length = 4 ∧ misuse = none := by
    simpa [Except.toOption] using saves
  exact ⟨fixed, distinct, rows, campaign, misuse, ran, four, unbroken, written, resumes⟩

end Clausal.Benchmark
