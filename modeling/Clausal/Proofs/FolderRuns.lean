import Mathlib
import Clausal.Proofs.Tallies

/-!
# Runs over one folder

What a campaign does with one folder, in closed form: the attempts of the worker one after another, each
counted in the tally and saved, until no instance is left or ten in a row were left undecided; then the
folder is closed, with a row in the table if an instance was solved. Working on a folder from a tally that
was saved on the way starts where the saved tally stopped. A campaign is made of such stages, one after
another.
-/

namespace Clausal.Benchmark

open Json (Misuse)

variable {σ : Type}

/-- A ledger with another tally for a task. -/
def Ledger.setTally (ledger : Ledger) (task : Task) (tally : Tally) : Ledger :=
  ledger.setRecord task.solver task.strategy task.folder tally.record

/-- The tally of a task in a ledger. -/
def Ledger.Holds (ledger : Ledger) (task : Task) (tally : Tally) : Prop :=
  ledger.record? task.solver task.strategy task.folder = some tally.record

/-- A ledger holds the tally that it was given for a task. -/
@[simp]
theorem Ledger.holds_setTally (ledger : Ledger) (task : Task) (tally : Tally) :
    (ledger.setTally task tally).Holds task tally :=
  Ledger.record?_setRecord_self ..

/-- The tally of a task that was given last is the one that counts. -/
@[simp]
theorem Ledger.setTally_setTally (ledger : Ledger) (task : Task) (first second : Tally) :
    (ledger.setTally task first).setTally task second = ledger.setTally task second :=
  Ledger.setRecord_setRecord ..

/-- Giving a ledger a tally that it holds changes nothing. -/
theorem Ledger.Holds.setTally_eq {ledger : Ledger} {task : Task} {tally : Tally}
    (held : ledger.Holds task tally) : ledger.setTally task tally = ledger :=
  Ledger.setRecord_of_record? held

namespace Campaign

/-- The record of a task is the one that was set. -/
@[simp]
theorem record_setRecord (campaign : Campaign σ) (task : Task) (record : Record) :
    (campaign.setRecord task record).record task = record := by
  simp [Campaign.record, Campaign.setRecord]

/-- A notice changes no record. -/
@[simp]
theorem record_tell (campaign : Campaign σ) (notice : Notice) (task : Task) :
    (campaign.tell notice).record task = campaign.record task := rfl

/-- A record that is in the ledger is the record of its task. -/
theorem record_of_record? {campaign : Campaign σ} {task : Task} {record : Record}
    (held : campaign.ledger.record? task.solver task.strategy task.folder = some record) :
    campaign.record task = record := by
  simp [Campaign.record, held]

/-! ## One attempt -/

/-- Changes that are all made are told of and saved. -/
theorem report_eq {campaign : Campaign σ} {task : Task} {tally changed : Tally}
    {changes : List Record.Change} (held : campaign.record task = tally.record)
    (made : tally.record.commit changes = (changed.record, none)) (notice : Json → Notice) :
    campaign.report task changes notice =
      (((campaign.setRecord task changed.record).tell (notice (.ofInt changed.timeouts))).save,
        none) := by
  simp [report, commit, held, made, Tally.content]

end Campaign

/-- What is told of an attempt. -/
def Attempt.notice (task : Task) (place : Place) (timeouts : Nat) : Attempt → Notice
  | broken message => .failure task.folder place.name message
  | hung => .attempted task.folder place.name .timeout 0.0 0.0 0 (.ofInt timeouts)
  | finished result =>
    .attempted task.folder place.name (Standing.ofResult (expectedVerdict task.folder) result)
      result.elapsed.toFloat result.memory.mean result.decisions (.ofInt timeouts)

/-- The count of an attempt at an instance of the folder of a task. -/
def Task.count (task : Task) (attempt : Attempt) : Count :=
  attempt.count (expectedVerdict task.folder)

/-- The campaign after an attempt at a place that has led to a tally. -/
def Campaign.noted (campaign : Campaign σ) (task : Task) (place : Place) (attempt : Attempt)
    (memory : σ) (tally : Tally) : Campaign σ where
  memory := memory
  ledger := campaign.ledger.setTally task tally
  written := campaign.written
  notices := attempt.notice task place tally.timeouts :: campaign.notices
  saved := campaign.ledger.setTally task tally :: campaign.saved

/-- An attempt is counted, told of and saved. -/
theorem Campaign.conclude_eq {campaign : Campaign σ} {task : Task} {tally : Tally}
    (held : campaign.record task = tally.record) (place : Place) (attempt : Attempt) (memory : σ) :
    Campaign.conclude { campaign with memory := memory } task tally.dealt place attempt =
      (campaign.noted task place attempt memory (tally.add (task.count attempt)), none) := by
  have current : Campaign.record { campaign with memory := memory } task = tally.record := held
  cases attempt with
  | broken message => exact report_eq current tally.commit_brokenChanges _
  | hung => exact report_eq current tally.commit_timeoutChanges _
  | finished result => exact report_eq current (tally.commit_standingChanges result _) _

/-! ## The attempts at a folder -/

/-- What the attempts at the rest of a folder come to. -/
structure Course (σ : Type) where
  /-- What the worker remembers. -/
  memory : σ
  /-- The attempts, in order. -/
  attempts : List Attempt
  /-- The tally at the end. -/
  tally : Tally
  /-- What was told, latest first. -/
  notices : List Notice
  /-- The tallies saved, latest first. -/
  saved : List Tally

/-- The worker attempts places one after another, until none is left or the folder is given up. -/
def Task.course (worker : Worker σ) (task : Task) : List Place → σ → Tally → Course σ
  | [], memory, tally => ⟨memory, [], tally, [], []⟩
  | place :: rest, memory, tally =>
    if timeoutLimit ≤ tally.timeouts then
      ⟨memory, [], tally.skip (rest.length + 1), [.givingUp task.folder], []⟩
    else
      let (attempt, remembered) := worker.attempt memory task.solver task.strategy place
      let next := tally.add (task.count attempt)
      let later := task.course worker rest remembered next
      ⟨later.memory, attempt :: later.attempts, later.tally,
        later.notices ++ [attempt.notice task place next.timeouts], later.saved ++ [next]⟩

/-- A folder that is not given up is attempted at its next place. -/
theorem Task.course_cons {worker : Worker σ} {task : Task} {place : Place} {rest : List Place}
    {memory remembered : σ} {tally : Tally} {attempt : Attempt}
    (few : ¬ timeoutLimit ≤ tally.timeouts)
    (answer : worker.attempt memory task.solver task.strategy place = (attempt, remembered)) :
    let next := tally.add (task.count attempt)
    let later := task.course worker rest remembered next
    task.course worker (place :: rest) memory tally =
      ⟨later.memory, attempt :: later.attempts, later.tally,
        later.notices ++ [attempt.notice task place next.timeouts], later.saved ++ [next]⟩ := by
  rw [course, if_neg few, answer]

/-- The campaign after the attempts at a folder. -/
def Campaign.along (campaign : Campaign σ) (task : Task) (course : Course σ) : Campaign σ where
  memory := course.memory
  ledger := campaign.ledger.setTally task course.tally
  written := campaign.written
  notices := course.notices ++ campaign.notices
  saved := course.saved.map (campaign.ledger.setTally task) ++ campaign.saved

/-- The first of the places that are left stands at the position of the tally. -/
theorem Task.placeAt_eq {task : Task} {position : Nat} {place : Place} {rest : List Place}
    (left : task.places.drop position = place :: rest) : task.placeAt position = .ok place := by
  have found : task.places[position]? = some place := by
    rw [← List.head?_drop, left]
    rfl
  have counted : ¬ (position : Int) < 0 := by omega
  simp only [placeAt, counted, if_false, Int.toNat_natCast, found]

/-- One more instance dealt with leaves the places behind it. -/
theorem Task.drop_add {task : Task} {tally : Tally} {place : Place} {rest : List Place}
    (left : task.places.drop tally.dealt = place :: rest) (count : Count) :
    task.places.drop (tally.add count).dealt = rest := by
  rw [Tally.dealt_add, ← List.drop_drop, left]
  rfl

/-- The attempts at the places that are left follow their course. -/
theorem Campaign.attemptFrom_eq (worker : Worker σ) (task : Task) (places : List Place) :
    ∀ (campaign : Campaign σ) {tally : Tally}, task.places.drop tally.dealt = places →
      campaign.ledger.Holds task tally →
      attemptFrom worker task places.length tally.dealt campaign =
        (campaign.along task (task.course worker places campaign.memory tally), none) := by
  induction places with
  | nil =>
    intro campaign tally left held
    simp [attemptFrom, Task.course, along, held.setTally_eq]
  | cons place rest ih =>
    intro campaign tally left held
    have current := record_of_record? held
    have timeouts : (campaign.record task).get .consecutiveTimeouts = .ok (.ofInt tally.timeouts) := by
      simp [current, Tally.content]
    have reaches : (Json.ofInt tally.timeouts).reaches timeoutLimit =
        .ok (decide (timeoutLimit ≤ tally.timeouts)) := rfl
    obtain ⟨ask⟩ := worker
    rcases answer : ask campaign.memory task.solver task.strategy place with ⟨attempt, remembered⟩
    simp only [List.length_cons, attemptFrom, Task.placeAt_eq left, timeouts, reaches, bind,
      Except.bind, pure, Except.pure, Task.course, answer]
    by_cases many : timeoutLimit ≤ tally.timeouts
    · have size := congrArg List.length left
      have all : tally.dealt + (rest.length + 1) = task.total := by
        simp only [List.length_drop, List.length_cons] at size
        unfold Task.total
        omega
      simp only [many, decide_true, if_true, commit, record_tell, current, Tally.commit_skip all]
      rfl
    · simp only [many, decide_false, if_false, conclude_eq current, answer]
      have follow := ih (campaign.noted task place attempt remembered _)
        (Task.drop_add left (task.count attempt))
        (Ledger.holds_setTally campaign.ledger task (tally.add (task.count attempt)))
      rw [Tally.dealt_add, Nat.cast_add_one] at follow
      rw [follow]
      simp [along, noted]

/-! ## Closing a folder -/

/-- What closing a folder comes to. -/
structure Ending where
  /-- The tally at the end. -/
  tally : Tally
  /-- The row written to the table of results, if there is one. -/
  rows : List Row
  /-- The tally saved, unless the folder cannot be closed. -/
  saved : List Tally
  /-- Why the folder cannot be closed. -/
  misuse : Option Misuse

/-- Closes the folder of a task. -/
def Task.ending (task : Task) (tally : Tally) : Ending :=
  if tally.times.isEmpty then ⟨tally.close, [], [tally.close], none⟩
  else match resultRow task.label task.folder tally.close.record with
    | .error misuse => ⟨tally.close, [], [], some misuse⟩
    | .ok row => ⟨tally.close.addRow row, [row], [tally.close.addRow row], none⟩

/-- What is saved when a folder is closed is the tally at its end, with the row that was written. -/
theorem Task.saved_ending {task : Task} {tally saved : Tally} (bare : tally.rows = [])
    (found : saved ∈ (task.ending tally).saved) :
    saved = (task.ending tally).tally ∧ (task.ending tally).misuse = none ∧
      saved.rows = (task.ending tally).rows ∧ saved.completed = true := by
  unfold Task.ending at found ⊢
  split at found
  · simp_all [Tally.close]
  · split at found <;> simp_all [Tally.close, Tally.addRow]

/-- The campaign after the folder of a task was closed. -/
def Campaign.ended (campaign : Campaign σ) (task : Task) (ending : Ending) : Campaign σ where
  memory := campaign.memory
  ledger := campaign.ledger.setTally task ending.tally
  written := ending.rows ++ campaign.written
  notices := campaign.notices
  saved := ending.saved.map (campaign.ledger.setTally task) ++ campaign.saved

namespace Campaign

/-- The row of a folder is written and kept, unless it cannot be made. -/
theorem writeRow_eq {campaign : Campaign σ} {task : Task} {tally : Tally}
    (held : campaign.record task = tally.record) :
    campaign.writeRow task =
      match resultRow task.label task.folder tally.record with
      | .error misuse => (campaign, some misuse)
      | .ok row =>
        (({ campaign with written := row :: campaign.written } : Campaign σ).setRecord task
          (tally.addRow row).record, none) := by
  unfold writeRow
  rw [held]
  cases resultRow task.label task.folder tally.record with
  | error misuse => rfl
  | ok row =>
    have kept : Campaign.record { campaign with written := row :: campaign.written } task =
        tally.record := held
    simp only [commit, kept, Tally.commit_rows]

/-- A folder with all its instances dealt with is closed. -/
theorem close_eq {campaign : Campaign σ} {task : Task} {tally : Tally}
    (held : campaign.ledger.Holds task tally) (all : tally.dealt = task.total) :
    campaign.close task = (campaign.ended task (task.ending tally), (task.ending tally).misuse) := by
  have current := record_of_record? held
  have equal : (Json.ofInt tally.dealt).equals (.whole task.total) = true := by
    simp [Json.equals, Json.ofInt, Json.number?, Number.atLeast, all]
  have truthy : (tally.close.content .times).isTruthy = !tally.times.isEmpty := by
    simp [Tally.content, Tally.close, Json.isTruthy]
  have counted : tally.content .completedTests = .ofInt tally.dealt := rfl
  simp only [close, current, Tally.get_record, counted, equal, Tally.record_close,
    record_setRecord, truthy, Bool.not_true, Bool.false_eq_true, if_false,
    writeRow_eq (record_setRecord campaign task tally.close.record)]
  unfold Task.ending
  cases tally.times.isEmpty with
  | true => rfl
  | false =>
    cases resultRow task.label task.folder tally.close.record with
    | error misuse => rfl
    | ok row => simp [ended, save, setRecord, Ledger.setTally]

/-! ## Working on a folder -/

/-- The campaign after a task was worked on, with the course that its attempts have taken. -/
def worked (campaign : Campaign σ) (task : Task) (course : Course σ) : Campaign σ where
  memory := course.memory
  ledger := campaign.ledger.setTally task (task.ending course.tally).tally
  written := (task.ending course.tally).rows ++ campaign.written
  notices := course.notices ++ campaign.notices
  saved := ((task.ending course.tally).saved ++ course.saved).map (campaign.ledger.setTally task) ++
    campaign.saved

/-- What ends a task after its course is what working at it gives. -/
theorem ended_along (campaign : Campaign σ) (task : Task) (course : Course σ) :
    (campaign.along task course).ended task (task.ending course.tally) =
      campaign.worked task course := by
  simp [along, ended, worked]

/-- Only the tally at the end counts. -/
theorem worked_setRecord (campaign : Campaign σ) (task : Task) (tally : Tally) (course : Course σ) :
    (campaign.setRecord task tally.record).worked task course = campaign.worked task course := by
  have again : (campaign.setRecord task tally.record).ledger.setTally task =
      campaign.ledger.setTally task :=
    funext (Ledger.setTally_setTally campaign.ledger task tally)
  simp only [worked, again]
  rfl

end Campaign

/-- A folder is open with a tally: it is not done, every instance dealt with is counted once, and no row
was written. -/
structure Tally.Open (tally : Tally) (task : Task) : Prop where
  undone : tally.completed = false
  balanced : tally.Balanced
  fits : tally.dealt ≤ task.total
  bare : tally.rows = []

/-- A new tally is open. -/
theorem Tally.open_fresh (task : Task) : Tally.fresh.Open task :=
  ⟨rfl, Tally.balanced_fresh, Nat.zero_le _, rfl⟩

/-- One more instance leaves a folder open. -/
theorem Tally.Open.add {tally : Tally} {task : Task} (opened : tally.Open task)
    (more : tally.dealt < task.total) (count : Count) : (tally.add count).Open task where
  undone := by cases count <;> exact opened.undone
  balanced := opened.balanced.add count
  fits := by rw [Tally.dealt_add]; exact more
  bare := by cases count <;> exact opened.bare

/-- The attempts at all the places that are left deal with them all. -/
theorem Task.dealt_course (worker : Worker σ) (task : Task) (places : List Place) (memory : σ)
    (tally : Tally) :
    (task.course worker places memory tally).tally.dealt = tally.dealt + places.length := by
  fun_induction Task.course worker task places memory tally with
  | case1 memory tally => rfl
  | case2 place rest memory tally many => rfl
  | case3 place rest memory tally few attempt remembered answer next later ih =>
    rw [ih, List.length_cons, Tally.dealt_add]
    omega

/-- Attempts leave a folder open, with every tally that is saved on the way. -/
theorem Task.open_course (worker : Worker σ) (task : Task) (places : List Place) (memory : σ)
    {tally : Tally} (opened : tally.Open task) (fits : tally.dealt + places.length ≤ task.total) :
    (task.course worker places memory tally).tally.Open task ∧
      ∀ saved ∈ (task.course worker places memory tally).saved, saved.Open task := by
  fun_induction Task.course worker task places memory tally with
  | case1 memory tally => exact ⟨opened, by simp⟩
  | case2 place rest memory tally many =>
    exact ⟨⟨opened.undone, opened.balanced.skip _, fits, opened.bare⟩, by simp⟩
  | case3 place rest memory tally few attempt remembered answer next later ih =>
    rw [List.length_cons] at fits
    have nextOpen : next.Open task := opened.add (by omega) _
    obtain ⟨atEnd, onTheWay⟩ := ih nextOpen (by rw [Tally.dealt_add]; omega)
    refine ⟨atEnd, fun saved found => ?_⟩
    rcases List.mem_append.mp found with later | last
    · exact onTheWay saved later
    · rw [List.mem_singleton.mp last]
      exact nextOpen

namespace Campaign

/-- A folder that is open is worked on from where its tally stopped. -/
theorem workOn_eq (worker : Worker σ) {campaign : Campaign σ} {task : Task} {tally : Tally}
    (held : campaign.ledger.Holds task tally) (opened : tally.Open task) :
    let course := task.course worker (task.places.drop tally.dealt) campaign.memory tally
    workOn worker task campaign =
      (campaign.worked task course, (task.ending course.tally).misuse) := by
  intro course
  have current := record_of_record? held
  have counted : tally.content .completedTests = .ofInt tally.dealt := rfl
  have equal : (Json.ofInt tally.dealt).equals (.whole tally.dealt) = true := by
    simp [Json.equals, Json.ofInt, Json.number?, Number.atLeast]
  have left : (task.total - (tally.dealt : Int)).toNat = (task.places.drop tally.dealt).length := by
    rw [List.length_drop, Task.total]
    omega
  have all : course.tally.dealt = task.total := by
    have fits := opened.fits
    simp only [course, Task.dealt_course, List.length_drop]
    unfold Task.total at fits ⊢
    omega
  simp only [workOn, current, opened.balanced.counted_record, Tally.get_record, counted, recount,
    equal, if_true, positionOf, bind, Except.bind, pure, Except.pure, left,
    attemptFrom_eq worker task _ campaign rfl held]
  rw [close_eq (Ledger.holds_setTally ..) all, ended_along]

/-- A folder that is not known or open is worked on. -/
theorem runTask_of_open (worker : Worker σ) {campaign : Campaign σ} {task : Task} {tally : Tally}
    (held : campaign.ledger.Holds task tally ∨
      campaign.ledger.record? task.solver task.strategy task.folder = none ∧ tally = .fresh)
    (opened : tally.Open task) :
    let course := task.course worker (task.places.drop tally.dealt) campaign.memory tally
    runTask worker task campaign =
      (campaign.worked task course, (task.ending course.tally).misuse) := by
  intro course
  have undone : (tally.content .completed).isTruthy = false := by
    simp [Tally.content, Json.isTruthy, opened.undone]
  rcases held with held | ⟨unknown, rfl⟩
  · have known : campaign.ledger.record? task.solver task.strategy task.folder =
        some tally.record := held
    simp only [runTask, known, Option.isSome_some, if_true, record_of_record? held,
      Tally.get_record, undone, Bool.false_eq_true, if_false]
    exact workOn_eq worker held opened
  · simp only [runTask, unknown, Option.isSome_none, Bool.false_eq_true, if_false,
      record_setRecord, ← Tally.record_fresh, Tally.get_record, undone]
    have held : (campaign.setRecord task Tally.fresh.record).ledger.Holds task .fresh :=
      Ledger.holds_setTally campaign.ledger task .fresh
    refine (workOn_eq worker held opened).trans ?_
    rw [worked_setRecord]
    rfl

/-- A folder that is done is passed over. -/
theorem runTask_of_done (worker : Worker σ) {campaign : Campaign σ} {task : Task} {tally : Tally}
    (held : campaign.ledger.Holds task tally) (done : tally.completed = true) :
    runTask worker task campaign =
      (campaign.tell (.skipping task.label task.folder), none) := by
  have known : campaign.ledger.record? task.solver task.strategy task.folder = some tally.record := held
  simp [runTask, known, record_of_record? held, Tally.content, done, Json.isTruthy]

end Campaign

/-! ## Stages -/

open Campaign (runTask runTasks runPair runPairs)

/-- A part of a campaign. -/
abbrev Stage (σ : Type) := Campaign σ → Campaign σ × Option Misuse

/-- One stage after another, unless the first one is broken off. -/
def Stage.andThen (first second : Stage σ) : Stage σ := fun campaign =>
  match first campaign with
  | (after, some misuse) => (after, some misuse)
  | (after, none) => second after

/-- The tasks of a solver with a strategy. -/
def tasksOf (groups : Groups) (solver strategy : String) : List Task :=
  groups.map fun group => ⟨solver, strategy, group.1, group.2⟩

/-- The first of several tasks is run before the others. -/
theorem runTasks_cons (worker : Worker σ) (task : Task) (rest : List Task) :
    runTasks worker (task :: rest) = Stage.andThen (runTask worker task) (runTasks worker rest) :=
  rfl

/-- Makes a place for a solver with a strategy. -/
def openPair (solver strategy : String) : Stage σ := fun campaign =>
  let headed := campaign.tell (.heading s!"{solver}-{strategy}")
  ({ headed with
      ledger := headed.ledger.setRecords solver strategy (headed.ledger.records solver strategy) },
    none)

/-- A pair is opened, and its tasks are run. -/
theorem runPair_eq (worker : Worker σ) (groups : Groups) (solver strategy : String) :
    runPair worker groups solver strategy =
      (openPair solver strategy).andThen (runTasks worker (tasksOf groups solver strategy)) :=
  rfl

/-- The first of several pairs is run before the others. -/
theorem runPairs_cons (worker : Worker σ) (groups : Groups) (pair : String × String)
    (rest : List (String × String)) :
    runPairs worker groups (pair :: rest) =
      Stage.andThen (runPair worker groups pair.1 pair.2) (runPairs worker groups rest) :=
  rfl

/-! ## Groups -/

/-- A folder has one group. -/
theorem addToGroup_nodup {groups : Groups} (distinct : (groups.map Prod.fst).Nodup) (place : Place) :
    ((addToGroup groups place).map Prod.fst).Nodup := by
  unfold addToGroup
  split
  · have names : (groups.map fun group =>
        if group.1 == place.folder then (group.1, group.2 ++ [place]) else group).map Prod.fst =
          groups.map Prod.fst := by
      rw [List.map_map]
      refine List.map_congr_left fun group _ => ?_
      simp only [Function.comp]
      split <;> rfl
    rwa [names]
  · next absent =>
    rw [List.map_append, List.nodup_append]
    refine ⟨distinct, by simp, ?_⟩
    intro name member other found same
    simp only [List.map_cons, List.map_nil, List.mem_singleton] at found
    obtain ⟨group, within, rfl⟩ := List.mem_map.mp member
    exact absent (List.any_eq_true.mpr ⟨group, within, by simp [same, found]⟩)

/-- Every folder of instances has one group. -/
theorem instances_nodup (files : Files) : ((instances files).map Prod.fst).Nodup := by
  have folded (places : List Place) : ∀ {groups : Groups}, (groups.map Prod.fst).Nodup →
      ((places.foldl addToGroup groups).map Prod.fst).Nodup := by
    induction places with
    | nil => exact fun distinct => distinct
    | cons place rest ih => exact fun distinct => ih (addToGroup_nodup distinct place)
  exact folded _ List.nodup_nil

end Clausal.Benchmark
