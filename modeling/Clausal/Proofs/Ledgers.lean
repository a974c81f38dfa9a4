import Mathlib
import Clausal.Benchmark

/-!
# Ledgers

How a ledger is read and changed. A record that is set is found again and no other one changes; a name
that is set for the first time goes to the end. A ledger that was saved is taken over as it is, with the
rows that its records keep, in the order of the ledger.
-/

namespace Clausal

namespace Named

variable {α : Type}

/-- Nothing is found among no entries. -/
@[simp]
theorem lookup_nil (key : String) : lookup key ([] : List (String × α)) = none := rfl

/-- A value is looked for from the front. -/
theorem lookup_cons (key name : String) (value : α) (rest : List (String × α)) :
    lookup key ((name, value) :: rest) = if name = key then some value else lookup key rest := by
  by_cases same : name = key <;> simp [lookup, same]

/-- A value is looked for in one list and then in another one. -/
theorem lookup_append (key : String) (first second : List (String × α)) :
    lookup key (first ++ second) = (lookup key first).or (lookup key second) := by
  induction first with
  | nil => simp [lookup]
  | cons entry rest ih =>
    obtain ⟨name, value⟩ := entry
    by_cases same : name = key <;> simp [lookup_cons, same, ih]

/-- A value that is found is there. -/
theorem mem_of_lookup {key : String} {value : α} {entries : List (String × α)}
    (held : lookup key entries = some value) : (key, value) ∈ entries := by
  induction entries with
  | nil => simp at held
  | cons entry rest ih =>
    obtain ⟨name, old⟩ := entry
    rw [lookup_cons] at held
    split at held
    · simp_all
    · exact List.mem_cons_of_mem _ (ih held)

/-- Setting a name again replaces what was set before. -/
theorem update_update (key : String) (first second : α) (entries : List (String × α)) :
    update key second (update key first entries) = update key second entries := by
  induction entries with
  | nil => simp [update]
  | cons entry rest ih =>
    obtain ⟨name, old⟩ := entry
    by_cases same : name = key <;> simp [update, same, ih]

/-- Setting a name to what it holds changes nothing. -/
theorem update_of_lookup {key : String} {value : α} {entries : List (String × α)}
    (held : lookup key entries = some value) : update key value entries = entries := by
  induction entries with
  | nil => simp at held
  | cons entry rest ih =>
    obtain ⟨name, old⟩ := entry
    rw [lookup_cons] at held
    by_cases same : name = key
    · simp_all [update]
    · simp_all [update]

/-- What is there after a name was set is new or was there before. -/
theorem mem_update {key : String} {value : α} {entries : List (String × α)} {entry : String × α}
    (member : entry ∈ update key value entries) : entry = (key, value) ∨ entry ∈ entries := by
  induction entries with
  | nil => simpa [update] using member
  | cons first rest ih =>
    obtain ⟨name, old⟩ := first
    by_cases same : name = key
    · simp only [update, same, beq_self_eq_true, if_true, List.mem_cons] at member ⊢
      tauto
    · simp only [update, beq_iff_eq, same, if_false, List.mem_cons] at member ⊢
      tauto

/-- A name that is not in the front is set behind it. -/
theorem update_append {key : String} {front : List (String × α)} (absent : lookup key front = none)
    (value : α) (rest : List (String × α)) :
    update key value (front ++ rest) = front ++ update key value rest := by
  induction front with
  | nil => rfl
  | cons entry others ih =>
    obtain ⟨name, old⟩ := entry
    rw [lookup_cons] at absent
    split at absent
    · cases absent
    · next different => simp [update, different, ih absent]

/-- A name that is not there goes to the end. -/
theorem update_of_absent {key : String} {entries : List (String × α)}
    (absent : lookup key entries = none) (value : α) :
    update key value entries = entries ++ [(key, value)] := by
  simpa [update] using update_append absent value []

/-- A name at the end stays there. -/
theorem update_last {key : String} {front : List (String × α)} (absent : lookup key front = none)
    (old value : α) : update key value (front ++ [(key, old)]) = front ++ [(key, value)] := by
  simp [update_append absent, update]

/-- An entry at the end is found if no earlier one has its key. -/
theorem lookup_last {key : String} {front : List (String × α)} (absent : lookup key front = none)
    (value : α) : lookup key (front ++ [(key, value)]) = some value := by
  simp [lookup_append, absent, lookup_cons]

end Named

namespace Benchmark.Ledger

open Named (lookup update)

/-! ## Reading and setting -/

/-- The ledger has a place for a solver with a strategy. -/
def Opened (ledger : Ledger) (solver strategy : String) : Prop :=
  ((lookup solver ledger).bind (lookup strategy)).isSome = true

/-- The records of a pair are those that were set. -/
theorem records_setRecords_self (ledger : Ledger) (solver strategy : String)
    (records : List (String × Record)) :
    (ledger.setRecords solver strategy records).records solver strategy = records := by
  simp [setRecords, Ledger.records, Named.lookup_update_self]

/-- Setting the records of a solver with a strategy leaves those of all others alone. -/
theorem lookup_setRecords_of_ne (ledger : Ledger) {solver strategy otherSolver otherStrategy : String}
    (different : (otherSolver, otherStrategy) ≠ (solver, strategy))
    (records : List (String × Record)) :
    (lookup otherSolver (ledger.setRecords solver strategy records)).bind (lookup otherStrategy) =
      (lookup otherSolver ledger).bind (lookup otherStrategy) := by
  unfold setRecords
  by_cases same : otherSolver = solver
  · subst same
    have unequal : otherStrategy ≠ strategy := fun equal => different (by rw [equal])
    rw [Named.lookup_update_self, Option.bind_some, Named.lookup_update_of_ne unequal]
    cases lookup otherSolver ledger <;> simp [lookup]
  · rw [Named.lookup_update_of_ne same]

/-- Making a place changes no record. -/
theorem record?_open (ledger : Ledger) (solver strategy otherSolver otherStrategy folder : String) :
    (ledger.setRecords solver strategy (ledger.records solver strategy)).record? otherSolver
      otherStrategy folder = ledger.record? otherSolver otherStrategy folder := by
  unfold record?
  by_cases same : (otherSolver, otherStrategy) = (solver, strategy)
  · obtain ⟨rfl, rfl⟩ := Prod.mk.inj same
    rw [records_setRecords_self]
  · rw [Ledger.records, lookup_setRecords_of_ne ledger same]
    rfl

/-- A record that was set is found. -/
@[simp]
theorem record?_setRecord_self (ledger : Ledger) (solver strategy folder : String)
    (record : Record) :
    (ledger.setRecord solver strategy folder record).record? solver strategy folder =
      some record := by
  rw [record?, setRecord, records_setRecords_self, Named.lookup_update_self]

/-- Setting a record leaves all others alone. -/
theorem record?_setRecord_of_ne (ledger : Ledger)
    {solver strategy folder otherSolver otherStrategy otherFolder : String}
    (different : (otherSolver, otherStrategy, otherFolder) ≠ (solver, strategy, folder))
    (record : Record) :
    (ledger.setRecord solver strategy folder record).record? otherSolver otherStrategy otherFolder =
      ledger.record? otherSolver otherStrategy otherFolder := by
  unfold record? setRecord
  by_cases same : (otherSolver, otherStrategy) = (solver, strategy)
  · obtain ⟨rfl, rfl⟩ := Prod.mk.inj same
    have unequal : otherFolder ≠ folder := fun equal => different (by rw [equal])
    rw [records_setRecords_self, Named.lookup_update_of_ne unequal]
  · simp only [Ledger.records, lookup_setRecords_of_ne ledger same]

/-- Setting a record again replaces what was set before. -/
@[simp]
theorem setRecord_setRecord (ledger : Ledger) (solver strategy folder : String)
    (first second : Record) :
    (ledger.setRecord solver strategy folder first).setRecord solver strategy folder second =
      ledger.setRecord solver strategy folder second := by
  unfold setRecord
  rw [records_setRecords_self]
  simp only [setRecords, Named.lookup_update_self, Option.getD_some, Named.update_update]

/-- Setting the records of a place to what it holds changes nothing. -/
theorem setRecords_of_opened {ledger : Ledger} {solver strategy : String}
    (opened : ledger.Opened solver strategy) :
    ledger.setRecords solver strategy (ledger.records solver strategy) = ledger := by
  obtain ⟨records, found⟩ := Option.isSome_iff_exists.mp opened
  obtain ⟨strategies, solverFound, strategyFound⟩ := Option.bind_eq_some_iff.mp found
  simp only [setRecords, Ledger.records, solverFound, Option.bind_some, strategyFound,
    Option.getD_some, Named.update_of_lookup strategyFound, Named.update_of_lookup solverFound]

/-- A record is found only in a place that is there. -/
theorem opened_of_record? {ledger : Ledger} {solver strategy folder : String} {record : Record}
    (held : ledger.record? solver strategy folder = some record) : ledger.Opened solver strategy := by
  unfold Opened
  cases found : (lookup solver ledger).bind (lookup strategy) with
  | none => simp [record?, Ledger.records, found] at held
  | some records => rfl

/-- Setting a record to what it is changes nothing. -/
theorem setRecord_of_record? {ledger : Ledger} {solver strategy folder : String} {record : Record}
    (held : ledger.record? solver strategy folder = some record) :
    ledger.setRecord solver strategy folder record = ledger := by
  rw [setRecord, Named.update_of_lookup held, setRecords_of_opened (opened_of_record? held)]

/-- A pair whose records were set is open. -/
theorem opened_setRecords (ledger : Ledger) (solver strategy : String)
    (records : List (String × Record)) :
    (ledger.setRecords solver strategy records).Opened solver strategy := by
  simp [Opened, setRecords, Named.lookup_update_self]

/-- A place that is there stays there. -/
theorem Opened.setRecords {ledger : Ledger} {solver strategy : String}
    (opened : ledger.Opened solver strategy) (otherSolver otherStrategy : String)
    (records : List (String × Record)) :
    (ledger.setRecords otherSolver otherStrategy records).Opened solver strategy := by
  by_cases same : (solver, strategy) = (otherSolver, otherStrategy)
  · obtain ⟨rfl, rfl⟩ := Prod.mk.inj same
    exact opened_setRecords ledger solver strategy records
  · rw [Opened, lookup_setRecords_of_ne ledger same]
    exact opened

/-- A place that is there was made or was there before. -/
theorem opened_of_setRecords {ledger : Ledger} {solver strategy otherSolver otherStrategy : String}
    {records : List (String × Record)}
    (opened : (ledger.setRecords solver strategy records).Opened otherSolver otherStrategy) :
    (otherSolver, otherStrategy) = (solver, strategy) ∨
      ledger.Opened otherSolver otherStrategy := by
  by_cases same : (otherSolver, otherStrategy) = (solver, strategy)
  · exact .inl same
  · right
    rwa [Opened, lookup_setRecords_of_ne ledger same] at opened

/-- Setting the records of a solver leaves all others alone. -/
theorem lookup_setRecords_of_solver_ne (ledger : Ledger) {solver other : String}
    (different : other ≠ solver) (strategy : String) (records : List (String × Record)) :
    lookup other (ledger.setRecords solver strategy records) = lookup other ledger :=
  Named.lookup_update_of_ne different _ _

/-! ## All records -/

/-- Every record of a ledger has a property. -/
def Each (property : Record → Prop) (ledger : Ledger) : Prop :=
  ∀ bySolver ∈ ledger, ∀ byStrategy ∈ bySolver.2, ∀ byFolder ∈ byStrategy.2, property byFolder.2

/-- Every property holds of each record of a ledger without records. -/
theorem Each.nil (property : Record → Prop) : Each property [] := by
  simp [Each]

/-- Records of which a property holds can be set in a ledger where it holds of each. -/
theorem Each.setRecords {property : Record → Prop} {ledger : Ledger} (each : ledger.Each property)
    (solver strategy : String) {records : List (String × Record)}
    (good : ∀ byFolder ∈ records, property byFolder.2) :
    (ledger.setRecords solver strategy records).Each property := by
  intro bySolver found byStrategy within byFolder member
  rcases Named.mem_update found with rfl | old
  · rcases Named.mem_update within with rfl | older
    · exact good byFolder member
    · cases known : lookup solver ledger with
      | none => simp [known] at older
      | some strategies =>
        simp only [known, Option.getD_some] at older
        exact each _ (Named.mem_of_lookup known) byStrategy older byFolder member
  · exact each bySolver old byStrategy within byFolder member

/-- The records of one place have the property. -/
theorem Each.records {property : Record → Prop} {ledger : Ledger} (each : ledger.Each property)
    (solver strategy : String) :
    ∀ byFolder ∈ ledger.records solver strategy, property byFolder.2 := by
  intro byFolder member
  unfold Ledger.records at member
  cases found : (lookup solver ledger).bind (lookup strategy) with
  | none => simp [found] at member
  | some records =>
    obtain ⟨strategies, solverFound, strategyFound⟩ := Option.bind_eq_some_iff.mp found
    simp only [found, Option.getD_some] at member
    exact each _ (Named.mem_of_lookup solverFound) _ (Named.mem_of_lookup strategyFound) _ member

/-- A record with the property may be set. -/
theorem Each.setRecord {property : Record → Prop} {ledger : Ledger} (each : ledger.Each property)
    (solver strategy folder : String) {record : Record} (good : property record) :
    (ledger.setRecord solver strategy folder record).Each property := by
  apply each.setRecords
  intro byFolder member
  rcases Named.mem_update member with rfl | old
  · exact good
  · exact each.records solver strategy byFolder old

/-! ## Rows in order -/

/-- The rows that a record keeps, as they are taken over. -/
def keptRows (record : Record) : List Row :=
  (Taken.record record.toJson).rows

/-- The rows that a ledger keeps, in order. -/
def rows (ledger : Ledger) : List Row :=
  ledger.flatMap fun bySolver => bySolver.2.flatMap fun byStrategy =>
    byStrategy.2.flatMap fun byFolder => keptRows byFolder.2

/-- The record is taken over as it is. -/
def Readable (record : Record) : Prop :=
  (Taken.record record.toJson).result = .ok record

/-- Named values as a document. -/
def document {α : Type} (write : α → Json) (entries : List (String × α)) : Json :=
  .object (entries.map fun entry => (entry.1, write entry.2))

/-- Values that are taken over as they were written are so together, under their names. -/
theorem members_document {α : Type} {take : Json → Taken α} {write : α → Json}
    {kept : α → List Row} {entries : List (String × α)}
    (readable : ∀ entry ∈ entries, take (write entry.2) = ⟨kept entry.2, .ok entry.2⟩) :
    Taken.members take (document write entries) =
      ⟨entries.flatMap fun entry => kept entry.2, .ok entries⟩ := by
  show Taken.each take _ = _
  induction entries with
  | nil => rfl
  | cons entry rest ih =>
    have first := readable entry (by simp)
    have others := ih fun other member => readable other (by simp [member])
    simp [Taken.each, first, others, Except.map]

/-- A ledger of readable records is taken over as it was saved, with its rows. -/
theorem take_toJson {ledger : Ledger} (readable : ledger.Each Readable) :
    Ledger.take ledger.toJson = ⟨ledger.rows, .ok ledger⟩ := by
  have nested : ledger.toJson = document (document (document Record.toJson)) ledger := by
    simp [toJson, documents, document, Function.comp_def]
  rw [nested]
  refine members_document fun bySolver found => ?_
  refine members_document fun byStrategy within => ?_
  refine members_document fun byFolder member => ?_
  rw [← readable bySolver found byStrategy within byFolder member, keptRows]

/-! ## The end of a ledger -/

/-- A solver with a strategy stands last in a ledger. -/
def Newest (ledger : Ledger) (solver strategy : String) : Prop :=
  ∃ front others records, ledger = front ++ [(solver, others ++ [(strategy, records)])] ∧
    lookup solver front = none ∧ lookup strategy others = none

/-- A solver stands last in a ledger, if it is there. -/
def Latest (ledger : Ledger) (solver : String) : Prop :=
  lookup solver ledger = none ∨
    ∃ front strategies, ledger = front ++ [(solver, strategies)] ∧ lookup solver front = none

/-- The newest pair is one of the latest solver. -/
theorem Newest.latest {ledger : Ledger} {solver strategy : String}
    (newest : ledger.Newest solver strategy) : ledger.Latest solver := by
  obtain ⟨front, others, records, rfl, solverAbsent, -⟩ := newest
  exact .inr ⟨front, _, rfl, solverAbsent⟩

/-- Setting a record of what stands last changes the end alone. -/
theorem setRecord_newest {front : Ledger} {others : List (String × List (String × Record))}
    {solver strategy : String} (solverAbsent : lookup solver front = none)
    (strategyAbsent : lookup strategy others = none) (records : List (String × Record))
    (folder : String) (record : Record) :
    Ledger.setRecord (front ++ [(solver, others ++ [(strategy, records)])]) solver strategy folder
        record =
      front ++ [(solver, others ++ [(strategy, update folder record records)])] := by
  simp [setRecord, setRecords, Ledger.records, Named.lookup_last, solverAbsent, strategyAbsent,
    Named.update_last]

/-- A pair stays the newest one when a record of it is set. -/
theorem Newest.setRecord {ledger : Ledger} {solver strategy : String}
    (newest : ledger.Newest solver strategy) (folder : String) (record : Record) :
    (ledger.setRecord solver strategy folder record).Newest solver strategy := by
  obtain ⟨front, others, records, rfl, solverAbsent, strategyAbsent⟩ := newest
  exact ⟨front, others, _, setRecord_newest solverAbsent strategyAbsent records folder record,
    solverAbsent, strategyAbsent⟩

/-- The rows of a new record of what stands last come after all others. -/
theorem Newest.rows_setRecord {ledger : Ledger} {solver strategy folder : String}
    (newest : ledger.Newest solver strategy) (absent : ledger.record? solver strategy folder = none)
    (record : Record) :
    (ledger.setRecord solver strategy folder record).rows = ledger.rows ++ keptRows record := by
  obtain ⟨front, others, records, rfl, solverAbsent, strategyAbsent⟩ := newest
  have unknown : lookup folder records = none := by
    simpa [record?, Ledger.records, Named.lookup_last, solverAbsent, strategyAbsent] using absent
  rw [setRecord_newest solverAbsent strategyAbsent, Named.update_of_absent unknown]
  simp [rows]

/-- A place for a strategy is made at the end, where its solver stands last. -/
theorem Latest.open {ledger : Ledger} {solver strategy : String} (latest : ledger.Latest solver)
    (closed : ¬ ledger.Opened solver strategy) :
    let opened := ledger.setRecords solver strategy (ledger.records solver strategy)
    opened.Newest solver strategy ∧ opened.rows = ledger.rows ∧
      opened.records solver strategy = [] := by
  have none : (lookup solver ledger).bind (lookup strategy) = none := by
    simpa [Opened] using closed
  have empty : ledger.records solver strategy = [] := by simp [Ledger.records, none]
  intro opened
  refine ⟨?_, ?_, ?_⟩
  · rcases latest with absent | ⟨front, strategies, rfl, absent⟩
    · exact ⟨ledger, [], [], by simp [opened, empty, setRecords, absent, update,
        Named.update_of_absent absent], absent, rfl⟩
    · have unknown : lookup strategy strategies = Option.none := by
        simpa [Named.lookup_last absent] using none
      exact ⟨front, strategies, [], by simp [opened, empty, setRecords, Named.lookup_last absent,
        Named.update_last absent, Named.update_of_absent unknown], absent, unknown⟩
  · rcases latest with absent | ⟨front, strategies, rfl, absent⟩
    · simp [opened, empty, setRecords, absent, update, Named.update_of_absent absent, rows]
    · have unknown : lookup strategy strategies = Option.none := by
        simpa [Named.lookup_last absent] using none
      simp [opened, empty, setRecords, Named.lookup_last absent,
        Named.update_last absent, Named.update_of_absent unknown, rows]
  · exact (records_setRecords_self ledger solver strategy _).trans empty

end Benchmark.Ledger

end Clausal
