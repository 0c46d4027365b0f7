import ZFleet.Server.TaskOperations

/-!
Tasks and their results. In every store that calls can reach, the finished tasks are
the tasks with a result, each has one, and the two agree on the status; both are
permanent. A result write that fails leaves no trace.
-/
namespace TaskResults
open Message KeyedTables Transactions Ledgers Schema TaskStore TaskOperations

theorem terminalState_toString (status : TaskExecutionStatus) :
    (terminalState status).toString = status.toString := by
  cases status <;> rfl

/-- Exactly one result row names the task, and its status is the state of the task. -/
def HasOneResult (store : Store) (row : TaskRow) : Prop :=
  (store.taskResults.rows.countP fun result => result.taskId = row.taskId) = 1 ∧
    ∃ result ∈ store.taskResults.rows, result.taskId = row.taskId ∧
      result.status.toString = row.state.toString

/-- Finished tasks and results match one to one. -/
structure ResultsMatch (store : Store) : Prop where
  terminal_iff : ∀ row ∈ store.tasks.rows,
    isTerminalTaskState row.state = true ↔ HasOneResult store row
  no_orphan : ∀ result ∈ store.taskResults.rows,
    ∃ row ∈ store.tasks.rows, row.taskId = result.taskId

theorem phase_of_mem {store : Store} {row : TaskRow} (member : row ∈ store.tasks.rows) :
    (ledgerOf store).phase row.taskId = some row.state :=
  ledgerOf_phase (Table.find_of_mem member)

theorem hasOneResult_of_found {store : Store} {row : TaskRow} {result : TaskResultRow}
    (found : store.taskResults.find row.taskId = some result)
    (agrees : terminalState result.status = row.state) : HasOneResult store row := by
  constructor
  · rw [Table.count_key, found]
    rfl
  · refine ⟨result, Table.find_mem found, Table.find_key found, ?_⟩
    rw [← agrees, terminalState_toString]

theorem found_of_hasOneResult {store : Store} {row : TaskRow}
    (one : HasOneResult store row) : ∃ result, store.taskResults.find row.taskId = some result := by
  obtain ⟨_, result, member, key, _⟩ := one
  exact ⟨result, by rw [← key]; exact Table.find_of_mem member⟩

/-- The books of the ledger are balanced exactly because the tables match. -/
theorem resultsMatch_of_balanced {store : Store}
    (balanced : Balanced taskRules (ledgerOf store)) : ResultsMatch store where
  terminal_iff := by
    intro row member
    have phase := phase_of_mem member
    constructor
    · intro terminal
      obtain ⟨result, outcome⟩ := balanced.closed_has_outcome row.taskId row.state phase
        ((taskRules_closed_iff row.state).mpr terminal)
      have closes := balanced.outcome_closes row.taskId result outcome
      rw [phase] at closes
      exact hasOneResult_of_found outcome (Option.some.inj closes).symm
    · intro one
      obtain ⟨result, outcome⟩ := found_of_hasOneResult one
      have closes := balanced.outcome_closes row.taskId result outcome
      rw [phase] at closes
      exact (taskRules_closed_iff row.state).mp ⟨result, (Option.some.inj closes).symm⟩
  no_orphan := by
    intro result member
    have closes := balanced.outcome_closes result.taskId result (Table.find_of_mem member)
    obtain ⟨row, found, _⟩ := Option.map_eq_some_iff.mp closes
    exact ⟨row, Table.find_mem found, Table.find_key found⟩

theorem reachable_resultsMatch (calls : List Call) :
    ResultsMatch (Runs.run step Store.empty calls) :=
  resultsMatch_of_balanced (reachable_balanced calls)

/-- The state of a finished task and its result row, if it has one, are permanent. -/
theorem finished_is_permanent (store : Store) (later : List Call) {row : TaskRow}
    (member : row ∈ store.tasks.rows) (terminal : isTerminalTaskState row.state = true) :
    (∃ row' ∈ (Runs.run step store later).tasks.rows,
      row'.taskId = row.taskId ∧ row'.state = row.state) ∧
    (Runs.run step store later).taskResults.find row.taskId =
      store.taskResults.find row.taskId := by
  obtain ⟨phase, outcome⟩ := steps_closed (run_refines store later) (phase_of_mem member)
    ((taskRules_closed_iff row.state).mpr terminal)
  obtain ⟨row', found, state⟩ := Option.map_eq_some_iff.mp phase
  exact ⟨⟨row', Table.find_mem found, Table.find_key found, state⟩, outcome⟩

/-- The calls that record a result, and the result they record. -/
def recordedResult : StoreOp → Option TaskResult
  | .report (.recordTaskResult request _ _) => some request
  | .report (.asyncRecordTaskResult request _ _) => some request
  | _ => none

theorem recordCall_atomic {op : StoreOp} {request : TaskResult}
    (records : recordedResult op = some request) : Atomic (executeOp op) := by
  cases op with
  | report op =>
    cases op with
    | recordTaskResult request resultBlob errorBlob =>
      exact bind_total_atomic (recordTaskResult_atomic _ _ _) fun _ _ _ _ failed => by
        cases failed
    | asyncRecordTaskResult request resultBlob errorBlob =>
      exact bind_total_atomic (asyncRecordTaskResult_atomic _ _ _) fun _ _ _ _ failed => by
        cases failed
    | _ => cases records
  | _ => cases records

theorem failed_record_changes_nothing {store : Store} {call : Call} {request : TaskResult}
    (records : recordedResult call.op = some request) {e : Failure}
    (failed : reply store call = .error e) : step store call = store :=
  recordCall_atomic records ⟨store, call.faults⟩ e _ (by
    rw [← failed]
    rfl)

/-- A result goes through only for an unfinished task without a result. -/
theorem record_needs_open_task {store : Store} {call : Call} {request : TaskResult}
    (records : recordedResult call.op = some request) {answer : Option Task}
    (done : reply store call = .ok answer) :
    (∃ row, store.tasks.find request.taskId = some row ∧
      isTerminalTaskState row.state = false) ∧
    store.taskResults.find request.taskId = none := by
  have ran : executeOp call.op ⟨store, call.faults⟩ =
      (.ok answer, (executeOp call.op ⟨store, call.faults⟩).2) := by
    rw [← done]
    rfl
  have fresh : ∀ {resultBlob errorBlob : Option Blob} {results}, store.taskResults.insert
      (taskResultRow request resultBlob errorBlob) = some results →
      store.taskResults.find request.taskId = none := fun inserted =>
    (Table.insert_some inserted).1
  obtain ⟨op, faults⟩ := call
  cases op with
  | report op =>
    cases op with
    | recordTaskResult request' resultBlob errorBlob =>
      cases records
      obtain ⟨_, _, recorded, _⟩ := bind_ok ran
      obtain ⟨row, _, found, open_row, inserted, _⟩ := recordTaskResult_ok recorded
      exact ⟨⟨row, found, open_row⟩, fresh inserted⟩
    | asyncRecordTaskResult request' resultBlob errorBlob =>
      cases records
      obtain ⟨_, _, recorded, _⟩ := bind_ok ran
      obtain ⟨row, _, found, open_row, inserted, _⟩ := asyncRecordTaskResult_ok recorded
      exact ⟨⟨row, found, open_row⟩, fresh inserted⟩
    | _ => cases records
  | _ => cases records

/-- After any calls: a task is finished exactly when one result row names it, the row has
    its status, and no result lacks a task; whatever is called later leaves a finished task
    and its result alone; and a result write for an unknown or finished task or over a
    result fails, a failed one changing nothing. -/
theorem terminal_tasks_are_the_results (calls : List Call) :
    ResultsMatch (Runs.run step Store.empty calls) ∧
    (∀ row ∈ (Runs.run step Store.empty calls).tasks.rows,
      isTerminalTaskState row.state = true → ∀ later : List Call,
        (∃ row' ∈ (Runs.run step Store.empty (calls ++ later)).tasks.rows,
          row'.taskId = row.taskId ∧ row'.state = row.state) ∧
        (Runs.run step Store.empty (calls ++ later)).taskResults.find row.taskId =
          (Runs.run step Store.empty calls).taskResults.find row.taskId) ∧
    (∀ call request, recordedResult call.op = some request →
      ((∀ row ∈ (Runs.run step Store.empty calls).tasks.rows, row.taskId = request.taskId →
          isTerminalTaskState row.state = true) ∨
        (∃ result ∈ (Runs.run step Store.empty calls).taskResults.rows,
          result.taskId = request.taskId) →
        ∃ e, reply (Runs.run step Store.empty calls) call = .error e) ∧
      ∀ e, reply (Runs.run step Store.empty calls) call = .error e →
        (step (Runs.run step Store.empty calls) call).tasks =
          (Runs.run step Store.empty calls).tasks ∧
        (step (Runs.run step Store.empty calls) call).taskResults =
          (Runs.run step Store.empty calls).taskResults ∧
        (step (Runs.run step Store.empty calls) call).agents =
          (Runs.run step Store.empty calls).agents) := by
  refine ⟨reachable_resultsMatch calls, ?_, ?_⟩
  · intro row member terminal later
    rw [Runs.run_append]
    exact finished_is_permanent _ later member terminal
  · intro call request records
    constructor
    · intro refused
      cases answer : reply (Runs.run step Store.empty calls) call with
      | error e => exact ⟨e, rfl⟩
      | ok task =>
        obtain ⟨⟨row, found, open_row⟩, fresh⟩ := record_needs_open_task records answer
        rcases refused with finished | ⟨result, member, key⟩
        · have terminal := finished row (Table.find_mem found) (Table.find_key found)
          rw [open_row] at terminal
          cases terminal
        · exact absurd key ((Table.find_none_iff _ _).mp fresh result member)
    · intro e failed
      rw [failed_record_changes_nothing records failed]
      exact ⟨rfl, rfl, rfl⟩

end TaskResults
