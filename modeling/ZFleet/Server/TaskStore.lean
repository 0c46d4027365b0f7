import ZFleet.Server.Schema
import Mathlib.Data.String.Basic

/-!
The task operations of the server database, statement by statement: enqueueing,
the two claims, the running mark, the two result writes and the scheduling of an
upgrade or a rollback. Each operation is followed by what it does when it returns;
a failed one leaves the store as it was.
-/
namespace TaskStore
open Message KeyedTables Transactions Schema

/-- The stored input is what the parser reads back: an empty action is an apply. -/
def storedTaskInput : TaskInput → TaskInput
  | .collectBasicInventory => .collectBasicInventory
  | .packageUpdate input =>
    .packageUpdate { input with action := if input.action = "" then "apply" else input.action }

def serializeTaskInputBlob (taskType : TaskType) (input : TaskInput) :
    Except Failure TaskInput :=
  if taskInputMatchesType taskType input then .ok (storedTaskInput input)
  else .error (.error "task input type mismatch")

def queuedTaskRow (task : Task) (input : TaskInput) (prerequisiteTaskId : Option String) :
    TaskRow where
  taskId := task.taskId
  protocolVersion := task.protocolVersion
  agentId := task.agentId
  taskType := task.taskType
  capabilityLevel := task.capabilityLevel
  createdAt := task.createdAt
  expiresAt := task.expiresAt
  inputBlob := input
  state := .queued
  prerequisiteTaskId := prerequisiteTaskId
  assignedAt := none
  completedAt := none

/-- The row one of these tasks gets when it is queued. -/
def QueuedRowOf (created : List Task) (row : TaskRow) : Prop :=
  ∃ task ∈ created, ∃ input prerequisiteTaskId,
    serializeTaskInputBlob task.taskType task.input = .ok input ∧
      row = queuedTaskRow task input prerequisiteTaskId

/-- Serialise the input, then insert the row; the two steps every new task takes. -/
def insertQueuedTask (task : Task) (prerequisiteTaskId : Option String) : Job Store Unit :=
  match serializeTaskInputBlob task.taskType task.input with
  | .ok input => insertTask (queuedTaskRow task input prerequisiteTaskId)
  | .error e => fail e

def enqueueTask (task : Task) : Job Store Unit := do
  submitWrite (insertQueuedTask task none)
  notifyTaskQueueChanged

/-- The asynchronous enqueue notifies inside the write. -/
def asyncEnqueueTask (task : Task) : Job Store Unit :=
  submitWrite do
    insertQueuedTask task none
    notifyTaskQueueChanged

def storedTask (row : TaskRow) : Task where
  protocolVersion := row.protocolVersion
  taskId := row.taskId
  agentId := row.agentId
  taskType := row.taskType
  capabilityLevel := row.capabilityLevel
  createdAt := row.createdAt
  expiresAt := row.expiresAt
  input := row.inputBlob

def prerequisiteMet (tasks : Table TaskRow TaskRow.taskId) (row : TaskRow) : Bool :=
  match row.prerequisiteTaskId with
  | none => true
  | some id => tasks.rows.any fun prerequisite =>
      prerequisite.taskId = id && prerequisite.state = .succeeded

/-- The where clause of the claim. -/
def claimable (store : Store) (agentId assignedAt : String) (row : TaskRow) : Bool :=
  row.agentId = agentId && row.state = .queued && decide (assignedAt < row.expiresAt) &&
    prerequisiteMet store.tasks row

/-- The oldest claimable task; among equally old ones, the first row. -/
def selectClaimable (agentId assignedAt : String) (store : Store) : Option TaskRow :=
  (store.tasks.rows.filter (claimable store agentId assignedAt)).argmin TaskRow.createdAt

def taskIs (taskId : String) (state : TaskState) (row : TaskRow) : Bool :=
  row.taskId = taskId && row.state = state

def assign (assignedAt : String) (row : TaskRow) : TaskRow :=
  { row with state := .assigned, assignedAt := some assignedAt }

theorem assign_taskId (assignedAt : String) (row : TaskRow) :
    (assign assignedAt row).taskId = row.taskId := rfl

def assignedAuditEvent (auditId agentId assignedAt : String) (task : Task) : AuditEventRow where
  auditId := auditId
  occurredAt := assignedAt
  agentId := some agentId
  eventType := .taskAssigned
  requestId := task.taskId
  result := "success"
  payload := [("agent_id", agentId), ("task_id", task.taskId),
    ("task_type", task.taskType.toString), ("task_state", "assigned")]

/-- Select a task and assign it; `finishing` ends the transaction. -/
def claimBody (agentId assignedAt : String) (finishing : Task → Job Store Unit) :
    Job Store (Ending (Option Task)) := do
  match ← query (selectClaimable agentId assignedAt) with
  | none => pure (.abandoned none)
  | some row =>
    let task := storedTask row
    let changed ← updateTasks (taskIs task.taskId .queued) (assign assignedAt) (assign_taskId _)
    if changed ≠ 1 then pure (.abandoned none)
    else do
      finishing task
      pure (.committed (some task))

def claimTransaction (agentId assignedAt : String) (finishing : Task → Job Store Unit) :
    Job Store (Option Task) := transaction (claimBody agentId assignedAt finishing)

def claimNextTaskForAgent (agentId assignedAt auditId : String) :
    Job Store (Option Task) := do
  let task ← submitWrite <| claimTransaction agentId assignedAt fun task => do
    insertAuditEvent (assignedAuditEvent auditId agentId assignedAt task)
    commit
  if task.isSome then notifyTaskQueueChanged
  pure task

/-- The asynchronous claim writes no audit event and notifies inside the write. -/
def asyncClaimNextTaskForAgent (agentId assignedAt : String) : Job Store (Option Task) :=
  submitWrite <| claimTransaction agentId assignedAt fun _ => do
    commit
    notifyTaskQueueChanged

def findTaskById (taskId : String) : Job Store (Option TaskRow) :=
  executeWithBusyRetry <| query fun store => store.tasks.find taskId

def start (occurredAt : String) (row : TaskRow) : TaskRow :=
  { row with state := .running, assignedAt := some (row.assignedAt.getD occurredAt) }

theorem start_taskId (occurredAt : String) (row : TaskRow) :
    (start occurredAt row).taskId = row.taskId := rfl

def startBody (request : TaskRunning) : Job Store Unit := do
  let changed ← updateTasks (taskIs request.taskId .assigned) (start request.occurredAt)
    (start_taskId _)
  if changed ≠ 1 then fail (.error "task running state transition failed")
  else pure ()

def markTaskRunning (request : TaskRunning) : Job Store Unit := submitWrite (startBody request)

/-- The asynchronous mark reads the state first and asks the protocol's transition table. -/
def asyncStartBody (request : TaskRunning) : Job Store Unit := do
  match ← query fun store => store.tasks.find request.taskId with
  | none => fail (.error "task not found")
  | some row =>
    if canTransitionTaskState row.state .running then startBody request
    else fail (.error "task running state transition failed")

def asyncMarkTaskRunning (request : TaskRunning) : Job Store Unit :=
  submitWrite (asyncStartBody request)

def terminalState : TaskExecutionStatus → TaskState
  | .succeeded => .succeeded
  | .failed => .failed
  | .expired => .expired

def taskResultRow (request : TaskResult) (resultBlob errorBlob : Option Blob) :
    TaskResultRow where
  taskId := request.taskId
  protocolVersion := request.protocolVersion
  requestId := request.requestId
  agentId := request.agentId
  taskType := request.taskType
  occurredAt := request.occurredAt
  status := request.status
  errorCode := request.error.map TaskError.errorCode
  errorRetryable := request.error.map TaskError.retryable
  resultBlob := resultBlob
  errorBlob := errorBlob

def unfinished (taskId : String) (row : TaskRow) : Bool :=
  row.taskId = taskId && !isTerminalTaskState row.state

def finish (request : TaskResult) (row : TaskRow) : TaskRow :=
  { row with state := terminalState request.status, completedAt := some request.occurredAt }

theorem finish_taskId (request : TaskResult) (row : TaskRow) :
    (finish request row).taskId = row.taskId := rfl

/-- The agent whose current upgrade task this is. -/
def upgradeTaskIs (agentId taskId : String) (row : AgentRow) : Bool :=
  row.agentId = agentId && row.lastUpgradeTaskId = some taskId

def settleUpgrade (request : TaskResult) (row : AgentRow) : AgentRow :=
  { row with
    upgradeState := some (if request.status = .succeeded then .waitingReconnect else .failed)
    lastUpgradeError := request.error.map TaskError.errorCode
    lastUpgradeAt := some request.occurredAt }

theorem settleUpgrade_agentId (request : TaskResult) (row : AgentRow) :
    (settleUpgrade request row).agentId = row.agentId := rfl

/-- The agent whose current upgrade task waits for this one. -/
def dependsOn (agentId taskId : String) (store : Store) (row : AgentRow) : Bool :=
  row.agentId = agentId && store.tasks.rows.any fun dependent =>
    row.lastUpgradeTaskId = some dependent.taskId && dependent.prerequisiteTaskId = some taskId

def failDependent (request : TaskResult) (row : AgentRow) : AgentRow :=
  { row with
    upgradeState := some .failed
    lastUpgradeError := some ((request.error.map TaskError.errorCode).getD .taskExecutionFailed)
    lastUpgradeAt := some request.occurredAt }

theorem failDependent_agentId (request : TaskResult) (row : AgentRow) :
    (failDependent request row).agentId = row.agentId := rfl

/-- The follow-up writes on the agent row. -/
def settleUpgradeOfResult (request : TaskResult) : Job Store Unit :=
  if request.taskType = .packageUpdate then do
    let _ ← updateAgents (fun _ => upgradeTaskIs request.agentId request.taskId)
      (settleUpgrade request) (settleUpgrade_agentId _)
    if request.status ≠ .succeeded then do
      let _ ← updateAgents (dependsOn request.agentId request.taskId) (failDependent request)
        (failDependent_agentId _)
      pure ()
    else pure ()
  else pure ()

/-- Insert the result and finish the task; `followUp` is what else the write does. -/
def resultBody (request : TaskResult) (resultBlob errorBlob : Option Blob)
    (followUp : Job Store Unit) : Job Store (Ending Unit) := do
  insertTaskResult (taskResultRow request resultBlob errorBlob)
  let changed ← updateTasks (unfinished request.taskId) (finish request) (finish_taskId _)
  if changed ≠ 1 then fail (.error "task result state transition failed")
  else do
    followUp
    commit
    pure (.committed ())

def resultTransaction (request : TaskResult) (resultBlob errorBlob : Option Blob)
    (followUp : Job Store Unit) : Job Store Unit :=
  transaction (resultBody request resultBlob errorBlob followUp)

def recordTaskResult (request : TaskResult) (resultBlob errorBlob : Option Blob) :
    Job Store Unit := do
  submitWrite <|
    resultTransaction request resultBlob errorBlob (settleUpgradeOfResult request)
  notifyTaskQueueChanged

/-- The asynchronous result write leaves the agents alone and notifies nobody. -/
def asyncRecordTaskResult (request : TaskResult) (resultBlob errorBlob : Option Blob) :
    Job Store Unit :=
  submitWrite <| resultTransaction request resultBlob errorBlob (pure ())

def agentIs (agentId : String) (row : AgentRow) : Bool := row.agentId = agentId

def setDesired (desiredVersion desiredPackageId : String) (setBy : Option String)
    (setAt taskId : String) (row : AgentRow) : AgentRow :=
  { row with
    desiredVersion := some desiredVersion
    desiredPackageId := some desiredPackageId
    desiredSetAt := some setAt
    desiredSetBy := setBy
    upgradeState := some .queued
    lastUpgradeTaskId := some taskId
    lastUpgradeError := none }

theorem setDesired_agentId (desiredVersion desiredPackageId : String) (setBy : Option String)
    (setAt taskId : String) (row : AgentRow) :
    (setDesired desiredVersion desiredPackageId setBy setAt taskId row).agentId = row.agentId :=
  rfl

def insertUpgradeTasks (task : Task) : Option Task → Job Store Unit
  | some prerequisite => do
    insertQueuedTask prerequisite none
    insertQueuedTask task (some prerequisite.taskId)
  | none => insertQueuedTask task none

def scheduleAgentUpgrade (agentId desiredVersion desiredPackageId : String)
    (setBy : Option String) (setAt : String) (task : Task) (prerequisiteTask : Option Task) :
    Job Store Unit := do
  submitWrite <| transaction do
    let changed ← updateAgents (fun _ => agentIs agentId)
      (setDesired desiredVersion desiredPackageId setBy setAt task.taskId)
      (setDesired_agentId _ _ _ _ _)
    if changed ≠ 1 then fail (.error "agent not found for upgrade")
    else do
      insertUpgradeTasks task prerequisiteTask
      commit
      pure (.committed ())
  notifyTaskQueueChanged

def clearDesired (row : AgentRow) : AgentRow :=
  { row with desiredVersion := none, desiredPackageId := none }

theorem clearDesired_agentId (row : AgentRow) : (clearDesired row).agentId = row.agentId := rfl

/-- The second write of a rollback. -/
def clearDesiredTarget (agentId taskId : String) : Job Store Unit :=
  submitWrite do
    let _ ← updateAgents (fun _ => upgradeTaskIs agentId taskId) clearDesired clearDesired_agentId
    pure ()

def scheduleAgentRollback (agentId : String) (setBy : Option String) (setAt : String)
    (task : Task) : Job Store Unit := do
  scheduleAgentUpgrade agentId "" "" setBy setAt task none
  clearDesiredTarget agentId task.taskId

/-! What an operation does when it returns, and that it does nothing when it fails -/

theorem changes_taskIs (tasks : Table TaskRow TaskRow.taskId) (taskId : String)
    (state : TaskState) :
    tasks.changes (taskIs taskId state) = 1 ↔
      ∃ row, tasks.find taskId = some row ∧ row.state = state := by
  rw [tasks.changes_pinned (taskIs taskId state) taskId (by simp [taskIs]; tauto)]
  cases found : tasks.find taskId with
  | none => simp
  | some row => simp [taskIs, Table.find_key found]

theorem changes_unfinished (tasks : Table TaskRow TaskRow.taskId) (taskId : String) :
    tasks.changes (unfinished taskId) = 1 ↔
      ∃ row, tasks.find taskId = some row ∧ isTerminalTaskState row.state = false := by
  rw [tasks.changes_pinned (unfinished taskId) taskId (by simp [unfinished]; tauto)]
  cases found : tasks.find taskId with
  | none => simp
  | some row => simp [unfinished, Table.find_key found]

theorem changes_agentIs (agents : Table AgentRow AgentRow.agentId) (agentId : String) :
    agents.changes (agentIs agentId) = 1 ↔ (agents.find agentId).isSome := by
  rw [agents.changes_pinned (agentIs agentId) agentId (by simp [agentIs])]
  cases found : agents.find agentId with
  | none => simp
  | some row => simp [agentIs, Table.find_key found]

def assignTask (tasks : Table TaskRow TaskRow.taskId) (taskId assignedAt : String) :
    Table TaskRow TaskRow.taskId :=
  tasks.update (taskIs taskId .queued) (assign assignedAt) (assign_taskId _)

def startTask (tasks : Table TaskRow TaskRow.taskId) (taskId occurredAt : String) :
    Table TaskRow TaskRow.taskId :=
  tasks.update (taskIs taskId .assigned) (start occurredAt) (start_taskId _)

def finishTask (tasks : Table TaskRow TaskRow.taskId) (request : TaskResult) :
    Table TaskRow TaskRow.taskId :=
  tasks.update (unfinished request.taskId) (finish request) (finish_taskId _)

theorem insertQueuedTask_ok {task : Task} {prerequisiteTaskId : Option String}
    {s s' : Session Store} {u : Unit}
    (done : insertQueuedTask task prerequisiteTaskId s = (.ok u, s')) :
    ∃ input tasks, serializeTaskInputBlob task.taskType task.input = .ok input ∧
      s.state.tasks.insert (queuedTaskRow task input prerequisiteTaskId) = some tasks ∧
      s'.state = { s.state with tasks := tasks } := by
  unfold insertQueuedTask at done
  cases serialized : serializeTaskInputBlob task.taskType task.input with
  | ok input =>
    rw [serialized] at done
    obtain ⟨tasks, inserted, after⟩ := insertRow_ok done
    exact ⟨input, tasks, rfl, inserted, after⟩
  | error e =>
    rw [serialized] at done
    cases done

theorem insertQueuedTask_atomic (task : Task) (prerequisiteTaskId : Option String) :
    Atomic (insertQueuedTask task prerequisiteTaskId) := by
  unfold insertQueuedTask
  split
  · exact insertRow_atomic
  · exact fail_atomic _

theorem enqueueTask_atomic (task : Task) : Atomic (enqueueTask task) :=
  bind_total_atomic (submitWrite_atomic (insertQueuedTask_atomic task none))
    fun _ s e s' => notify_never_fails s s' e

theorem enqueueTask_ok {task : Task} {s s' : Session Store} {u : Unit}
    (done : enqueueTask task s = (.ok u, s')) :
    ∃ input tasks, serializeTaskInputBlob task.taskType task.input = .ok input ∧
      s.state.tasks.insert (queuedTaskRow task input none) = some tasks ∧
      s'.state = { s.state with
        tasks := tasks, taskQueueVersion := s.state.taskQueueVersion + 1 } := by
  obtain ⟨_, middle, wrote, notified⟩ := bind_ok done
  obtain ⟨start, same, ran⟩ := submitWrite_ok (insertQueuedTask_atomic task none) wrote
  obtain ⟨input, tasks, serialized, inserted, after⟩ := insertQueuedTask_ok ran
  refine ⟨input, tasks, serialized, by rw [← same]; exact inserted, ?_⟩
  rw [notify_ok notified, after, same]

theorem asyncEnqueueTask_atomic (task : Task) : Atomic (asyncEnqueueTask task) :=
  submitWrite_atomic <| bind_total_atomic (insertQueuedTask_atomic task none)
    fun _ s e s' => notify_never_fails s s' e

theorem asyncEnqueueTask_ok {task : Task} {s s' : Session Store} {u : Unit}
    (done : asyncEnqueueTask task s = (.ok u, s')) :
    ∃ input tasks, serializeTaskInputBlob task.taskType task.input = .ok input ∧
      s.state.tasks.insert (queuedTaskRow task input none) = some tasks ∧
      s'.state = { s.state with
        tasks := tasks, taskQueueVersion := s.state.taskQueueVersion + 1 } := by
  obtain ⟨start, same, ran⟩ := submitWrite_ok
    (bind_total_atomic (insertQueuedTask_atomic task none)
      fun _ s e s' => notify_never_fails s s' e) done
  obtain ⟨_, middle, wrote, notified⟩ := bind_ok ran
  obtain ⟨input, tasks, serialized, inserted, after⟩ := insertQueuedTask_ok wrote
  refine ⟨input, tasks, serialized, by rw [← same]; exact inserted, ?_⟩
  rw [notify_ok notified, after, same]

theorem selectClaimable_mem {agentId assignedAt : String} {store : Store} {row : TaskRow}
    (selected : selectClaimable agentId assignedAt store = some row) :
    row ∈ store.tasks.rows ∧ claimable store agentId assignedAt row = true := by
  have member : row ∈ store.tasks.rows.filter (claimable store agentId assignedAt) :=
    List.argmin_mem selected
  exact List.mem_filter.mp member

theorem selectClaimable_oldest {agentId assignedAt : String} {store : Store}
    {row other : TaskRow} (selected : selectClaimable agentId assignedAt store = some row)
    (member : other ∈ store.tasks.rows)
    (eligible : claimable store agentId assignedAt other = true) :
    row.createdAt ≤ other.createdAt :=
  List.le_of_mem_argmin (List.mem_filter.mpr ⟨member, eligible⟩) selected

theorem selectClaimable_none_iff (agentId assignedAt : String) (store : Store) :
    selectClaimable agentId assignedAt store = none ↔
      ∀ row ∈ store.tasks.rows, claimable store agentId assignedAt row = false := by
  simp [selectClaimable, List.argmin_eq_none, List.filter_eq_nil_iff]

theorem selectClaimable_queued {agentId assignedAt : String} {store : Store} {row : TaskRow}
    (selected : selectClaimable agentId assignedAt store = some row) :
    store.tasks.find row.taskId = some row ∧ row.state = .queued ∧ row.agentId = agentId := by
  obtain ⟨member, eligible⟩ := selectClaimable_mem selected
  simp only [claimable, Bool.and_eq_true, decide_eq_true_eq] at eligible
  exact ⟨Table.find_of_mem member, eligible.1.1.2, eligible.1.1.1⟩

theorem claim_update_changes {agentId assignedAt : String} {store : Store} {row : TaskRow}
    (selected : selectClaimable agentId assignedAt store = some row) :
    store.tasks.changes (taskIs row.taskId .queued) = 1 := by
  obtain ⟨found, queued, _⟩ := selectClaimable_queued selected
  exact (changes_taskIs store.tasks row.taskId .queued).mpr ⟨row, found, queued⟩

theorem claimBody_ok {agentId assignedAt : String} {finishing : Task → Job Store Unit}
    {s s' : Session Store} {ending : Ending (Option Task)}
    (done : claimBody agentId assignedAt finishing s = (.ok ending, s')) :
    (ending = .abandoned none ∧ selectClaimable agentId assignedAt s.state = none) ∨
    ∃ row middle u, selectClaimable agentId assignedAt s.state = some row ∧
      ending = .committed (some (storedTask row)) ∧
      middle.state = { s.state with
        tasks := assignTask s.state.tasks row.taskId assignedAt } ∧
      finishing (storedTask row) middle = (.ok u, s') := by
  obtain ⟨picked, queried, read, rest⟩ := bind_ok done
  obtain ⟨picked_eq, unchanged⟩ := query_ok read
  cases picked with
  | none =>
    obtain ⟨ending_eq, _⟩ := pure_ok rest
    exact Or.inl ⟨ending_eq.symm, picked_eq.symm⟩
  | some row =>
    obtain ⟨changed, updated, wrote, rest⟩ := bind_ok rest
    obtain ⟨count, afterUpdate⟩ := updateTasks_ok wrote
    have one : changed = 1 := by
      rw [count, unchanged]
      exact claim_update_changes picked_eq.symm
    subst one
    obtain ⟨u, _, finished, rest⟩ := bind_ok rest
    obtain ⟨ending_eq, rfl⟩ := pure_ok rest
    refine Or.inr ⟨row, updated, u, picked_eq.symm, ending_eq.symm, ?_, finished⟩
    rw [afterUpdate, unchanged]
    rfl

theorem claimTransaction_atomic (agentId assignedAt : String)
    (finishing : Task → Job Store Unit) :
    Atomic (claimTransaction agentId assignedAt finishing) := transaction_atomic _

theorem claimTransaction_ok {agentId assignedAt : String} {finishing : Task → Job Store Unit}
    {s s' : Session Store} {result : Option Task}
    (done : claimTransaction agentId assignedAt finishing s = (.ok result, s')) :
    (result = none ∧ selectClaimable agentId assignedAt s.state = none ∧
      s'.state = s.state) ∨
    ∃ row middle u, selectClaimable agentId assignedAt s.state = some row ∧
      result = some (storedTask row) ∧
      middle.state = { s.state with
        tasks := assignTask s.state.tasks row.taskId assignedAt } ∧
      finishing (storedTask row) middle = (.ok u, s') := by
  obtain ⟨start, same, ended⟩ := transaction_ok done
  rw [← same]
  rcases ended with ran | ⟨inner, ran, kept⟩
  · rcases claimBody_ok ran with ⟨ending_eq, _⟩ | ⟨row, middle, u, selected, ending_eq, rest⟩
    · cases ending_eq
    · cases ending_eq
      exact Or.inr ⟨row, middle, u, selected, rfl, rest⟩
  · rcases claimBody_ok ran with ⟨ending_eq, unselected⟩ | ⟨_, _, _, _, ending_eq, _⟩
    · cases ending_eq
      exact Or.inl ⟨rfl, unselected, kept.trans same.symm⟩
    · cases ending_eq

/-- A job that hands nothing out leaves the store alone; one that does assigns the row it
    selected and returns its task. -/
theorem claimNextTaskForAgent_audited {agentId assignedAt auditId : String}
    {s s' : Session Store} {result : Option Task}
    (done : claimNextTaskForAgent agentId assignedAt auditId s = (.ok result, s')) :
    (result = none ∧ selectClaimable agentId assignedAt s.state = none ∧
      s'.state = s.state) ∨
    ∃ row events, selectClaimable agentId assignedAt s.state = some row ∧
      result = some (storedTask row) ∧
      s.state.auditEvents.insert
        (assignedAuditEvent auditId agentId assignedAt (storedTask row)) = some events ∧
      s'.state = { s.state with
        tasks := assignTask s.state.tasks row.taskId assignedAt
        auditEvents := events
        taskQueueVersion := s.state.taskQueueVersion + 1 } := by
  obtain ⟨claimed, middle, wrote, rest⟩ := bind_ok done
  obtain ⟨start, same, ran⟩ := submitWrite_ok (claimTransaction_atomic _ _ _) wrote
  rcases claimTransaction_ok ran with
    ⟨rfl, unselected, unchanged⟩ | ⟨row, assigned, u, selected, rfl, afterAssign, finished⟩
  · obtain ⟨rfl, rfl⟩ := pure_ok rest
    rw [same] at unselected unchanged
    exact Or.inl ⟨rfl, unselected, unchanged⟩
  · obtain ⟨_, notified, notifies, rest⟩ := bind_ok rest
    obtain ⟨rfl, rfl⟩ := pure_ok rest
    obtain ⟨_, audited, inserted, commits⟩ := bind_ok finished
    obtain ⟨events, fresh, afterAudit⟩ := insertRow_ok inserted
    rw [afterAssign, same] at fresh
    refine Or.inr ⟨row, events, by rw [← same]; exact selected, rfl, fresh, ?_⟩
    rw [notify_ok notifies, commit_ok commits, afterAudit, afterAssign, same]

theorem claimNextTaskForAgent_ok {agentId assignedAt auditId : String} {s s' : Session Store}
    {result : Option Task}
    (done : claimNextTaskForAgent agentId assignedAt auditId s = (.ok result, s')) :
    (result = none ∧ selectClaimable agentId assignedAt s.state = none ∧
      s'.state = s.state) ∨
    ∃ row events, selectClaimable agentId assignedAt s.state = some row ∧
      result = some (storedTask row) ∧
      s'.state = { s.state with
        tasks := assignTask s.state.tasks row.taskId assignedAt
        auditEvents := events
        taskQueueVersion := s.state.taskQueueVersion + 1 } := by
  rcases claimNextTaskForAgent_audited done with nothing | ⟨row, events, selected, same, _, after⟩
  · exact Or.inl nothing
  · exact Or.inr ⟨row, events, selected, same, after⟩

theorem claimNextTaskForAgent_atomic (agentId assignedAt auditId : String) :
    Atomic (claimNextTaskForAgent agentId assignedAt auditId) := by
  apply bind_total_atomic (submitWrite_atomic (claimTransaction_atomic _ _ _))
  intro claimed s e s' failed
  cases claimed with
  | none => cases failed
  | some task => cases failed

theorem asyncClaimNextTaskForAgent_ok {agentId assignedAt : String} {s s' : Session Store}
    {result : Option Task}
    (done : asyncClaimNextTaskForAgent agentId assignedAt s = (.ok result, s')) :
    (result = none ∧ selectClaimable agentId assignedAt s.state = none ∧
      s'.state = s.state) ∨
    ∃ row, selectClaimable agentId assignedAt s.state = some row ∧
      result = some (storedTask row) ∧
      s'.state = { s.state with
        tasks := assignTask s.state.tasks row.taskId assignedAt
        taskQueueVersion := s.state.taskQueueVersion + 1 } := by
  obtain ⟨start, same, ran⟩ := submitWrite_ok (claimTransaction_atomic _ _ _) done
  rw [← same]
  rcases claimTransaction_ok ran with
    nothing | ⟨row, assigned, u, selected, rfl, afterAssign, finished⟩
  · exact Or.inl nothing
  · obtain ⟨_, committed, commits, notifies⟩ := bind_ok finished
    refine Or.inr ⟨row, selected, rfl, ?_⟩
    rw [notify_ok notifies, commit_ok commits, afterAssign]

theorem asyncClaimNextTaskForAgent_atomic (agentId assignedAt : String) :
    Atomic (asyncClaimNextTaskForAgent agentId assignedAt) :=
  submitWrite_atomic (claimTransaction_atomic _ _ _)

/-- The update of an unfinished task is refused when it reaches no row. -/
theorem update_of_no_change {tasks : Table TaskRow TaskRow.taskId} {selects : TaskRow → Bool}
    {change : TaskRow → TaskRow} {keeps : ∀ r, (change r).taskId = r.taskId} {taskId : String}
    (pinned : ∀ r, selects r = true → r.taskId = taskId) (missed : tasks.changes selects ≠ 1) :
    tasks.update selects change keeps = tasks := by
  apply Table.update_of_unselected
  intro row member
  by_contra chosen
  have chosen : selects row = true := by simpa using chosen
  apply missed
  rw [tasks.changes_pinned selects taskId pinned]
  have found := Table.find_of_mem member
  rw [pinned row chosen] at found
  simp [found, chosen]

theorem taskIs_pinned (taskId : String) (state : TaskState) (row : TaskRow)
    (chosen : taskIs taskId state row = true) : row.taskId = taskId := by
  simp only [taskIs, Bool.and_eq_true, decide_eq_true_eq] at chosen
  exact chosen.1

theorem unfinished_pinned (taskId : String) (row : TaskRow)
    (chosen : unfinished taskId row = true) : row.taskId = taskId := by
  simp only [unfinished, Bool.and_eq_true, decide_eq_true_eq] at chosen
  exact chosen.1

theorem startBody_atomic (request : TaskRunning) :
    Atomic (startBody request) := by
  intro s e s' failed
  rcases bind_error failed with early | ⟨changed, updated, wrote, late⟩
  · exact statement_atomic _ s e s' early
  · obtain ⟨count, afterUpdate⟩ := updateTasks_ok wrote
    by_cases missed : changed ≠ 1
    · rw [if_pos missed] at late
      cases late
      have unchanged : startTask s.state.tasks request.taskId request.occurredAt =
          s.state.tasks :=
        update_of_no_change (taskIs_pinned _ _) (by rw [← count]; exact missed)
      rw [afterUpdate]
      exact congrArg (fun tasks => { s.state with tasks := tasks }) unchanged
    · rw [if_neg missed] at late
      cases late

theorem markTaskRunning_atomic (request : TaskRunning) : Atomic (markTaskRunning request) :=
  submitWrite_atomic (startBody_atomic request)

theorem startBody_ok {request : TaskRunning} {s s' : Session Store} {u : Unit}
    (done : startBody request s = (.ok u, s')) :
    (∃ row, s.state.tasks.find request.taskId = some row ∧ row.state = .assigned) ∧
      s'.state = { s.state with
        tasks := startTask s.state.tasks request.taskId request.occurredAt } := by
  obtain ⟨changed, updated, wrote, rest⟩ := bind_ok done
  obtain ⟨count, afterUpdate⟩ := updateTasks_ok wrote
  by_cases missed : changed ≠ 1
  · rw [if_pos missed] at rest
    cases rest
  · rw [if_neg missed] at rest
    obtain ⟨_, rfl⟩ := pure_ok rest
    refine ⟨(changes_taskIs _ _ _).mp ?_, afterUpdate⟩
    rw [← count]
    exact not_not.mp missed

theorem markTaskRunning_ok {request : TaskRunning} {s s' : Session Store} {u : Unit}
    (done : markTaskRunning request s = (.ok u, s')) :
    (∃ row, s.state.tasks.find request.taskId = some row ∧ row.state = .assigned) ∧
      s'.state = { s.state with
        tasks := startTask s.state.tasks request.taskId request.occurredAt } := by
  obtain ⟨begun, same, ran⟩ := submitWrite_ok (startBody_atomic request) done
  rw [← same]
  exact startBody_ok ran

theorem asyncStartBody_atomic (request : TaskRunning) : Atomic (asyncStartBody request) := by
  apply bind_atomic (query_atomic _) (fun s row s' read => (query_ok read).2)
  intro found
  cases found with
  | none => exact fail_atomic _
  | some row =>
    by_cases allowed : canTransitionTaskState row.state .running
    · simp only [allowed, if_true]
      exact startBody_atomic request
    · simp only [allowed]
      exact fail_atomic _

theorem asyncMarkTaskRunning_atomic (request : TaskRunning) :
    Atomic (asyncMarkTaskRunning request) := submitWrite_atomic (asyncStartBody_atomic request)

/-- The table and the where clause agree, so both marks do the same. -/
theorem asyncMarkTaskRunning_ok {request : TaskRunning} {s s' : Session Store} {u : Unit}
    (done : asyncMarkTaskRunning request s = (.ok u, s')) :
    (∃ row, s.state.tasks.find request.taskId = some row ∧ row.state = .assigned) ∧
      s'.state = { s.state with
        tasks := startTask s.state.tasks request.taskId request.occurredAt } := by
  obtain ⟨begun, same, ran⟩ := submitWrite_ok (asyncStartBody_atomic request) done
  rw [← same]
  obtain ⟨found, queried, read, rest⟩ := bind_ok ran
  obtain ⟨found_eq, unchanged⟩ := query_ok read
  rw [← unchanged]
  cases found with
  | none => cases rest
  | some row =>
    by_cases allowed : canTransitionTaskState row.state .running
    · simp only [allowed, if_true] at rest
      exact startBody_ok rest
    · simp only [allowed] at rest
      cases rest

/-- What a result write that returns has done to the tasks and their results. -/
theorem resultTransaction_ok {request : TaskResult} {resultBlob errorBlob : Option Blob}
    {followUp : Job Store Unit} {s s' : Session Store} {u : Unit}
    (done : resultTransaction request resultBlob errorBlob followUp s = (.ok u, s')) :
    ∃ row results middle u', s.state.tasks.find request.taskId = some row ∧
      isTerminalTaskState row.state = false ∧
      s.state.taskResults.insert (taskResultRow request resultBlob errorBlob) = some results ∧
      middle.state = { s.state with
        tasks := finishTask s.state.tasks request, taskResults := results } ∧
      ∃ after, followUp middle = (.ok u', after) ∧ s'.state = after.state := by
  obtain ⟨start, same, ended⟩ := transaction_ok done
  rw [← same]
  have body : ∀ ending final, resultBody request resultBlob errorBlob followUp start =
      (.ok ending, final) → ending = .committed () ∧
      ∃ row results middle u', start.state.tasks.find request.taskId = some row ∧
        isTerminalTaskState row.state = false ∧
        start.state.taskResults.insert (taskResultRow request resultBlob errorBlob) =
          some results ∧
        middle.state = { start.state with
          tasks := finishTask start.state.tasks request, taskResults := results } ∧
        ∃ after, followUp middle = (.ok u', after) ∧ final.state = after.state := by
    intro ending final ran
    obtain ⟨_, inserted, inserts, rest⟩ := bind_ok ran
    obtain ⟨results, fresh, afterInsert⟩ := insertRow_ok inserts
    obtain ⟨changed, updated, wrote, rest⟩ := bind_ok rest
    obtain ⟨count, afterUpdate⟩ := updateTasks_ok wrote
    by_cases missed : changed ≠ 1
    · rw [if_pos missed] at rest
      cases rest
    · rw [if_neg missed] at rest
      obtain ⟨u', followed, follows, rest⟩ := bind_ok rest
      obtain ⟨_, committed, commits, rest⟩ := bind_ok rest
      obtain ⟨ending_eq, rfl⟩ := pure_ok rest
      rw [afterInsert] at count afterUpdate
      obtain ⟨row, found, open_row⟩ := (changes_unfinished start.state.tasks _).mp
        (count.symm.trans (not_not.mp missed))
      exact ⟨ending_eq.symm, row, results, updated, u', found, open_row, fresh, afterUpdate,
        followed, follows, commit_ok commits⟩
  rcases ended with ran | ⟨inner, ran, _⟩
  · exact (body _ _ ran).2
  · cases (body _ _ ran).1

theorem resultTransaction_atomic (request : TaskResult) (resultBlob errorBlob : Option Blob)
    (followUp : Job Store Unit) :
    Atomic (resultTransaction request resultBlob errorBlob followUp) := transaction_atomic _

theorem recordTaskResult_atomic (request : TaskResult) (resultBlob errorBlob : Option Blob) :
    Atomic (recordTaskResult request resultBlob errorBlob) :=
  bind_total_atomic (submitWrite_atomic (resultTransaction_atomic _ _ _ _))
    fun _ s e s' => notify_never_fails s s' e

theorem asyncRecordTaskResult_atomic (request : TaskResult)
    (resultBlob errorBlob : Option Blob) :
    Atomic (asyncRecordTaskResult request resultBlob errorBlob) :=
  submitWrite_atomic (resultTransaction_atomic _ _ _ _)

/-- The agents after the follow-up writes of a result. -/
def settledAgents (request : TaskResult) (store : Store) : Table AgentRow AgentRow.agentId :=
  if request.taskType = .packageUpdate then
    let settled := store.agents.update (upgradeTaskIs request.agentId request.taskId)
      (settleUpgrade request) (settleUpgrade_agentId _)
    if request.status ≠ .succeeded then
      settled.update (dependsOn request.agentId request.taskId store) (failDependent request)
        (failDependent_agentId _)
    else settled
  else store.agents

theorem settleUpgradeOfResult_ok {request : TaskResult} {s s' : Session Store} {u : Unit}
    (done : settleUpgradeOfResult request s = (.ok u, s')) :
    s'.state = { s.state with agents := settledAgents request s.state } := by
  unfold settleUpgradeOfResult at done
  unfold settledAgents
  by_cases upgrade : request.taskType = .packageUpdate
  · rw [if_pos upgrade] at done ⊢
    obtain ⟨_, settled, settles, rest⟩ := bind_ok done
    obtain ⟨_, afterSettle⟩ := updateAgents_ok settles
    by_cases failed : request.status ≠ .succeeded
    · simp only [if_pos failed] at rest ⊢
      obtain ⟨_, _, fails, rest⟩ := bind_ok rest
      obtain ⟨_, rfl⟩ := pure_ok rest
      rw [(updateAgents_ok fails).2, afterSettle]
      rfl
    · simp only [if_neg failed] at rest ⊢
      obtain ⟨_, rfl⟩ := pure_ok rest
      exact afterSettle
  · rw [if_neg upgrade] at done ⊢
    obtain ⟨_, rfl⟩ := pure_ok done
    rfl

/-- The store after a result of an unfinished task. -/
def recordedStore (request : TaskResult) (results : Table TaskResultRow TaskResultRow.taskId)
    (store : Store) : Store :=
  { store with
    agents := settledAgents request { store with tasks := finishTask store.tasks request }
    tasks := finishTask store.tasks request
    taskResults := results
    taskQueueVersion := store.taskQueueVersion + 1 }

theorem recordTaskResult_ok {request : TaskResult} {resultBlob errorBlob : Option Blob}
    {s s' : Session Store} {u : Unit}
    (done : recordTaskResult request resultBlob errorBlob s = (.ok u, s')) :
    ∃ row results, s.state.tasks.find request.taskId = some row ∧
      isTerminalTaskState row.state = false ∧
      s.state.taskResults.insert (taskResultRow request resultBlob errorBlob) = some results ∧
      s'.state = recordedStore request results s.state := by
  obtain ⟨_, written, wrote, notifies⟩ := bind_ok done
  obtain ⟨begun, same, ran⟩ := submitWrite_ok (resultTransaction_atomic _ _ _ _) wrote
  obtain ⟨row, results, middle, _, found, open_row, fresh, afterFinish, followed, follows,
    kept⟩ := resultTransaction_ok ran
  rw [same] at found fresh
  refine ⟨row, results, found, open_row, fresh, ?_⟩
  rw [notify_ok notifies, kept, settleUpgradeOfResult_ok follows, afterFinish, same]
  rfl

theorem asyncRecordTaskResult_ok {request : TaskResult} {resultBlob errorBlob : Option Blob}
    {s s' : Session Store} {u : Unit}
    (done : asyncRecordTaskResult request resultBlob errorBlob s = (.ok u, s')) :
    ∃ row results, s.state.tasks.find request.taskId = some row ∧
      isTerminalTaskState row.state = false ∧
      s.state.taskResults.insert (taskResultRow request resultBlob errorBlob) = some results ∧
      s'.state = { s.state with
        tasks := finishTask s.state.tasks request, taskResults := results } := by
  obtain ⟨begun, same, ran⟩ := submitWrite_ok (resultTransaction_atomic _ _ _ _) done
  obtain ⟨row, results, middle, _, found, open_row, fresh, afterFinish, followed, follows,
    kept⟩ := resultTransaction_ok ran
  obtain ⟨_, rfl⟩ := pure_ok follows
  rw [same] at found fresh
  refine ⟨row, results, found, open_row, fresh, ?_⟩
  rw [kept, afterFinish, same]

/-- The ids of an upgrade's tasks are new, and they differ. -/
def NewTasks (store : Store) (task : Task) (prerequisite : Option Task) : Prop :=
  store.tasks.find task.taskId = none ∧ ∀ first, prerequisite = some first →
    store.tasks.find first.taskId = none ∧ first.taskId ≠ task.taskId

theorem insertUpgradeTasks_ok {task : Task} {prerequisite : Option Task}
    {s s' : Session Store} {u : Unit}
    (done : insertUpgradeTasks task prerequisite s = (.ok u, s')) :
    ∃ rows tasks, (∀ row ∈ rows, QueuedRowOf (prerequisite.toList ++ [task]) row) ∧
      s.state.tasks.insertAll rows = some tasks ∧
      s'.state = { s.state with tasks := tasks } ∧ NewTasks s.state task prerequisite ∧
      ∃ input, serializeTaskInputBlob task.taskType task.input = .ok input ∧
        tasks.find task.taskId =
          some (queuedTaskRow task input (prerequisite.map Task.taskId)) := by
  cases prerequisite with
  | none =>
    obtain ⟨input, tasks, serialized, inserted, after⟩ := insertQueuedTask_ok done
    have stored : tasks.find task.taskId = some (queuedTaskRow task input none) := by
      rw [Table.find_insert inserted]
      exact if_pos rfl
    refine ⟨[queuedTaskRow task input none], tasks, ?_, by simp [Table.insertAll, inserted],
      after, ⟨(Table.insert_some inserted).1, by simp⟩, input, serialized, stored⟩
    intro row member
    obtain rfl := List.mem_singleton.mp member
    exact ⟨task, by simp, input, none, serialized, rfl⟩
  | some first =>
    obtain ⟨_, middle, before, rest⟩ := bind_ok done
    obtain ⟨input, tasks, serialized, inserted, after⟩ := insertQueuedTask_ok before
    obtain ⟨input', tasks', serialized', inserted', after'⟩ := insertQueuedTask_ok rest
    rw [after] at inserted' after'
    have stored : tasks'.find task.taskId =
        some (queuedTaskRow task input' (some first.taskId)) := by
      rw [Table.find_insert inserted']
      exact if_pos rfl
    have absent : NewTasks s.state task (some first) := by
      have free : tasks.find task.taskId = none := (Table.insert_some inserted').1
      rw [Table.find_insert inserted] at free
      split at free
      · cases free
      · rename_i other
        refine ⟨free, ?_⟩
        rintro _ ⟨⟩
        exact ⟨(Table.insert_some inserted).1, other⟩
    refine ⟨[queuedTaskRow first input none, queuedTaskRow task input' (some first.taskId)],
      tasks', ?_,
      by simpa [Table.insertAll, Option.bind_eq_some_iff, inserted] using inserted', after',
      absent, input', serialized', stored⟩
    intro row member
    rcases List.mem_pair.mp member with rfl | rfl
    · exact ⟨first, by simp, input, none, serialized, rfl⟩
    · exact ⟨task, by simp, input', some first.taskId, serialized', rfl⟩

/-- A schedule that returns has queued the upgrade task. -/
theorem scheduleAgentUpgrade_queues {agentId desiredVersion desiredPackageId setAt : String}
    {setBy : Option String} {task : Task} {prerequisite : Option Task} {s s' : Session Store}
    {u : Unit}
    (done : scheduleAgentUpgrade agentId desiredVersion desiredPackageId setBy setAt task
      prerequisite s = (.ok u, s')) :
    ∃ rows tasks, (∀ row ∈ rows, QueuedRowOf (prerequisite.toList ++ [task]) row) ∧
      s.state.tasks.insertAll rows = some tasks ∧
      s'.state = { s.state with
        agents := s.state.agents.update (agentIs agentId)
          (setDesired desiredVersion desiredPackageId setBy setAt task.taskId)
          (setDesired_agentId _ _ _ _ _)
        tasks := tasks
        taskQueueVersion := s.state.taskQueueVersion + 1 } ∧
      (s.state.agents.find agentId).isSome ∧ NewTasks s.state task prerequisite ∧
      ∃ input, serializeTaskInputBlob task.taskType task.input = .ok input ∧
        tasks.find task.taskId =
          some (queuedTaskRow task input (prerequisite.map Task.taskId)) := by
  obtain ⟨_, written, wrote, notifies⟩ := bind_ok done
  obtain ⟨begun, same, ran⟩ := submitWrite_ok (transaction_atomic _) wrote
  obtain ⟨opened, same', ended⟩ := transaction_ok ran
  rw [same] at same'
  rcases ended with ran | ⟨inner, ran, _⟩
  all_goals
    obtain ⟨changed, updated, wrote, rest⟩ := bind_ok ran
    obtain ⟨count, afterUpdate⟩ := updateAgents_ok wrote
    by_cases missed : changed ≠ 1
    · rw [if_pos missed] at rest
      cases rest
    rw [if_neg missed] at rest
    obtain ⟨_, inserted, inserts, rest⟩ := bind_ok rest
    obtain ⟨_, committed, commits, rest⟩ := bind_ok rest
    obtain ⟨ending_eq, final_eq⟩ := pure_ok rest
    cases ending_eq
  · obtain ⟨rows, tasks, queued, inserted_all, afterInsert, absent, stored⟩ :=
      insertUpgradeTasks_ok inserts
    rw [afterUpdate, same'] at inserted_all absent
    have known : (s.state.agents.find agentId).isSome := by
      rw [same', not_not.mp missed] at count
      exact (changes_agentIs _ _).mp count.symm
    refine ⟨rows, tasks, queued, inserted_all, ?_, known, absent, stored⟩
    rw [notify_ok notifies, final_eq, commit_ok commits, afterInsert, afterUpdate, same']

theorem scheduleAgentUpgrade_ok {agentId desiredVersion desiredPackageId setAt : String}
    {setBy : Option String} {task : Task} {prerequisite : Option Task} {s s' : Session Store}
    {u : Unit}
    (done : scheduleAgentUpgrade agentId desiredVersion desiredPackageId setBy setAt task
      prerequisite s = (.ok u, s')) :
    ∃ rows tasks, (∀ row ∈ rows, QueuedRowOf (prerequisite.toList ++ [task]) row) ∧
      s.state.tasks.insertAll rows = some tasks ∧
      s'.state = { s.state with
        agents := s.state.agents.update (agentIs agentId)
          (setDesired desiredVersion desiredPackageId setBy setAt task.taskId)
          (setDesired_agentId _ _ _ _ _)
        tasks := tasks
        taskQueueVersion := s.state.taskQueueVersion + 1 } := by
  obtain ⟨rows, tasks, queued, inserted, after, _⟩ := scheduleAgentUpgrade_queues done
  exact ⟨rows, tasks, queued, inserted, after⟩

theorem scheduleAgentUpgrade_atomic (agentId desiredVersion desiredPackageId : String)
    (setBy : Option String) (setAt : String) (task : Task) (prerequisite : Option Task) :
    Atomic (scheduleAgentUpgrade agentId desiredVersion desiredPackageId setBy setAt task
      prerequisite) :=
  bind_total_atomic (submitWrite_atomic (transaction_atomic _))
    fun _ s e s' => notify_never_fails s s' e

theorem clearDesiredTarget_agentsOnly (agentId taskId : String) :
    Evolves AgentsOnly (clearDesiredTarget agentId taskId) :=
  submitWrite_evolves agentsOnly_trans <|
    evolves_trans (updateAgents_agentsOnly _ _ _) (fun _ => evolves_pure agentsOnly_refl _)
      agentsOnly_trans

/-! Operations that meet no fault -/

theorem claimTransaction_none {agentId assignedAt : String} {finishing : Task → Job Store Unit}
    {store : Store} (unselected : selectClaimable agentId assignedAt store = none) :
    Succeeds (claimTransaction agentId assignedAt finishing) store none store := by
  have read := succeeds_query (selectClaimable agentId assignedAt) store
  rw [unselected] at read
  exact succeeds_abandoned (succeeds_bind read (succeeds_pure _ _))

theorem claimTransaction_some {agentId assignedAt : String} {finishing : Task → Job Store Unit}
    {store final : Store} {row : TaskRow}
    (selected : selectClaimable agentId assignedAt store = some row)
    (finished : Succeeds (finishing (storedTask row))
      { store with tasks := assignTask store.tasks row.taskId assignedAt } () final) :
    Succeeds (claimTransaction agentId assignedAt finishing) store (some (storedTask row))
      final := by
  have read := succeeds_query (selectClaimable agentId assignedAt) store
  rw [selected] at read
  have wrote := updateTasks_succeeds (taskIs row.taskId .queued) (assign assignedAt)
    (assign_taskId _) store
  rw [claim_update_changes selected] at wrote
  exact succeeds_transaction
    (succeeds_bind read (succeeds_bind wrote (succeeds_bind finished (succeeds_pure _ _))))

theorem asyncClaimNextTaskForAgent_none {agentId assignedAt : String} {store : Store}
    (unselected : selectClaimable agentId assignedAt store = none) :
    Succeeds (asyncClaimNextTaskForAgent agentId assignedAt) store none store :=
  submitWrite_succeeds (claimTransaction_none unselected)

theorem asyncClaimNextTaskForAgent_some {agentId assignedAt : String} {store : Store}
    {row : TaskRow} (selected : selectClaimable agentId assignedAt store = some row) :
    Succeeds (asyncClaimNextTaskForAgent agentId assignedAt) store (some (storedTask row))
      { store with
        tasks := assignTask store.tasks row.taskId assignedAt
        taskQueueVersion := store.taskQueueVersion + 1 } :=
  submitWrite_succeeds (claimTransaction_some selected
    (succeeds_bind (succeeds_execute id _) (succeeds_bookkeep _ _)))

theorem claimNextTaskForAgent_none {agentId assignedAt auditId : String} {store : Store}
    (unselected : selectClaimable agentId assignedAt store = none) :
    Succeeds (claimNextTaskForAgent agentId assignedAt auditId) store none store :=
  succeeds_bind (submitWrite_succeeds (claimTransaction_none unselected))
    (succeeds_pure none store)

theorem claimNextTaskForAgent_some {agentId assignedAt auditId : String} {store : Store}
    {row : TaskRow} (selected : selectClaimable agentId assignedAt store = some row)
    {events : Table AuditEventRow AuditEventRow.auditId}
    (fresh : store.auditEvents.insert
      (assignedAuditEvent auditId agentId assignedAt (storedTask row)) = some events) :
    Succeeds (claimNextTaskForAgent agentId assignedAt auditId) store (some (storedTask row))
      { store with
        tasks := assignTask store.tasks row.taskId assignedAt
        auditEvents := events
        taskQueueVersion := store.taskQueueVersion + 1 } := by
  have audited : Succeeds
      (insertAuditEvent (assignedAuditEvent auditId agentId assignedAt (storedTask row)))
      { store with tasks := assignTask store.tasks row.taskId assignedAt } ()
      { store with
        tasks := assignTask store.tasks row.taskId assignedAt, auditEvents := events } :=
    insertRow_succeeds fresh
  exact succeeds_bind
    (submitWrite_succeeds (claimTransaction_some selected
      (succeeds_bind audited (succeeds_execute id _))))
    (succeeds_bind (succeeds_bookkeep _ _) (succeeds_pure _ _))

theorem settleUpgradeOfResult_succeeds (request : TaskResult) (store : Store) :
    Succeeds (settleUpgradeOfResult request) store ()
      { store with agents := settledAgents request store } := by
  unfold settleUpgradeOfResult settledAgents
  by_cases upgrade : request.taskType = .packageUpdate
  · rw [if_pos upgrade, if_pos upgrade]
    apply succeeds_bind (updateAgents_succeeds _ _ _ _)
    by_cases failed : request.status ≠ .succeeded
    · simp only [if_pos failed]
      exact succeeds_bind (updateAgents_succeeds _ _ _ _) (succeeds_pure _ _)
    · simp only [if_neg failed]
      exact succeeds_pure _ _
  · rw [if_neg upgrade, if_neg upgrade]
    exact succeeds_pure _ _

theorem recordTaskResult_succeeds {request : TaskResult} {resultBlob errorBlob : Option Blob}
    {store : Store} {row : TaskRow} {results : Table TaskResultRow TaskResultRow.taskId}
    (found : store.tasks.find request.taskId = some row)
    (open_row : isTerminalTaskState row.state = false)
    (fresh : store.taskResults.insert (taskResultRow request resultBlob errorBlob) =
      some results) :
    Succeeds (recordTaskResult request resultBlob errorBlob) store ()
      (recordedStore request results store) := by
  have inserted : Succeeds (insertTaskResult (taskResultRow request resultBlob errorBlob)) store
      () { store with taskResults := results } := insertRow_succeeds fresh
  have wrote := updateTasks_succeeds (unfinished request.taskId) (finish request)
    (finish_taskId _) { store with taskResults := results }
  rw [show (Table.changes store.tasks (unfinished request.taskId)) = 1 from
    (changes_unfinished _ _).mpr ⟨row, found, open_row⟩] at wrote
  exact succeeds_bind
    (submitWrite_succeeds (succeeds_transaction
      (succeeds_bind inserted (succeeds_bind wrote
        (succeeds_bind (settleUpgradeOfResult_succeeds request _)
          (succeeds_bind (succeeds_execute id _) (succeeds_pure _ _)))))))
    (succeeds_bookkeep _ _)

theorem asyncRecordTaskResult_succeeds {request : TaskResult}
    {resultBlob errorBlob : Option Blob} {store : Store} {row : TaskRow}
    {results : Table TaskResultRow TaskResultRow.taskId}
    (found : store.tasks.find request.taskId = some row)
    (open_row : isTerminalTaskState row.state = false)
    (fresh : store.taskResults.insert (taskResultRow request resultBlob errorBlob) =
      some results) :
    Succeeds (asyncRecordTaskResult request resultBlob errorBlob) store ()
      { store with tasks := finishTask store.tasks request, taskResults := results } := by
  have inserted : Succeeds (insertTaskResult (taskResultRow request resultBlob errorBlob)) store
      () { store with taskResults := results } := insertRow_succeeds fresh
  have wrote := updateTasks_succeeds (unfinished request.taskId) (finish request)
    (finish_taskId _) { store with taskResults := results }
  rw [show (Table.changes store.tasks (unfinished request.taskId)) = 1 from
    (changes_unfinished _ _).mpr ⟨row, found, open_row⟩] at wrote
  exact submitWrite_succeeds (succeeds_transaction
    (succeeds_bind inserted (succeeds_bind wrote
      (succeeds_bind (succeeds_pure () _)
        (succeeds_bind (succeeds_execute id _) (succeeds_pure _ _))))))

theorem insertQueuedTask_succeeds {task : Task} {input : TaskInput} {store : Store}
    {tasks : Table TaskRow TaskRow.taskId} {prerequisiteTaskId : Option String}
    (serialized : serializeTaskInputBlob task.taskType task.input = .ok input)
    (inserted : store.tasks.insert (queuedTaskRow task input prerequisiteTaskId) = some tasks) :
    Succeeds (insertQueuedTask task prerequisiteTaskId) store ()
      { store with tasks := tasks } := by
  unfold insertQueuedTask
  rw [serialized]
  exact insertRow_succeeds inserted

theorem insertUpgradeTasks_succeeds {task : Task} {prerequisite : Option Task} {store : Store}
    (serialized : ∀ t ∈ prerequisite.toList ++ [task], ∃ input,
      serializeTaskInputBlob t.taskType t.input = .ok input)
    (fresh : NewTasks store task prerequisite) :
    ∃ tasks, Succeeds (insertUpgradeTasks task prerequisite) store ()
      { store with tasks := tasks } := by
  obtain ⟨input, written⟩ := serialized task (by simp)
  cases prerequisite with
  | none =>
    have free := (store.tasks.insert_isSome_iff (queuedTaskRow task input none)).mpr fresh.1
    obtain ⟨tasks, inserted⟩ := Option.isSome_iff_exists.mp free
    exact ⟨tasks, insertQueuedTask_succeeds written inserted⟩
  | some first =>
    obtain ⟨input', written'⟩ := serialized first (by simp)
    obtain ⟨new, differs⟩ := fresh.2 first rfl
    have free := (store.tasks.insert_isSome_iff (queuedTaskRow first input' none)).mpr new
    obtain ⟨tasks, inserted⟩ := Option.isSome_iff_exists.mp free
    have still : tasks.find task.taskId = none := by
      rw [Table.find_insert inserted]
      exact (if_neg differs).trans fresh.1
    have free' :=
      (tasks.insert_isSome_iff (queuedTaskRow task input (some first.taskId))).mpr still
    obtain ⟨tasks', inserted'⟩ := Option.isSome_iff_exists.mp free'
    have second : Succeeds (insertQueuedTask task (some first.taskId))
        { store with tasks := tasks } () { store with tasks := tasks' } :=
      insertQueuedTask_succeeds written inserted'
    exact ⟨tasks', succeeds_bind (insertQueuedTask_succeeds written' inserted) second⟩

theorem scheduleAgentUpgrade_succeeds {agentId : String} {task : Task}
    {prerequisite : Option Task} {store : Store}
    (known : (store.agents.find agentId).isSome)
    (serialized : ∀ t ∈ prerequisite.toList ++ [task], ∃ input,
      serializeTaskInputBlob t.taskType t.input = .ok input)
    (fresh : NewTasks store task prerequisite) (version packageId : String)
    (setBy : Option String) (setAt : String) :
    ∃ final, Succeeds
      (scheduleAgentUpgrade agentId version packageId setBy setAt task prerequisite)
      store () final := by
  have updated := updateAgents_succeeds (fun _ => agentIs agentId)
    (setDesired version packageId setBy setAt task.taskId) (setDesired_agentId _ _ _ _ _) store
  rw [show Table.changes store.agents (agentIs agentId) = 1 from
    (changes_agentIs _ _).mpr known] at updated
  obtain ⟨tasks, inserts⟩ := @insertUpgradeTasks_succeeds task prerequisite
    { store with
      agents := store.agents.update (agentIs agentId)
        (setDesired version packageId setBy setAt task.taskId) (setDesired_agentId _ _ _ _ _) }
    serialized fresh
  exact ⟨_, succeeds_bind
    (submitWrite_succeeds (succeeds_transaction (succeeds_bind updated
      (succeeds_bind inserts (succeeds_bind (succeeds_execute id _) (succeeds_pure _ _))))))
    (succeeds_bookkeep _ _)⟩

end TaskStore
