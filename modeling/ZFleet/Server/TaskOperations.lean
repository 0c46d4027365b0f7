import ZFleet.Foundations.Ledgers
import ZFleet.Foundations.Runs
import ZFleet.Server.AgentStore
import ZFleet.Server.TaskStore

/-!
Calls of the server database and what one call can do to the tasks. Whatever the
engine answers, a call inserts queued tasks, or moves one task one step, or finishes
one task together with its result, or leaves tasks and results alone. Read as a
ledger of tasks, every call is a run of ledger steps.
-/
namespace TaskOperations
open Message KeyedTables Transactions Ledgers Schema AgentStore TaskStore

/-- Creating tasks and handing them out. -/
inductive QueueOp where
  | enqueueTask (task : Task)
  | asyncEnqueueTask (task : Task)
  | scheduleAgentUpgrade (agentId desiredVersion desiredPackageId : String)
      (setBy : Option String) (setAt : String) (task : Task) (prerequisite : Option Task)
  | scheduleAgentRollback (agentId : String) (setBy : Option String) (setAt : String)
      (task : Task)
  | claimNextTaskForAgent (agentId assignedAt auditId : String)
  | asyncClaimNextTaskForAgent (agentId assignedAt : String)

/-- What the agents report about their tasks. -/
inductive ReportOp where
  | markTaskRunning (request : TaskRunning)
  | asyncMarkTaskRunning (request : TaskRunning)
  | recordTaskResult (request : TaskResult) (resultBlob errorBlob : Option Blob)
  | asyncRecordTaskResult (request : TaskResult) (resultBlob errorBlob : Option Blob)

inductive AgentOp where
  | upsertAgent (request : AgentRegistration)
  | asyncUpsertAgent (request : AgentRegistration)
  | markAgentOffline (agentId disconnectedAt : String)
  | expireWaitingReconnect (datetime : String → Option Int) (now : String)
  | createRegistrationToken (token : RegistrationTokenRow)
  | consumeRegistrationToken (tokenHash platform arch usedAt : String)
  | revokeRegistrationToken (tokenId revokedAt : String)
  | recordAssetSnapshot (request : AssetSnapshot) (eventBlob : Blob)
  | recordAuditEvent (event : AuditEventRow)

inductive StoreOp where
  | queue (op : QueueOp)
  | report (op : ReportOp)
  | agent (op : AgentOp)

/-- Only claims answer with a task. -/
def executeQueue : QueueOp → Job Store (Option Task)
  | .enqueueTask task => do enqueueTask task; pure none
  | .asyncEnqueueTask task => do asyncEnqueueTask task; pure none
  | .scheduleAgentUpgrade agentId version packageId setBy setAt task prerequisite => do
    scheduleAgentUpgrade agentId version packageId setBy setAt task prerequisite
    pure none
  | .scheduleAgentRollback agentId setBy setAt task => do
    scheduleAgentRollback agentId setBy setAt task
    pure none
  | .claimNextTaskForAgent agentId assignedAt auditId =>
    claimNextTaskForAgent agentId assignedAt auditId
  | .asyncClaimNextTaskForAgent agentId assignedAt =>
    asyncClaimNextTaskForAgent agentId assignedAt

def executeReport : ReportOp → Job Store Unit
  | .markTaskRunning request => markTaskRunning request
  | .asyncMarkTaskRunning request => asyncMarkTaskRunning request
  | .recordTaskResult request resultBlob errorBlob =>
    recordTaskResult request resultBlob errorBlob
  | .asyncRecordTaskResult request resultBlob errorBlob =>
    asyncRecordTaskResult request resultBlob errorBlob

def executeAgent : AgentOp → Job Store Unit
  | .upsertAgent request => upsertAgent request
  | .asyncUpsertAgent request => asyncUpsertAgent request
  | .markAgentOffline agentId disconnectedAt => markAgentOffline agentId disconnectedAt
  | .expireWaitingReconnect datetime now => do
    let _ ← expireWaitingReconnect datetime now
    pure ()
  | .createRegistrationToken token => createRegistrationToken token
  | .consumeRegistrationToken tokenHash platform arch usedAt => do
    let _ ← consumeRegistrationToken tokenHash platform arch usedAt
    pure ()
  | .revokeRegistrationToken tokenId revokedAt => do
    let _ ← revokeRegistrationToken tokenId revokedAt
    pure ()
  | .recordAssetSnapshot request eventBlob => recordAssetSnapshot request eventBlob
  | .recordAuditEvent event => recordAuditEvent event

def executeOp : StoreOp → Job Store (Option Task)
  | .queue op => executeQueue op
  | .report op => do executeReport op; pure none
  | .agent op => do executeAgent op; pure none

/-- One call and what the engine answers to its statements. -/
structure Call where
  op : StoreOp
  faults : List (Option Fault)

def reply (store : Store) (call : Call) : Except Failure (Option Task) :=
  (executeOp call.op ⟨store, call.faults⟩).1

def step (store : Store) (call : Call) : Store := (executeOp call.op ⟨store, call.faults⟩).2.state

/-- The tasks a call may create. -/
def createdTasks : StoreOp → List Task
  | .queue (.enqueueTask task) => [task]
  | .queue (.asyncEnqueueTask task) => [task]
  | .queue (.scheduleAgentUpgrade _ _ _ _ _ task prerequisite) => prerequisite.toList ++ [task]
  | .queue (.scheduleAgentRollback _ _ _ task) => [task]
  | _ => []

/-- The results a call may record. -/
def reportedResults : StoreOp → List TaskResult
  | .report (.recordTaskResult request _ _) => [request]
  | .report (.asyncRecordTaskResult request _ _) => [request]
  | _ => []

/-- All that one call can do to the tasks and their results. -/
inductive TaskEffect (created : List Task) (reported : List TaskResult) (before after : Store) :
    Prop where
  | quiet : after.tasks = before.tasks → after.taskResults = before.taskResults →
      TaskEffect created reported before after
  | queued (rows : List TaskRow) : (∀ row ∈ rows, QueuedRowOf created row) →
      before.tasks.insertAll rows = some after.tasks →
      after.taskResults = before.taskResults → TaskEffect created reported before after
  | assigned (row : TaskRow) (assignedAt : String) :
      before.tasks.find row.taskId = some row → row.state = .queued →
      after.tasks = assignTask before.tasks row.taskId assignedAt →
      after.taskResults = before.taskResults → TaskEffect created reported before after
  | started (row : TaskRow) (occurredAt : String) :
      before.tasks.find row.taskId = some row → row.state = .assigned →
      after.tasks = startTask before.tasks row.taskId occurredAt →
      after.taskResults = before.taskResults → TaskEffect created reported before after
  | finished (row : TaskRow) (request : TaskResult) (resultBlob errorBlob : Option Blob) :
      request ∈ reported → before.tasks.find request.taskId = some row → isTerminalTaskState row.state = false →
      after.tasks = finishTask before.tasks request →
      before.taskResults.insert (taskResultRow request resultBlob errorBlob) =
        some after.taskResults → TaskEffect created reported before after

variable {created : List Task} {reported : List TaskResult}

theorem TaskEffect.refl (store : Store) : TaskEffect created reported store store := .quiet rfl rfl

/-- An effect may be preceded and followed by parts that leave the tasks alone. -/
theorem TaskEffect.frame {a b c d : Store} (first : SameTasks a b)
    (effect : TaskEffect created reported b c) (last : SameTasks c d) :
    TaskEffect created reported a d := by
  cases effect with
  | quiet tasks results =>
    exact .quiet (by rw [last.tasks, tasks, first.tasks])
      (by rw [last.taskResults, results, first.taskResults])
  | queued rows queued inserted results =>
    rw [first.tasks, ← last.tasks] at inserted
    exact .queued rows queued inserted (by rw [last.taskResults, results, first.taskResults])
  | assigned row assignedAt found state tasks results =>
    rw [first.tasks] at found tasks
    exact .assigned row assignedAt found state (last.tasks.trans tasks)
      (by rw [last.taskResults, results, first.taskResults])
  | started row occurredAt found state tasks results =>
    rw [first.tasks] at found tasks
    exact .started row occurredAt found state (last.tasks.trans tasks)
      (by rw [last.taskResults, results, first.taskResults])
  | finished row request resultBlob errorBlob recorded found open_row tasks inserted =>
    rw [first.tasks] at found tasks
    rw [first.taskResults, ← last.taskResults] at inserted
    exact .finished row request resultBlob errorBlob recorded found open_row
      (last.tasks.trans tasks) inserted

theorem sameTasks_effect {before after : Store}
    (same : SameTasks before after) : TaskEffect created reported before after := .quiet same.tasks same.taskResults

/-- What a job does is not changed by dropping its value. -/
theorem evolves_discard {α β : Type} {R : Store → Store → Prop} {job : Job Store α} (b : β)
    (evolves : Evolves R job) : Evolves R (job >>= fun _ => pure b) :=
  evolves_bind evolves (fun _ => evolves_pure (fun x => (rfl : x = x)) b) (fun _ _ h => h)
    fun _ y z first (same : y = z) => same ▸ first

theorem insertOne_effect {before after : Store} {task : Task} {input : TaskInput}
    {tasks : Table TaskRow TaskRow.taskId}
    (serialized : serializeTaskInputBlob task.taskType task.input = .ok input)
    (inserted : before.tasks.insert (queuedTaskRow task input none) = some tasks)
    (tasks_eq : after.tasks = tasks) (results : after.taskResults = before.taskResults) :
    TaskEffect [task] [] before after := by
  refine TaskEffect.queued [queuedTaskRow task input none] ?_ ?_ results
  · intro row member
    obtain rfl := List.mem_singleton.mp member
    exact ⟨task, by simp, input, none, serialized, rfl⟩
  · simp [Table.insertAll, inserted, tasks_eq]

theorem enqueueTask_effect (task : Task) : Evolves (TaskEffect [task] []) (enqueueTask task) :=
  evolves_of_atomic (enqueueTask_atomic task) TaskEffect.refl fun s _ s' done => by
    obtain ⟨input, tasks, serialized, inserted, after⟩ := enqueueTask_ok done
    exact insertOne_effect serialized inserted (by rw [after]) (by rw [after])

theorem asyncEnqueueTask_effect (task : Task) :
    Evolves (TaskEffect [task] []) (asyncEnqueueTask task) :=
  evolves_of_atomic (asyncEnqueueTask_atomic task) TaskEffect.refl fun s _ s' done => by
    obtain ⟨input, tasks, serialized, inserted, after⟩ := asyncEnqueueTask_ok done
    exact insertOne_effect serialized inserted (by rw [after]) (by rw [after])

theorem scheduleAgentUpgrade_effect (agentId version packageId : String)
    (setBy : Option String) (setAt : String) (task : Task) (prerequisite : Option Task) :
    Evolves (TaskEffect (prerequisite.toList ++ [task]) [])
      (scheduleAgentUpgrade agentId version packageId setBy setAt task prerequisite) :=
  evolves_of_atomic (scheduleAgentUpgrade_atomic _ _ _ _ _ _ _) TaskEffect.refl
    fun s _ s' done => by
      obtain ⟨rows, tasks, queued, inserted, after⟩ := scheduleAgentUpgrade_ok done
      exact .queued rows queued (by rw [after]; exact inserted) (by rw [after])

theorem scheduleAgentRollback_effect (agentId : String) (setBy : Option String)
    (setAt : String) (task : Task) :
    Evolves (TaskEffect [task] []) (scheduleAgentRollback agentId setBy setAt task) :=
  evolves_bind (scheduleAgentUpgrade_effect agentId "" "" setBy setAt task none)
    (fun _ => clearDesiredTarget_agentsOnly agentId task.taskId) (fun _ _ effect => effect)
    fun x _ _ effect cleared =>
      TaskEffect.frame (sameTasks_refl x) effect (agentsOnly_sameTasks cleared)

theorem claimNextTaskForAgent_effect (agentId assignedAt auditId : String) :
    Evolves (TaskEffect [] []) (claimNextTaskForAgent agentId assignedAt auditId) :=
  evolves_of_atomic (claimNextTaskForAgent_atomic _ _ _) TaskEffect.refl
    fun s _ s' done => by
      rcases claimNextTaskForAgent_ok done with ⟨_, _, same⟩ | ⟨row, events, selected, _, after⟩
      · rw [same]
        exact TaskEffect.refl _
      · obtain ⟨found, state, _⟩ := selectClaimable_queued selected
        exact .assigned row assignedAt found state (by rw [after]) (by rw [after])

theorem asyncClaimNextTaskForAgent_effect (agentId assignedAt : String) :
    Evolves (TaskEffect [] []) (asyncClaimNextTaskForAgent agentId assignedAt) :=
  evolves_of_atomic (asyncClaimNextTaskForAgent_atomic _ _) TaskEffect.refl
    fun s _ s' done => by
      rcases asyncClaimNextTaskForAgent_ok done with ⟨_, _, same⟩ | ⟨row, selected, _, after⟩
      · rw [same]
        exact TaskEffect.refl _
      · obtain ⟨found, state, _⟩ := selectClaimable_queued selected
        exact .assigned row assignedAt found state (by rw [after]) (by rw [after])

theorem startTask_effect {request : TaskRunning} {before after : Store}
    (assigned : ∃ row, before.tasks.find request.taskId = some row ∧ row.state = .assigned)
    (effect : after = { before with
      tasks := startTask before.tasks request.taskId request.occurredAt }) :
    TaskEffect [] [] before after := by
  obtain ⟨row, found, state⟩ := assigned
  have key := Table.find_key found
  rw [← key] at found effect
  exact .started row request.occurredAt found state (by rw [effect]) (by rw [effect])

theorem markTaskRunning_effect (request : TaskRunning) :
    Evolves (TaskEffect [] []) (markTaskRunning request) :=
  evolves_of_atomic (markTaskRunning_atomic request) TaskEffect.refl fun _ _ _ done =>
    startTask_effect (markTaskRunning_ok done).1 (markTaskRunning_ok done).2

theorem asyncMarkTaskRunning_effect (request : TaskRunning) :
    Evolves (TaskEffect [] []) (asyncMarkTaskRunning request) :=
  evolves_of_atomic (asyncMarkTaskRunning_atomic request) TaskEffect.refl fun _ _ _ done =>
    startTask_effect (asyncMarkTaskRunning_ok done).1 (asyncMarkTaskRunning_ok done).2

theorem recordTaskResult_effect (request : TaskResult) (resultBlob errorBlob : Option Blob) :
    Evolves (TaskEffect [] [request]) (recordTaskResult request resultBlob errorBlob) :=
  evolves_of_atomic (recordTaskResult_atomic _ _ _) TaskEffect.refl fun s _ s' done => by
    obtain ⟨row, results, found, open_row, fresh, after⟩ := recordTaskResult_ok done
    exact .finished row request resultBlob errorBlob (by simp) found open_row
      (by rw [after]; rfl) (by rw [after]; exact fresh)

theorem asyncRecordTaskResult_effect (request : TaskResult)
    (resultBlob errorBlob : Option Blob) :
    Evolves (TaskEffect [] [request]) (asyncRecordTaskResult request resultBlob errorBlob) :=
  evolves_of_atomic (asyncRecordTaskResult_atomic _ _ _) TaskEffect.refl fun s _ s' done => by
    obtain ⟨row, results, found, open_row, fresh, after⟩ := asyncRecordTaskResult_ok done
    exact .finished row request resultBlob errorBlob (by simp) found open_row (by rw [after])
      (by rw [after]; exact fresh)

theorem queueOp_effect (op : QueueOp) :
    Evolves (TaskEffect (createdTasks (.queue op)) []) (executeQueue op) := by
  cases op with
  | enqueueTask task => exact evolves_discard none (enqueueTask_effect task)
  | asyncEnqueueTask task => exact evolves_discard none (asyncEnqueueTask_effect task)
  | scheduleAgentUpgrade =>
    exact evolves_discard none (scheduleAgentUpgrade_effect _ _ _ _ _ _ _)
  | scheduleAgentRollback => exact evolves_discard none (scheduleAgentRollback_effect _ _ _ _)
  | claimNextTaskForAgent => exact claimNextTaskForAgent_effect _ _ _
  | asyncClaimNextTaskForAgent => exact asyncClaimNextTaskForAgent_effect _ _

theorem reportOp_effect (op : ReportOp) :
    Evolves (TaskEffect [] (reportedResults (.report op))) (executeReport op) := by
  cases op with
  | markTaskRunning request => exact markTaskRunning_effect request
  | asyncMarkTaskRunning request => exact asyncMarkTaskRunning_effect request
  | recordTaskResult => exact recordTaskResult_effect _ _ _
  | asyncRecordTaskResult => exact asyncRecordTaskResult_effect _ _ _

theorem agentOp_sameTasks (op : AgentOp) : Evolves SameTasks (executeAgent op) := by
  have lift : ∀ {α : Type} {job : Job Store α}, Evolves AgentsOnly job → Evolves SameTasks job :=
    fun evolves => evolves_mono evolves fun _ _ => agentsOnly_sameTasks
  cases op with
  | upsertAgent request => exact lift (upsertAgent_agentsOnly request)
  | asyncUpsertAgent request => exact lift (asyncUpsertAgent_agentsOnly request)
  | markAgentOffline agentId at_ => exact lift (markAgentOffline_agentsOnly agentId at_)
  | expireWaitingReconnect datetime now =>
    exact evolves_discard () (lift (expireWaitingReconnect_agentsOnly datetime now))
  | createRegistrationToken token => exact createRegistrationToken_sameTasks token
  | consumeRegistrationToken =>
    exact evolves_discard () (consumeRegistrationToken_sameTasks _ _ _ _)
  | revokeRegistrationToken => exact evolves_discard () (revokeRegistrationToken_sameTasks _ _)
  | recordAssetSnapshot request blob => exact recordAssetSnapshot_sameTasks request blob
  | recordAuditEvent event => exact recordAuditEvent_sameTasks event

theorem storeOp_effect (op : StoreOp) :
    Evolves (TaskEffect (createdTasks op) (reportedResults op)) (executeOp op) := by
  cases op with
  | queue op => exact queueOp_effect op
  | report op => exact evolves_discard none (reportOp_effect op)
  | agent op =>
    exact evolves_discard none
      (evolves_mono (agentOp_sameTasks op) fun _ _ => sameTasks_effect)

theorem step_effect (store : Store) (call : Call) :
    TaskEffect (createdTasks call.op) (reportedResults call.op) store (step store call) :=
  storeOp_effect call.op ⟨store, call.faults⟩ _ _ rfl

/-! What an effect does to one task -/

theorem find_assignTask {tasks : Table TaskRow TaskRow.taskId} {row : TaskRow}
    (found : tasks.find row.taskId = some row) (state : row.state = .queued)
    (assignedAt k : String) :
    (assignTask tasks row.taskId assignedAt).find k =
      if k = row.taskId then some (assign assignedAt row) else tasks.find k :=
  Table.find_update_pinned found (by simp [taskIs, state]) (taskIs_pinned _ _) k

theorem find_startTask {tasks : Table TaskRow TaskRow.taskId} {row : TaskRow}
    (found : tasks.find row.taskId = some row) (state : row.state = .assigned)
    (occurredAt k : String) :
    (startTask tasks row.taskId occurredAt).find k =
      if k = row.taskId then some (start occurredAt row) else tasks.find k :=
  Table.find_update_pinned found (by simp [taskIs, state]) (taskIs_pinned _ _) k

theorem find_finishTask {tasks : Table TaskRow TaskRow.taskId} {row : TaskRow}
    {request : TaskResult} (found : tasks.find request.taskId = some row)
    (open_row : isTerminalTaskState row.state = false) (k : String) :
    (finishTask tasks request).find k =
      if k = request.taskId then some (finish request row) else tasks.find k :=
  Table.find_update_pinned found (by simp [unfinished, Table.find_key found, open_row])
    (unfinished_pinned _) k

/-- The part of a task that no call changes. -/
def SameIdentity (row row' : TaskRow) : Prop :=
  storedTask row' = storedTask row ∧ row'.prerequisiteTaskId = row.prerequisiteTaskId

/-- Tasks are never deleted and never redefined. -/
theorem effect_keeps_identity {before after : Store}
    (effect : TaskEffect created reported before after) {k : String} {row : TaskRow} (found : before.tasks.find k = some row) :
    ∃ row', after.tasks.find k = some row' ∧ SameIdentity row row' := by
  cases effect with
  | quiet tasks _ => exact ⟨row, by rw [tasks, found], rfl, rfl⟩
  | queued rows _ inserted _ => exact ⟨row, Table.insertAll_mono inserted found, rfl, rfl⟩
  | assigned chosen assignedAt at_chosen state tasks _ =>
    rw [tasks, find_assignTask at_chosen state]
    by_cases same : k = chosen.taskId
    · subst same
      rw [at_chosen] at found
      cases found
      exact ⟨_, if_pos rfl, rfl, rfl⟩
    · exact ⟨row, (if_neg same).trans found, rfl, rfl⟩
  | started chosen occurredAt at_chosen state tasks _ =>
    rw [tasks, find_startTask at_chosen state]
    by_cases same : k = chosen.taskId
    · subst same
      rw [at_chosen] at found
      cases found
      exact ⟨_, if_pos rfl, rfl, rfl⟩
    · exact ⟨row, (if_neg same).trans found, rfl, rfl⟩
  | finished chosen request resultBlob errorBlob _ at_chosen open_row tasks _ =>
    rw [tasks, find_finishTask at_chosen open_row]
    by_cases same : k = request.taskId
    · subst same
      rw [at_chosen] at found
      cases found
      exact ⟨_, if_pos rfl, rfl, rfl⟩
    · exact ⟨row, (if_neg same).trans found, rfl, rfl⟩

/-- A task found after a call was there before or was created by it. -/
theorem effect_origin {before after : Store}
    (effect : TaskEffect created reported before after) {k : String} {row' : TaskRow}
    (found' : after.tasks.find k = some row') :
    (∃ row, before.tasks.find k = some row ∧ SameIdentity row row') ∨
      QueuedRowOf created row' := by
  cases before_k : before.tasks.find k with
  | some row =>
    obtain ⟨row'', found'', same⟩ := effect_keeps_identity effect before_k
    rw [found'] at found''
    cases found''
    exact Or.inl ⟨row, rfl, same⟩
  | none =>
    cases effect with
    | quiet tasks _ =>
      rw [tasks, before_k] at found'
      cases found'
    | queued rows queued inserted _ =>
      rcases Table.find_insertAll inserted found' with earlier | ⟨_, member⟩
      · rw [before_k] at earlier
        cases earlier
      · exact Or.inr (queued row' member)
    | assigned chosen assignedAt at_chosen state tasks _ =>
      rw [tasks, find_assignTask at_chosen state] at found'
      by_cases same : k = chosen.taskId
      · rw [same, at_chosen] at before_k
        cases before_k
      · rw [if_neg same, before_k] at found'
        cases found'
    | started chosen occurredAt at_chosen state tasks _ =>
      rw [tasks, find_startTask at_chosen state] at found'
      by_cases same : k = chosen.taskId
      · rw [same, at_chosen] at before_k
        cases before_k
      · rw [if_neg same, before_k] at found'
        cases found'
    | finished chosen request resultBlob errorBlob _ at_chosen open_row tasks _ =>
      rw [tasks, find_finishTask at_chosen open_row] at found'
      by_cases same : k = request.taskId
      · rw [same, at_chosen] at before_k
        cases before_k
      · rw [if_neg same, before_k] at found'
        cases found'

theorem run_keeps_identity (store : Store) (calls : List Call) {k : String} {row : TaskRow}
    (found : store.tasks.find k = some row) :
    ∃ row', (Runs.run step store calls).tasks.find k = some row' ∧ SameIdentity row row' := by
  apply Runs.run_invariant_always
    (fun state : Store => ∃ row', state.tasks.find k = some row' ∧ SameIdentity row row')
  · rintro state call ⟨middle, found', same⟩
    obtain ⟨row', found'', same'⟩ := effect_keeps_identity (step_effect state call) found'
    exact ⟨row', found'', same'.1.trans same.1, same'.2.trans same.2⟩
  · exact ⟨row, found, rfl, rfl⟩

/-! The store as a ledger of tasks -/

def taskMove (start target : TaskState) : Prop :=
  (start = .queued ∧ target = .assigned) ∨ (start = .assigned ∧ target = .running)

def taskRules : Rules TaskState TaskResultRow where
  initial := .queued
  move := taskMove
  closing := fun result => terminalState result.status
  initial_open := by
    intro result
    cases result.status <;> simp [terminalState]
  move_from_open := by
    rintro p q result (⟨rfl, rfl⟩ | ⟨rfl, rfl⟩) <;> cases result.status <;>
      simp [terminalState]
  move_to_open := by
    rintro p q result (⟨rfl, rfl⟩ | ⟨rfl, rfl⟩) <;> cases result.status <;>
      simp [terminalState]
  move_away := by
    rintro p q (⟨rfl, rfl⟩ | ⟨rfl, rfl⟩) <;> simp

def ledgerOf (store : Store) : Ledger String TaskState TaskResultRow where
  phase := fun k => (store.tasks.find k).map TaskRow.state
  outcome := store.taskResults.find

theorem taskRules_closed_iff (state : TaskState) :
    taskRules.Closed state ↔ isTerminalTaskState state = true := by
  constructor
  · rintro ⟨result, closes⟩
    subst closes
    change isTerminalTaskState (terminalState result.status) = true
    cases result.status <;> rfl
  · have witness : ∀ status, taskRules.Closed (terminalState status) := fun status =>
      ⟨{ taskId := "", protocolVersion := "", requestId := "", agentId := "",
         taskType := .collectBasicInventory, occurredAt := "", status := status,
         errorCode := none, errorRetryable := none, resultBlob := none, errorBlob := none }, rfl⟩
    intro terminal
    cases state with
    | succeeded => exact witness .succeeded
    | failed => exact witness .failed
    | expired => exact witness .expired
    | _ => cases terminal

theorem ledgerOf_phase {store : Store} {k : String} {row : TaskRow}
    (found : store.tasks.find k = some row) : (ledgerOf store).phase k = some row.state := by
  simp [ledgerOf, found]

/-- Two stores whose rows differ in one task differ as ledgers in one job. -/
theorem ledgerOf_enter {before after : Store} {k : String} {row : TaskRow}
    (find_after : ∀ j, after.tasks.find j = if j = k then some row else before.tasks.find j)
    (results : after.taskResults = before.taskResults) :
    ledgerOf after = (ledgerOf before).enter k row.state := by
  unfold ledgerOf Ledger.enter
  rw [results]
  congr 1
  funext j
  rw [find_after]
  by_cases same : j = k
  · subst same
    simp
  · simp [same]

theorem queuedRowOf_state {created : List Task} {row : TaskRow}
    (queued : QueuedRowOf created row) : row.state = .queued := by
  obtain ⟨task, _, input, prerequisiteTaskId, _, rfl⟩ := queued
  rfl

theorem insertAll_steps {rows : List TaskRow} (queued : ∀ row ∈ rows, row.state = .queued)
    {before after : Store} (inserted : before.tasks.insertAll rows = some after.tasks)
    (results : after.taskResults = before.taskResults) :
    Steps taskRules (ledgerOf before) (ledgerOf after) := by
  induction rows generalizing before with
  | nil =>
    have same : ledgerOf after = ledgerOf before := by
      unfold ledgerOf
      rw [Table.insertAll_nil inserted, results]
    rw [same]
  | cons row rows ih =>
    obtain ⟨tasks, first, rest⟩ := Table.insertAll_cons inserted
    let middle : Store := { before with tasks := tasks }
    have find_middle : ∀ j, middle.tasks.find j =
        if j = row.taskId then some row else before.tasks.find j := by
      intro j
      rw [show middle.tasks = tasks from rfl, Table.find_insert first]
      by_cases same : j = row.taskId
      · rw [if_pos same, if_pos same.symm]
      · rw [if_neg same, if_neg (Ne.symm same)]
    have entered := ledgerOf_enter find_middle rfl
    have absent : (ledgerOf before).phase row.taskId = none := by
      simp [ledgerOf, (Table.insert_some first).1]
    rw [queued row (by simp)] at entered
    have later : Steps taskRules (ledgerOf middle) (ledgerOf after) :=
      ih (fun r member => queued r (by simp [member])) rest results
    rw [entered] at later
    exact Relation.ReflTransGen.head (Step.birth row.taskId absent) later

/-- What a call does to the store, the ledger does in steps. -/
theorem effect_refines {before after : Store}
    (effect : TaskEffect created reported before after) :
    Steps taskRules (ledgerOf before) (ledgerOf after) := by
  cases effect with
  | quiet tasks results =>
    have same : ledgerOf after = ledgerOf before := by
      unfold ledgerOf
      rw [tasks, results]
    rw [same]
  | queued rows queued inserted results =>
    exact insertAll_steps (fun row member => queuedRowOf_state (queued row member)) inserted
      results
  | assigned row assignedAt found state tasks results =>
    rw [ledgerOf_enter (fun j => by rw [tasks, find_assignTask found state]) results]
    apply Relation.ReflTransGen.single
    exact Step.move row.taskId TaskState.queued TaskState.assigned (by rw [ledgerOf_phase found, state])
      (Or.inl ⟨rfl, rfl⟩)
  | started row occurredAt found state tasks results =>
    rw [ledgerOf_enter (fun j => by rw [tasks, find_startTask found state]) results]
    apply Relation.ReflTransGen.single
    exact Step.move row.taskId TaskState.assigned TaskState.running (by rw [ledgerOf_phase found, state])
      (Or.inr ⟨rfl, rfl⟩)
  | finished row request resultBlob errorBlob _ found open_row tasks inserted =>
    let result := taskResultRow request resultBlob errorBlob
    have settled : ledgerOf after = ((ledgerOf before).enter request.taskId
        (taskRules.closing result)).record request.taskId result := by
      let middle : Store := { before with tasks := after.tasks }
      have entered : ledgerOf middle = (ledgerOf before).enter request.taskId
          (finish request row).state :=
        ledgerOf_enter (fun j => by
          rw [show middle.tasks = after.tasks from rfl, tasks, find_finishTask found open_row])
          rfl
      unfold Ledger.record
      rw [show taskRules.closing result = (finish request row).state from rfl, ← entered]
      unfold ledgerOf
      congr 1
      funext j
      rw [Table.find_insert inserted]
      by_cases same : j = request.taskId
      · subst same
        simp [result, taskResultRow]
      · rw [Function.update_of_ne same, if_neg]
        exact fun back => same back.symm
    rw [settled]
    apply Relation.ReflTransGen.single
    refine Step.settle request.taskId row.state result (ledgerOf_phase found) ?_
    rw [taskRules_closed_iff, open_row]
    simp

theorem step_refines (store : Store) (call : Call) :
    Steps taskRules (ledgerOf store) (ledgerOf (step store call)) :=
  effect_refines (step_effect store call)

theorem run_refines (store : Store) (calls : List Call) :
    Steps taskRules (ledgerOf store) (ledgerOf (Runs.run step store calls)) := by
  apply Runs.run_invariant_always
    (fun state => Steps taskRules (ledgerOf store) (ledgerOf state))
  · intro state call reached
    exact reached.trans (step_refines state call)
  · exact Relation.ReflTransGen.refl

theorem empty_balanced : Balanced taskRules (ledgerOf Store.empty) :=
  balanced_of_empty (fun _ => rfl) fun _ => rfl

theorem reachable_balanced (calls : List Call) :
    Balanced taskRules (ledgerOf (Runs.run step Store.empty calls)) :=
  steps_balanced (run_refines Store.empty calls) empty_balanced

end TaskOperations
