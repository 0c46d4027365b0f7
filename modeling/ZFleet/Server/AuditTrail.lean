import ZFleet.Foundations.Trails
import ZFleet.Server.EventAtomicity
import ZFleet.Server.TaskLifecycle

/-!
The audit trail of the tasks. The synchronous claim writes its audit event inside its
transaction, the control service writes the events of a start and of a result in a later
store call, and the asynchronous claim writes none; so the trail is complete exactly when
that claim hands nothing out and those later calls do not throw.
-/
namespace AuditTrail
open Message KeyedTables Transactions Schema AgentStore TaskStore TaskOperations ControlService
open Trails
open TaskLifecycle (stateOf)
open EventAtomicity (read_unchanged upsertAgent_atomic upsertAgent_ok recordAssetSnapshot_atomic
  recordAssetSnapshot_ok MayStart Thrown RunningInterrupted ResultInterrupted runningAudit
  resultAudit)
open RegistrationTokens (consumeRegistrationToken_atomic consumeRegistrationToken_ok)

/-- The audit event a task is recorded with when it enters the state. -/
def auditTypeOf : TaskState → Option AuditEventType
  | .queued => none
  | .assigned => some .taskAssigned
  | .running => some .taskRunning
  | .succeeded => some .taskSucceeded
  | .failed => some .taskFailed
  | .expired => some .taskExpired

/-- The audit event is of this task and of its entering this state. -/
def Matches (event : AuditEventRow) (taskId : String) (state : TaskState) : Prop :=
  auditTypeOf state = some event.eventType ∧ ("task_id", taskId) ∈ event.payload

def Audited (store : Store) (taskId : String) (state : TaskState) : Prop :=
  ∃ event ∈ store.auditEvents.rows, Matches event taskId state

def rank : TaskState → Nat
  | .queued => 0
  | .assigned => 1
  | .running => 2
  | .succeeded => 3
  | .failed => 3
  | .expired => 3

/-- The tasks of the store and their audit events. -/
def taskView : View Store String TaskState where
  phase := fun store taskId => stateOf taskId store
  recorded := Audited
  rank := rank

/-- Enqueues, schedules, claims and events, each with what the engine answers. -/
inductive Op where
  | queue (op : QueueOp)
  | event (env : Environment) (event : AgentEvent)

structure Call where
  op : Op
  faults : List (Option Fault)

def execute : Op → Job Store Unit
  | .queue op => do let _ ← executeQueue op; pure ()
  | .event env event => do let _ ← handleAgentEvent env event; pure ()

def step (store : Store) (call : Call) : Store := (execute call.op ⟨store, call.faults⟩).2.state

/-- There is a task for the asynchronous claim and no statement of it throws; or the audit
    event behind a stored start or result throws. -/
def Silent (store : Store) (call : Call) : Prop :=
  match call.op with
  | .queue (.asyncClaimNextTaskForAgent agentId assignedAt) =>
    (selectClaimable agentId assignedAt store).isSome ∧
      ¬ Thrown (asyncClaimNextTaskForAgent agentId assignedAt) ⟨store, call.faults⟩
  | .event env (.taskRunning request) => ValidEnvelope (.taskRunning request) ∧
    RunningInterrupted env request ⟨store, call.faults⟩
  | .event env (.taskResult request) => ValidEnvelope (.taskResult request) ∧
    ResultInterrupted env request ⟨store, call.faults⟩
  | _ => False

/-! Audit events -/

theorem auditTypeOf_inj {state state' : TaskState} {eventType : AuditEventType}
    (first : auditTypeOf state = some eventType) (second : auditTypeOf state' = some eventType) :
    state = state' := by
  revert first second
  cases state <;> cases state' <;> cases eventType <;> simp [auditTypeOf]

theorem auditTypeOf_terminal (status : TaskExecutionStatus) :
    auditTypeOf (terminalState status) = some (auditEventForTaskResult status) := by
  cases status <;> rfl

/-- The event is of exactly this task and state. -/
def Names (event : AuditEventRow) (taskId : String) (state : TaskState) : Prop :=
  ∀ taskId' state', Matches event taskId' state' ↔ taskId' = taskId ∧ state' = state

theorem names_of_payload {event : AuditEventRow} {taskId : String} {state : TaskState}
    (kind : auditTypeOf state = some event.eventType)
    (payload : ∀ taskId', ("task_id", taskId') ∈ event.payload ↔ taskId' = taskId) :
    Names event taskId state := by
  intro taskId' state'
  unfold Matches
  rw [payload]
  constructor
  · rintro ⟨kind', same⟩
    exact ⟨same, auditTypeOf_inj kind' kind⟩
  · rintro ⟨same, rfl⟩
    exact ⟨kind, same⟩

theorem assignedAuditEvent_names (auditId agentId assignedAt : String) (task : Message.Task) :
    Names (assignedAuditEvent auditId agentId assignedAt task) task.taskId .assigned :=
  names_of_payload rfl fun taskId' => by simp [assignedAuditEvent]

theorem runningAudit_names (env : Environment) (request : TaskRunning) :
    Names (runningAudit env request) request.taskId .running :=
  names_of_payload rfl fun taskId' => by simp [runningAudit, auditEvent]

theorem resultAudit_names (env : Environment) (request : TaskResult) :
    Names (resultAudit env request) request.taskId (terminalState request.status) :=
  names_of_payload (auditTypeOf_terminal request.status)
    fun taskId' => by simp [resultAudit, auditEvent]

/-- The audit events of tasks are the same. -/
def SameAudit (before after : Store) : Prop :=
  ∀ taskId state, Audited after taskId state ↔ Audited before taskId state

theorem sameAudit_of_eq {before after : Store} (same : after.auditEvents = before.auditEvents) :
    SameAudit before after := by
  intro taskId state
  unfold Audited
  rw [same]

theorem audited_insert {before after : Store} {event : AuditEventRow}
    (inserted : before.auditEvents.insert event = some after.auditEvents) (taskId : String)
    (state : TaskState) :
    Audited after taskId state ↔ Audited before taskId state ∨ Matches event taskId state := by
  unfold Audited
  rw [(Table.insert_some inserted).2]
  simp only [List.mem_append, List.mem_singleton, or_and_right, exists_or, exists_eq_left]

theorem recordAuditEvent_ok {event : AuditEventRow} {s s' : Session Store} {u : Unit}
    (done : recordAuditEvent event s = (.ok u, s')) :
    ∃ events, s.state.auditEvents.insert event = some events ∧
      s'.state = { s.state with auditEvents := events } := by
  obtain ⟨start, same, ran⟩ := submitWrite_ok insertRow_atomic done
  rw [← same]
  exact insertRow_ok ran

theorem recordAuditEvent_atomic (event : AuditEventRow) : Atomic (recordAuditEvent event) :=
  submitWrite_atomic insertRow_atomic

/-! Effects -/

/-- No task changes its state, but new ones are queued; no task's audit event is written. -/
structure Still (before after : Store) : Prop where
  kept : ∀ taskId state, stateOf taskId before = some state → stateOf taskId after = some state
  queued : ∀ taskId state, stateOf taskId after = some state → state ≠ .queued →
    stateOf taskId before = some state
  audit : SameAudit before after

theorem still_refl (store : Store) : Still store store :=
  ⟨fun _ _ same => same, fun _ _ same _ => same, fun _ _ => Iff.rfl⟩

theorem still_trans (x y z : Store) (first : Still x y) (rest : Still y z) : Still x z where
  kept := fun taskId state same => rest.kept taskId state (first.kept taskId state same)
  queued := fun taskId state same moved =>
    first.queued taskId state (rest.queued taskId state same moved) moved
  audit := fun taskId state => (rest.audit taskId state).trans (first.audit taskId state)

/-- One task enters a state of higher rank. -/
structure Moved (taskId : String) (state : TaskState) (before after : Store) : Prop where
  from_lower : ∃ row, before.tasks.find taskId = some row ∧ rank row.state < rank state
  alone : ∀ other, stateOf other after =
    if other = taskId then some state else stateOf other before

theorem still_written {before after : Store} (still : Still before after) :
    Written taskView before after := by
  intro taskId state
  refine (still.audit taskId state).trans ⟨Or.inl, ?_⟩
  rintro (earlier | ⟨tracked, elsewhere, now⟩)
  · exact earlier
  · have moved : state ≠ .queued := by
      rintro rfl
      cases tracked
    exact absurd (still.queued taskId state now moved) elsewhere

theorem still_rises {before after : Store} (still : Still before after) :
    Rising taskView before after :=
  fun taskId state same => ⟨state, still.kept taskId state same, Or.inl rfl⟩

theorem moved_rises {taskId : String} {state : TaskState} {before after : Store}
    (moved : Moved taskId state before after) : Rising taskView before after := by
  intro other state' same
  by_cases own : other = taskId
  · obtain ⟨row, found, lower⟩ := moved.from_lower
    refine ⟨state, (moved.alone other).trans (if_pos own), Or.inr ?_⟩
    change stateOf other before = some state' at same
    rw [own, stateOf, found] at same
    cases same
    exact lower
  · exact ⟨state', ((moved.alone other).trans (if_neg own)).trans same, Or.inl rfl⟩

theorem moved_enters_iff {taskId : String} {state : TaskState} {before after : Store}
    (moved : Moved taskId state before after) (other : String) (state' : TaskState) :
    Enters taskView before after other state' ↔ other = taskId ∧ state' = state := by
  obtain ⟨row, found, lower⟩ := moved.from_lower
  constructor
  · rintro ⟨_, elsewhere, now⟩
    change stateOf other after = some state' at now
    rw [moved.alone] at now
    by_cases own : other = taskId
    · rw [if_pos own] at now
      exact ⟨own, (Option.some.inj now).symm⟩
    · rw [if_neg own] at now
      exact absurd now elsewhere
  · rintro ⟨rfl, rfl⟩
    refine ⟨Nat.lt_of_le_of_lt (Nat.zero_le _) lower, ?_, (moved.alone other).trans (if_pos rfl)⟩
    change stateOf other before ≠ some state'
    rw [stateOf, found]
    rintro same
    cases same
    exact lt_irrefl _ lower

/-- A move with its audit event. -/
theorem moved_written {taskId : String} {state : TaskState} {event : AuditEventRow}
    {before after : Store} (moved : Moved taskId state before after)
    (names : Names event taskId state)
    (inserted : before.auditEvents.insert event = some after.auditEvents) :
    Written taskView before after := by
  intro other state'
  rw [moved_enters_iff moved, ← names other state']
  exact audited_insert inserted other state'

/-- A move without one. -/
theorem moved_missing {taskId : String} {state : TaskState} {before after : Store}
    (moved : Moved taskId state before after) (same : SameAudit before after) :
    Missing taskView before after :=
  ⟨⟨taskId, state, (moved_enters_iff moved taskId state).mpr ⟨rfl, rfl⟩⟩, same⟩

/-- What a step does, given whether it is silent. -/
structure Accounts (silent : Prop) (before after : Store) : Prop where
  rises : Rising taskView before after
  loud : ¬ silent → Written taskView before after
  mute : silent → Missing taskView before after

theorem accounts_congr {silent silent' : Prop} {before after : Store} (same : silent ↔ silent')
    (accounts : Accounts silent before after) : Accounts silent' before after :=
  ⟨accounts.rises, fun heard => accounts.loud fun quiet => heard (same.mp quiet),
    fun quiet => accounts.mute (same.mpr quiet)⟩

theorem accounts_of_still {silent : Prop} {before after : Store} (heard : ¬ silent)
    (still : Still before after) : Accounts silent before after :=
  ⟨still_rises still, fun _ => still_written still, fun quiet => absurd quiet heard⟩

theorem accounts_of_written {silent : Prop} {taskId : String} {state : TaskState}
    {event : AuditEventRow} {before after : Store} (heard : ¬ silent)
    (moved : Moved taskId state before after) (names : Names event taskId state)
    (inserted : before.auditEvents.insert event = some after.auditEvents) :
    Accounts silent before after :=
  ⟨moved_rises moved, fun _ => moved_written moved names inserted, fun quiet => absurd quiet heard⟩

theorem accounts_of_missing {silent : Prop} {taskId : String} {state : TaskState}
    {before after : Store} (quiet : silent) (moved : Moved taskId state before after)
    (same : SameAudit before after) : Accounts silent before after :=
  ⟨moved_rises moved, fun heard => absurd quiet heard, fun _ => moved_missing moved same⟩

/-! Enqueues and claims -/

theorem still_of_audit {before after : Store} (tasks : after.tasks = before.tasks)
    (audit : SameAudit before after) : Still before after := by
  have states : ∀ taskId, stateOf taskId after = stateOf taskId before := by
    intro taskId
    rw [stateOf, tasks]
    rfl
  constructor
  · intro taskId state same
    rw [states, same]
  · intro taskId state same _
    rw [← states, same]
  · exact audit

theorem still_of_same {before after : Store} (tasks : after.tasks = before.tasks)
    (events : after.auditEvents = before.auditEvents) : Still before after :=
  still_of_audit tasks (sameAudit_of_eq events)

theorem still_of_queued {created : List Message.Task} {rows : List TaskRow} {before after : Store}
    (queued : ∀ row ∈ rows, QueuedRowOf created row)
    (inserted : before.tasks.insertAll rows = some after.tasks)
    (events : after.auditEvents = before.auditEvents) : Still before after := by
  constructor
  · intro taskId state same
    obtain ⟨row, found, rfl⟩ := Option.map_eq_some_iff.mp same
    rw [stateOf, Table.insertAll_mono inserted found]
    rfl
  · intro taskId state same moved
    obtain ⟨row, found, rfl⟩ := Option.map_eq_some_iff.mp same
    rcases Table.find_insertAll inserted found with earlier | ⟨_, member⟩
    · rw [stateOf, earlier]
      rfl
    · exact absurd (queuedRowOf_state (queued row member)) moved
  · exact sameAudit_of_eq events

theorem still_of_inserted {task : Message.Task} {input : TaskInput}
    {tasks : Table TaskRow TaskRow.taskId} {before after : Store}
    (serialized : serializeTaskInputBlob task.taskType task.input = .ok input)
    (inserted : before.tasks.insert (queuedTaskRow task input none) = some tasks)
    (tasks_eq : after.tasks = tasks) (events : after.auditEvents = before.auditEvents) :
    Still before after := by
  have queued : ∀ row ∈ [queuedTaskRow task input none], QueuedRowOf [task] row := by
    intro row member
    obtain rfl := List.mem_singleton.mp member
    exact ⟨task, by simp, input, none, serialized, rfl⟩
  refine still_of_queued queued ?_ events
  simp [Table.insertAll, inserted, tasks_eq]

theorem scheduleAgentUpgrade_still (agentId version packageId : String) (setBy : Option String)
    (setAt : String) (task : Message.Task) (prerequisite : Option Message.Task) :
    Evolves Still
      (scheduleAgentUpgrade agentId version packageId setBy setAt task prerequisite) :=
  evolves_of_atomic (scheduleAgentUpgrade_atomic _ _ _ _ _ _ _) still_refl fun _ _ _ done => by
    obtain ⟨rows, tasks, queued, inserted, effect⟩ := scheduleAgentUpgrade_ok done
    exact still_of_queued queued (by rw [effect]; exact inserted) (by rw [effect])

theorem agentsOnly_still {before after : Store} (agents : AgentsOnly before after) :
    Still before after := by
  obtain ⟨_, rfl⟩ := agents
  exact still_of_same rfl rfl

theorem moved_of_found {taskId : String} {row moved : TaskRow} {before after : Store}
    (found : before.tasks.find taskId = some row) (lower : rank row.state < rank moved.state)
    (alone : ∀ k, after.tasks.find k = if k = taskId then some moved else before.tasks.find k) :
    Moved taskId moved.state before after := by
  refine ⟨⟨row, found, lower⟩, ?_⟩
  intro other
  rw [stateOf, alone]
  split <;> rfl

/-- A claim that hands out a task moves it to assigned. -/
theorem assigned_moved {agentId assignedAt : String} {row : TaskRow} {before after : Store}
    (selected : selectClaimable agentId assignedAt before = some row)
    (tasks : after.tasks = assignTask before.tasks row.taskId assignedAt) :
    Moved row.taskId .assigned before after := by
  obtain ⟨found, queued, _⟩ := selectClaimable_queued selected
  refine @moved_of_found _ _ (assign assignedAt row) _ _ found ?_ ?_
  · rw [queued]
    exact Nat.zero_lt_one
  · intro k
    rw [tasks, find_assignTask found queued]

theorem claimNextTaskForAgent_accounts (agentId assignedAt auditId : String) (s : Session Store) :
    Accounts False s.state (claimNextTaskForAgent agentId assignedAt auditId s).2.state := by
  cases ran : claimNextTaskForAgent agentId assignedAt auditId s with
  | mk result s' =>
    cases result with
    | error e =>
      rw [show s'.state = s.state from claimNextTaskForAgent_atomic _ _ _ s e s' ran]
      exact accounts_of_still id (still_refl _)
    | ok answer =>
      rcases claimNextTaskForAgent_audited ran with
        ⟨_, _, same⟩ | ⟨row, events, selected, _, inserted, effect⟩
      · rw [show s'.state = s.state from same]
        exact accounts_of_still id (still_refl _)
      · refine accounts_of_written id (assigned_moved selected (by rw [effect]))
          (assignedAuditEvent_names auditId agentId assignedAt (storedTask row)) ?_
        rw [effect]
        exact inserted

theorem asyncClaimNextTaskForAgent_accounts (agentId assignedAt : String) (s : Session Store) :
    Accounts ((selectClaimable agentId assignedAt s.state).isSome ∧
        ¬ Thrown (asyncClaimNextTaskForAgent agentId assignedAt) s)
      s.state (asyncClaimNextTaskForAgent agentId assignedAt s).2.state := by
  cases ran : asyncClaimNextTaskForAgent agentId assignedAt s with
  | mk result s' =>
    cases result with
    | error e =>
      rw [show s'.state = s.state from asyncClaimNextTaskForAgent_atomic _ _ s e s' ran]
      exact accounts_of_still (fun quiet => quiet.2 ⟨e, s', ran⟩) (still_refl _)
    | ok answer =>
      rcases asyncClaimNextTaskForAgent_ok ran with
        ⟨rfl, unselected, same⟩ | ⟨row, selected, rfl, effect⟩
      · rw [show s'.state = s.state from same]
        exact accounts_of_still (by simp [unselected]) (still_refl _)
      · have finished : ¬ Thrown (asyncClaimNextTaskForAgent agentId assignedAt) s := by
          rintro ⟨e, s'', threw⟩
          rw [ran] at threw
          cases threw
        exact accounts_of_missing ⟨by simp [selected], finished⟩
          (assigned_moved selected (by rw [effect])) (sameAudit_of_eq (by rw [effect]))

/-! Starts and results -/

/-- A move and its audit event as two store calls: the second may throw. -/
theorem audited_accounts {first : Job Store Unit} {event : AuditEventRow} {taskId : String}
    {state : TaskState} {s : Session Store} (message : String) (atomic : Atomic first)
    (names : Names event taskId state)
    (moves : ∀ middle, first s = (.ok (), middle) → Moved taskId state s.state middle.state ∧
      middle.state.auditEvents = s.state.auditEvents) :
    Accounts (∃ middle, first s = (.ok (), middle) ∧ Thrown (recordAuditEvent event) middle)
      s.state ((first >>= fun _ => recordAuditEvent event >>= fun _ =>
        pure (accepted message)) s).2.state := by
  cases ran : first s with
  | mk result middle =>
    cases result with
    | error e =>
      rw [bind_of_error ran, show middle.state = s.state from atomic s e middle ran]
      exact accounts_of_still (by simp) (still_refl _)
    | ok u =>
      obtain ⟨moved, same⟩ := moves middle ran
      rw [bind_of_ok ran]
      cases audits : recordAuditEvent event middle with
      | mk result s' =>
        cases result with
        | error e =>
          have kept := recordAuditEvent_atomic event middle e s' audits
          rw [bind_of_error audits, show s'.state = middle.state from kept]
          exact accounts_of_missing ⟨middle, rfl, e, s', audits⟩ moved (sameAudit_of_eq same)
        | ok u =>
          obtain ⟨events, inserted, effect⟩ := recordAuditEvent_ok audits
          rw [bind_of_ok audits]
          have moved' : Moved taskId state s.state s'.state :=
            ⟨moved.from_lower, fun other => by rw [effect]; exact moved.alone other⟩
          refine accounts_of_written ?_ moved' names ?_
          · rintro ⟨middle', same', e, s'', threw⟩
            cases same'
            rw [audits] at threw
            cases threw
          · have recorded : s'.state.auditEvents = events := by rw [effect]
            exact same ▸ inserted.trans (congrArg some recorded.symm)

/-- A start enters `running`, a result its terminal state. -/
theorem markTaskRunning_moves {request : TaskRunning} {s middle : Session Store}
    (done : markTaskRunning request s = (.ok (), middle)) :
    Moved request.taskId .running s.state middle.state ∧
      middle.state.auditEvents = s.state.auditEvents := by
  obtain ⟨⟨row, found, assigned⟩, effect⟩ := markTaskRunning_ok done
  have key := Table.find_key found
  refine ⟨@moved_of_found _ _ (start request.occurredAt row) _ _ found ?_ ?_, by rw [effect]⟩
  · rw [assigned]
    exact Nat.lt_succ_self 1
  · intro k
    rw [effect]
    rw [← key] at found ⊢
    exact find_startTask found assigned request.occurredAt k

theorem recordTaskResult_moves {request : TaskResult} {resultBlob errorBlob : Option Blob}
    {s middle : Session Store}
    (done : recordTaskResult request resultBlob errorBlob s = (.ok (), middle)) :
    Moved request.taskId (terminalState request.status) s.state middle.state ∧
      middle.state.auditEvents = s.state.auditEvents := by
  obtain ⟨row, results, found, unfinished, _, effect⟩ := recordTaskResult_ok done
  have sameEvents : middle.state.auditEvents = s.state.auditEvents := by
    rw [effect]
    rfl
  refine ⟨@moved_of_found _ _ (finish request row) _ _ found ?_ ?_, sameEvents⟩
  · have terminal : rank (terminalState request.status) = 3 := by
      cases request.status <;> rfl
    have below : rank row.state < 3 := by
      revert unfinished
      cases row.state <;> simp [isTerminalTaskState, rank]
    exact below.trans_eq terminal.symm
  · intro k
    rw [effect]
    exact find_finishTask found unfinished k

/-- An event that stops at the stored task changes nothing. -/
theorem accounts_of_unchanged {silent : Prop} {before after : Store} (heard : ¬ silent)
    (same : after = before) : Accounts silent before after := by
  rw [same]
  exact accounts_of_still heard (still_refl before)

theorem handleTaskRunning_accounts (env : Environment) (request : TaskRunning)
    (s : Session Store) :
    Accounts (RunningInterrupted env request s) s.state
      (handleTaskRunning env request s).2.state := by
  unfold handleTaskRunning
  by_cases unnamed : request.taskId = ""
  · rw [if_pos unnamed]
    exact accounts_of_unchanged (fun interrupted => interrupted.1 unnamed) rfl
  rw [if_neg unnamed, recover_state]
  cases read : findTaskById request.taskId s with
  | mk result found =>
    have same : found.state = s.state := read_unchanged _ s result found read
    cases result with
    | error e =>
      rw [bind_of_error read]
      refine accounts_of_unchanged ?_ same
      rintro ⟨_, row, found', _, read', _⟩
      rw [read] at read'
      cases read'
    | ok stored =>
      rw [bind_of_ok read]
      have interrupted : RunningInterrupted env request s ↔ ∃ row, stored = some row ∧
          MayStart request row ∧ ∃ marked, markTaskRunning request found = (.ok (), marked) ∧
          Thrown (recordAuditEvent (runningAudit env request)) marked := by
        unfold RunningInterrupted
        rw [read]
        constructor
        · rintro ⟨_, row, found', marked, same', may, mark, threw⟩
          cases same'
          exact ⟨row, rfl, may, marked, mark, threw⟩
        · rintro ⟨row, rfl, may, marked, mark, threw⟩
          exact ⟨unnamed, row, found, marked, rfl, may, mark, threw⟩
      rw [interrupted]
      cases stored with
      | none => exact accounts_of_unchanged (by simp) same
      | some row =>
        by_cases may : MayStart request row
        · simp only [may.1, may.2, ne_eq, not_true_eq_false, if_false]
          have accounts := audited_accounts "running" (markTaskRunning_atomic request)
            (runningAudit_names env request) (fun _ done => @markTaskRunning_moves _ found _ done)
          rw [same] at accounts
          exact accounts_congr (by simp [may]) accounts
        · refine accounts_of_unchanged (by simp [may]) ?_
          dsimp only
          cases refused : checkStoredTask "running" request.agentId request.taskType row with
          | some refusal => exact same
          | none =>
            have unassigned : row.state ≠ .assigned := fun state => may ⟨refused, state⟩
            simp only [unassigned, ne_eq, not_false_eq_true, if_true]
            exact same

theorem storeTaskResult_accounts (env : Environment) (request : TaskResult)
    (resultBlob errorBlob : Option Blob) (s : Session Store) :
    Accounts (∃ row found recorded,
        findTaskById request.taskId s = (.ok (some row), found) ∧
        checkStoredTask "result" request.agentId request.taskType row = none ∧
        recordTaskResult request resultBlob errorBlob found = (.ok (), recorded) ∧
        Thrown (recordAuditEvent (resultAudit env request)) recorded)
      s.state (storeTaskResult env request resultBlob errorBlob s).2.state := by
  unfold storeTaskResult
  cases read : findTaskById request.taskId s with
  | mk result found =>
    have same : found.state = s.state := read_unchanged _ s result found read
    cases result with
    | error e =>
      rw [bind_of_error read]
      refine accounts_of_unchanged ?_ same
      rintro ⟨row, found', _, read', _⟩
      cases read'
    | ok stored =>
      rw [bind_of_ok read]
      cases stored with
      | none =>
        refine accounts_of_unchanged ?_ same
        rintro ⟨row, found', _, read', _⟩
        cases read'
      | some row =>
        dsimp only
        cases refused : checkStoredTask "result" request.agentId request.taskType row with
        | some refusal =>
          refine accounts_of_unchanged ?_ same
          rintro ⟨row', found', _, read', fits, _⟩
          cases read'
          rw [refused] at fits
          cases fits
        | none =>
          have accounts := audited_accounts "accepted" (recordTaskResult_atomic _ _ _)
            (resultAudit_names env request)
            (fun _ done => @recordTaskResult_moves request resultBlob errorBlob found _ done)
          rw [same] at accounts
          refine accounts_congr ⟨?_, ?_⟩ accounts
          · rintro ⟨recorded, record, threw⟩
            exact ⟨row, found, recorded, rfl, refused, record, threw⟩
          · rintro ⟨row', found', recorded, read', _, record, threw⟩
            cases read'
            exact ⟨recorded, record, threw⟩

theorem handleTaskResult_accounts (env : Environment) (request : TaskResult)
    (s : Session Store) :
    Accounts (ResultInterrupted env request s) s.state
      (handleTaskResult env request s).2.state := by
  unfold handleTaskResult ResultInterrupted
  by_cases unnamed : request.taskId = ""
  · rw [if_pos unnamed]
    exact accounts_of_unchanged (fun interrupted => interrupted.1 unnamed) rfl
  rw [if_neg unnamed, and_iff_right unnamed]
  cases blobs : resultBlobs env request with
  | error message => exact accounts_of_unchanged (by simp) rfl
  | ok pair =>
    obtain ⟨resultBlob, errorBlob⟩ := pair
    dsimp only
    rw [recover_state]
    refine accounts_congr ⟨?_, ?_⟩ (storeTaskResult_accounts env request resultBlob errorBlob s)
    · rintro ⟨row, found, recorded, rest⟩
      exact ⟨resultBlob, errorBlob, row, found, recorded, rfl, rest⟩
    · rintro ⟨resultBlob', errorBlob', row, found, recorded, same, rest⟩
      cases same
      exact ⟨row, found, recorded, rest⟩

/-! The other events -/

theorem pure_still {α : Type} (a : α) : Evolves Still (pure a : Job Store α) :=
  evolves_pure still_refl a

theorem bind_still {α β : Type} {job : Job Store α} {next : α → Job Store β}
    (first : Evolves Still job) (rest : ∀ a, Evolves Still (next a)) :
    Evolves Still (job >>= next) := evolves_trans first rest still_trans

theorem read_still {α : Type} (read : Store → α) :
    Evolves Still (executeWithBusyRetry (query read)) :=
  evolves_mono (read_unchanged read) fun x y same => by
    rw [show y = x from same]
    exact still_refl x

/-- Audit events of other types are no task's. -/
theorem recordAuditEvent_still (event : AuditEventRow)
    (untracked : ∀ state, auditTypeOf state ≠ some event.eventType) :
    Evolves Still (recordAuditEvent event) :=
  evolves_of_atomic (recordAuditEvent_atomic event) still_refl fun s _ s' done => by
    obtain ⟨events, inserted, effect⟩ := recordAuditEvent_ok done
    have same : s'.state.tasks = s.state.tasks := by rw [effect]
    have written : s.state.auditEvents.insert event = some s'.state.auditEvents := by
      rw [effect]
      exact inserted
    have events_same : SameAudit s.state s'.state := by
      intro taskId state
      rw [audited_insert written]
      have foreign : ¬ Matches event taskId state := fun matched => untracked state matched.1
      simp [foreign]
    exact still_of_audit same events_same

theorem consumeRegistrationToken_still (tokenHash platform arch usedAt : String) :
    Evolves Still (consumeRegistrationToken tokenHash platform arch usedAt) :=
  evolves_of_atomic (consumeRegistrationToken_atomic _ _ _ _) still_refl fun _ _ _ done => by
    rw [(consumeRegistrationToken_ok done).2]
    exact still_of_same rfl rfl

theorem upsertAgent_still (request : AgentRegistration) : Evolves Still (upsertAgent request) :=
  evolves_mono (upsertAgent_agentsOnly request) fun _ _ => agentsOnly_still

theorem recordAssetSnapshot_still (request : AssetSnapshot) (eventBlob : Blob) :
    Evolves Still (recordAssetSnapshot request eventBlob) :=
  evolves_of_atomic (recordAssetSnapshot_atomic _ _) still_refl fun _ _ _ done => by
    obtain ⟨row, effect⟩ := recordAssetSnapshot_ok done
    rw [effect]
    exact still_of_same rfl rfl

theorem consumeDueToken_still (env : Environment) (request : AgentRegistration) :
    Evolves Still (consumeDueToken env request) := by
  apply bind_still (read_still _)
  intro known
  cases known with
  | true => exact pure_still _
  | false =>
    cases request.registrationToken with
    | none => exact pure_still _
    | some token =>
      exact bind_still (consumeRegistrationToken_still _ _ _ _) fun _ => pure_still _

theorem auditConfirmation_still (env : Environment) (request : AgentRegistration)
    (previous current : Option AgentRow) :
    Evolves Still (auditConfirmation env request previous current) := by
  unfold auditConfirmation
  split
  · exact recordAuditEvent_still _ (by rintro (_ | _) <;> simp [auditTypeOf, auditEvent])
  · exact pure_still _

theorem register_still (env : Environment) (request : AgentRegistration) :
    Evolves Still (register env request) := by
  apply bind_still (read_still _)
  intro previous
  apply bind_still (upsertAgent_still request)
  intro _
  apply bind_still (read_still _)
  intro current
  apply bind_still (auditConfirmation_still _ _ _ _)
  intro _
  apply bind_still (recordAssetSnapshot_still _ _)
  intro _
  refine bind_still (recordAuditEvent_still _ ?_) fun _ => pure_still _
  rintro (_ | _) <;> simp [auditTypeOf, auditEvent]

theorem handleRegister_still (env : Environment) (request : AgentRegistration) :
    Evolves Still (handleRegister env request) := by
  apply evolves_recover
  apply bind_still (consumeDueToken_still _ _)
  intro due
  cases due with
  | none => exact register_still env request
  | some used =>
    cases used with
    | false =>
      refine bind_still (recordAuditEvent_still _ ?_) fun _ => pure_still _
      rintro (_ | _) <;> simp [auditTypeOf, auditEvent]
    | true =>
      refine bind_still (recordAuditEvent_still _ ?_) fun _ => register_still env request
      rintro (_ | _) <;> simp [auditTypeOf, auditEvent]

theorem handleHeartbeat_still (request : AgentHeartbeat) :
    Evolves Still (handleHeartbeat request) :=
  evolves_recover <| bind_still (read_still _) fun _ => pure_still _

theorem handleAssetSnapshot_still (env : Environment) (request : AssetSnapshot) :
    Evolves Still (handleAssetSnapshot env request) := by
  apply evolves_recover
  apply bind_still (read_still _)
  intro known
  cases known with
  | false =>
    refine bind_still (recordAuditEvent_still _ ?_) fun _ => pure_still _
    rintro (_ | _) <;> simp [auditTypeOf, auditEvent]
  | true =>
    apply bind_still (recordAssetSnapshot_still _ _)
    intro _
    refine bind_still (recordAuditEvent_still _ ?_) fun _ => pure_still _
    rintro (_ | _) <;> simp [auditTypeOf, auditEvent]

/-! Whole runs -/

theorem enqueueTask_still (task : Message.Task) : Evolves Still (enqueueTask task) :=
  evolves_of_atomic (enqueueTask_atomic task) still_refl fun _ _ _ done => by
    obtain ⟨input, tasks, serialized, inserted, effect⟩ := enqueueTask_ok done
    exact still_of_inserted serialized inserted (by rw [effect]) (by rw [effect])

theorem asyncEnqueueTask_still (task : Message.Task) : Evolves Still (asyncEnqueueTask task) :=
  evolves_of_atomic (asyncEnqueueTask_atomic task) still_refl fun _ _ _ done => by
    obtain ⟨input, tasks, serialized, inserted, effect⟩ := asyncEnqueueTask_ok done
    exact still_of_inserted serialized inserted (by rw [effect]) (by rw [effect])

theorem scheduleAgentRollback_still (agentId : String) (setBy : Option String) (setAt : String)
    (task : Message.Task) : Evolves Still (scheduleAgentRollback agentId setBy setAt task) :=
  bind_still (scheduleAgentUpgrade_still agentId "" "" setBy setAt task none) fun _ =>
    evolves_mono (clearDesiredTarget_agentsOnly agentId task.taskId) fun _ _ => agentsOnly_still

theorem still_accounts {α : Type} {silent : Prop} {job : Job Store α} (heard : ¬ silent)
    (still : Evolves Still job) (s : Session Store) : Accounts silent s.state (job s).2.state :=
  accounts_of_still heard (still s _ _ rfl)

theorem executeQueue_accounts (op : QueueOp) (s : Session Store) :
    Accounts (Silent s.state ⟨.queue op, s.faults⟩) s.state (executeQueue op s).2.state := by
  cases op with
  | enqueueTask task =>
    exact still_accounts id (bind_still (enqueueTask_still task) fun _ => pure_still _) s
  | asyncEnqueueTask task =>
    exact still_accounts id (bind_still (asyncEnqueueTask_still task) fun _ => pure_still _) s
  | scheduleAgentUpgrade agentId version packageId setBy setAt task prerequisite =>
    exact still_accounts id (bind_still (scheduleAgentUpgrade_still agentId version packageId
      setBy setAt task prerequisite) fun _ => pure_still _) s
  | scheduleAgentRollback agentId setBy setAt task =>
    exact still_accounts id (bind_still (scheduleAgentRollback_still agentId setBy setAt task)
      fun _ => pure_still _) s
  | claimNextTaskForAgent agentId assignedAt auditId =>
    exact claimNextTaskForAgent_accounts agentId assignedAt auditId s
  | asyncClaimNextTaskForAgent agentId assignedAt =>
    exact asyncClaimNextTaskForAgent_accounts agentId assignedAt s

theorem handleAgentEvent_accounts (env : Environment) (event : AgentEvent)
    (s : Session Store) :
    Accounts (Silent s.state ⟨.event env event, s.faults⟩) s.state
      (handleAgentEvent env event s).2.state := by
  unfold handleAgentEvent
  by_cases valid : ValidEnvelope event
  · have passed := (validateEnvelope_iff event).mpr valid
    simp only [passed, ne_eq, not_true_eq_false, if_false]
    cases event with
    | registration payload => exact still_accounts id (handleRegister_still env payload) s
    | heartbeat payload => exact still_accounts id (handleHeartbeat_still payload) s
    | assetSnapshot payload => exact still_accounts id (handleAssetSnapshot_still env payload) s
    | taskRunning payload =>
      exact accounts_congr (and_iff_right valid).symm (handleTaskRunning_accounts env payload s)
    | taskResult payload =>
      exact accounts_congr (and_iff_right valid).symm (handleTaskResult_accounts env payload s)
  · have refused : (validateEnvelope event).status ≠ .accepted :=
      fun passed => valid ((validateEnvelope_iff event).mp passed)
    simp only [ne_eq, refused, not_false_eq_true, if_true]
    refine accounts_of_unchanged ?_ rfl
    cases event <;> simp [Silent, valid]

theorem step_accounts (store : Store) (call : Call) :
    Accounts (Silent store call) store (step store call) := by
  obtain ⟨op, faults⟩ := call
  cases op with
  | queue op =>
    rw [show step store ⟨.queue op, faults⟩ = (executeQueue op ⟨store, faults⟩).2.state from
      congrArg Session.state (discard_state (executeQueue op) () ⟨store, faults⟩)]
    exact executeQueue_accounts op ⟨store, faults⟩
  | event env event =>
    rw [show step store ⟨.event env event, faults⟩ =
        (handleAgentEvent env event ⟨store, faults⟩).2.state from
      congrArg Session.state (discard_state (handleAgentEvent env event) () ⟨store, faults⟩)]
    exact handleAgentEvent_accounts env event ⟨store, faults⟩

/-- Every audit event of a task is of a transition that was committed; and every committed
    transition has its audit event exactly when no step is silent. -/
theorem audit_trail_complete_iff {store : Store}
    (unaudited : ∀ taskId state, ¬ Audited store taskId state) (calls : List Call) :
    Honest taskView (Runs.run (advance taskView step) (start store) calls) ∧
    (Runs.AllSteps (advance taskView step) (start store) calls
        (fun trail call => Complete taskView (advance taskView step trail call)) ↔
      Runs.AllSteps (advance taskView step) (start store) calls
        (fun trail call => ¬ Silent trail.state call)) :=
  trail_complete_iff Silent (fun store call => (step_accounts store call).rises)
    (fun store call => (step_accounts store call).loud)
    (fun store call => (step_accounts store call).mute) unaudited calls

def inventoryTask : Message.Task where
  protocolVersion := protocolVersion
  taskId := "task-1"
  agentId := "agent-1"
  taskType := .collectBasicInventory
  capabilityLevel := .readonly
  createdAt := "2026-03-01T12:00:00Z"
  expiresAt := "2026-03-01T13:00:00Z"
  input := .collectBasicInventory

def asyncEnqueueCall : Call := ⟨.queue (.asyncEnqueueTask inventoryTask), []⟩

/-- The claim of the command stream. -/
def asyncClaimCall : Call :=
  ⟨.queue (.asyncClaimNextTaskForAgent "agent-1" "2026-03-01T12:00:05Z"), []⟩

theorem unaudited_empty (taskId : String) (state : TaskState) :
    ¬ Audited Store.empty taskId state := by
  rintro ⟨event, member, _⟩
  cases member

/-- From the empty database, with the claim that audits. -/
theorem audit_trail_complete_claimed :
    Honest taskView (Runs.run (advance taskView step) (start Store.empty)
      [asyncEnqueueCall, ⟨.queue (.claimNextTaskForAgent "agent-1" "2026-03-01T12:00:05Z"
        "audit-0"), []⟩]) :=
  (audit_trail_complete_iff unaudited_empty _).1

/-- A task assigned by the claim of the command stream is not audited. -/
theorem async_claim_unaudited :
    ¬ Complete taskView (Runs.run (advance taskView step) (start Store.empty)
      [asyncEnqueueCall, asyncClaimCall]) := by
  intro complete
  have entered : Enters taskView (step Store.empty asyncEnqueueCall)
      (step (step Store.empty asyncEnqueueCall) asyncClaimCall) "task-1" .assigned :=
    ⟨by decide, by decide, by decide⟩
  obtain ⟨event, member, _⟩ := complete "task-1" .assigned (Or.inr entered)
  cases member

end AuditTrail
