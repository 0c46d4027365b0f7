import ZFleet.Server.ControlService
import ZFleet.Server.TaskOperations

/-!
The confirmation of an agent upgrade. Two events confirm it: the task result of the
old process and the registration of the new one. A registration looks for an agent
that waits to reconnect and a result makes the agent wait, so the upgrade is
confirmed when the result comes first and is left waiting when it comes second.
-/
namespace UpgradeConfirmation
open Message KeyedTables Transactions Ledgers Schema AgentStore TaskStore TaskOperations
open ControlService

/-- The upgrade columns that scheduling, results and registrations write. -/
structure SameUpgrade (row row' : AgentRow) : Prop where
  upgradeState : row'.upgradeState = row.upgradeState
  currentPackageId : row'.currentPackageId = row.currentPackageId
  desiredVersion : row'.desiredVersion = row.desiredVersion
  desiredPackageId : row'.desiredPackageId = row.desiredPackageId
  lastUpgradeTaskId : row'.lastUpgradeTaskId = row.lastUpgradeTaskId

theorem sameUpgrade_refl (row : AgentRow) : SameUpgrade row row := ⟨rfl, rfl, rfl, rfl, rfl⟩

/-- The upgrade columns of the agent stay, unless it waits to reconnect. -/
def Held (agentId : String) (before after : Store) : Prop :=
  ∀ row, before.agents.find agentId = some row →
    row.upgradeState ≠ some .waitingReconnect →
    ∃ row', after.agents.find agentId = some row' ∧ SameUpgrade row row'

variable {agentId : String}

theorem held_of_sameAgents {before after : Store} (same : after.agents = before.agents) :
    Held agentId before after := by
  intro row found _
  exact ⟨row, by rw [same, found], sameUpgrade_refl row⟩

theorem held_refl (store : Store) : Held agentId store store := held_of_sameAgents rfl

theorem held_trans (x y z : Store) (first : Held agentId x y) (rest : Held agentId y z) :
    Held agentId x z := by
  intro row found settled
  obtain ⟨middle, found', same⟩ := first row found settled
  obtain ⟨row', found'', same'⟩ := rest middle found' (by rw [same.upgradeState]; exact settled)
  exact ⟨row', found'', same'.upgradeState.trans same.upgradeState,
    same'.currentPackageId.trans same.currentPackageId,
    same'.desiredVersion.trans same.desiredVersion,
    same'.desiredPackageId.trans same.desiredPackageId,
    same'.lastUpgradeTaskId.trans same.lastUpgradeTaskId⟩

/-- An update holds the agent when it keeps the upgrade columns of what it selects. -/
theorem update_held {before after : Store} {selects : AgentRow → Bool}
    {change : AgentRow → AgentRow} {keeps : ∀ r, (change r).agentId = r.agentId}
    (agents : after.agents = before.agents.update selects change keeps)
    (holds : ∀ row, row.agentId = agentId → row.upgradeState ≠ some .waitingReconnect →
      selects row = true → SameUpgrade row (change row)) : Held agentId before after := by
  intro row found settled
  refine ⟨if selects row then change row else row, ?_, ?_⟩
  · rw [agents, Table.find_update, found]
    rfl
  · by_cases chosen : selects row = true
    · rw [if_pos chosen]
      exact holds row (Table.find_key found) settled chosen
    · rw [if_neg chosen]
      exact sameUpgrade_refl row

theorem updateAgents_held {selects : Store → AgentRow → Bool} {change : AgentRow → AgentRow}
    {keeps : ∀ r, (change r).agentId = r.agentId}
    (holds : ∀ store row, row.agentId = agentId → row.upgradeState ≠ some .waitingReconnect →
      selects store row = true → SameUpgrade row (change row)) :
    Evolves (Held agentId) (updateAgents selects change keeps) :=
  evolves_of_atomic (statement_atomic _) held_refl fun s _ s' done =>
    update_held (by rw [(updateAgents_ok done).2]) (holds s.state)

/-! Registrations -/

theorem comeOnline_sameUpgrade (excluded row : AgentRow) :
    SameUpgrade row (comeOnline excluded row) := ⟨rfl, rfl, rfl, rfl, rfl⟩

/-- A registration of an agent that does not wait leaves its upgrade alone. -/
theorem confirmUpgrade_settled {excluded row : AgentRow}
    (settled : row.upgradeState ≠ some .waitingReconnect) : confirmUpgrade excluded row = row := by
  simp [confirmUpgrade, reconnectMatches, reconnectWithoutPackage, reconnectMismatches, settled]

theorem upsertAgentRow_held {excluded : AgentRow} {merge : AgentRow → AgentRow → AgentRow}
    {keeps : ∀ r, (merge excluded r).agentId = r.agentId}
    (holds : ∀ row, row.upgradeState ≠ some .waitingReconnect →
      SameUpgrade row (merge excluded row)) :
    Evolves (Held agentId) (upsertAgentRow excluded merge keeps) := by
  apply evolves_execute held_refl
  intro store row found settled
  change ∃ row', (upsertInto store.agents excluded merge keeps).find agentId = some row' ∧ _
  rw [find_upsertInto, found]
  by_cases same : excluded.agentId = agentId
  · exact ⟨merge excluded row, if_pos same, holds row settled⟩
  · exact ⟨row, if_neg same, sameUpgrade_refl row⟩

theorem upsertAgent_held (request : AgentRegistration) :
    Evolves (Held agentId) (upsertAgent request) :=
  submitWrite_evolves held_trans <| upsertAgentRow_held fun row settled => by
    rw [mergeRegistration, confirmUpgrade_settled settled]
    exact comeOnline_sameUpgrade _ row

theorem asyncUpsertAgent_held (request : AgentRegistration) :
    Evolves (Held agentId) (asyncUpsertAgent request) :=
  submitWrite_evolves held_trans <| upsertAgentRow_held fun row _ => comeOnline_sameUpgrade _ row

theorem markAgentOffline_held (id disconnectedAt : String) :
    Evolves (Held agentId) (markAgentOffline id disconnectedAt) :=
  submitWrite_evolves held_trans <|
    evolves_trans (updateAgents_held fun _ _ _ _ _ => ⟨rfl, rfl, rfl, rfl, rfl⟩)
      (fun _ => evolves_pure held_refl _) held_trans

/-- The timeout looks only at agents that wait. -/
theorem expireWaitingReconnect_held (datetime : String → Option Int) (now : String) :
    Evolves (Held agentId) (expireWaitingReconnect datetime now) := by
  apply submitWrite_evolves held_trans
  apply evolves_trans (evolves_query held_refl _) _ held_trans
  intro expired
  refine evolves_trans (updateAgents_held ?_) (fun _ => evolves_pure held_refl _) held_trans
  intro _ row _ settled chosen
  simp [reconnectExpired, settled] at chosen

/-! Every call but the scheduling of a new upgrade and the synchronous result write holds
    the agent. -/

def SchedulesFor (agentId : String) : StoreOp → Prop
  | .queue (.scheduleAgentUpgrade id _ _ _ _ _ _) => id = agentId
  | .queue (.scheduleAgentRollback id _ _ _) => id = agentId
  | _ => False

theorem scheduleAgentUpgrade_held {id : String} (other : id ≠ agentId)
    (version packageId : String) (setBy : Option String) (setAt : String) (task : Task)
    (prerequisite : Option Task) :
    Evolves (Held agentId)
      (scheduleAgentUpgrade id version packageId setBy setAt task prerequisite) :=
  evolves_of_atomic (scheduleAgentUpgrade_atomic _ _ _ _ _ _ _) held_refl fun s _ s' done => by
    obtain ⟨rows, tasks, _, _, after⟩ := scheduleAgentUpgrade_ok done
    have agents : s'.state.agents = s.state.agents.update (agentIs id)
        (setDesired version packageId setBy setAt task.taskId)
        (setDesired_agentId _ _ _ _ _) := by
      rw [after]
    apply update_held agents
    intro row is_agent _ chosen
    have selected : row.agentId = id := by simpa [agentIs] using chosen
    exact absurd (selected.symm.trans is_agent) other

theorem clearDesiredTarget_held {id : String} (other : id ≠ agentId) (taskId : String) :
    Evolves (Held agentId) (clearDesiredTarget id taskId) := by
  apply submitWrite_evolves held_trans
  refine evolves_trans (updateAgents_held ?_) (fun _ => evolves_pure held_refl _) held_trans
  intro _ row is_agent _ chosen
  simp only [upgradeTaskIs, Bool.and_eq_true, decide_eq_true_eq] at chosen
  exact absurd (chosen.1.symm.trans is_agent) other

theorem queueOp_held (op : QueueOp) (newer : ¬ SchedulesFor agentId (.queue op)) :
    Evolves (Held agentId) (executeQueue op) := by
  cases op with
  | enqueueTask task =>
    refine evolves_discard none ?_
    exact evolves_of_atomic (enqueueTask_atomic task) held_refl fun s _ s' done => by
      obtain ⟨_, _, _, _, after⟩ := enqueueTask_ok done
      exact held_of_sameAgents (by rw [after])
  | asyncEnqueueTask task =>
    refine evolves_discard none ?_
    exact evolves_of_atomic (asyncEnqueueTask_atomic task) held_refl fun s _ s' done => by
      obtain ⟨_, _, _, _, after⟩ := asyncEnqueueTask_ok done
      exact held_of_sameAgents (by rw [after])
  | scheduleAgentUpgrade id version packageId setBy setAt task prerequisite =>
    exact evolves_discard none (scheduleAgentUpgrade_held newer _ _ _ _ _ _)
  | scheduleAgentRollback id setBy setAt task =>
    exact evolves_discard none <|
      evolves_trans (scheduleAgentUpgrade_held newer _ _ _ _ _ _)
        (fun _ => clearDesiredTarget_held newer _) held_trans
  | claimNextTaskForAgent id assignedAt auditId =>
    exact evolves_of_atomic (claimNextTaskForAgent_atomic _ _ _) held_refl fun s _ s' done => by
      rcases claimNextTaskForAgent_ok done with ⟨_, _, same⟩ | ⟨_, _, _, _, after⟩
      · rw [same]
        exact held_refl _
      · exact held_of_sameAgents (by rw [after])
  | asyncClaimNextTaskForAgent id assignedAt =>
    exact evolves_of_atomic (asyncClaimNextTaskForAgent_atomic _ _) held_refl
      fun s _ s' done => by
        rcases asyncClaimNextTaskForAgent_ok done with ⟨_, _, same⟩ | ⟨_, _, _, after⟩
        · rw [same]
          exact held_refl _
        · exact held_of_sameAgents (by rw [after])

theorem updateTokens_held (selects : RegistrationTokenRow → Bool)
    (change : RegistrationTokenRow → RegistrationTokenRow)
    (keeps : ∀ r, (change r).tokenId = r.tokenId) :
    Evolves (Held agentId) (updateTokens selects change keeps) :=
  evolves_statement held_refl fun _ _ _ ran => by
    cases ran
    exact held_of_sameAgents rfl

theorem agentOp_held (op : AgentOp) : Evolves (Held agentId) (executeAgent op) := by
  have quiet : ∀ {α : Type} {job : Job Store α}, Atomic job →
      (∀ s a s', job s = (.ok a, s') → s'.state.agents = s.state.agents) →
      Evolves (Held agentId) (submitWrite job) := fun atomic same =>
    submitWrite_evolves held_trans <| evolves_of_atomic atomic held_refl fun s a s' done =>
      held_of_sameAgents (same s a s' done)
  cases op with
  | upsertAgent request => exact upsertAgent_held request
  | asyncUpsertAgent request => exact asyncUpsertAgent_held request
  | markAgentOffline id disconnectedAt => exact markAgentOffline_held id disconnectedAt
  | expireWaitingReconnect datetime now =>
    exact evolves_discard () (expireWaitingReconnect_held datetime now)
  | createRegistrationToken token =>
    refine quiet insertRow_atomic fun s _ s' done => ?_
    obtain ⟨_, _, after⟩ := insertRow_ok done
    rw [after]
  | consumeRegistrationToken tokenHash platform arch usedAt =>
    exact evolves_discard () <| submitWrite_evolves held_trans <|
      evolves_trans (updateTokens_held _ _ _) (fun _ => evolves_pure held_refl _) held_trans
  | revokeRegistrationToken tokenId revokedAt =>
    exact evolves_discard () <| submitWrite_evolves held_trans <|
      evolves_trans (updateTokens_held _ _ _) (fun _ => evolves_pure held_refl _) held_trans
  | recordAssetSnapshot request eventBlob =>
    refine quiet (execute_atomic _) fun s _ s' done => ?_
    rw [execute_ok done]
  | recordAuditEvent event =>
    refine quiet insertRow_atomic fun s _ s' done => ?_
    obtain ⟨_, _, after⟩ := insertRow_ok done
    rw [after]

/-- A report holds the agent unless it is a synchronous result. -/
theorem reportOp_held (op : ReportOp)
    (other : ∀ request resultBlob errorBlob, op ≠ .recordTaskResult request resultBlob errorBlob) :
    Evolves (Held agentId) (executeReport op) := by
  cases op with
  | markTaskRunning request =>
    exact evolves_of_atomic (markTaskRunning_atomic _) held_refl fun _ _ _ done =>
      held_of_sameAgents (by rw [(markTaskRunning_ok done).2])
  | asyncMarkTaskRunning request =>
    exact evolves_of_atomic (asyncMarkTaskRunning_atomic _) held_refl fun _ _ _ done =>
      held_of_sameAgents (by rw [(asyncMarkTaskRunning_ok done).2])
  | recordTaskResult request resultBlob errorBlob => exact absurd rfl (other _ _ _)
  | asyncRecordTaskResult request resultBlob errorBlob =>
    exact evolves_of_atomic (asyncRecordTaskResult_atomic _ _ _) held_refl fun _ _ _ done => by
      obtain ⟨_, _, _, _, _, after⟩ := asyncRecordTaskResult_ok done
      exact held_of_sameAgents (by rw [after])

/-! A confirmed upgrade -/

/-- The last upgrade task of the agent is over, and so is its prerequisite. -/
def TaskOver (taskId : String) (store : Store) : Prop :=
  ∃ task, store.tasks.find taskId = some task ∧ isTerminalTaskState task.state = true ∧
    ∀ id, task.prerequisiteTaskId = some id →
      ∃ prerequisite, store.tasks.find id = some prerequisite ∧
        isTerminalTaskState prerequisite.state = true

/-- The upgrade to the package is confirmed and its task is over. -/
structure Settled (agentId packageId taskId : String) (store : Store) : Prop where
  agent : ∃ row, store.agents.find agentId = some row ∧ row.upgradeState = some .succeeded ∧
    row.currentPackageId = some packageId ∧ row.lastUpgradeTaskId = some taskId
  task : TaskOver taskId store

/-- A finished task stays finished with the same prerequisite. -/
theorem finished_stays {created : List Task} {reported : List TaskResult} {before after : Store}
    (effect : TaskEffect created reported before after) {k : String} {row : TaskRow}
    (found : before.tasks.find k = some row) (terminal : isTerminalTaskState row.state = true) :
    ∃ row', after.tasks.find k = some row' ∧ isTerminalTaskState row'.state = true ∧
      row'.prerequisiteTaskId = row.prerequisiteTaskId := by
  obtain ⟨row', found', _, prerequisite⟩ := effect_keeps_identity effect found
  obtain ⟨phase, _⟩ := steps_closed (effect_refines effect) (ledgerOf_phase found)
    ((taskRules_closed_iff _).mpr terminal)
  rw [ledgerOf_phase found'] at phase
  exact ⟨row', found', by rw [Option.some.inj phase]; exact terminal, prerequisite⟩

theorem taskOver_stays {created : List Task} {reported : List TaskResult} {before after : Store}
    (effect : TaskEffect created reported before after) {taskId : String}
    (finished : TaskOver taskId before) : TaskOver taskId after := by
  obtain ⟨task, found, terminal, prerequisites⟩ := finished
  obtain ⟨task', found', terminal', same⟩ := finished_stays effect found terminal
  refine ⟨task', found', terminal', ?_⟩
  intro id needs
  rw [same] at needs
  obtain ⟨prerequisite, at_id, ended⟩ := prerequisites id needs
  obtain ⟨prerequisite', at_id', ended', _⟩ := finished_stays effect at_id ended
  exact ⟨prerequisite', at_id', ended'⟩

/-- The follow-up writes of a result select the agent of its task and of its dependents. -/
theorem find_settledAgents_other {request : TaskResult} {store : Store} {agentId : String}
    {row : AgentRow} (found : store.agents.find agentId = some row)
    (not_task : row.lastUpgradeTaskId ≠ some request.taskId)
    (not_dependent : dependsOn request.agentId request.taskId store row = false) :
    (settledAgents request store).find agentId = some row := by
  have unselected : upgradeTaskIs request.agentId request.taskId row = false := by
    simp [upgradeTaskIs, not_task]
  unfold settledAgents
  split
  · split
    · simp [found, unselected, not_dependent]
    · simp [found, unselected]
  · exact found

/-- A result of an unfinished task leaves a settled agent alone. -/
theorem recordTaskResult_settled {packageId taskId : String} {request : TaskResult}
    {results : Table TaskResultRow TaskResultRow.taskId} {store : Store} {open_row : TaskRow}
    (settled : Settled agentId packageId taskId store)
    (found : store.tasks.find request.taskId = some open_row)
    (unfinished_row : isTerminalTaskState open_row.state = false)
    (effect : TaskEffect [] [request] store (recordedStore request results store)) :
    Settled agentId packageId taskId (recordedStore request results store) where
  task := taskOver_stays effect settled.task
  agent := by
    obtain ⟨row, at_agent, state, current, task_eq⟩ := settled.agent
    obtain ⟨task, at_task, terminal, prerequisites⟩ := settled.task
    have other : taskId ≠ request.taskId := by
      rintro rfl
      rw [at_task] at found
      cases found
      rw [terminal] at unfinished_row
      cases unfinished_row
    refine ⟨row, ?_, state, current, task_eq⟩
    have at_agent' : ({ store with tasks := finishTask store.tasks request } : Store).agents.find
        agentId = some row := at_agent
    refine find_settledAgents_other at_agent' ?_ ?_
    · rw [task_eq]
      simpa using other
    · by_contra depends
      simp only [dependsOn, Bool.not_eq_false, Bool.and_eq_true, List.any_eq_true,
        decide_eq_true_eq] at depends
      obtain ⟨_, dependent, member, last, needs⟩ := depends
      rw [task_eq] at last
      obtain rfl : taskId = dependent.taskId := Option.some.inj last
      have at_dependent : (finishTask store.tasks request).find dependent.taskId =
          some dependent := Table.find_of_mem member
      rw [find_finishTask found unfinished_row, if_neg other, at_task] at at_dependent
      cases at_dependent
      obtain ⟨prerequisite, at_prerequisite, ended⟩ := prerequisites _ needs
      rw [found] at at_prerequisite
      cases at_prerequisite
      rw [ended] at unfinished_row
      cases unfinished_row

theorem settled_of_held {packageId taskId : String} {created : List Task}
    {reported : List TaskResult} {before after : Store}
    (settled : Settled agentId packageId taskId before) (held : Held agentId before after)
    (effect : TaskEffect created reported before after) :
    Settled agentId packageId taskId after where
  task := taskOver_stays effect settled.task
  agent := by
    obtain ⟨row, found, state, current, task_eq⟩ := settled.agent
    obtain ⟨row', found', same⟩ := held row found (by rw [state]; decide)
    exact ⟨row', found', same.upgradeState.trans state, same.currentPackageId.trans current,
      same.lastUpgradeTaskId.trans task_eq⟩

/-- A confirmed upgrade stays confirmed until a newer one is scheduled. -/
theorem settled_step {packageId taskId : String} {store : Store} {call : Call}
    (newer : ¬ SchedulesFor agentId call.op) (settled : Settled agentId packageId taskId store) :
    Settled agentId packageId taskId (step store call) := by
  have effect := step_effect store call
  obtain ⟨op, faults⟩ := call
  cases op with
  | queue op =>
    exact settled_of_held settled (queueOp_held op newer ⟨store, faults⟩ _ _ rfl) effect
  | agent op =>
    exact settled_of_held settled
      (evolves_discard none (agentOp_held op) ⟨store, faults⟩ _ _ rfl) effect
  | report op =>
    by_cases synchronous : ∃ request resultBlob errorBlob,
        op = .recordTaskResult request resultBlob errorBlob
    · obtain ⟨request, resultBlob, errorBlob, rfl⟩ := synchronous
      have final : step store ⟨.report (.recordTaskResult request resultBlob errorBlob), faults⟩ =
          (recordTaskResult request resultBlob errorBlob ⟨store, faults⟩).2.state :=
        congrArg Session.state (discard_state _ _ _)
      rw [final]
      cases ran : recordTaskResult request resultBlob errorBlob ⟨store, faults⟩ with
      | mk result after =>
        cases result with
        | error e =>
          rw [recordTaskResult_atomic _ _ _ _ _ _ ran]
          exact settled
        | ok u =>
          have recorded := recordTaskResult_effect _ _ _ _ _ _ ran
          obtain ⟨row, results, found, open_row, _, after_eq⟩ := recordTaskResult_ok ran
          change Settled agentId packageId taskId after.state
          rw [after_eq] at recorded ⊢
          exact recordTaskResult_settled settled found open_row recorded
    · have other : ∀ request resultBlob errorBlob,
          op ≠ .recordTaskResult request resultBlob errorBlob := fun request result error same =>
        synchronous ⟨request, result, error, same⟩
      exact settled_of_held settled
        (evolves_discard none (reportOp_held op other) ⟨store, faults⟩ _ _ rfl) effect

theorem settled_run {packageId taskId : String} {store : Store} {later : List Call}
    (newer : ∀ call ∈ later, ¬ SchedulesFor agentId call.op)
    (settled : Settled agentId packageId taskId store) :
    Settled agentId packageId taskId (Runs.run step store later) := by
  apply Runs.run_invariant (Settled agentId packageId taskId)
    (fun _ call => ¬ SchedulesFor agentId call.op)
    (fun _ _ settled newer => settled_step newer settled) _ settled
  intro before call after split
  exact newer call (by rw [split]; simp)

/-! The two events in either order -/

/-- An upgrade task is under way: its agent wants the version and the package, the task is
    not finished and has no result, and its prerequisite, if any, has succeeded. -/
structure InFlight (agentId version packageId taskId : String) (store : Store) : Prop where
  agent : ∃ row, store.agents.find agentId = some row ∧ row.upgradeState = some .queued ∧
    row.desiredVersion = some version ∧ row.desiredPackageId = some packageId ∧
    row.lastUpgradeTaskId = some taskId
  task : ∃ task, store.tasks.find taskId = some task ∧ isTerminalTaskState task.state = false ∧
    ∀ id, task.prerequisiteTaskId = some id →
      ∃ prerequisite, store.tasks.find id = some prerequisite ∧ prerequisite.state = .succeeded
  unrecorded : store.taskResults.find taskId = none

/-- The result is in and the agent is expected back. -/
structure Waiting (agentId version packageId taskId since : String) (store : Store) : Prop where
  agent : ∃ row, store.agents.find agentId = some row ∧
    row.upgradeState = some .waitingReconnect ∧ row.desiredVersion = some version ∧
    row.desiredPackageId = some packageId ∧ row.lastUpgradeTaskId = some taskId ∧
    row.lastUpgradeAt = some since
  task : TaskOver taskId store

/-- What an operator would call a confirmed upgrade. -/
def Confirmed (agentId packageId : String) (store : Store) : Prop :=
  ∃ row, store.agents.find agentId = some row ∧ row.upgradeState = some .succeeded ∧
    row.currentPackageId = some packageId

/-- What may happen before and between the two events. -/
inductive Interlude where
  | heartbeat (request : AgentHeartbeat)
  | expireWaitingReconnect (now : String)

def interlude (datetime : String → Option Int) (store : Store) : Interlude → Store
  | .heartbeat request => (handleHeartbeat request ⟨store, []⟩).2.state
  | .expireWaitingReconnect now => (expireWaitingReconnect datetime now ⟨store, []⟩).2.state

/-- The registration of the new process and the result of the old one. -/
inductive UpgradeEvent where
  | upsertAgent (request : AgentRegistration)
  | recordTaskResult (request : TaskResult) (resultBlob errorBlob : Option Blob)

def occurredAt : UpgradeEvent → String
  | .upsertAgent request => request.occurredAt
  | .recordTaskResult request _ _ => request.occurredAt

def upgradeEvent (store : Store) : UpgradeEvent → Store
  | .upsertAgent request => (upsertAgent request ⟨store, []⟩).2.state
  | .recordTaskResult request resultBlob errorBlob =>
    (recordTaskResult request resultBlob errorBlob ⟨store, []⟩).2.state

/-- The store once both events have been applied, with interludes before and between. -/
def afterBoth (datetime : String → Option Int) (store : Store) (before : List Interlude)
    (first : UpgradeEvent) (between : List Interlude) (second : UpgradeEvent) : Store :=
  upgradeEvent (Runs.run (interlude datetime)
    (upgradeEvent (Runs.run (interlude datetime) store before) first) between) second

/-- A timeout check less than ten minutes after the time of an event. -/
def Timely (datetime : String → Option Int) (since : String) : Interlude → Prop
  | .heartbeat _ => True
  | .expireWaitingReconnect now => ∀ start current, datetime since = some start →
      datetime now = some current → current < start + 600

theorem interlude_agentsOnly (datetime : String → Option Int) (store : Store)
    (event : Interlude) : AgentsOnly store (interlude datetime store event) := by
  cases event with
  | heartbeat request =>
    have reads : Evolves AgentsOnly (handleHeartbeat request) :=
      evolves_recover <| evolves_trans (agentExists_agentsOnly _)
        (fun _ => evolves_pure agentsOnly_refl _) agentsOnly_trans
    exact reads ⟨store, []⟩ _ _ rfl
  | expireWaitingReconnect now =>
    exact expireWaitingReconnect_agentsOnly datetime now ⟨store, []⟩ _ _ rfl

theorem interlude_heartbeat (datetime : String → Option Int) (store : Store)
    (request : AgentHeartbeat) : interlude datetime store (.heartbeat request) = store := by
  have looked : Succeeds (agentExists request.agentId) store
      (store.agents.find request.agentId).isSome store :=
    succeeds_retry busyRetryAttempts (succeeds_query _ store)
  exact succeeds_state (succeeds_recover (succeeds_bind looked (succeeds_pure _ _)))

theorem interlude_expire (datetime : String → Option Int) (store : Store) (now : String) :
    interlude datetime store (.expireWaitingReconnect now) =
      { store with
        agents := store.agents.update (reconnectExpired datetime now) failReconnect
          failReconnect_agentId } :=
  succeeds_state (submitWrite_succeeds
    (succeeds_bind (succeeds_query _ store)
      (succeeds_bind (updateAgents_succeeds _ _ _ store) (succeeds_pure _ _))))

theorem interlude_held (datetime : String → Option Int) (store : Store) (event : Interlude) :
    Held agentId store (interlude datetime store event) := by
  cases event with
  | heartbeat request =>
    rw [interlude_heartbeat]
    exact held_refl store
  | expireWaitingReconnect now =>
    exact expireWaitingReconnect_held datetime now ⟨store, []⟩ _ _ rfl

theorem inFlight_of_held {version packageId taskId : String} {before after : Store}
    (inFlight : InFlight agentId version packageId taskId before)
    (held : Held agentId before after) (same : SameTasks before after) :
    InFlight agentId version packageId taskId after where
  agent := by
    obtain ⟨row, found, state, wanted, package, task⟩ := inFlight.agent
    obtain ⟨row', found', upgrade⟩ := held row found (by rw [state]; decide)
    exact ⟨row', found', upgrade.upgradeState.trans state, upgrade.desiredVersion.trans wanted,
      upgrade.desiredPackageId.trans package, upgrade.lastUpgradeTaskId.trans task⟩
  task := by
    rw [same.tasks]
    exact inFlight.task
  unrecorded := by
    rw [same.taskResults]
    exact inFlight.unrecorded

theorem inFlight_interludes {version packageId taskId : String} {store : Store}
    (datetime : String → Option Int) (events : List Interlude)
    (inFlight : InFlight agentId version packageId taskId store) :
    InFlight agentId version packageId taskId (Runs.run (interlude datetime) store events) := by
  apply Runs.run_invariant_always _ _ _ inFlight
  intro store event inFlight
  exact inFlight_of_held inFlight (interlude_held datetime store event)
    (agentsOnly_sameTasks (interlude_agentsOnly datetime store event))

/-- A timely check does not time the agent out. -/
theorem waiting_interlude {version packageId taskId since : String} {store : Store}
    {datetime : String → Option Int} {event : Interlude} (timely : Timely datetime since event)
    (waiting : Waiting agentId version packageId taskId since store) :
    Waiting agentId version packageId taskId since (interlude datetime store event) where
  task := by
    have same := agentsOnly_sameTasks (interlude_agentsOnly datetime store event)
    unfold TaskOver
    rw [same.tasks]
    exact waiting.task
  agent := by
    cases event with
    | heartbeat request =>
      rw [interlude_heartbeat]
      exact waiting.agent
    | expireWaitingReconnect now =>
      obtain ⟨row, found, state, wanted, package, task, at_since⟩ := waiting.agent
      have young : reconnectExpired datetime now row = false := by
        unfold reconnectExpired
        rw [state, at_since, Option.bind_some]
        cases start : datetime since with
        | none => rfl
        | some first =>
          cases current : datetime now with
          | none => rfl
          | some last =>
            have early := timely first last start current
            have late : ¬ first ≤ last - 600 := by omega
            simp [late]
      rw [interlude_expire]
      refine ⟨row, ?_, state, wanted, package, task, at_since⟩
      have untouched : (store.agents.update (reconnectExpired datetime now) failReconnect
          failReconnect_agentId).find agentId = store.agents.find agentId :=
        Table.find_update_other fun r at_agent => by
          rw [found] at at_agent
          cases at_agent
          exact young
      exact untouched.trans found

theorem waiting_interludes {version packageId taskId since : String} {store : Store}
    {datetime : String → Option Int} {events : List Interlude}
    (timely : ∀ event ∈ events, Timely datetime since event)
    (waiting : Waiting agentId version packageId taskId since store) :
    Waiting agentId version packageId taskId since
      (Runs.run (interlude datetime) store events) := by
  apply Runs.run_invariant (Waiting agentId version packageId taskId since)
    (fun _ event => Timely datetime since event)
    (fun _ _ waiting timely => waiting_interlude timely waiting) _ waiting
  intro before event after split
  exact timely event (by rw [split]; simp)

/-- The success of an upgrade task as its agent reports it. -/
structure ReportsSuccess (agentId taskId : String) (request : TaskResult) : Prop where
  agent : request.agentId = agentId
  task : request.taskId = taskId
  kind : request.taskType = .packageUpdate
  status : request.status = .succeeded

/-- The result of an upgrade in flight makes its agent wait. -/
theorem result_makes_wait {version packageId taskId : String} {store : Store}
    {request : TaskResult} (success : ReportsSuccess agentId taskId request)
    (resultBlob errorBlob : Option Blob)
    (inFlight : InFlight agentId version packageId taskId store) :
    Waiting agentId version packageId taskId request.occurredAt
      (upgradeEvent store (.recordTaskResult request resultBlob errorBlob)) := by
  obtain ⟨row, found, state, wanted, package, task_eq⟩ := inFlight.agent
  obtain ⟨task, at_task, open_task, prerequisites⟩ := inFlight.task
  have at_request : store.tasks.find request.taskId = some task := by
    rw [success.task]
    exact at_task
  obtain ⟨results, fresh⟩ := Option.isSome_iff_exists.mp
    ((Table.insert_isSome_iff store.taskResults (taskResultRow request resultBlob errorBlob)).mpr
      (by rw [show (taskResultRow request resultBlob errorBlob).taskId = taskId from success.task]
          exact inFlight.unrecorded))
  have recorded := recordTaskResult_succeeds at_request open_task fresh
  rw [show upgradeEvent store (.recordTaskResult request resultBlob errorBlob) =
    recordedStore request results store from succeeds_state recorded]
  constructor
  · refine ⟨settleUpgrade request row, ?_, ?_, wanted, package, task_eq, rfl⟩
    · have chosen : upgradeTaskIs request.agentId request.taskId row = true := by
        simp [upgradeTaskIs, success.agent, success.task, task_eq, Table.find_key found]
      change (settledAgents request
        { store with tasks := finishTask store.tasks request }).find agentId = _
      unfold settledAgents
      rw [if_pos success.kind, if_neg (not_not.mpr success.status), Table.find_update, found]
      simp [chosen]
    · simp [settleUpgrade, success.status]
  · have at_finished : ∀ k, (recordedStore request results store).tasks.find k =
        if k = request.taskId then some (finish request task) else store.tasks.find k :=
      find_finishTask at_request open_task
    refine ⟨finish request task, ?_, ?_, ?_⟩
    · rw [at_finished, if_pos success.task.symm]
    · simp only [finish, success.status]
      decide
    · intro id needs
      obtain ⟨prerequisite, at_id, succeeded⟩ := prerequisites id needs
      refine ⟨prerequisite, ?_, by rw [succeeded]; decide⟩
      have other : id ≠ request.taskId := by
        rintro rfl
        rw [at_request] at at_id
        cases at_id
        rw [succeeded] at open_task
        cases open_task
      rw [at_finished, if_neg other, at_id]

/-- The awaited version confirms the upgrade. -/
theorem registration_confirms {version packageId taskId since : String} {store : Store}
    {request : AgentRegistration} (same_agent : request.agentId = agentId)
    (same_version : request.agentVersion = version)
    (waiting : Waiting agentId version packageId taskId since store) :
    Settled agentId packageId taskId (upgradeEvent store (.upsertAgent request)) := by
  rw [show upgradeEvent store (.upsertAgent request) = _ from
    succeeds_state (upsertAgent_succeeds request store)]
  obtain ⟨row, found, state, wanted, package, task_eq, _⟩ := waiting.agent
  constructor
  · have confirmed : confirmUpgrade (registeredRow request) row =
        { row with
          currentPackageId := row.desiredPackageId
          upgradeState := some .succeeded
          lastUpgradeError := none
          lastUpgradeAt := some request.occurredAt } := by
      unfold confirmUpgrade
      rw [if_pos]
      · rfl
      · simp [reconnectMatches, state, wanted, registeredRow, same_version]
    refine ⟨mergeRegistration (registeredRow request) row, ?_, ?_, ?_, ?_⟩
    · change (upsertInto store.agents _ _ _).find agentId = _
      rw [find_upsertInto, found]
      exact if_pos same_agent
    · rw [mergeRegistration, confirmed]
      rfl
    · rw [mergeRegistration, confirmed]
      exact package
    · rw [mergeRegistration, confirmed]
      exact task_eq
  · exact waiting.task

/-- Which of the two events is applied first. -/
inductive Order where
  | resultFirst
  | registrationFirst

/-- Both events in this order, with interludes. -/
def confirmations (datetime : String → Option Int) (store : Store) (before : List Interlude)
    (between : List Interlude) (registration result : UpgradeEvent) : Order → Store
  | .resultFirst => afterBoth datetime store before result between registration
  | .registrationFirst => afterBoth datetime store before registration between result

def firstEvent (registration result : UpgradeEvent) : Order → UpgradeEvent
  | .resultFirst => result
  | .registrationFirst => registration

theorem confirmed_of_settled {packageId taskId : String} {store : Store}
    (settled : Settled agentId packageId taskId store) : Confirmed agentId packageId store := by
  obtain ⟨row, found, state, current, _⟩ := settled.agent
  exact ⟨row, found, state, current⟩

theorem waiting_not_confirmed {version packageId taskId since : String} {store : Store}
    (waiting : Waiting agentId version packageId taskId since store) :
    ¬ Confirmed agentId packageId store := by
  rintro ⟨row, found, state, _⟩
  obtain ⟨row', found', state', _⟩ := waiting.agent
  rw [found] at found'
  cases found'
  rw [state] at state'
  cases state'

def registrationOf (agentVersion occurredAt : String) : AgentRegistration where
  protocolVersion := protocolVersion
  requestId := "request-" ++ agentVersion
  agentId := "agent-1"
  occurredAt := occurredAt
  agentVersion := agentVersion
  hostname := "host"
  os := "linux"
  arch := "x86_64"
  registrationToken := none

def upgradeTask : Task where
  protocolVersion := protocolVersion
  taskId := "task-1"
  agentId := "agent-1"
  taskType := .packageUpdate
  capabilityLevel := .lowRiskWrite
  createdAt := "2026-03-01T12:00:00Z"
  expiresAt := "2026-03-01T13:00:00Z"
  input := .packageUpdate { component := "agent", packageId := "package-2", version := "2.0" }

def upgradeSuccess : TaskResult where
  protocolVersion := protocolVersion
  requestId := "request-1"
  taskId := "task-1"
  agentId := "agent-1"
  taskType := .packageUpdate
  occurredAt := "2026-03-01T12:00:20Z"
  status := .succeeded
  result := some (.packageUpdate {
    component := "agent", packageId := "package-2", version := "2.0"
    state := "succeeded", errorCode := "", errorMessage := "" })
  error := none

/-- Registered, scheduled, claimed and started. -/
def upgradeStarted : List Call :=
  [⟨.agent (.upsertAgent (registrationOf "1.0" "2026-03-01T11:00:00Z")), []⟩,
    ⟨.queue (.scheduleAgentUpgrade "agent-1" "2.0" "package-2" none "2026-03-01T12:00:00Z"
      upgradeTask none), []⟩,
    ⟨.queue (.asyncClaimNextTaskForAgent "agent-1" "2026-03-01T12:00:05Z"), []⟩,
    ⟨.report (.markTaskRunning {
      protocolVersion := protocolVersion, requestId := "request-0", taskId := "task-1"
      agentId := "agent-1", taskType := .packageUpdate
      occurredAt := "2026-03-01T12:00:06Z" }), []⟩]

theorem upgradeStarted_inFlight :
    InFlight "agent-1" "2.0" "package-2" "task-1" (Runs.run step Store.empty upgradeStarted) where
  agent := ⟨_, rfl, rfl, rfl, rfl, rfl⟩
  task := ⟨_, rfl, rfl, fun id needs => by cases needs⟩
  unrecorded := rfl

theorem upgradeSuccess_reported : ReportsSuccess "agent-1" "task-1" upgradeSuccess :=
  ⟨rfl, rfl, rfl, rfl⟩

/-- The reading of the times of the example. -/
def exampleDatetime (text : String) : Option Int :=
  if text = "2026-03-01T12:00:20Z" then some 1772366420
  else if text = "2026-03-01T12:00:40Z" then some 1772366440
  else if text = "2026-03-01T12:10:20Z" then some 1772367020
  else none

end UpgradeConfirmation
