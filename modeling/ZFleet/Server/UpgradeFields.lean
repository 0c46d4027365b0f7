import ZFleet.Server.EventAtomicity
import ZFleet.Server.TaskLifecycle
import ZFleet.Server.UpgradeConfirmation

/-!
The upgrade columns of an agent and the task they name. Scheduling, results,
registrations and the reconnect timeout each write a part of the columns; over any calls
of the server the state of the upgrade says what became of the agent's last upgrade task.
-/
namespace UpgradeFields
open Message KeyedTables Transactions Schema AgentStore TaskStore TaskOperations TaskLifecycle
open ControlService
open EventAtomicity (Untouched)
open UpgradeConfirmation (find_settledAgents_other)

/-- The task ended without success. -/
def Missed (task : TaskRow) : Prop := task.state = .failed ∨ task.state = .expired

/-- The failure is the reconnect timeout or a reconnect with another version. -/
def LostOnReconnect (row : AgentRow) : Prop :=
  row.lastUpgradeError = some .waitingReconnectTimeout ∨
    row.lastUpgradeError = some .agentReportedUnexpectedVersion

/-- What the state of an upgrade says about its task. -/
def SaysOfTask (tasks : Table TaskRow TaskRow.taskId) (row : AgentRow) (task : TaskRow) :
    UpgradeState → Prop
  | .queued => isTerminalTaskState task.state = false
  | .waitingReconnect => task.state = .succeeded
  | .succeeded => task.state = .succeeded
  | .failed => Missed task ∨
    (∃ id prerequisite, task.prerequisiteTaskId = some id ∧ tasks.find id = some prerequisite ∧
      Missed prerequisite) ∨
    (task.state = .succeeded ∧ LostOnReconnect row)

/-- The columns name a task of the agent, and their state is true of it. -/
def UpgradeAgrees (tasks : Table TaskRow TaskRow.taskId) (row : AgentRow) : Prop :=
  ∀ state, row.upgradeState = some state → ∃ taskId task,
    row.lastUpgradeTaskId = some taskId ∧ tasks.find taskId = some task ∧
    task.agentId = row.agentId ∧ SaysOfTask tasks row task state

/-- The invariant: the named task is an upgrade task, and no task is named without a state. -/
structure Accounted (tasks : Table TaskRow TaskRow.taskId) (row : AgentRow) : Prop where
  unnamed : row.upgradeState = none → row.lastUpgradeTaskId = none
  agrees : UpgradeAgrees tasks row
  upgrades : ∀ taskId task, row.lastUpgradeTaskId = some taskId →
    tasks.find taskId = some task → task.taskType = .packageUpdate

theorem accounted_of_named {tasks : Table TaskRow TaskRow.taskId} {row : AgentRow}
    {state : UpgradeState} {taskId : String} {task : TaskRow}
    (at_state : row.upgradeState = some state) (last : row.lastUpgradeTaskId = some taskId)
    (found : tasks.find taskId = some task) (owner : task.agentId = row.agentId)
    (upgrade : task.taskType = .packageUpdate) (holds : SaysOfTask tasks row task state) :
    Accounted tasks row := by
  constructor
  · intro unset
    rw [unset] at at_state
    cases at_state
  · intro other at_other
    rw [at_state] at at_other
    cases at_other
    exact ⟨taskId, task, last, found, owner, holds⟩
  · intro taskId' task' last' found'
    rw [last] at last'
    cases last'
    rw [found] at found'
    cases found'
    exact upgrade

def AllAccounted (store : Store) : Prop :=
  ∀ agentId row, store.agents.find agentId = some row → Accounted store.tasks row

/-! What an effect on the tasks does to the account of an agent -/

variable {created : List Task} {reported : List TaskResult} {before after : Store}

/-- A finished task does not change any more. -/
theorem effect_keeps_finished (effect : TaskEffect created reported before after) {k : String}
    {row : TaskRow} (found : before.tasks.find k = some row)
    (terminal : isTerminalTaskState row.state = true) : after.tasks.find k = some row := by
  have elsewhere : ∀ (other : TaskRow) (id : String), before.tasks.find id = some other →
      isTerminalTaskState other.state = false → k ≠ id := by
    rintro other id at_id open_row rfl
    rw [found] at at_id
    cases at_id
    rw [terminal] at open_row
    cases open_row
  cases effect with
  | quiet tasks _ => rw [tasks, found]
  | queued rows _ inserted _ => exact Table.insertAll_mono inserted found
  | assigned chosen assignedAt at_chosen state tasks _ =>
    have other := elsewhere chosen _ at_chosen (by rw [state]; rfl)
    rw [tasks, find_assignTask at_chosen state, if_neg other, found]
  | started chosen occurredAt at_chosen state tasks _ =>
    have other := elsewhere chosen _ at_chosen (by rw [state]; rfl)
    rw [tasks, find_startTask at_chosen state, if_neg other, found]
  | finished chosen request _ _ _ at_chosen open_row tasks _ =>
    have other := elsewhere chosen _ at_chosen open_row
    rw [tasks, find_finishTask at_chosen open_row, if_neg other, found]

/-- An unfinished task stays unfinished unless its result is reported. -/
theorem effect_keeps_open (effect : TaskEffect created reported before after) {k : String}
    {row : TaskRow} (found : before.tasks.find k = some row)
    (open_row : isTerminalTaskState row.state = false)
    (unreported : ∀ request ∈ reported, request.taskId ≠ k) :
    ∃ row', after.tasks.find k = some row' ∧ isTerminalTaskState row'.state = false := by
  cases effect with
  | quiet tasks _ => exact ⟨row, by rw [tasks, found], open_row⟩
  | queued rows _ inserted _ => exact ⟨row, Table.insertAll_mono inserted found, open_row⟩
  | assigned chosen assignedAt at_chosen state tasks _ =>
    rw [tasks, find_assignTask at_chosen state]
    by_cases same : k = chosen.taskId
    · exact ⟨_, if_pos same, rfl⟩
    · exact ⟨row, (if_neg same).trans found, open_row⟩
  | started chosen occurredAt at_chosen state tasks _ =>
    rw [tasks, find_startTask at_chosen state]
    by_cases same : k = chosen.taskId
    · exact ⟨_, if_pos same, rfl⟩
    · exact ⟨row, (if_neg same).trans found, open_row⟩
  | finished chosen request _ _ is_reported at_chosen open_chosen tasks _ =>
    have other : k ≠ request.taskId := fun same => unreported request is_reported same.symm
    rw [tasks, find_finishTask at_chosen open_chosen]
    exact ⟨row, (if_neg other).trans found, open_row⟩

theorem missed_terminal {task : TaskRow} (missed : Missed task) :
    isTerminalTaskState task.state = true := by
  rcases missed with state | state <;> rw [state] <;> rfl

/-- What the state says stays true until the result of the task is reported. -/
theorem saysOfTask_stays (effect : TaskEffect created reported before after) {row : AgentRow}
    {taskId : String} {task : TaskRow} {state : UpgradeState}
    (found : before.tasks.find taskId = some task)
    (unreported : ∀ request ∈ reported, request.taskId ≠ taskId)
    (holds : SaysOfTask before.tasks row task state) :
    ∃ task', after.tasks.find taskId = some task' ∧ SameIdentity task task' ∧
      SaysOfTask after.tasks row task' state := by
  obtain ⟨task', found', same⟩ := effect_keeps_identity effect found
  refine ⟨task', found', same, ?_⟩
  have stays : isTerminalTaskState task.state = true → task' = task := by
    intro terminal
    rw [effect_keeps_finished effect found terminal] at found'
    exact (Option.some.inj found').symm
  cases state with
  | queued =>
    obtain ⟨open_task, at_id, open_row⟩ := effect_keeps_open effect found holds unreported
    rw [found'] at at_id
    cases at_id
    exact open_row
  | waitingReconnect =>
    rw [stays (by rw [show task.state = .succeeded from holds]; rfl)]
    exact holds
  | succeeded =>
    rw [stays (by rw [show task.state = .succeeded from holds]; rfl)]
    exact holds
  | failed =>
    rcases holds with missed | ⟨id, prerequisite, needs, at_id, missed⟩ | ⟨succeeded, lost⟩
    · rw [stays (missed_terminal missed)]
      exact Or.inl missed
    · have at_id' := effect_keeps_finished effect at_id (missed_terminal missed)
      exact Or.inr (Or.inl ⟨id, prerequisite, same.2.trans needs, at_id', missed⟩)
    · rw [stays (by rw [succeeded]; rfl)]
      exact Or.inr (Or.inr ⟨succeeded, lost⟩)

/-- An effect that does not report the agent's current task keeps its account. -/
theorem accounted_stays (effect : TaskEffect created reported before after) {row : AgentRow}
    (unreported : ∀ request ∈ reported, row.lastUpgradeTaskId ≠ some request.taskId)
    (accounted : Accounted before.tasks row) : Accounted after.tasks row := by
  constructor
  · exact accounted.unnamed
  · intro state at_state
    obtain ⟨taskId, task, last, found, agent, holds⟩ := accounted.agrees state at_state
    have other : ∀ request ∈ reported, request.taskId ≠ taskId := by
      intro request member same
      exact unreported request member (by rw [last, same])
    obtain ⟨task', found', same, holds'⟩ := saysOfTask_stays effect found other holds
    exact ⟨taskId, task', last, found', (congrArg Task.agentId same.1).trans agent, holds'⟩
  · intro taskId task' last found'
    cases state : row.upgradeState with
    | none =>
      rw [accounted.unnamed state] at last
      cases last
    | some upgradeState =>
      obtain ⟨taskId', task, last', found, _, _⟩ := accounted.agrees upgradeState state
      rw [last] at last'
      cases last'
      obtain ⟨task'', found'', same⟩ := effect_keeps_identity effect found
      rw [found'] at found''
      cases found''
      exact (congrArg Task.taskType same.1).trans (accounted.upgrades taskId task last found)

/-- A row with the same upgrade columns has the same account. -/
theorem accounted_of_columns {tasks : Table TaskRow TaskRow.taskId} {row row' : AgentRow}
    (agent : row'.agentId = row.agentId) (state : row'.upgradeState = row.upgradeState)
    (last : row'.lastUpgradeTaskId = row.lastUpgradeTaskId)
    (error : row'.lastUpgradeError = row.lastUpgradeError)
    (accounted : Accounted tasks row) : Accounted tasks row' := by
  constructor
  · rw [state, last]
    exact accounted.unnamed
  · intro upgradeState at_state
    rw [state] at at_state
    obtain ⟨taskId, task, named, found, owner, holds⟩ := accounted.agrees upgradeState at_state
    refine ⟨taskId, task, last.trans named, found, owner.trans agent.symm, ?_⟩
    cases upgradeState with
    | failed =>
      unfold SaysOfTask LostOnReconnect at holds ⊢
      rw [error]
      exact holds
    | _ => exact holds
  · rw [last]
    exact accounted.upgrades

/-- A waiting agent that is settled keeps its task, which succeeded. -/
theorem accounted_of_waiting {tasks : Table TaskRow TaskRow.taskId} {row row' : AgentRow}
    {state : UpgradeState} (waiting : row.upgradeState = some .waitingReconnect)
    (agent : row'.agentId = row.agentId) (settled : row'.upgradeState = some state)
    (last : row'.lastUpgradeTaskId = row.lastUpgradeTaskId)
    (outcome : state = .succeeded ∨ (state = .failed ∧ LostOnReconnect row'))
    (accounted : Accounted tasks row) : Accounted tasks row' := by
  obtain ⟨taskId, task, named, found, owner, succeeded⟩ := accounted.agrees _ waiting
  have upgrade := accounted.upgrades taskId task named found
  refine accounted_of_named settled (last.trans named) found (owner.trans agent.symm) upgrade ?_
  rcases outcome with rfl | ⟨rfl, lost⟩
  · exact succeeded
  · exact Or.inr (Or.inr ⟨succeeded, lost⟩)

/-! Jobs keep the account of every agent. -/

def KeepsAccounts (before after : Store) : Prop := AllAccounted before → AllAccounted after

theorem keepsAccounts_refl (store : Store) : KeepsAccounts store store := fun accounted => accounted

theorem keepsAccounts_trans (x y z : Store) (first : KeepsAccounts x y)
    (rest : KeepsAccounts y z) : KeepsAccounts x z := fun accounted => rest (first accounted)

theorem bind_keepsAccounts {α β : Type} {job : Job Store α} {next : α → Job Store β}
    (first : Evolves KeepsAccounts job) (rest : ∀ a, Evolves KeepsAccounts (next a)) :
    Evolves KeepsAccounts (job >>= next) := evolves_trans first rest keepsAccounts_trans

/-- An effect on tasks that leaves the agents alone and reports nothing. -/
theorem keepsAccounts_of_effect (agents : after.agents = before.agents)
    (effect : TaskEffect created [] before after) : KeepsAccounts before after := by
  intro accounted agentId row found
  rw [agents] at found
  exact accounted_stays effect (by simp) (accounted agentId row found)

theorem keepsAccounts_of_same (agents : after.agents = before.agents)
    (tasks : after.tasks = before.tasks) : KeepsAccounts before after := by
  intro accounted agentId row found
  rw [agents] at found
  rw [tasks]
  exact accounted agentId row found

theorem untouched_keepsAccounts (before after : Store) (same : Untouched before after) :
    KeepsAccounts before after := keepsAccounts_of_same same.agents same.tasks

/-- An update of agents that keeps the account of the rows it selects. -/
theorem updateAgents_keepsAccounts {selects : Store → AgentRow → Bool}
    {change : AgentRow → AgentRow} {keeps : ∀ r, (change r).agentId = r.agentId}
    (allowed : ∀ store row, selects store row = true → Accounted store.tasks row →
      Accounted store.tasks (change row)) :
    Evolves KeepsAccounts (updateAgents selects change keeps) :=
  evolves_of_atomic (statement_atomic _) keepsAccounts_refl fun s _ s' done accounted => by
    obtain ⟨_, effect⟩ := updateAgents_ok done
    intro agentId row' found'
    rw [effect] at found' ⊢
    change (s.state.agents.update _ change keeps).find agentId = some row' at found'
    rw [Table.find_update, Option.map_eq_some_iff] at found'
    obtain ⟨row, found, rfl⟩ := found'
    have stored := accounted agentId row found
    by_cases chosen : selects s.state row = true
    · rw [if_pos chosen]
      exact allowed s.state row chosen stored
    · rw [if_neg chosen]
      exact stored

/-! Registrations and the timeout -/

/-- A registration decides a waiting upgrade and leaves the other columns alone. -/
theorem mergeRegistration_accounted {tasks : Table TaskRow TaskRow.taskId}
    (excluded : AgentRow) {row : AgentRow} (accounted : Accounted tasks row) :
    Accounted tasks (mergeRegistration excluded row) := by
  unfold mergeRegistration confirmUpgrade
  by_cases matched : reconnectMatches excluded row = true
  · rw [if_pos matched]
    have waiting : row.upgradeState = some .waitingReconnect := by
      simp only [reconnectMatches, Bool.and_eq_true, decide_eq_true_eq] at matched
      exact matched.1
    exact accounted_of_waiting waiting rfl rfl rfl (Or.inl rfl) accounted
  rw [if_neg matched]
  by_cases packageless : reconnectWithoutPackage row = true
  · rw [if_pos packageless]
    have waiting : row.upgradeState = some .waitingReconnect := by
      simp only [reconnectWithoutPackage, Bool.and_eq_true, decide_eq_true_eq] at packageless
      exact packageless.1
    exact accounted_of_waiting waiting rfl rfl rfl (Or.inl rfl) accounted
  rw [if_neg packageless]
  by_cases unexpected : reconnectMismatches excluded row = true
  · rw [if_pos unexpected]
    have waiting : row.upgradeState = some .waitingReconnect := by
      simp only [reconnectMismatches, Bool.and_eq_true, decide_eq_true_eq] at unexpected
      exact unexpected.1
    exact accounted_of_waiting waiting rfl rfl rfl (Or.inr ⟨rfl, Or.inr rfl⟩) accounted
  · rw [if_neg unexpected]
    refine accounted_of_columns ?_ ?_ ?_ ?_ accounted <;> rfl

theorem upsertAgentRow_keepsAccounts {excluded : AgentRow}
    {merge : AgentRow → AgentRow → AgentRow}
    {keeps : ∀ r, (merge excluded r).agentId = r.agentId}
    (unscheduled : excluded.upgradeState = none ∧ excluded.lastUpgradeTaskId = none)
    (allowed : ∀ tasks row, Accounted tasks row → Accounted tasks (merge excluded row)) :
    Evolves KeepsAccounts (upsertAgentRow excluded merge keeps) := by
  apply evolves_execute keepsAccounts_refl
  intro store accounted agentId row' found'
  change (upsertInto store.agents excluded merge keeps).find agentId = some row' at found'
  change Accounted store.tasks row'
  rw [find_upsertInto] at found'
  by_cases same : excluded.agentId = agentId
  · rw [if_pos same] at found'
    cases found : store.agents.find agentId with
    | none =>
      rw [found] at found'
      cases found'
      constructor
      · exact fun _ => unscheduled.2
      · intro state at_state
        rw [unscheduled.1] at at_state
        cases at_state
      · intro taskId task last
        rw [unscheduled.2] at last
        cases last
    | some row =>
      rw [found] at found'
      cases found'
      exact allowed _ _ (accounted agentId row found)
  · rw [if_neg same] at found'
    exact accounted agentId row' found'

theorem upsertAgent_keepsAccounts (request : AgentRegistration) :
    Evolves KeepsAccounts (upsertAgent request) :=
  submitWrite_evolves keepsAccounts_trans <|
    upsertAgentRow_keepsAccounts ⟨rfl, rfl⟩ fun _ _ => mergeRegistration_accounted _

theorem asyncUpsertAgent_keepsAccounts (request : AgentRegistration) :
    Evolves KeepsAccounts (asyncUpsertAgent request) :=
  submitWrite_evolves keepsAccounts_trans <|
    upsertAgentRow_keepsAccounts ⟨rfl, rfl⟩ fun _ _ => accounted_of_columns rfl rfl rfl rfl

theorem markAgentOffline_keepsAccounts (agentId disconnectedAt : String) :
    Evolves KeepsAccounts (markAgentOffline agentId disconnectedAt) :=
  submitWrite_evolves keepsAccounts_trans <| bind_keepsAccounts
    (updateAgents_keepsAccounts fun _ _ _ => accounted_of_columns rfl rfl rfl rfl)
    fun _ => evolves_pure keepsAccounts_refl _

theorem expireWaitingReconnect_keepsAccounts (datetime : String → Option Int) (now : String) :
    Evolves KeepsAccounts (expireWaitingReconnect datetime now) := by
  apply submitWrite_evolves keepsAccounts_trans
  apply bind_keepsAccounts (evolves_query keepsAccounts_refl _)
  intro expired
  refine bind_keepsAccounts (updateAgents_keepsAccounts ?_)
    fun _ => evolves_pure keepsAccounts_refl _
  intro store row chosen accounted
  simp only [reconnectExpired, Bool.and_eq_true, decide_eq_true_eq] at chosen
  exact accounted_of_waiting chosen.1 rfl rfl rfl (Or.inr ⟨rfl, Or.inl rfl⟩) accounted

/-! Scheduling -/

/-- The scheduled task is an upgrade task of the agent. -/
def OwnUpgrade (agentId : String) (task : Message.Task) : Prop :=
  task.agentId = agentId ∧ task.taskType = .packageUpdate

theorem scheduleAgentUpgrade_keepsAccounts {agentId : String} {task : Message.Task}
    (own : OwnUpgrade agentId task) (version packageId : String) (setBy : Option String)
    (setAt : String) (prerequisite : Option Message.Task) :
    Evolves KeepsAccounts
      (scheduleAgentUpgrade agentId version packageId setBy setAt task prerequisite) :=
  evolves_of_atomic (scheduleAgentUpgrade_atomic _ _ _ _ _ _ _) keepsAccounts_refl
    fun s _ s' done accounted => by
      obtain ⟨rows, tasks, queued, inserted, effect, _, _, input, _, at_task⟩ :=
        scheduleAgentUpgrade_queues done
      rw [effect]
      intro id row' found'
      change (s.state.agents.update (agentIs agentId)
        (setDesired version packageId setBy setAt task.taskId)
        (setDesired_agentId _ _ _ _ _)).find id = some row' at found'
      change Accounted tasks row'
      rw [Table.find_update, Option.map_eq_some_iff] at found'
      obtain ⟨row, found, rfl⟩ := found'
      by_cases chosen : agentIs agentId row = true
      · rw [if_pos chosen]
        have agent : row.agentId = agentId := by simpa [agentIs] using chosen
        exact accounted_of_named rfl rfl at_task (own.1.trans agent.symm)
          own.2 rfl
      · rw [if_neg chosen]
        have grown : TaskEffect (prerequisite.toList ++ [task]) [] s.state
            { s.state with tasks := tasks } := .queued rows queued inserted rfl
        exact accounted_stays grown (by simp) (accounted id row found)

theorem clearDesiredTarget_keepsAccounts (agentId taskId : String) :
    Evolves KeepsAccounts (clearDesiredTarget agentId taskId) :=
  submitWrite_evolves keepsAccounts_trans <| bind_keepsAccounts
    (updateAgents_keepsAccounts fun _ _ _ => accounted_of_columns rfl rfl rfl rfl)
    fun _ => evolves_pure keepsAccounts_refl _

/-- A call schedules upgrade tasks of the agent it schedules them for. -/
def SchedulesOwn : QueueOp → Prop
  | .scheduleAgentUpgrade agentId _ _ _ _ task _ => OwnUpgrade agentId task
  | .scheduleAgentRollback agentId _ _ task => OwnUpgrade agentId task
  | _ => True

theorem queueOp_keepsAccounts {op : QueueOp} (own : SchedulesOwn op) :
    Evolves KeepsAccounts (executeQueue op) := by
  cases op with
  | enqueueTask task =>
    refine evolves_discard none ?_
    exact evolves_of_atomic (enqueueTask_atomic task) keepsAccounts_refl fun s _ s' done => by
      have effect := enqueueTask_effect task s _ s' done
      obtain ⟨_, _, _, _, stored⟩ := enqueueTask_ok done
      exact keepsAccounts_of_effect (by rw [stored]) effect
  | asyncEnqueueTask task =>
    refine evolves_discard none ?_
    exact evolves_of_atomic (asyncEnqueueTask_atomic task) keepsAccounts_refl
      fun s _ s' done => by
        have effect := asyncEnqueueTask_effect task s _ s' done
        obtain ⟨_, _, _, _, stored⟩ := asyncEnqueueTask_ok done
        exact keepsAccounts_of_effect (by rw [stored]) effect
  | scheduleAgentUpgrade agentId version packageId setBy setAt task prerequisite =>
    exact evolves_discard none (scheduleAgentUpgrade_keepsAccounts own _ _ _ _ _)
  | scheduleAgentRollback agentId setBy setAt task =>
    exact evolves_discard none <| bind_keepsAccounts
      (scheduleAgentUpgrade_keepsAccounts own _ _ _ _ _)
      fun _ => clearDesiredTarget_keepsAccounts _ _
  | claimNextTaskForAgent agentId assignedAt auditId =>
    exact evolves_of_atomic (claimNextTaskForAgent_atomic _ _ _) keepsAccounts_refl
      fun s _ s' done => by
        have effect := claimNextTaskForAgent_effect agentId assignedAt auditId s _ s' done
        rcases claimNextTaskForAgent_ok done with ⟨_, _, same⟩ | ⟨_, _, _, _, assigned⟩
        · exact keepsAccounts_of_effect (by rw [same]) effect
        · exact keepsAccounts_of_effect (by rw [assigned]) effect
  | asyncClaimNextTaskForAgent agentId assignedAt =>
    exact evolves_of_atomic (asyncClaimNextTaskForAgent_atomic _ _) keepsAccounts_refl
      fun s _ s' done => by
        have effect := asyncClaimNextTaskForAgent_effect agentId assignedAt s _ s' done
        rcases asyncClaimNextTaskForAgent_ok done with ⟨_, _, same⟩ | ⟨_, _, _, assigned⟩
        · exact keepsAccounts_of_effect (by rw [same]) effect
        · exact keepsAccounts_of_effect (by rw [assigned]) effect

/-! Results -/

/-- The follow-up writes of a result on one row. -/
def settledRow (request : TaskResult) (store : Store) (row : AgentRow) : AgentRow :=
  let settled := if upgradeTaskIs request.agentId request.taskId row then
    settleUpgrade request row else row
  if request.status ≠ .succeeded ∧ dependsOn request.agentId request.taskId store settled then
    failDependent request settled
  else settled

theorem find_settledAgents {request : TaskResult} (upgrade : request.taskType = .packageUpdate)
    (store : Store) (agentId : String) :
    (settledAgents request store).find agentId =
      (store.agents.find agentId).map (settledRow request store) := by
  unfold settledAgents settledRow
  rw [if_pos upgrade]
  by_cases failed : request.status ≠ .succeeded
  · simp only [failed, not_false_eq_true, true_and, if_true, Table.find_update, Option.map_map,
      ne_eq]
    rfl
  · simp only [failed, false_and, if_false, Table.find_update]

theorem terminalState_missed {request : TaskResult} (failed : request.status ≠ .succeeded)
    (task : TaskRow) : Missed (finish request task) := by
  unfold Missed finish
  revert failed
  cases request.status <;> simp [terminalState]

/-- A result of a task of its agent keeps every account. -/
theorem settledRow_accounted {request : TaskResult} {store : Store} {task : TaskRow}
    {row : AgentRow} (found : store.tasks.find request.taskId = some task)
    (open_task : isTerminalTaskState task.state = false) (agent : task.agentId = request.agentId)
    (upgrade : task.taskType = .packageUpdate)
    (accounted : Accounted store.tasks row)
    (stays : row.lastUpgradeTaskId ≠ some request.taskId →
      Accounted (finishTask store.tasks request) row) :
    Accounted (finishTask store.tasks request)
      (settledRow request { store with tasks := finishTask store.tasks request } row) := by
  have at_finished := find_finishTask found open_task
  have current : ∀ settled : AgentRow, settled.agentId = request.agentId →
      settled.lastUpgradeTaskId = some request.taskId → ∀ state,
      settled.upgradeState = some state →
      SaysOfTask (finishTask store.tasks request) settled (finish request task) state →
      Accounted (finishTask store.tasks request) settled := by
    intro settled owner last state at_state holds
    have stored : (finishTask store.tasks request).find request.taskId =
        some (finish request task) := by rw [at_finished, if_pos rfl]
    exact accounted_of_named at_state last stored (agent.trans owner.symm) upgrade holds
  unfold settledRow
  by_cases chosen : upgradeTaskIs request.agentId request.taskId row = true
  · -- the agent's own task: its end decides the state
    simp only [chosen, if_true]
    simp only [upgradeTaskIs, Bool.and_eq_true, decide_eq_true_eq] at chosen
    by_cases failed : request.status ≠ .succeeded
    · have missed := terminalState_missed failed task
      split
      · exact current _ chosen.1 chosen.2 .failed rfl (Or.inl missed)
      · refine current _ chosen.1 chosen.2 .failed ?_ (Or.inl missed)
        simp [settleUpgrade, failed]
    · have succeeded := not_not.mp failed
      rw [if_neg fun both => failed both.1]
      refine current _ chosen.1 chosen.2 .waitingReconnect (by simp [settleUpgrade, succeeded]) ?_
      simp [SaysOfTask, finish, succeeded, terminalState]
  · simp only [chosen, if_false, Bool.false_eq_true]
    -- another task: the state is still true of the agent's own
    have unreported : row.lastUpgradeTaskId ≠ some request.taskId := by
      intro last
      cases state : row.upgradeState with
      | none =>
        rw [accounted.unnamed state] at last
        cases last
      | some upgradeState =>
        obtain ⟨taskId, named, last', at_task, owner, _⟩ := accounted.agrees _ state
        rw [last] at last'
        cases last'
        rw [found] at at_task
        cases at_task
        exact chosen (by simp [upgradeTaskIs, last, ← owner, agent])
    have stays := stays unreported
    split
    · rename_i failing
      obtain ⟨failed, depends⟩ := failing
      simp only [dependsOn, Bool.and_eq_true, decide_eq_true_eq, List.any_eq_true] at depends
      obtain ⟨_, dependent, member, last, needs⟩ := depends
      cases state : row.upgradeState with
      | none =>
        rw [accounted.unnamed state] at last
        cases last
      | some upgradeState =>
        obtain ⟨taskId, named, last', at_task, owner, _⟩ := stays.agrees _ state
        have same : some taskId = some dependent.taskId := last'.symm.trans last
        cases same
        have same : some named = some dependent := at_task.symm.trans (Table.find_of_mem member)
        cases same
        have kind := stays.upgrades _ _ last at_task
        refine accounted_of_named rfl last at_task owner kind ?_
        refine Or.inr (Or.inl ⟨request.taskId, finish request task, needs, ?_, ?_⟩)
        · rw [at_finished, if_pos rfl]
        · exact terminalState_missed failed task
    · exact stays

/-- What a stored result may be about: a task of its agent and its type. -/
def StoredFor (store : Store) (request : TaskResult) : Prop :=
  ∃ row, store.tasks.find request.taskId = some row ∧ row.agentId = request.agentId ∧
    row.taskType = request.taskType

theorem recordTaskResult_keepsAccounts {request : TaskResult} {resultBlob errorBlob : Option Blob}
    {s s' : Session Store} {result : Except Failure Unit} (stored : StoredFor s.state request)
    (ran : recordTaskResult request resultBlob errorBlob s = (result, s')) :
    KeepsAccounts s.state s'.state := by
  cases result with
  | error e =>
    rw [recordTaskResult_atomic _ _ _ s e s' ran]
    exact keepsAccounts_refl s.state
  | ok u =>
    obtain ⟨task, results, found, open_task, fresh, effect⟩ := recordTaskResult_ok ran
    obtain ⟨row, found', agent, kind⟩ := stored
    rw [found] at found'
    cases found'
    intro accounted agentId row' found'
    rw [effect] at found' ⊢
    have finished : TaskEffect [] [request] s.state
        { s.state with tasks := finishTask s.state.tasks request, taskResults := results } :=
      .finished task request resultBlob errorBlob (List.mem_singleton_self _) found open_task rfl
        fresh
    change (settledAgents request
      { s.state with tasks := finishTask s.state.tasks request }).find agentId = _ at found'
    by_cases upgrade : request.taskType = .packageUpdate
    · rw [find_settledAgents upgrade, Option.map_eq_some_iff] at found'
      obtain ⟨row, at_agent, rfl⟩ := found'
      have account := accounted agentId row at_agent
      refine settledRow_accounted found open_task agent (kind.trans upgrade) account ?_
      intro unreported
      exact accounted_stays finished (by simpa using unreported) account
    · unfold settledAgents at found'
      rw [if_neg upgrade] at found'
      have stored := accounted agentId row' found'
      refine accounted_stays finished ?_ stored
      intro other member last
      obtain rfl := List.mem_singleton.mp member
      exact upgrade (kind.symm.trans (stored.upgrades _ task last found))

/-! Events and the other calls -/

theorem recordAuditEvent_keepsAccounts (event : AuditEventRow) :
    Evolves KeepsAccounts (recordAuditEvent event) :=
  evolves_mono (EventAtomicity.recordAuditEvent_untouched event) untouched_keepsAccounts

theorem recordAssetSnapshot_keepsAccounts (request : AssetSnapshot) (eventBlob : Blob) :
    Evolves KeepsAccounts (recordAssetSnapshot request eventBlob) :=
  submitWrite_evolves keepsAccounts_trans <|
    evolves_execute keepsAccounts_refl fun _ => keepsAccounts_of_same rfl rfl

theorem updateTokens_keepsAccounts (selects : RegistrationTokenRow → Bool)
    (change : RegistrationTokenRow → RegistrationTokenRow)
    (keeps : ∀ r, (change r).tokenId = r.tokenId) :
    Evolves KeepsAccounts (updateTokens selects change keeps) :=
  evolves_statement keepsAccounts_refl fun _ _ _ ran => by
    cases ran
    exact keepsAccounts_of_same rfl rfl

theorem consumeRegistrationToken_keepsAccounts (tokenHash platform arch usedAt : String) :
    Evolves KeepsAccounts (consumeRegistrationToken tokenHash platform arch usedAt) :=
  submitWrite_evolves keepsAccounts_trans <|
    bind_keepsAccounts (updateTokens_keepsAccounts _ _ _) fun _ => evolves_pure keepsAccounts_refl _

theorem agentExists_keepsAccounts (agentId : String) :
    Evolves KeepsAccounts (agentExists agentId) :=
  evolves_mono (EventAtomicity.agentExists_untouched agentId) untouched_keepsAccounts

theorem findAgent_keepsAccounts (agentId : String) : Evolves KeepsAccounts (findAgent agentId) :=
  evolves_mono (EventAtomicity.findAgent_untouched agentId) untouched_keepsAccounts

theorem audited_keepsAccounts {α : Type} (event : AuditEventRow) (a : α) :
    Evolves KeepsAccounts (recordAuditEvent event >>= fun _ => pure a) :=
  evolves_mono (EventAtomicity.audited_untouched event a) untouched_keepsAccounts

theorem register_keepsAccounts (env : Environment) (request : AgentRegistration) :
    Evolves KeepsAccounts (register env request) := by
  apply bind_keepsAccounts (findAgent_keepsAccounts _)
  intro previous
  apply bind_keepsAccounts (upsertAgent_keepsAccounts request)
  intro _
  apply bind_keepsAccounts (findAgent_keepsAccounts _)
  intro current
  apply bind_keepsAccounts
  · exact evolves_mono (EventAtomicity.auditConfirmation_untouched _ _ _ _)
      untouched_keepsAccounts
  intro _
  apply bind_keepsAccounts (recordAssetSnapshot_keepsAccounts _ _)
  intro _
  exact audited_keepsAccounts _ _

theorem handleRegister_keepsAccounts (env : Environment) (request : AgentRegistration) :
    Evolves KeepsAccounts (handleRegister env request) := by
  apply evolves_recover
  apply bind_keepsAccounts
  · apply bind_keepsAccounts (agentExists_keepsAccounts _)
    intro known
    cases known with
    | true => exact evolves_pure keepsAccounts_refl _
    | false =>
      cases request.registrationToken with
      | none => exact evolves_pure keepsAccounts_refl _
      | some token =>
        exact bind_keepsAccounts (consumeRegistrationToken_keepsAccounts _ _ _ _)
          fun _ => evolves_pure keepsAccounts_refl _
  intro due
  cases due with
  | none => exact register_keepsAccounts env request
  | some used =>
    cases used with
    | false => exact audited_keepsAccounts _ _
    | true =>
      exact bind_keepsAccounts (recordAuditEvent_keepsAccounts _)
        fun _ => register_keepsAccounts env request

theorem handleAssetSnapshot_keepsAccounts (env : Environment) (request : AssetSnapshot) :
    Evolves KeepsAccounts (handleAssetSnapshot env request) := by
  apply evolves_recover
  apply bind_keepsAccounts (agentExists_keepsAccounts _)
  intro known
  cases known with
  | false => exact audited_keepsAccounts _ _
  | true =>
    exact bind_keepsAccounts (recordAssetSnapshot_keepsAccounts _ _)
      fun _ => audited_keepsAccounts _ _

theorem markTaskRunning_keepsAccounts (request : TaskRunning) :
    Evolves KeepsAccounts (markTaskRunning request) :=
  evolves_of_atomic (markTaskRunning_atomic request) keepsAccounts_refl fun s _ s' done => by
    have effect := markTaskRunning_effect request s _ s' done
    exact keepsAccounts_of_effect (by rw [(markTaskRunning_ok done).2]) effect

theorem handleTaskRunning_keepsAccounts (env : Environment) (request : TaskRunning) :
    Evolves KeepsAccounts (handleTaskRunning env request) := by
  unfold handleTaskRunning
  split
  · exact evolves_pure keepsAccounts_refl _
  apply evolves_recover
  apply bind_keepsAccounts
  · exact evolves_mono (EventAtomicity.findTaskById_untouched _) untouched_keepsAccounts
  intro found
  cases found with
  | none => exact evolves_pure keepsAccounts_refl _
  | some row =>
    cases check : checkStoredTask "running" request.agentId request.taskType row with
    | some refusal =>
      simp only [check]
      exact evolves_pure keepsAccounts_refl _
    | none =>
      simp only [check]
      split
      · exact evolves_pure keepsAccounts_refl _
      · exact bind_keepsAccounts (markTaskRunning_keepsAccounts request)
          fun _ => audited_keepsAccounts _ _

/-- The checks on the stored task let a result through only for a task of its agent. -/
theorem storeTaskResult_keepsAccounts (env : Environment) (request : TaskResult)
    (resultBlob errorBlob : Option Blob) :
    Evolves KeepsAccounts (storeTaskResult env request resultBlob errorBlob) := by
  intro s result s' ran
  rcases bind_cases ran with ⟨e, failed⟩ | ⟨found, looked, look, rest⟩
  · exact untouched_keepsAccounts _ _ (EventAtomicity.findTaskById_untouched _ s _ s' failed)
  obtain ⟨found_eq, unchanged⟩ := findTaskById_ok look
  rw [← unchanged]
  rw [← unchanged] at found_eq
  cases found with
  | none => exact evolves_pure keepsAccounts_refl _ looked _ s' rest
  | some row =>
    cases check : checkStoredTask "result" request.agentId request.taskType row with
    | some refusal =>
      simp only [check] at rest
      exact evolves_pure keepsAccounts_refl _ looked _ s' rest
    | none =>
      simp only [check] at rest
      obtain ⟨agent, kind, _⟩ := (checkStoredTask_none_iff _ _ _ _).mp check
      have stored : StoredFor looked.state request := ⟨row, found_eq.symm, agent, kind⟩
      rcases bind_cases rest with ⟨e, failed⟩ | ⟨_, recorded, record, audits⟩
      · exact recordTaskResult_keepsAccounts stored failed
      · exact keepsAccounts_trans _ _ _ (recordTaskResult_keepsAccounts stored record)
          (audited_keepsAccounts _ _ recorded _ s' audits)

theorem handleTaskResult_keepsAccounts (env : Environment) (request : TaskResult) :
    Evolves KeepsAccounts (handleTaskResult env request) := by
  unfold handleTaskResult
  split
  · exact evolves_pure keepsAccounts_refl _
  · cases resultBlobs env request with
    | error message => exact evolves_pure keepsAccounts_refl _
    | ok blobs => exact evolves_recover (storeTaskResult_keepsAccounts env request _ _)

theorem handleAgentEvent_keepsAccounts (env : Environment) (event : AgentEvent) :
    Evolves KeepsAccounts (handleAgentEvent env event) := by
  unfold handleAgentEvent
  by_cases refused : (validateEnvelope event).status ≠ .accepted
  · simp only [if_pos refused]
    exact evolves_pure keepsAccounts_refl _
  simp only [if_neg refused]
  cases event with
  | registration payload => exact handleRegister_keepsAccounts env payload
  | heartbeat payload =>
    exact evolves_recover <| bind_keepsAccounts (agentExists_keepsAccounts _)
      fun _ => evolves_pure keepsAccounts_refl _
  | assetSnapshot payload => exact handleAssetSnapshot_keepsAccounts env payload
  | taskRunning payload => exact handleTaskRunning_keepsAccounts env payload
  | taskResult payload => exact handleTaskResult_keepsAccounts env payload

theorem agentOp_keepsAccounts (op : AgentOp) : Evolves KeepsAccounts (executeAgent op) := by
  cases op with
  | upsertAgent request => exact upsertAgent_keepsAccounts request
  | asyncUpsertAgent request => exact asyncUpsertAgent_keepsAccounts request
  | markAgentOffline agentId disconnectedAt => exact markAgentOffline_keepsAccounts _ _
  | expireWaitingReconnect datetime now =>
    exact evolves_discard () (expireWaitingReconnect_keepsAccounts datetime now)
  | createRegistrationToken token =>
    exact submitWrite_evolves keepsAccounts_trans <|
      insertRow_evolves keepsAccounts_refl fun _ _ => keepsAccounts_of_same rfl rfl
  | consumeRegistrationToken tokenHash platform arch usedAt =>
    exact evolves_discard () (consumeRegistrationToken_keepsAccounts _ _ _ _)
  | revokeRegistrationToken tokenId revokedAt =>
    exact evolves_discard () <| submitWrite_evolves keepsAccounts_trans <|
      bind_keepsAccounts (updateTokens_keepsAccounts _ _ _)
        fun _ => evolves_pure keepsAccounts_refl _
  | recordAssetSnapshot request eventBlob => exact recordAssetSnapshot_keepsAccounts _ _
  | recordAuditEvent event => exact recordAuditEvent_keepsAccounts event

def OwnSchedules : ServerOp → Prop
  | .queue op => SchedulesOwn op
  | _ => True

theorem serverStep_keepsAccounts {store : Store} {call : ServerCall}
    (own : OwnSchedules call.op) : KeepsAccounts store (serverStep store call) := by
  obtain ⟨op, faults⟩ := call
  cases op with
  | queue op => exact evolves_discard () (queueOp_keepsAccounts own) ⟨store, faults⟩ _ _ rfl
  | event env event =>
    exact evolves_discard () (handleAgentEvent_keepsAccounts env event) ⟨store, faults⟩ _ _ rfl
  | agent op => exact agentOp_keepsAccounts op ⟨store, faults⟩ _ _ rfl

/-- No agent has been scheduled for an upgrade. -/
def NoUpgrades (store : Store) : Prop :=
  ∀ agentId row, store.agents.find agentId = some row →
    row.upgradeState = none ∧ row.lastUpgradeTaskId = none

theorem allAccounted_of_noUpgrades {store : Store} (fresh : NoUpgrades store) :
    AllAccounted store := by
  intro agentId row found
  obtain ⟨unset, unnamed⟩ := fresh agentId row found
  constructor
  · exact fun _ => unnamed
  · intro state at_state
    rw [unset] at at_state
    cases at_state
  · intro taskId task last
    rw [unnamed] at last
    cases last

theorem reachable_accounted {store : Store} (fresh : NoUpgrades store)
    {calls : List ServerCall} (own : ∀ call ∈ calls, OwnSchedules call.op) :
    AllAccounted (Runs.run serverStep store calls) := by
  apply Runs.run_invariant AllAccounted (fun _ call => OwnSchedules call.op)
    (fun _ _ accounted owns => serverStep_keepsAccounts owns accounted) _
    (allAccounted_of_noUpgrades fresh)
  intro before call after split
  exact own call (by rw [split]; simp)

/-- A result of another task than the current one and its prerequisite leaves an agent
    alone. -/
theorem other_result_keeps_agent {request : TaskResult} (resultBlob errorBlob : Option Blob)
    (s : Session Store) {agentId : String} {row : AgentRow}
    (found : s.state.agents.find agentId = some row)
    (other : row.lastUpgradeTaskId ≠ some request.taskId)
    (unneeded : ∀ taskId task, row.lastUpgradeTaskId = some taskId →
      s.state.tasks.find taskId = some task → task.prerequisiteTaskId ≠ some request.taskId) :
    (recordTaskResult request resultBlob errorBlob s).2.state.agents.find agentId = some row := by
  cases ran : recordTaskResult request resultBlob errorBlob s with
  | mk result s' =>
    cases result with
    | error e =>
      rw [recordTaskResult_atomic _ _ _ s e s' ran]
      exact found
    | ok u =>
      obtain ⟨task, results, at_task, open_task, _, effect⟩ := recordTaskResult_ok ran
      rw [effect]
      have at_agent : ({ s.state with tasks := finishTask s.state.tasks request } :
          Store).agents.find agentId = some row := found
      refine find_settledAgents_other at_agent other ?_
      by_contra depends
      simp only [dependsOn, Bool.not_eq_false, Bool.and_eq_true, List.any_eq_true,
        decide_eq_true_eq] at depends
      obtain ⟨_, dependent, member, last, needs⟩ := depends
      have at_dependent := Table.find_of_mem member
      rw [find_finishTask at_task open_task] at at_dependent
      by_cases same : dependent.taskId = request.taskId
      · exact other (by rw [last, same])
      · rw [if_neg same] at at_dependent
        exact unneeded _ dependent last at_dependent needs

/-- Over any calls of the server, with any engine faults: the state of an agent's upgrade
    is true of the task its columns name, and a result of a task that is neither that one
    nor its prerequisite leaves the agent alone. -/
theorem upgrade_fields_agree (store : Store) (fresh : NoUpgrades store)
    (calls : List ServerCall) (own : ∀ call ∈ calls, OwnSchedules call.op) :
    let reached := Runs.run serverStep store calls
    ∀ agentId row, reached.agents.find agentId = some row →
      UpgradeAgrees reached.tasks row ∧
      ∀ (request : TaskResult) (resultBlob errorBlob : Option Blob)
        (faults : List (Option Fault)),
        row.lastUpgradeTaskId ≠ some request.taskId →
        (∀ taskId task, row.lastUpgradeTaskId = some taskId →
          reached.tasks.find taskId = some task →
          task.prerequisiteTaskId ≠ some request.taskId) →
        (recordTaskResult request resultBlob errorBlob
          ⟨reached, faults⟩).2.state.agents.find agentId = some row := by
  intro reached agentId row found
  refine ⟨(reachable_accounted fresh own agentId row found).agrees, ?_⟩
  intro request resultBlob errorBlob faults other unneeded
  exact other_result_keeps_agent resultBlob errorBlob ⟨reached, faults⟩ found other unneeded

/-- An upgrade is scheduled and its success is reported. -/
def reportedUpgrade : List ServerCall :=
  [⟨.agent (.upsertAgent (UpgradeConfirmation.registrationOf "1.0" "2026-03-01T11:00:00Z")), []⟩,
    ⟨.queue (.scheduleAgentUpgrade "agent-1" "2.0" "package-2" none "2026-03-01T12:00:00Z"
      UpgradeConfirmation.upgradeTask none), []⟩,
    ⟨.queue (.asyncClaimNextTaskForAgent "agent-1" "2026-03-01T12:00:05Z"), []⟩,
    ⟨.event plainEnvironment (.taskResult UpgradeConfirmation.upgradeSuccess), []⟩]

theorem upgrade_fields_agree_reported :
    ∃ row, (Runs.run serverStep Store.empty reportedUpgrade).agents.find "agent-1" = some row ∧
      row.upgradeState = some .waitingReconnect ∧
      UpgradeAgrees (Runs.run serverStep Store.empty reportedUpgrade).tasks row := by
  have own : ∀ call ∈ reportedUpgrade, OwnSchedules call.op := by
    intro call member
    simp only [reportedUpgrade, List.mem_cons, List.not_mem_nil, or_false] at member
    rcases member with rfl | rfl | rfl | rfl
    · trivial
    · exact ⟨rfl, rfl⟩
    · trivial
    · trivial
  have fresh : NoUpgrades Store.empty := by
    intro agentId row found
    cases found
  exact ⟨_, rfl, rfl, (upgrade_fields_agree Store.empty fresh reportedUpgrade own "agent-1" _
    rfl).1⟩

end UpgradeFields
