import ZFleet.Server.UpgradeFields

/-!
The scheduling of a rollback as two writes with other calls between them. The first write
schedules an upgrade to the empty version, the second takes the version away. Who reconnects
between them reports another version than the empty one, and a second write that throws
leaves the first.
-/
namespace RollbackScheduling
open Message KeyedTables Transactions Schema AgentStore TaskStore TaskOperations
open UpgradeFields

/-- A rollback as the admin handler asks for it. -/
structure Rollback where
  agentId : String
  setBy : Option String
  setAt : String
  task : Message.Task
  own : OwnUpgrade agentId task

variable {rollback : Rollback}

def Rollback.taskId (rollback : Rollback) : String := rollback.task.taskId

def firstWrite (rollback : Rollback) : Job Store Unit :=
  scheduleAgentUpgrade rollback.agentId "" "" rollback.setBy rollback.setAt rollback.task none

def secondWrite (rollback : Rollback) : Job Store Unit :=
  clearDesiredTarget rollback.agentId rollback.taskId

/-- Where the call that schedules the rollback is. -/
inductive Phase where
  | called
  | half
  | returned
  | thrown
  deriving DecidableEq

structure System where
  store : Store
  phase : Phase

/-- The store calls that happen beside it. The control service records a result of the
    rollback task only for its agent and its type. -/
inductive Other (rollback : Rollback) where
  | claimNextTaskForAgent (agentId assignedAt auditId : String)
  | asyncClaimNextTaskForAgent (agentId assignedAt : String)
  | markTaskRunning (request : TaskRunning)
  | recordTaskResult (request : TaskResult) (resultBlob errorBlob : Option Blob)
      (checked : request.taskId = rollback.taskId →
        request.agentId = rollback.agentId ∧ request.taskType = .packageUpdate)
  | upsertAgent (request : AgentRegistration)

def executeOther : Other rollback → Job Store Unit
  | .claimNextTaskForAgent agentId assignedAt auditId => do
    let _ ← claimNextTaskForAgent agentId assignedAt auditId
    pure ()
  | .asyncClaimNextTaskForAgent agentId assignedAt => do
    let _ ← asyncClaimNextTaskForAgent agentId assignedAt
    pure ()
  | .markTaskRunning request => markTaskRunning request
  | .recordTaskResult request resultBlob errorBlob _ =>
    recordTaskResult request resultBlob errorBlob
  | .upsertAgent request => upsertAgent request

/-- The next write of the rollback, or another call; each with what the engine answers. -/
inductive Step (rollback : Rollback) where
  | write (faults : List (Option Fault))
  | other (call : Other rollback) (faults : List (Option Fault))

def answered (ran : Except Failure Unit × Session Store) (next : Phase) : System :=
  match ran with
  | (.ok _, final) => ⟨final.state, next⟩
  | (.error _, final) => ⟨final.state, .thrown⟩

def step (s : System) : Step rollback → System
  | .write faults =>
    match s.phase with
    | .called => answered (firstWrite rollback ⟨s.store, faults⟩) .half
    | .half => answered (secondWrite rollback ⟨s.store, faults⟩) .returned
    | .returned => s
    | .thrown => s
  | .other call faults => { s with store := (executeOther call ⟨s.store, faults⟩).2.state }

theorem step_first {store : Store} {faults : List (Option Fault)}
    {ran : Except Failure Unit × Session Store} (first : firstWrite rollback ⟨store, faults⟩ = ran) :
    step ⟨store, .called⟩ (.write faults : Step rollback) = answered ran .half := by
  rw [← first]
  rfl

theorem step_second {store : Store} {faults : List (Option Fault)}
    {ran : Except Failure Unit × Session Store}
    (second : secondWrite rollback ⟨store, faults⟩ = ran) :
    step ⟨store, .half⟩ (.write faults : Step rollback) = answered ran .returned := by
  rw [← second]
  rfl

/-- With nothing between its writes this is the call. -/
theorem writes_are_scheduleAgentRollback (rollback : Rollback) (store : Store)
    (faults : List (Option Fault)) :
    ∃ rest, (step (step ⟨store, .called⟩ (.write faults : Step rollback))
        (.write rest : Step rollback)).store =
      (scheduleAgentRollback rollback.agentId rollback.setBy rollback.setAt rollback.task
        ⟨store, faults⟩).2.state := by
  have call : scheduleAgentRollback rollback.agentId rollback.setBy rollback.setAt rollback.task =
      firstWrite rollback >>= fun _ => secondWrite rollback := rfl
  rw [call]
  cases ran : firstWrite rollback ⟨store, faults⟩ with
  | mk result middle =>
    cases result with
    | error e =>
      refine ⟨[], ?_⟩
      rw [bind_of_error ran, step_first ran]
      rfl
    | ok u =>
      refine ⟨middle.faults, ?_⟩
      rw [bind_of_ok ran, step_first ran]
      cases ran' : secondWrite rollback middle with
      | mk result final =>
        rw [show answered (.ok u, middle) .half = ⟨middle.state, .half⟩ from rfl, step_second ran']
        cases result <;> rfl

/-- The first write is there and the second is not. -/
def HalfApplied (rollback : Rollback) (store : Store) : Prop :=
  ∃ row, store.agents.find rollback.agentId = some row ∧
    row.lastUpgradeTaskId = some rollback.taskId ∧ row.desiredVersion = some ""

/-- A succeeded rollback is not marked failed for its version, and a call that threw has
    left no half of its writes. -/
structure Intact (rollback : Rollback) (s : System) : Prop where
  unmarked : ∀ row task, s.store.agents.find rollback.agentId = some row →
    row.lastUpgradeTaskId = some rollback.taskId →
    s.store.tasks.find rollback.taskId = some task → task.state = .succeeded →
    ¬ (row.upgradeState = some .failed ∧
      row.lastUpgradeError = some .agentReportedUnexpectedVersion)
  whole : s.phase = .thrown → ¬ HalfApplied rollback s.store

/-- The registration of the agent is applied by this step. -/
def Registers (s : System) (request : AgentRegistration) : Step rollback → Prop
  | .other (.upsertAgent applied) faults => applied = request ∧
    request.agentId = rollback.agentId ∧
    (upsertAgent request ⟨s.store, faults⟩).1 = .ok ()
  | _ => False

/-- Once its task succeeded, every reconnect confirms the rollback. -/
def Confirms (rollback : Rollback) (s : System) (taken : Step rollback) : Prop :=
  ∀ request row task, Registers s request taken →
    s.store.agents.find rollback.agentId = some row →
    row.lastUpgradeTaskId = some rollback.taskId →
    s.store.tasks.find rollback.taskId = some task → task.state = .succeeded →
    ∃ row', (step s taken).store.agents.find rollback.agentId = some row' ∧
      row'.upgradeState = some .succeeded

/-- The second write throws, or the agent reconnects with a version of its own before it. -/
def Conflicts (rollback : Rollback) (s : System) : Step rollback → Prop
  | .write faults => s.phase = .half ∧ ∃ e, (secondWrite rollback ⟨s.store, faults⟩).1 = .error e
  | taken => s.phase = .half ∧ ∃ request row, Registers s request taken ∧
    request.agentVersion ≠ "" ∧ s.store.agents.find rollback.agentId = some row ∧
    row.upgradeState = some .waitingReconnect

/-- The task id is new. -/
structure Fresh (rollback : Rollback) (store : Store) : Prop where
  task : store.tasks.find rollback.taskId = none
  agent : ∀ row, store.agents.find rollback.agentId = some row →
    row.lastUpgradeTaskId ≠ some rollback.taskId

/-- What the state of the upgrade says about the rollback task. -/
def Tells (task : TaskRow) : UpgradeState → Prop
  | .queued => isTerminalTaskState task.state = false
  | .waitingReconnect => task.state = .succeeded
  | .succeeded => task.state = .succeeded
  | .failed => Missed task

/-- The rollback is scheduled towards this target. -/
structure Underway (rollback : Rollback) (target : Option String) (store : Store)
    (row : AgentRow) (task : TaskRow) (state : UpgradeState) : Prop where
  agent : store.agents.find rollback.agentId = some row
  last : row.lastUpgradeTaskId = some rollback.taskId
  version : row.desiredVersion = target
  package : row.desiredPackageId = target
  at_state : row.upgradeState = some state
  found : store.tasks.find rollback.taskId = some task
  owner : task.agentId = rollback.agentId
  unneeded : task.prerequisiteTaskId = none
  tells : Tells task state

/-- The invariant of a run without conflicts. -/
def Consistent (rollback : Rollback) (s : System) : Prop :=
  match s.phase with
  | .called => Fresh rollback s.store
  | .half => ∃ row task state, Underway rollback (some "") s.store row task state
  | .returned => ∃ row task state, Underway rollback none s.store row task state
  | .thrown => Fresh rollback s.store

/-! What the other calls do -/

variable {created : List Message.Task} {reported : List TaskResult} {before after : Store}

theorem tells_stays (effect : TaskEffect created reported before after) {task : TaskRow}
    {state : UpgradeState} (found : before.tasks.find rollback.taskId = some task)
    (unreported : ∀ request ∈ reported, request.taskId ≠ rollback.taskId)
    (tells : Tells task state) :
    ∃ task', after.tasks.find rollback.taskId = some task' ∧ SameIdentity task task' ∧
      Tells task' state := by
  obtain ⟨task', found', same⟩ := effect_keeps_identity effect found
  refine ⟨task', found', same, ?_⟩
  have stays : isTerminalTaskState task.state = true → Tells task' state := by
    intro terminal
    rw [effect_keeps_finished effect found terminal] at found'
    cases found'
    exact tells
  cases state with
  | queued =>
    obtain ⟨open_task, at_id, open_row⟩ := effect_keeps_open effect found tells unreported
    rw [found'] at at_id
    cases at_id
    exact open_row
  | waitingReconnect => exact stays (by rw [show task.state = .succeeded from tells]; rfl)
  | succeeded => exact stays (by rw [show task.state = .succeeded from tells]; rfl)
  | failed => exact stays (missed_terminal tells)

/-- An effect on other tasks that leaves the agent's row keeps the rollback underway. -/
theorem underway_stays (effect : TaskEffect created reported before after)
    (unreported : ∀ request ∈ reported, request.taskId ≠ rollback.taskId)
    {target : Option String} {row : AgentRow} {task : TaskRow} {state : UpgradeState}
    (agent : after.agents.find rollback.agentId = some row)
    (underway : Underway rollback target before row task state) :
    ∃ row' task' state', Underway rollback target after row' task' state' := by
  obtain ⟨task', found', same, tells⟩ :=
    tells_stays effect underway.found unreported underway.tells
  exact ⟨row, task', state, agent, underway.last, underway.version, underway.package,
    underway.at_state, found', (congrArg Task.agentId same.1).trans underway.owner,
    same.2.trans underway.unneeded, tells⟩

theorem fresh_stays (effect : TaskEffect [] reported before after)
    (names : ∀ row', after.agents.find rollback.agentId = some row' →
      row'.lastUpgradeTaskId = none ∨ ∃ row, before.agents.find rollback.agentId = some row ∧
        row'.lastUpgradeTaskId = row.lastUpgradeTaskId)
    (fresh : Fresh rollback before) : Fresh rollback after := by
  constructor
  · cases found' : after.tasks.find rollback.taskId with
    | none => rfl
    | some row' =>
      rcases effect_origin effect found' with ⟨row, found, _⟩ | ⟨_, member, _⟩
      · rw [fresh.task] at found
        cases found
      · cases member
  · intro row' found'
    rcases names row' found' with unnamed | ⟨row, found, same⟩
    · rw [unnamed]
      exact Option.some_ne_none _ |>.symm
    · rw [same]
      exact fresh.agent row found

/-- A call that leaves the agents alone and reports nothing. -/
def Quiet (before after : Store) : Prop :=
  after.agents = before.agents ∧ TaskEffect [] [] before after

theorem quiet_refl (store : Store) : Quiet store store := ⟨rfl, TaskEffect.refl store⟩

theorem claimNextTaskForAgent_quiet (agentId assignedAt auditId : String) :
    Evolves Quiet (claimNextTaskForAgent agentId assignedAt auditId) :=
  evolves_of_atomic (claimNextTaskForAgent_atomic _ _ _) quiet_refl fun s _ s' done => by
    refine ⟨?_, claimNextTaskForAgent_effect agentId assignedAt auditId s _ s' done⟩
    rcases claimNextTaskForAgent_ok done with ⟨_, _, same⟩ | ⟨_, _, _, _, assigned⟩
    · rw [same]
    · rw [assigned]

theorem asyncClaimNextTaskForAgent_quiet (agentId assignedAt : String) :
    Evolves Quiet (asyncClaimNextTaskForAgent agentId assignedAt) :=
  evolves_of_atomic (asyncClaimNextTaskForAgent_atomic _ _) quiet_refl fun s _ s' done => by
    refine ⟨?_, asyncClaimNextTaskForAgent_effect agentId assignedAt s _ s' done⟩
    rcases asyncClaimNextTaskForAgent_ok done with ⟨_, _, same⟩ | ⟨_, _, _, assigned⟩
    · rw [same]
    · rw [assigned]

theorem markTaskRunning_quiet (request : TaskRunning) :
    Evolves Quiet (markTaskRunning request) :=
  evolves_of_atomic (markTaskRunning_atomic request) quiet_refl fun s _ s' done =>
    ⟨by rw [(markTaskRunning_ok done).2], markTaskRunning_effect request s _ s' done⟩

theorem quiet_fresh (quiet : Quiet before after) (fresh : Fresh rollback before) :
    Fresh rollback after := by
  refine fresh_stays quiet.2 ?_ fresh
  intro row found
  rw [quiet.1] at found
  exact Or.inr ⟨row, found, rfl⟩

theorem quiet_underway {target : Option String} {row : AgentRow} {task : TaskRow}
    {state : UpgradeState} (quiet : Quiet before after)
    (underway : Underway rollback target before row task state) :
    ∃ row' task' state', Underway rollback target after row' task' state' :=
  underway_stays quiet.2 (by simp) (by rw [quiet.1]; exact underway.agent) underway

theorem settledRow_last (request : TaskResult) (store : Store) (row : AgentRow) :
    (settledRow request store row).lastUpgradeTaskId = row.lastUpgradeTaskId := by
  unfold settledRow
  dsimp only
  split <;> split <;> rfl

theorem recordTaskResult_fresh {request : TaskResult} {resultBlob errorBlob : Option Blob}
    {s s' : Session Store} {result : Except Failure Unit}
    (ran : recordTaskResult request resultBlob errorBlob s = (result, s'))
    (fresh : Fresh rollback s.state) : Fresh rollback s'.state := by
  refine fresh_stays (recordTaskResult_effect request resultBlob errorBlob s _ s' ran) ?_ fresh
  intro row' found'
  cases result with
  | error e =>
    rw [recordTaskResult_atomic _ _ _ s e s' ran] at found'
    exact Or.inr ⟨row', found', rfl⟩
  | ok u =>
    obtain ⟨_, _, _, _, _, effect⟩ := recordTaskResult_ok ran
    rw [effect] at found'
    change (settledAgents request
      { s.state with tasks := finishTask s.state.tasks request }).find _ = _ at found'
    by_cases upgrade : request.taskType = .packageUpdate
    · rw [find_settledAgents upgrade, Option.map_eq_some_iff] at found'
      obtain ⟨row, found, rfl⟩ := found'
      exact Or.inr ⟨row, found, settledRow_last _ _ row⟩
    · unfold settledAgents at found'
      rw [if_neg upgrade] at found'
      exact Or.inr ⟨row', found', rfl⟩

/-- The result of the rollback task settles the agent; other results leave it alone. -/
theorem recordTaskResult_underway {request : TaskResult} {resultBlob errorBlob : Option Blob}
    {s s' : Session Store} {result : Except Failure Unit}
    (checked : request.taskId = rollback.taskId →
      request.agentId = rollback.agentId ∧ request.taskType = .packageUpdate)
    (ran : recordTaskResult request resultBlob errorBlob s = (result, s'))
    {target : Option String} {row : AgentRow} {task : TaskRow} {state : UpgradeState}
    (underway : Underway rollback target s.state row task state) :
    ∃ row' task' state', Underway rollback target s'.state row' task' state' := by
  by_cases own : request.taskId = rollback.taskId
  · cases result with
    | error e =>
      rw [recordTaskResult_atomic _ _ _ s e s' ran]
      exact ⟨row, task, state, underway⟩
    | ok u =>
      obtain ⟨agent, upgrade⟩ := checked own
      obtain ⟨stored, results, found, open_task, _, effect⟩ := recordTaskResult_ok ran
      have same : stored = task := by
        rw [own, underway.found] at found
        exact (Option.some.inj found).symm
      rw [same] at found open_task
      have at_task : s'.state.tasks.find rollback.taskId = some (finish request task) := by
        rw [effect]
        change (finishTask s.state.tasks request).find rollback.taskId = _
        rw [find_finishTask found open_task, if_pos own.symm]
      have chosen : upgradeTaskIs request.agentId request.taskId row = true := by
        simp [upgradeTaskIs, agent, own, underway.last, Table.find_key underway.agent]
      have alone : dependsOn request.agentId request.taskId
          { s.state with tasks := finishTask s.state.tasks request } (settleUpgrade request row) =
            false := by
        rw [Bool.eq_false_iff]
        intro depends
        simp only [dependsOn, Bool.and_eq_true, List.any_eq_true, decide_eq_true_eq] at depends
        obtain ⟨_, dependent, member, last, needs⟩ := depends
        have key : dependent.taskId = rollback.taskId :=
          (Option.some.inj (underway.last.symm.trans last)).symm
        have at_dependent := Table.find_of_mem member
        rw [find_finishTask found open_task, key, if_pos own.symm] at at_dependent
        cases at_dependent
        rw [show (finish request task).prerequisiteTaskId = none from underway.unneeded] at needs
        cases needs
      have at_agent : s'.state.agents.find rollback.agentId = some (settleUpgrade request row) := by
        rw [effect]
        change (settledAgents request
          { s.state with tasks := finishTask s.state.tasks request }).find _ = _
        rw [find_settledAgents upgrade, underway.agent, Option.map_some]
        simp [settledRow, chosen, alone]
      by_cases succeeded : request.status = .succeeded
      · exact ⟨_, _, .waitingReconnect, at_agent, underway.last, underway.version,
          underway.package, by simp [settleUpgrade, succeeded], at_task, underway.owner,
          underway.unneeded, by simp [Tells, finish, succeeded, terminalState]⟩
      · exact ⟨_, _, .failed, at_agent, underway.last, underway.version,
          underway.package, by simp [settleUpgrade, succeeded], at_task, underway.owner,
          underway.unneeded, terminalState_missed succeeded task⟩
  · have kept := other_result_keeps_agent resultBlob errorBlob s underway.agent
      (by rw [underway.last]; simpa using fun same => own same.symm) (by
        intro taskId named last at_task
        obtain rfl := Option.some.inj (underway.last.symm.trans last)
        rw [underway.found] at at_task
        cases at_task
        rw [underway.unneeded]
        exact Option.some_ne_none _ |>.symm)
    rw [ran] at kept
    exact underway_stays (recordTaskResult_effect request resultBlob errorBlob s _ s' ran)
      (by simpa using own) kept underway

/-! Registrations -/

theorem mergeRegistration_last (excluded row : AgentRow) :
    (mergeRegistration excluded row).lastUpgradeTaskId = row.lastUpgradeTaskId := by
  unfold mergeRegistration confirmUpgrade
  split
  · rfl
  · split
    · rfl
    · split <;> rfl

/-- Only the current package and the outcome change. -/
theorem mergeRegistration_desired (excluded row : AgentRow) :
    (mergeRegistration excluded row).desiredVersion = row.desiredVersion ∧
      (mergeRegistration excluded row).desiredPackageId = row.desiredPackageId := by
  unfold mergeRegistration confirmUpgrade
  split
  · exact ⟨rfl, rfl⟩
  · split
    · exact ⟨rfl, rfl⟩
    · split <;> exact ⟨rfl, rfl⟩

/-- A waiting agent without a target, or with its own version as target, is confirmed. -/
theorem mergeRegistration_confirms {excluded row : AgentRow}
    (waiting : row.upgradeState = some .waitingReconnect)
    (fits : row.desiredPackageId = none ∨ row.desiredVersion = some excluded.agentVersion) :
    (mergeRegistration excluded row).upgradeState = some .succeeded := by
  unfold mergeRegistration confirmUpgrade
  split
  · rfl
  · rename_i unmatched
    have packageless : reconnectWithoutPackage row = true := by
      rcases fits with package | version
      · simp [reconnectWithoutPackage, waiting, package]
      · exact absurd (by simp [reconnectMatches, waiting, version]) unmatched
    rw [if_pos packageless]
    rfl

theorem mergeRegistration_refutes {excluded row : AgentRow}
    (waiting : row.upgradeState = some .waitingReconnect) {desired : String}
    (version : row.desiredVersion = some desired) (package : row.desiredPackageId ≠ none)
    (other : excluded.agentVersion ≠ desired) :
    (mergeRegistration excluded row).upgradeState = some .failed ∧
      (mergeRegistration excluded row).lastUpgradeError =
        some .agentReportedUnexpectedVersion := by
  have unmatched : ¬ reconnectMatches excluded row = true := by
    simp [reconnectMatches, version, Ne.symm other]
  have packaged : ¬ reconnectWithoutPackage row = true := by
    simp [reconnectWithoutPackage, package]
  have mismatched : reconnectMismatches excluded row = true := by
    simp [reconnectMismatches, waiting, version, Ne.symm other]
  unfold mergeRegistration confirmUpgrade
  rw [if_neg unmatched, if_neg packaged, if_pos mismatched]
  exact ⟨rfl, rfl⟩

theorem find_upsertAgent {request : AgentRegistration} {s s' : Session Store} {u : Unit}
    (done : upsertAgent request s = (.ok u, s')) (agentId : String) :
    s'.state.agents.find agentId = if request.agentId = agentId then
      some (match s.state.agents.find agentId with
        | none => registeredRow request
        | some row => mergeRegistration (registeredRow request) row)
      else s.state.agents.find agentId := by
  rw [EventAtomicity.upsertAgent_ok done]
  exact find_upsertInto _ _ _ _ agentId

theorem upsertAgent_quietTasks (request : AgentRegistration) (s : Session Store) :
    TaskEffect [] [] s.state (upsertAgent request s).2.state :=
  sameTasks_effect (agentsOnly_sameTasks (upsertAgent_agentsOnly request s _ _ rfl))

theorem upsertAgent_fresh {request : AgentRegistration} {s s' : Session Store}
    {result : Except Failure Unit} (ran : upsertAgent request s = (result, s'))
    (fresh : Fresh rollback s.state) : Fresh rollback s'.state := by
  have effect := upsertAgent_quietTasks request s
  rw [ran] at effect
  refine fresh_stays effect ?_ fresh
  intro row' found'
  cases result with
  | error e =>
    rw [EventAtomicity.upsertAgent_atomic request s e s' ran] at found'
    exact Or.inr ⟨row', found', rfl⟩
  | ok u =>
    rw [find_upsertAgent ran] at found'
    by_cases same : request.agentId = rollback.agentId
    · rw [if_pos same] at found'
      cases found : s.state.agents.find rollback.agentId with
      | none =>
        rw [found] at found'
        cases found'
        exact Or.inl rfl
      | some row =>
        rw [found] at found'
        cases found'
        exact Or.inr ⟨row, rfl, mergeRegistration_last _ row⟩
    · rw [if_neg same] at found'
      exact Or.inr ⟨row', found', rfl⟩

/-- The registration of the agent while the rollback is underway. -/
theorem registered_underway {request : AgentRegistration} {s s' : Session Store} {u : Unit}
    (done : upsertAgent request s = (.ok u, s')) (agent : request.agentId = rollback.agentId)
    {target : Option String} {row : AgentRow} {task : TaskRow} {state : UpgradeState}
    (underway : Underway rollback target s.state row task state)
    (fits : state = .waitingReconnect → target = none ∨ target = some request.agentVersion) :
    ∃ row' state', Underway rollback target s'.state row' task state' ∧
      (task.state = .succeeded → state' = .succeeded) := by
  have at_agent : s'.state.agents.find rollback.agentId =
      some (mergeRegistration (registeredRow request) row) := by
    rw [find_upsertAgent done, if_pos agent, underway.agent]
  have tasks : s'.state.tasks = s.state.tasks := by rw [EventAtomicity.upsertAgent_ok done]
  obtain ⟨version, package⟩ := mergeRegistration_desired (registeredRow request) row
  have underway' : ∀ state', Tells task state' →
      (mergeRegistration (registeredRow request) row).upgradeState = some state' →
      Underway rollback target s'.state (mergeRegistration (registeredRow request) row) task
        state' := by
    intro state' tells at_state
    exact ⟨at_agent, (mergeRegistration_last _ _).trans underway.last,
      version.trans underway.version, package.trans underway.package, at_state,
      by rw [tasks]; exact underway.found, underway.owner, underway.unneeded, tells⟩
  by_cases waits : state = .waitingReconnect
  · have waiting := underway.at_state
    have succeeded := underway.tells
    rw [waits] at waiting succeeded
    have confirmed : (mergeRegistration (registeredRow request) row).upgradeState =
        some .succeeded := by
      apply mergeRegistration_confirms waiting
      rw [underway.package, underway.version]
      exact fits waits
    exact ⟨_, .succeeded, underway' .succeeded succeeded confirmed, fun _ => rfl⟩
  · have settled : row.upgradeState ≠ some .waitingReconnect := by
      rw [underway.at_state]
      simpa using waits
    have same : (mergeRegistration (registeredRow request) row).upgradeState = some state := by
      rw [mergeRegistration, UpgradeConfirmation.confirmUpgrade_settled settled]
      exact underway.at_state
    refine ⟨_, state, underway' state underway.tells same, ?_⟩
    intro succeeded
    have tells := underway.tells
    cases state with
    | queued =>
      rw [Tells, succeeded] at tells
      cases tells
    | waitingReconnect => exact absurd rfl waits
    | succeeded => rfl
    | failed =>
      rcases tells with failed | expired
      · rw [succeeded] at failed
        cases failed
      · rw [succeeded] at expired
        cases expired

/-! The two writes -/

theorem firstWrite_underway {s s' : Session Store} {u : Unit}
    (done : firstWrite rollback s = (.ok u, s')) :
    ∃ row task state, Underway rollback (some "") s'.state row task state := by
  obtain ⟨rows, tasks, _, _, effect, known, _, input, _, at_task⟩ :=
    scheduleAgentUpgrade_queues done
  obtain ⟨row, found⟩ := Option.isSome_iff_exists.mp known
  have chosen : agentIs rollback.agentId row = true := by
    simp [agentIs, Table.find_key found]
  refine ⟨setDesired "" "" rollback.setBy rollback.setAt rollback.taskId row,
    queuedTaskRow rollback.task input none, .queued, ?_, rfl, rfl, rfl, rfl, ?_, rollback.own.1,
    rfl, rfl⟩
  · rw [effect]
    change (s.state.agents.update (agentIs rollback.agentId)
      (setDesired "" "" rollback.setBy rollback.setAt rollback.taskId)
      (setDesired_agentId _ _ _ _ _)).find rollback.agentId = _
    rw [Table.find_update, found, Option.map_some, if_pos chosen]
  · rw [effect]
    exact at_task

theorem clearDesiredTarget_atomic (agentId taskId : String) :
    Atomic (clearDesiredTarget agentId taskId) :=
  submitWrite_atomic <| bind_total_atomic (statement_atomic _) fun _ s e s' failed => by
    cases failed

theorem secondWrite_underway {s s' : Session Store} {u : Unit}
    (done : secondWrite rollback s = (.ok u, s')) {row : AgentRow} {task : TaskRow}
    {state : UpgradeState} (underway : Underway rollback (some "") s.state row task state) :
    ∃ row' task' state', Underway rollback none s'.state row' task' state' := by
  obtain ⟨start, same, ran⟩ := submitWrite_ok
    (bind_total_atomic (statement_atomic _) fun _ s e s' failed => by cases failed) done
  obtain ⟨_, cleared, wrote, rest⟩ := bind_ok ran
  obtain ⟨_, rfl⟩ := pure_ok rest
  obtain ⟨_, effect⟩ := updateAgents_ok wrote
  rw [same] at effect
  have chosen : upgradeTaskIs rollback.agentId rollback.taskId row = true := by
    simp [upgradeTaskIs, underway.last, Table.find_key underway.agent]
  refine ⟨clearDesired row, task, state, ?_, underway.last, rfl, rfl, underway.at_state, ?_,
    underway.owner, underway.unneeded, underway.tells⟩
  · rw [effect]
    change (s.state.agents.update (upgradeTaskIs rollback.agentId rollback.taskId) clearDesired
      clearDesired_agentId).find rollback.agentId = _
    rw [Table.find_update, underway.agent, Option.map_some, if_pos chosen]
  · rw [effect]
    exact underway.found

/-! Steps -/

theorem executeOther_fresh (call : Other rollback) (s : Session Store)
    (fresh : Fresh rollback s.state) : Fresh rollback (executeOther call s).2.state := by
  cases call with
  | claimNextTaskForAgent agentId assignedAt auditId =>
    exact quiet_fresh (evolves_discard () (claimNextTaskForAgent_quiet _ _ _) s _ _ rfl) fresh
  | asyncClaimNextTaskForAgent agentId assignedAt =>
    exact quiet_fresh (evolves_discard () (asyncClaimNextTaskForAgent_quiet _ _) s _ _ rfl) fresh
  | markTaskRunning request => exact quiet_fresh (markTaskRunning_quiet request s _ _ rfl) fresh
  | recordTaskResult request resultBlob errorBlob checked =>
    exact recordTaskResult_fresh rfl fresh
  | upsertAgent request => exact upsertAgent_fresh rfl fresh

theorem executeOther_underway (call : Other rollback) (s : Session Store)
    {target : Option String} {row : AgentRow} {task : TaskRow} {state : UpgradeState}
    (underway : Underway rollback target s.state row task state)
    (fits : ∀ request, call = .upsertAgent request → request.agentId = rollback.agentId →
      (upsertAgent request s).1 = .ok () → state = .waitingReconnect →
      target = none ∨ target = some request.agentVersion) :
    ∃ row' task' state', Underway rollback target (executeOther call s).2.state row' task'
      state' := by
  cases call with
  | claimNextTaskForAgent agentId assignedAt auditId =>
    exact quiet_underway (evolves_discard () (claimNextTaskForAgent_quiet _ _ _) s _ _ rfl)
      underway
  | asyncClaimNextTaskForAgent agentId assignedAt =>
    exact quiet_underway (evolves_discard () (asyncClaimNextTaskForAgent_quiet _ _) s _ _ rfl)
      underway
  | markTaskRunning request =>
    exact quiet_underway (markTaskRunning_quiet request s _ _ rfl) underway
  | recordTaskResult request resultBlob errorBlob checked =>
    exact recordTaskResult_underway checked rfl underway
  | upsertAgent request =>
    change ∃ row' task' state', Underway rollback target (upsertAgent request s).2.state row' task'
      state'
    cases ran : upsertAgent request s with
    | mk result s' =>
      cases result with
      | error e =>
        rw [show s'.state = s.state from EventAtomicity.upsertAgent_atomic request s e s' ran]
        exact ⟨row, task, state, underway⟩
      | ok u =>
        by_cases agent : request.agentId = rollback.agentId
        · have answer : (upsertAgent request s).1 = .ok () := by rw [ran]
          obtain ⟨row', state', underway', _⟩ :=
            registered_underway ran agent underway (fits request rfl agent answer)
          exact ⟨row', task, state', underway'⟩
        · have effect := upsertAgent_quietTasks request s
          rw [ran] at effect
          have at_agent : s'.state.agents.find rollback.agentId = some row := by
            rw [find_upsertAgent ran, if_neg agent, underway.agent]
          exact underway_stays effect (by simp) at_agent underway

/-- A step without a conflict keeps the invariant. -/
theorem consistent_step {s : System} {taken : Step rollback} (consistent : Consistent rollback s)
    (calm : ¬ Conflicts rollback s taken) : Consistent rollback (step s taken) := by
  obtain ⟨store, phase⟩ := s
  cases taken with
  | write faults =>
    cases phase with
    | called =>
      cases ran : firstWrite rollback ⟨store, faults⟩ with
      | mk result final =>
        rw [step_first ran]
        cases result with
        | ok u => exact firstWrite_underway ran
        | error e =>
          have same := scheduleAgentUpgrade_atomic _ _ _ _ _ _ _ _ e final ran
          change Fresh rollback final.state
          rw [same]
          exact consistent
    | half =>
      cases ran : secondWrite rollback ⟨store, faults⟩ with
      | mk result final =>
        rw [step_second ran]
        cases result with
        | ok u =>
          obtain ⟨row, task, state, underway⟩ := consistent
          exact secondWrite_underway ran underway
        | error e => exact absurd ⟨rfl, e, by rw [ran]⟩ calm
    | returned => exact consistent
    | thrown => exact consistent
  | other call faults =>
    cases phase with
    | called => exact executeOther_fresh call ⟨store, faults⟩ consistent
    | half =>
      obtain ⟨row, task, state, underway⟩ := consistent
      refine executeOther_underway call ⟨store, faults⟩ underway ?_
      rintro request rfl agent answer rfl
      by_contra unfit
      refine calm ⟨rfl, request, row, ⟨rfl, agent, answer⟩, ?_, underway.agent,
        underway.at_state⟩
      intro empty
      exact unfit (Or.inr (by rw [empty]))
    | returned =>
      obtain ⟨row, task, state, underway⟩ := consistent
      exact executeOther_underway call ⟨store, faults⟩ underway fun _ _ _ _ _ => Or.inl rfl
    | thrown => exact executeOther_fresh call ⟨store, faults⟩ consistent

theorem intact_of_consistent {s : System} (consistent : Consistent rollback s) :
    Intact rollback s := by
  obtain ⟨store, phase⟩ := s
  have unnamed : Fresh rollback store → Intact rollback ⟨store, phase⟩ := by
    intro fresh
    constructor
    · intro row task found last
      exact absurd last (fresh.agent row found)
    · rintro _ ⟨row, found, last, _⟩
      exact fresh.agent row found last
  have scheduled : ∀ target row task state, Underway rollback target store row task state →
      phase ≠ .thrown → Intact rollback ⟨store, phase⟩ := by
    intro target row task state underway returns
    refine ⟨?_, fun threw => absurd threw returns⟩
    rintro row' task' found _ found' succeeded ⟨failed, _⟩
    cases underway.agent.symm.trans found
    cases underway.found.symm.trans found'
    have tells := underway.tells
    cases underway.at_state.symm.trans failed
    rcases tells with missed | missed
    · rw [succeeded] at missed
      cases missed
    · rw [succeeded] at missed
      cases missed
  cases phase with
  | called => exact unnamed consistent
  | half =>
    obtain ⟨row, task, state, underway⟩ := consistent
    exact scheduled _ row task state underway (by decide)
  | returned =>
    obtain ⟨row, task, state, underway⟩ := consistent
    exact scheduled _ row task state underway (by decide)
  | thrown => exact unnamed consistent

/-- A registration that is applied while the rollback is underway towards a target that
    fits confirms it. -/
theorem confirms_of_underway {s : System} {taken : Step rollback} {target : Option String}
    {row : AgentRow} {task : TaskRow} {state : UpgradeState}
    (underway : Underway rollback target s.store row task state)
    (fits : ∀ request, Registers s request taken → state = .waitingReconnect →
      target = none ∨ target = some request.agentVersion) : Confirms rollback s taken := by
  intro request row' task' registers _ _ found' succeeded
  cases underway.found.symm.trans found'
  have registered := registers
  cases taken with
  | write faults => exact absurd registers id
  | other call faults =>
    cases call with
    | upsertAgent applied =>
      obtain ⟨rfl, agent, answer⟩ := registers
      obtain ⟨final, ran⟩ : ∃ final, upsertAgent applied ⟨s.store, faults⟩ = (.ok (), final) :=
        ⟨_, Prod.ext answer rfl⟩
      obtain ⟨row'', state', underway', outcome⟩ :=
        registered_underway ran agent underway (fits applied registered)
      refine ⟨row'', ?_, by rw [underway'.at_state, outcome succeeded]⟩
      change (upsertAgent applied ⟨s.store, faults⟩).2.state.agents.find _ = _
      rw [ran]
      exact underway'.agent
    | _ => exact absurd registers id

/-- What a conflict does: half of the writes stay, or the rollback is marked failed. -/
theorem conflict_breaks {s : System} {taken : Step rollback} (consistent : Consistent rollback s)
    (conflict : Conflicts rollback s taken) : ¬ Intact rollback (step s taken) := by
  intro intact
  obtain ⟨store, phase⟩ := s
  cases taken with
  | write faults =>
    obtain ⟨half, e, threw⟩ := conflict
    cases half
    obtain ⟨row, task, state, underway⟩ := consistent
    cases ran : secondWrite rollback ⟨store, faults⟩ with
    | mk result final =>
      rw [ran] at threw
      cases threw
      have same := clearDesiredTarget_atomic _ _ _ _ final ran
      rw [step_second ran] at intact
      refine intact.whole rfl ⟨row, ?_, underway.last, underway.version⟩
      change final.state.agents.find rollback.agentId = some row
      rw [same]
      exact underway.agent
  | other call faults =>
    obtain ⟨half, request, row, registers, named, found, waiting⟩ := conflict
    cases half
    obtain ⟨row', task, state, underway⟩ := consistent
    cases underway.agent.symm.trans found
    cases underway.at_state.symm.trans waiting
    cases call with
    | upsertAgent applied =>
      obtain ⟨rfl, agent, answer⟩ := registers
      obtain ⟨final, ran⟩ : ∃ final, upsertAgent applied ⟨store, faults⟩ = (.ok (), final) :=
        ⟨_, Prod.ext answer rfl⟩
      have packaged : row.desiredPackageId ≠ none := by simp [underway.package]
      have other : (registeredRow applied).agentVersion ≠ "" := named
      have refuted := mergeRegistration_refutes waiting underway.version packaged other
      have stepped : (step ⟨store, .half⟩ (.other (.upsertAgent applied) faults :
          Step rollback)).store = final.state :=
        congrArg (fun ran : Except Failure Unit × Session Store => ran.2.state) ran
      refine intact.unmarked _ task ?_ ((mergeRegistration_last _ row).trans underway.last) ?_
        underway.tells refuted
      · rw [stepped, find_upsertAgent ran, if_pos agent, underway.agent]
      · rw [stepped, EventAtomicity.upsertAgent_ok ran]
        exact underway.found
    | _ => exact absurd registers id

theorem sound_here_iff {s : System} (consistent : Consistent rollback s)
    (taken : Step rollback) :
    Intact rollback (step s taken) ∧ Confirms rollback s taken ↔ ¬ Conflicts rollback s taken := by
  constructor
  · rintro ⟨intact, _⟩ conflict
    exact conflict_breaks consistent conflict intact
  · intro calm
    refine ⟨intact_of_consistent (consistent_step consistent calm), ?_⟩
    obtain ⟨store, phase⟩ := s
    have unnamed : Fresh rollback store → Confirms rollback ⟨store, phase⟩ taken := by
      intro fresh request row task _ found last
      exact absurd last (fresh.agent row found)
    cases phase with
    | called => exact unnamed consistent
    | half =>
      obtain ⟨row, task, state, underway⟩ := consistent
      refine confirms_of_underway underway ?_
      rintro request registers rfl
      by_contra unfit
      cases taken with
      | write faults => exact registers
      | other call faults =>
        refine calm ⟨rfl, request, row, registers, ?_, underway.agent, underway.at_state⟩
        intro empty
        exact unfit (Or.inr (by rw [empty]))
    | returned =>
      obtain ⟨row, task, state, underway⟩ := consistent
      exact confirms_of_underway underway fun _ _ _ => Or.inl rfl
    | thrown => exact unnamed consistent

/-- Whatever happens between and around the writes of a rollback: in every state reached a
    succeeded rollback is not marked failed for its version and a call that threw has left
    no half of its writes, and every reconnect after the success confirms it, if and only
    if the second write never throws and the agent does not come back with a version of
    its own before it. -/
theorem rollback_is_atomic_iff (rollback : Rollback) (store : Store)
    (fresh : Fresh rollback store) (steps : List (Step rollback)) :
    Runs.AllSteps step ⟨store, .called⟩ steps (fun s taken =>
      Intact rollback (step s taken) ∧ Confirms rollback s taken) ↔
    Runs.AllSteps step ⟨store, .called⟩ steps (fun s taken => ¬ Conflicts rollback s taken) :=
  Runs.allSteps_iff_sides steps (Consistent rollback) _ _ fresh
    (fun _ _ consistent calm => consistent_step consistent calm)
    fun _ taken consistent => sound_here_iff consistent taken

def agentRollback : Rollback where
  agentId := "agent-1"
  setBy := some "admin"
  setAt := "2026-03-01T12:00:00Z"
  task := {
    protocolVersion := protocolVersion
    taskId := "task-1"
    agentId := "agent-1"
    taskType := .packageUpdate
    capabilityLevel := .highRiskWrite
    createdAt := "2026-03-01T12:00:00Z"
    expiresAt := "2026-03-01T13:00:00Z"
    input := .packageUpdate {
      action := "rollback", component := "agent" } }
  own := ⟨rfl, rfl⟩

def registeredStore : Store :=
  TaskOperations.step Store.empty
    ⟨.agent (.upsertAgent (UpgradeConfirmation.registrationOf "1.0" "2026-03-01T11:00:00Z")), []⟩

theorem agentRollback_fresh : Fresh agentRollback registeredStore where
  task := rfl
  agent := by
    intro row found
    cases found
    decide

/-- The rollback runs and the old version comes back before the second write. -/
def overtakenRollback : List (Step agentRollback) :=
  [.write [],
    .other (.asyncClaimNextTaskForAgent "agent-1" "2026-03-01T12:00:05Z") [],
    .other (.recordTaskResult UpgradeConfirmation.upgradeSuccess none none fun _ => ⟨rfl, rfl⟩) [],
    .other (.upsertAgent (UpgradeConfirmation.registrationOf "0.9" "2026-03-01T12:00:30Z")) []]

theorem overtaken_rollback_fails :
    ¬ Runs.AllSteps step ⟨registeredStore, .called⟩ overtakenRollback (fun s taken =>
      Intact agentRollback (step s taken) ∧ Confirms agentRollback s taken) := by
  intro sound
  have intact := (sound (overtakenRollback.take 3) _ [] rfl).1
  exact intact.unmarked _ _ rfl rfl rfl rfl ⟨rfl, rfl⟩

theorem rollback_is_atomic_undisturbed :
    Intact agentRollback (Runs.run step ⟨registeredStore, .called⟩
      ([.write [], .write []] : List (Step agentRollback))) := by
  have calm : Runs.AllSteps step ⟨registeredStore, .called⟩
      ([.write [], .write []] : List (Step agentRollback))
      (fun s taken => ¬ Conflicts agentRollback s taken) := by
    rw [Runs.allSteps_cons, Runs.allSteps_cons]
    refine ⟨?_, ?_, Runs.allSteps_nil _ _ _⟩
    · rintro ⟨half, _⟩
      cases half
    · rintro ⟨_, e, threw⟩
      cases threw
  have sound := (rollback_is_atomic_iff agentRollback registeredStore agentRollback_fresh
    [.write [], .write []]).mpr calm
  exact (sound [.write []] (.write []) [] rfl).1

end RollbackScheduling
