import ZFleet.Server.ClaimSafety
import ZFleet.Server.UpgradeFields

/-!
The reconnect timeout and the clock it is measured by. Every management request times out
the agents whose last upgrade event is ten minutes old at the server's time; the time of
that event is the one the agent put into its result.
-/
namespace ReconnectTimeout
open Message KeyedTables Transactions Schema AgentStore TaskStore TaskOperations
open ClaimSafety (noon)
open EventAtomicity (Untouched)
open Time

/-! An agent waits after a step only if it waited before it, with the same columns. -/

def Waits (store : Store) (agentId : String) (row : AgentRow) : Prop :=
  store.agents.find agentId = some row ∧ row.upgradeState = some .waitingReconnect

/-- The columns the timeout looks at, and the task they are about. -/
structure SameWait (row row' : AgentRow) : Prop where
  lastUpgradeAt : row'.lastUpgradeAt = row.lastUpgradeAt
  lastUpgradeTaskId : row'.lastUpgradeTaskId = row.lastUpgradeTaskId

theorem sameWait_refl (row : AgentRow) : SameWait row row := ⟨rfl, rfl⟩

def WaitsFromBefore (before after : Store) : Prop :=
  ∀ agentId row', Waits after agentId row' → ∃ row, Waits before agentId row ∧ SameWait row row'

theorem waits_of_sameAgents {before after : Store} (same : after.agents = before.agents) :
    WaitsFromBefore before after := by
  rintro agentId row ⟨found, waiting⟩
  rw [same] at found
  exact ⟨row, ⟨found, waiting⟩, sameWait_refl row⟩

theorem waits_refl (store : Store) : WaitsFromBefore store store := waits_of_sameAgents rfl

theorem waits_trans (x y z : Store) (first : WaitsFromBefore x y) (rest : WaitsFromBefore y z) :
    WaitsFromBefore x z := by
  intro agentId row'' waits
  obtain ⟨row', waits', same'⟩ := rest agentId row'' waits
  obtain ⟨row, waits'', same⟩ := first agentId row' waits'
  exact ⟨row, waits'', same'.lastUpgradeAt.trans same.lastUpgradeAt,
    same'.lastUpgradeTaskId.trans same.lastUpgradeTaskId⟩

/-- The change leaves nobody waiting who did not wait with the same columns. -/
def StartsNoWait (change : AgentRow → AgentRow) : Prop :=
  ∀ row, (change row).upgradeState = some .waitingReconnect →
    row.upgradeState = some .waitingReconnect ∧ SameWait row (change row)

theorem startsNoWait_of_state {change : AgentRow → AgentRow} {state : UpgradeState}
    (sets : ∀ row, (change row).upgradeState = some state) (other : state ≠ .waitingReconnect) :
    StartsNoWait change := by
  intro row waiting
  rw [sets] at waiting
  exact absurd (Option.some.inj waiting) other

theorem update_waits {before after : Store} {selects : AgentRow → Bool}
    {change : AgentRow → AgentRow} {keeps : ∀ r, (change r).agentId = r.agentId}
    (agents : after.agents = before.agents.update selects change keeps)
    (quiet : StartsNoWait change) : WaitsFromBefore before after := by
  rintro agentId row' ⟨found', waiting⟩
  rw [agents, Table.find_update, Option.map_eq_some_iff] at found'
  obtain ⟨row, found, rfl⟩ := found'
  by_cases chosen : selects row = true
  · rw [if_pos chosen] at waiting ⊢
    obtain ⟨waited, same⟩ := quiet row waiting
    exact ⟨row, ⟨found, waited⟩, same⟩
  · rw [if_neg chosen] at waiting ⊢
    exact ⟨row, ⟨found, waiting⟩, sameWait_refl row⟩

theorem updateAgents_waits {selects : Store → AgentRow → Bool} {change : AgentRow → AgentRow}
    {keeps : ∀ r, (change r).agentId = r.agentId} (quiet : StartsNoWait change) :
    Evolves WaitsFromBefore (updateAgents selects change keeps) :=
  evolves_of_atomic (statement_atomic _) waits_refl fun _ _ _ done =>
    update_waits (by rw [(updateAgents_ok done).2]) quiet

/-! Registrations -/

theorem comeOnline_startsNoWait (excluded : AgentRow) : StartsNoWait (comeOnline excluded) :=
  fun _ waiting => ⟨waiting, rfl, rfl⟩

/-- A registration ends the wait or leaves its columns alone. -/
theorem mergeRegistration_startsNoWait (excluded : AgentRow) :
    StartsNoWait (mergeRegistration excluded) := by
  intro row
  unfold mergeRegistration confirmUpgrade
  split
  · exact nofun
  split
  · exact nofun
  split
  · exact nofun
  · exact comeOnline_startsNoWait excluded row

theorem upsertAgentRow_waits {excluded : AgentRow} {merge : AgentRow → AgentRow → AgentRow}
    {keeps : ∀ r, (merge excluded r).agentId = r.agentId} (fresh : excluded.upgradeState = none)
    (quiet : StartsNoWait (merge excluded)) :
    Evolves WaitsFromBefore (upsertAgentRow excluded merge keeps) := by
  apply evolves_execute waits_refl
  rintro store agentId row' ⟨found', waiting⟩
  change (upsertInto store.agents excluded merge keeps).find agentId = some row' at found'
  rw [find_upsertInto] at found'
  by_cases same : excluded.agentId = agentId
  · rw [if_pos same] at found'
    cases found : store.agents.find agentId with
    | none =>
      rw [found] at found'
      cases found'
      rw [fresh] at waiting
      cases waiting
    | some row =>
      rw [found] at found'
      cases found'
      obtain ⟨waited, kept⟩ := quiet row waiting
      exact ⟨row, ⟨found, waited⟩, kept⟩
  · rw [if_neg same] at found'
    exact ⟨row', ⟨found', waiting⟩, sameWait_refl row'⟩

theorem upsertAgent_waits (request : AgentRegistration) :
    Evolves WaitsFromBefore (upsertAgent request) :=
  submitWrite_evolves waits_trans <|
    upsertAgentRow_waits rfl (mergeRegistration_startsNoWait _)

theorem asyncUpsertAgent_waits (request : AgentRegistration) :
    Evolves WaitsFromBefore (asyncUpsertAgent request) :=
  submitWrite_evolves waits_trans <| upsertAgentRow_waits rfl (comeOnline_startsNoWait _)

theorem markAgentOffline_waits (agentId disconnectedAt : String) :
    Evolves WaitsFromBefore (markAgentOffline agentId disconnectedAt) :=
  submitWrite_evolves waits_trans <|
    evolves_trans (updateAgents_waits fun _ waiting => ⟨waiting, rfl, rfl⟩)
      (fun _ => evolves_pure waits_refl _) waits_trans

theorem expireWaitingReconnect_waits (datetime : String → Option Int) (now : String) :
    Evolves WaitsFromBefore (expireWaitingReconnect datetime now) := by
  apply submitWrite_evolves waits_trans
  apply evolves_trans (evolves_query waits_refl _) _ waits_trans
  intro expired
  have failed : StartsNoWait failReconnect :=
    startsNoWait_of_state (fun _ => rfl) (by decide : UpgradeState.failed ≠ .waitingReconnect)
  exact evolves_trans (updateAgents_waits failed) (fun _ => evolves_pure waits_refl _) waits_trans

theorem agentOp_waits (op : AgentOp) : Evolves WaitsFromBefore (executeAgent op) := by
  have quiet : ∀ {job : Job Store Unit}, Atomic job →
      (∀ s a s', job s = (.ok a, s') → s'.state.agents = s.state.agents) →
      Evolves WaitsFromBefore (submitWrite job) := fun atomic same =>
    submitWrite_evolves waits_trans <| evolves_of_atomic atomic waits_refl fun s a s' done =>
      waits_of_sameAgents (same s a s' done)
  have tokens : ∀ (selects : RegistrationTokenRow → Bool)
      (change : RegistrationTokenRow → RegistrationTokenRow)
      (keeps : ∀ r, (change r).tokenId = r.tokenId),
      Evolves WaitsFromBefore (updateTokens selects change keeps) := fun _ _ _ =>
    evolves_statement waits_refl fun _ _ _ ran => by
      cases ran
      exact waits_of_sameAgents rfl
  cases op with
  | upsertAgent request => exact upsertAgent_waits request
  | asyncUpsertAgent request => exact asyncUpsertAgent_waits request
  | markAgentOffline agentId disconnectedAt => exact markAgentOffline_waits _ _
  | expireWaitingReconnect datetime now =>
    exact evolves_discard () (expireWaitingReconnect_waits datetime now)
  | createRegistrationToken token =>
    refine quiet insertRow_atomic fun s _ s' done => ?_
    obtain ⟨_, _, after⟩ := insertRow_ok done
    rw [after]
  | consumeRegistrationToken tokenHash platform arch usedAt =>
    exact evolves_discard () <| submitWrite_evolves waits_trans <|
      evolves_trans (tokens _ _ _) (fun _ => evolves_pure waits_refl _) waits_trans
  | revokeRegistrationToken tokenId revokedAt =>
    exact evolves_discard () <| submitWrite_evolves waits_trans <|
      evolves_trans (tokens _ _ _) (fun _ => evolves_pure waits_refl _) waits_trans
  | recordAssetSnapshot request eventBlob =>
    refine quiet (execute_atomic _) fun s _ s' done => ?_
    rw [execute_ok done]
  | recordAuditEvent event =>
    refine quiet insertRow_atomic fun s _ s' done => ?_
    obtain ⟨_, _, after⟩ := insertRow_ok done
    rw [after]

/-! Scheduling and results -/

theorem setDesired_startsNoWait (version packageId : String) (setBy : Option String)
    (setAt taskId : String) : StartsNoWait (setDesired version packageId setBy setAt taskId) :=
  startsNoWait_of_state (fun _ => rfl) (by decide : UpgradeState.queued ≠ .waitingReconnect)

theorem scheduleAgentUpgrade_waits (agentId version packageId : String) (setBy : Option String)
    (setAt : String) (task : Task) (prerequisite : Option Task) :
    Evolves WaitsFromBefore
      (scheduleAgentUpgrade agentId version packageId setBy setAt task prerequisite) :=
  evolves_of_atomic (scheduleAgentUpgrade_atomic _ _ _ _ _ _ _) waits_refl
    fun s _ s' done => by
      obtain ⟨rows, tasks, _, _, after⟩ := scheduleAgentUpgrade_ok done
      have agents : s'.state.agents = s.state.agents.update (agentIs agentId)
          (setDesired version packageId setBy setAt task.taskId)
          (setDesired_agentId _ _ _ _ _) := by
        rw [after]
      exact update_waits agents (setDesired_startsNoWait _ _ _ _ _)

theorem clearDesiredTarget_waits (agentId taskId : String) :
    Evolves WaitsFromBefore (clearDesiredTarget agentId taskId) :=
  submitWrite_evolves waits_trans <|
    evolves_trans (updateAgents_waits fun _ waiting => ⟨waiting, rfl, rfl⟩)
      (fun _ => evolves_pure waits_refl _) waits_trans

theorem queueOp_waits (op : QueueOp) : Evolves WaitsFromBefore (executeQueue op) := by
  cases op with
  | enqueueTask task =>
    refine evolves_discard none ?_
    exact evolves_of_atomic (enqueueTask_atomic task) waits_refl fun s _ s' done => by
      obtain ⟨_, _, _, _, after⟩ := enqueueTask_ok done
      exact waits_of_sameAgents (by rw [after])
  | asyncEnqueueTask task =>
    refine evolves_discard none ?_
    exact evolves_of_atomic (asyncEnqueueTask_atomic task) waits_refl fun s _ s' done => by
      obtain ⟨_, _, _, _, after⟩ := asyncEnqueueTask_ok done
      exact waits_of_sameAgents (by rw [after])
  | scheduleAgentUpgrade agentId version packageId setBy setAt task prerequisite =>
    exact evolves_discard none (scheduleAgentUpgrade_waits _ _ _ _ _ _ _)
  | scheduleAgentRollback agentId setBy setAt task =>
    exact evolves_discard none <|
      evolves_trans (scheduleAgentUpgrade_waits _ _ _ _ _ _ _)
        (fun _ => clearDesiredTarget_waits _ _) waits_trans
  | claimNextTaskForAgent agentId assignedAt auditId =>
    exact evolves_of_atomic (claimNextTaskForAgent_atomic _ _ _) waits_refl
      fun s _ s' done => by
        rcases claimNextTaskForAgent_ok done with ⟨_, _, same⟩ | ⟨_, _, _, _, after⟩
        · rw [same]
          exact waits_refl _
        · exact waits_of_sameAgents (by rw [after])
  | asyncClaimNextTaskForAgent agentId assignedAt =>
    exact evolves_of_atomic (asyncClaimNextTaskForAgent_atomic _ _) waits_refl
      fun s _ s' done => by
        rcases asyncClaimNextTaskForAgent_ok done with ⟨_, _, same⟩ | ⟨_, _, _, after⟩
        · rw [same]
          exact waits_refl _
        · exact waits_of_sameAgents (by rw [after])

/-- Only the synchronous result write makes an agent wait. -/
theorem reportOp_waits (op : ReportOp)
    (other : ∀ request resultBlob errorBlob, op ≠ .recordTaskResult request resultBlob errorBlob) :
    Evolves WaitsFromBefore (executeReport op) := by
  cases op with
  | markTaskRunning request =>
    exact evolves_of_atomic (markTaskRunning_atomic _) waits_refl fun _ _ _ done =>
      waits_of_sameAgents (by rw [(markTaskRunning_ok done).2])
  | asyncMarkTaskRunning request =>
    exact evolves_of_atomic (asyncMarkTaskRunning_atomic _) waits_refl fun _ _ _ done =>
      waits_of_sameAgents (by rw [(asyncMarkTaskRunning_ok done).2])
  | recordTaskResult request resultBlob errorBlob => exact absurd rfl (other _ _ _)
  | asyncRecordTaskResult request resultBlob errorBlob =>
    exact evolves_of_atomic (asyncRecordTaskResult_atomic _ _ _) waits_refl fun _ _ _ done => by
      obtain ⟨_, _, _, _, _, after⟩ := asyncRecordTaskResult_ok done
      exact waits_of_sameAgents (by rw [after])

/-- The agent waits for the task of the result, since the time the result states. -/
structure StartsWait (request : TaskResult) (row : AgentRow) : Prop where
  stated : row.lastUpgradeAt = some request.occurredAt
  task : row.lastUpgradeTaskId = some request.taskId

theorem settledRow_waits {request : TaskResult} {store : Store} {row : AgentRow}
    (waiting : (UpgradeFields.settledRow request store row).upgradeState =
      some .waitingReconnect) :
    StartsWait request (UpgradeFields.settledRow request store row) ∨
      UpgradeFields.settledRow request store row = row := by
  unfold UpgradeFields.settledRow at waiting ⊢
  by_cases failed : request.status ≠ .succeeded ∧ dependsOn request.agentId request.taskId store
      (if upgradeTaskIs request.agentId request.taskId row then settleUpgrade request row
        else row) = true
  · rw [if_pos failed] at waiting
    cases waiting
  rw [if_neg failed] at waiting ⊢
  by_cases chosen : upgradeTaskIs request.agentId request.taskId row = true
  · rw [if_pos chosen]
    simp only [upgradeTaskIs, Bool.and_eq_true, decide_eq_true_eq] at chosen
    exact Or.inl ⟨rfl, chosen.2⟩
  · exact Or.inr (if_neg chosen)

theorem settledRow_task (request : TaskResult) (store : Store) (row : AgentRow) :
    (UpgradeFields.settledRow request store row).lastUpgradeTaskId = row.lastUpgradeTaskId := by
  unfold UpgradeFields.settledRow
  by_cases chosen : upgradeTaskIs request.agentId request.taskId row = true
  · simp only [chosen, if_true]
    split <;> rfl
  · simp only [chosen, if_false, Bool.false_eq_true]
    split <;> rfl

/-- Who waits after a stored result waited before, or waits since the result for its task,
    which is finished now and was not before. -/
theorem recordTaskResult_waits {request : TaskResult} {resultBlob errorBlob : Option Blob}
    {s s' : Session Store} {u : Unit}
    (done : recordTaskResult request resultBlob errorBlob s = (.ok u, s')) {agentId : String}
    {row' : AgentRow} (waits : Waits s'.state agentId row') :
    ∃ row, s.state.agents.find agentId = some row ∧ (row' = row ∨
      (StartsWait request row' ∧ row'.lastUpgradeTaskId = row.lastUpgradeTaskId)) := by
  obtain ⟨task, results, found, open_task, _, after⟩ := recordTaskResult_ok done
  obtain ⟨found', waiting⟩ := waits
  rw [after] at found'
  change (settledAgents request
    { s.state with tasks := finishTask s.state.tasks request }).find agentId = _ at found'
  by_cases upgrade : request.taskType = .packageUpdate
  · rw [UpgradeFields.find_settledAgents upgrade, Option.map_eq_some_iff] at found'
    obtain ⟨row, at_agent, rfl⟩ := found'
    refine ⟨row, at_agent, ?_⟩
    rcases settledRow_waits waiting with starts | same
    · exact Or.inr ⟨starts, settledRow_task request _ row⟩
    · exact Or.inl same
  · unfold settledAgents at found'
    rw [if_neg upgrade] at found'
    exact ⟨row', found', Or.inl rfl⟩

/-! The clock beside the store -/

/-- A request at a time of the server's clock: a call of the database, or a management
    request, which looks for agents to time out. -/
inductive Request where
  | call (call : Call)
  | manage

structure Event where
  clock : UtcSecond
  request : Request

/-- When the server stored the result that made an agent wait, and the time in it. -/
structure Entry where
  clock : UtcSecond
  occurredAt : String

def Event.entry (event : Event) : Option Entry :=
  match event.request with
  | .call ⟨.report (.recordTaskResult request _ _), _⟩ => some ⟨event.clock, request.occurredAt⟩
  | _ => none

def isWaiting (store : Store) (agentId : String) : Bool :=
  (store.agents.find agentId).any fun row => row.upgradeState = some .waitingReconnect

/-- The store, and for every waiting agent the entry into its wait. -/
structure Watched where
  store : Store
  entries : String → Option Entry

def Watched.start : Watched where
  store := Store.empty
  entries := fun _ => none

/-- A management request at this time. -/
def manage (datetime : String → Option Int) (clock : UtcSecond) (store : Store) : Store :=
  (expireWaitingReconnect datetime clock.toRfc3339 ⟨store, []⟩).2.state

def serve (datetime : String → Option Int) (store : Store) (event : Event) : Store :=
  match event.request with
  | .call call => step store call
  | .manage => manage datetime event.clock store

/-- Only who did not wait before enters the wait. -/
def watch (datetime : String → Option Int) (s : Watched) (event : Event) : Watched where
  store := serve datetime s.store event
  entries := fun agentId =>
    if isWaiting (serve datetime s.store event) agentId then
      if isWaiting s.store agentId then s.entries agentId else event.entry
    else none

theorem isWaiting_iff (store : Store) (agentId : String) :
    isWaiting store agentId = true ↔ ∃ row, Waits store agentId row := by
  simp [isWaiting, Waits, Option.any_eq_true]

/-! What is known of a waiting agent -/

/-- Its columns hold the time of the result that made it wait, and the task is over. -/
structure Known (s : Watched) (agentId : String) (row : AgentRow) : Prop where
  entry : ∃ entry, s.entries agentId = some entry ∧ row.lastUpgradeAt = some entry.occurredAt
  task : ∃ taskId task, row.lastUpgradeTaskId = some taskId ∧
    s.store.tasks.find taskId = some task ∧ isTerminalTaskState task.state = true

structure Tracked (s : Watched) : Prop where
  known : ∀ agentId row, Waits s.store agentId row → Known s agentId row
  waits : ∀ agentId entry, s.entries agentId = some entry → ∃ row, Waits s.store agentId row

theorem start_tracked : Tracked Watched.start where
  known := by
    rintro agentId row ⟨found, _⟩
    cases found
  waits := nofun

variable {datetime : String → Option Int} {s : Watched} {event : Event}

theorem watch_entries {agentId : String} {row row' : AgentRow} (before : Waits s.store agentId row)
    (after : Waits (serve datetime s.store event) agentId row') :
    (watch datetime s event).entries agentId = s.entries agentId := by
  change (if isWaiting (serve datetime s.store event) agentId then
      if isWaiting s.store agentId then s.entries agentId else event.entry else none) = _
  rw [if_pos ((isWaiting_iff _ _).mpr ⟨row', after⟩), if_pos ((isWaiting_iff _ _).mpr ⟨row, before⟩)]

theorem watch_enters {agentId : String} {row' : AgentRow}
    (before : ¬ ∃ row, Waits s.store agentId row)
    (after : Waits (serve datetime s.store event) agentId row') :
    (watch datetime s event).entries agentId = event.entry := by
  change (if isWaiting (serve datetime s.store event) agentId then
      if isWaiting s.store agentId then s.entries agentId else event.entry else none) = _
  rw [if_pos ((isWaiting_iff _ _).mpr ⟨row', after⟩), if_neg]
  intro waiting
  exact before ((isWaiting_iff _ _).mp waiting)

theorem watch_waits {agentId : String} {entry : Entry}
    (entered : (watch datetime s event).entries agentId = some entry) :
    ∃ row, Waits (serve datetime s.store event) agentId row := by
  change (if isWaiting (serve datetime s.store event) agentId then
      if isWaiting s.store agentId then s.entries agentId else event.entry else none) = _ at entered
  by_cases waiting : isWaiting (serve datetime s.store event) agentId = true
  · exact (isWaiting_iff _ _).mp waiting
  · rw [if_neg waiting] at entered
    cases entered

/-- A finished task is finished after every request. -/
theorem serve_keeps_finished {k : String} {task : TaskRow}
    (found : s.store.tasks.find k = some task) (ended : isTerminalTaskState task.state = true) :
    (serve datetime s.store event).tasks.find k = some task := by
  obtain ⟨clock, request⟩ := event
  cases request with
  | call call =>
    exact UpgradeFields.effect_keeps_finished (step_effect s.store call) found ended
  | manage =>
    have same := agentsOnly_sameTasks (expireWaitingReconnect_agentsOnly datetime clock.toRfc3339
      ⟨s.store, []⟩ _ _ rfl)
    exact (congrArg (fun tasks => Table.find tasks k) same.tasks).trans found

/-- Who waited before with the same columns is known after the step. -/
theorem known_stays {agentId : String} {row row' : AgentRow} (tracked : Tracked s)
    (before : Waits s.store agentId row)
    (after : Waits (serve datetime s.store event) agentId row') (same : SameWait row row') :
    Known (watch datetime s event) agentId row' := by
  obtain ⟨⟨entry, entered, stated⟩, taskId, task, last, found, ended⟩ :=
    tracked.known agentId row before
  refine ⟨⟨entry, (watch_entries before after).trans entered, ?_⟩, taskId, task, ?_, ?_, ended⟩
  · exact same.lastUpgradeAt.trans stated
  · exact same.lastUpgradeTaskId.trans last
  · exact serve_keeps_finished found ended

theorem tracked_of_waits (tracked : Tracked s)
    (kept : WaitsFromBefore s.store (serve datetime s.store event)) :
    Tracked (watch datetime s event) where
  known := by
    intro agentId row' waits
    obtain ⟨row, waited, same⟩ := kept agentId row' waits
    exact known_stays tracked waited waits same
  waits := fun _ _ entered => watch_waits entered

/-- A result whose task is not finished is not that of a waiting agent. -/
theorem tracked_result {clock : UtcSecond} {request : TaskResult}
    {resultBlob errorBlob : Option Blob} {faults : List (Option Fault)} (tracked : Tracked s) :
    Tracked (watch datetime s
      ⟨clock, .call ⟨.report (.recordTaskResult request resultBlob errorBlob), faults⟩⟩) := by
  have final : serve datetime s.store
      ⟨clock, .call ⟨.report (.recordTaskResult request resultBlob errorBlob), faults⟩⟩ =
      (recordTaskResult request resultBlob errorBlob ⟨s.store, faults⟩).2.state :=
    congrArg Session.state (discard_state _ _ _)
  cases ran : recordTaskResult request resultBlob errorBlob ⟨s.store, faults⟩ with
  | mk result after =>
    rw [ran] at final
    cases result with
    | error e =>
      apply tracked_of_waits tracked
      rw [final, recordTaskResult_atomic _ _ _ _ _ _ ran]
      exact waits_refl s.store
    | ok u =>
      refine ⟨?_, fun _ _ entered => watch_waits entered⟩
      intro agentId row' waits
      have stored : Waits (serve datetime s.store _) agentId row' := waits
      rw [final] at stored
      obtain ⟨row, found, same | ⟨starts, last⟩⟩ := recordTaskResult_waits ran stored
      · subst same
        exact known_stays tracked ⟨found, waits.2⟩ waits (sameWait_refl row')
      · obtain ⟨open_row, results, at_task, open_task, _, after_eq⟩ := recordTaskResult_ok ran
        have idle : ¬ ∃ row, Waits s.store agentId row := by
          rintro ⟨other, waited⟩
          obtain ⟨_, taskId, task, last', found', ended⟩ := tracked.known agentId other waited
          have same : other = row := Option.some.inj (waited.1.symm.trans found)
          subst same
          rw [last', starts.task] at last
          cases last
          rw [at_task] at found'
          cases found'
          rw [ended] at open_task
          cases open_task
        refine ⟨⟨⟨clock, request.occurredAt⟩, watch_enters idle waits, starts.stated⟩,
          request.taskId, finish request open_row, starts.task, ?_, ?_⟩
        · change (serve datetime s.store _).tasks.find request.taskId = _
          rw [final, after_eq]
          exact (find_finishTask at_task open_task request.taskId).trans (if_pos rfl)
        · cases status : request.status <;> simp [finish, terminalState, status,
            isTerminalTaskState]

/-- Every request keeps track of the waiting agents. -/
theorem watch_tracked (tracked : Tracked s) : Tracked (watch datetime s event) := by
  obtain ⟨clock, request⟩ := event
  cases request with
  | manage =>
    exact tracked_of_waits tracked
      (expireWaitingReconnect_waits datetime clock.toRfc3339 ⟨s.store, []⟩ _ _ rfl)
  | call call =>
    obtain ⟨op, faults⟩ := call
    cases op with
    | queue op => exact tracked_of_waits tracked (queueOp_waits op ⟨s.store, faults⟩ _ _ rfl)
    | agent op =>
      exact tracked_of_waits tracked
        (evolves_discard none (agentOp_waits op) ⟨s.store, faults⟩ _ _ rfl)
    | report op =>
      by_cases synchronous : ∃ request resultBlob errorBlob,
          op = .recordTaskResult request resultBlob errorBlob
      · obtain ⟨request, resultBlob, errorBlob, rfl⟩ := synchronous
        exact tracked_result tracked
      · have other : ∀ request resultBlob errorBlob,
            op ≠ .recordTaskResult request resultBlob errorBlob :=
          fun request result error same => synchronous ⟨request, result, error, same⟩
        exact tracked_of_waits tracked
          (evolves_discard none (reportOp_waits op other) ⟨s.store, faults⟩ _ _ rfl)

/-! The timeout -/

/-- The engine reads what the clock helper writes. -/
def ReadsClock (datetime : String → Option Int) : Prop :=
  ∀ t : UtcSecond, datetime t.toRfc3339 = some t.epochSeconds

/-- Ten minutes of the server's time passed since the entry. -/
def Due (clock : UtcSecond) (entry : Entry) : Prop :=
  entry.clock.epochSeconds + 600 ≤ clock.epochSeconds

/-- The time in the result is one, and ten minutes old. -/
def StatedDue (datetime : String → Option Int) (clock : UtcSecond) (entry : Entry) : Prop :=
  ∃ stated, datetime entry.occurredAt = some stated ∧ stated + 600 ≤ clock.epochSeconds

/-- The waiting agent counts as failed by the timeout. -/
def TimedOut (store : Store) (agentId : String) : Prop :=
  ∃ row, store.agents.find agentId = some row ∧ row.upgradeState = some .failed ∧
    row.lastUpgradeError = some .waitingReconnectTimeout

/-- A management request moves the waiting agents whose ten minutes are over, and no others. -/
def FollowsClock (datetime : String → Option Int) (s : Watched) (event : Event) : Prop :=
  event.request = .manage → ∀ agentId row, Waits s.store agentId row →
    (TimedOut (watch datetime s event).store agentId ↔
      ∃ entry, s.entries agentId = some entry ∧ Due event.clock entry)

/-- At a management request the times in the results behind the waits are ten minutes old
    exactly when these results are. -/
def StatedInTime (datetime : String → Option Int) (s : Watched) (event : Event) : Prop :=
  event.request = .manage → ∀ agentId entry, s.entries agentId = some entry →
    (StatedDue datetime event.clock entry ↔ Due event.clock entry)

theorem manage_agents (datetime : String → Option Int) (clock : UtcSecond) (store : Store) :
    (manage datetime clock store).agents = store.agents.update
      (reconnectExpired datetime clock.toRfc3339) failReconnect failReconnect_agentId := rfl

theorem reconnectExpired_iff (reads : ReadsClock datetime) {clock : UtcSecond} {row : AgentRow}
    {entry : Entry} (waiting : row.upgradeState = some .waitingReconnect)
    (stated : row.lastUpgradeAt = some entry.occurredAt) :
    reconnectExpired datetime clock.toRfc3339 row = true ↔ StatedDue datetime clock entry := by
  unfold reconnectExpired StatedDue
  rw [stated, Option.bind_some, reads clock]
  cases read : datetime entry.occurredAt with
  | none => simp
  | some first =>
    simp only [waiting, decide_true, Bool.true_and, decide_eq_true_eq, Option.some.injEq,
      exists_eq_left']
    omega

theorem timedOut_iff (reads : ReadsClock datetime) {clock : UtcSecond} {agentId : String}
    {row : AgentRow} {entry : Entry} (waits : Waits s.store agentId row)
    (stated : row.lastUpgradeAt = some entry.occurredAt) :
    TimedOut (manage datetime clock s.store) agentId ↔ StatedDue datetime clock entry := by
  rw [← reconnectExpired_iff reads waits.2 stated]
  have after : (manage datetime clock s.store).agents.find agentId =
      some (if reconnectExpired datetime clock.toRfc3339 row then failReconnect row else row) := by
    rw [manage_agents, Table.find_update, waits.1]
    rfl
  constructor
  · rintro ⟨row', found, failed, _⟩
    by_contra young
    rw [after, if_neg young] at found
    cases found
    rw [waits.2] at failed
    cases failed
  · intro expired
    rw [if_pos expired] at after
    exact ⟨failReconnect row, after, rfl, rfl⟩

theorem followsClock_iff (reads : ReadsClock datetime) (tracked : Tracked s) :
    FollowsClock datetime s event ↔ StatedInTime datetime s event := by
  obtain ⟨clock, request⟩ := event
  constructor
  · rintro follows rfl agentId entry entered
    obtain ⟨row, waits⟩ := tracked.waits agentId entry entered
    obtain ⟨⟨known, at_known, stated⟩, _⟩ := tracked.known agentId row waits
    rw [entered] at at_known
    cases at_known
    have exactly : TimedOut (manage datetime clock s.store) agentId ↔
        ∃ known, s.entries agentId = some known ∧ Due clock known := follows rfl agentId row waits
    rw [← timedOut_iff reads waits stated, exactly, entered]
    simp
  · rintro in_time rfl agentId row waits
    obtain ⟨⟨entry, entered, stated⟩, _⟩ := tracked.known agentId row waits
    change TimedOut (manage datetime clock s.store) agentId ↔ _
    rw [timedOut_iff reads waits stated, in_time rfl agentId entry entered, entered]
    simp

/-! Agents whose clocks agree with the server's -/

/-- The result states the time at which the server stores it. -/
def Punctual (entry : Entry) : Prop := entry.occurredAt = entry.clock.toRfc3339

def EntersPunctual (event : Event) : Prop := ∀ entry, event.entry = some entry → Punctual entry

def AllPunctual (s : Watched) : Prop :=
  ∀ agentId entry, s.entries agentId = some entry → Punctual entry

theorem watch_punctual (punctual : EntersPunctual event) (before : AllPunctual s) :
    AllPunctual (watch datetime s event) := by
  intro agentId entry entered
  obtain ⟨row', waits⟩ := watch_waits entered
  by_cases waited : ∃ row, Waits s.store agentId row
  · obtain ⟨row, waited⟩ := waited
    rw [watch_entries waited waits] at entered
    exact before agentId entry entered
  · rw [watch_enters waited waits] at entered
    exact punctual entry entered

theorem punctual_in_time (reads : ReadsClock datetime) {events : List Event}
    (punctual : ∀ event ∈ events, EntersPunctual event) :
    Runs.AllSteps (watch datetime) Watched.start events (StatedInTime datetime) := by
  intro before event after split manages agentId entry entered
  have kept : AllPunctual (Runs.run (watch datetime) Watched.start before) := by
    apply Runs.run_invariant AllPunctual (fun _ event => EntersPunctual event)
    · exact fun _ _ before punctual => watch_punctual punctual before
    · intro first other rest earlier
      exact punctual other (by rw [split, earlier]; simp)
    · exact nofun
  unfold StatedDue Due
  rw [kept agentId entry entered, reads]
  simp

/-! A reading of the clock -/

def field (text : String) (start width : Nat) : Nat :=
  FixedWidth.number ((text.toList.drop start).take width)

/-- The second in the fields of a text. -/
def secondOf (text : String) : Option UtcSecond :=
  let year := field text 0 4
  let month := field text 5 2
  let day := field text 8 2
  let hour := field text 11 2
  let minute := field text 14 2
  let second := field text 17 2
  if valid : year < 10000 ∧ (0 < month ∧ month ≤ 12) ∧
      (0 < day ∧ day ≤ daysInMonth (isLeapYear year) month) ∧
      hour < 24 ∧ minute < 60 ∧ second < 60 then
    some ⟨year, month, day, hour, minute, second, valid.1, valid.2.1.1, valid.2.1.2,
      valid.2.2.1.1, valid.2.2.1.2, valid.2.2.2.1, valid.2.2.2.2.1, valid.2.2.2.2.2⟩
  else none

/-- Reads the texts of the clock helper and nothing else. -/
def readClock (text : String) : Option Int :=
  (secondOf text).bind fun t => if t.toRfc3339 = text then some t.epochSeconds else none

theorem field_eq {text : String} {digits : List Char} {start width n : Nat}
    (read : text.toList = digits) (fits : n < 10 ^ width)
    (here : (digits.drop start).take width = FixedWidth.numeral width n) :
    field text start width = n := by
  rw [field, read, here, FixedWidth.number_numeral fits]

theorem secondOf_toRfc3339 (t : UtcSecond) : secondOf t.toRfc3339 = some t := by
  have digits := String.toList_ofList (l := FixedWidth.numeral 4 t.year ++ '-' ::
    (FixedWidth.numeral 2 t.month ++ '-' :: (FixedWidth.numeral 2 t.day ++ 'T' ::
      (FixedWidth.numeral 2 t.hour ++ ':' :: (FixedWidth.numeral 2 t.minute ++ ':' ::
        (FixedWidth.numeral 2 t.second ++ ['Z']))))))
  change t.toRfc3339.toList = _ at digits
  have month := t.month_le
  have hour := t.hour_lt
  have minute := t.minute_lt
  have second := t.second_lt
  have at_year : field t.toRfc3339 0 4 = t.year := field_eq digits t.year_lt rfl
  have at_month : field t.toRfc3339 5 2 = t.month := field_eq digits (by omega) rfl
  have at_day : field t.toRfc3339 8 2 = t.day := field_eq digits t.day_lt rfl
  have at_hour : field t.toRfc3339 11 2 = t.hour := field_eq digits (by omega) rfl
  have at_minute : field t.toRfc3339 14 2 = t.minute := field_eq digits (by omega) rfl
  have at_second : field t.toRfc3339 17 2 = t.second := field_eq digits (by omega) rfl
  simp only [secondOf, at_year, at_month, at_day, at_hour, at_minute, at_second]
  exact dif_pos ⟨t.year_lt, ⟨t.month_pos, month⟩, ⟨t.day_pos, t.day_le⟩, hour, minute, second⟩

theorem readClock_reads : ReadsClock readClock := by
  intro t
  rw [readClock, secondOf_toRfc3339, Option.bind_some, if_pos rfl]

/-! The example of the upgrade confirmation, with the time of its result -/

def finished : UtcSecond :=
  { noon with
    second := 20
    second_lt := by decide }

def soonAfter : UtcSecond :=
  { noon with
    second := 40
    second_lt := by decide }

def tenMinutesAfter : UtcSecond :=
  { finished with
    minute := 10
    minute_lt := by decide }

def yesterday : UtcSecond :=
  { finished with
    month := 2
    day := 28
    month_pos := by decide
    month_le := by decide
    day_pos := by decide
    day_le := by decide }

/-- The upgrade runs and its success arrives, stating this time. -/
def reported (occurredAt : UtcSecond) : List Event :=
  UpgradeConfirmation.upgradeStarted.map (fun call => ⟨finished, .call call⟩) ++
    [⟨finished, .call ⟨.report (.recordTaskResult
      { UpgradeConfirmation.upgradeSuccess with occurredAt := occurredAt.toRfc3339 } none none),
      []⟩⟩]

theorem reported_entry (occurredAt : UtcSecond) :
    (Runs.run (watch readClock) Watched.start (reported occurredAt)).entries "agent-1" =
      some ⟨finished, occurredAt.toRfc3339⟩ := rfl

/-- Whatever the server is asked, and whatever the engine answers: the timeout follows the
    server's clock in every management request exactly when in every one of them the times
    agents stated are as old as their results. -/
theorem timeout_follows_clock_iff (datetime : String → Option Int) (reads : ReadsClock datetime)
    (events : List Event) :
    Runs.AllSteps (watch datetime) Watched.start events (FollowsClock datetime) ↔
      Runs.AllSteps (watch datetime) Watched.start events (StatedInTime datetime) :=
  Runs.allSteps_iff_sides events Tracked _ _ start_tracked
    (fun _ _ tracked _ => watch_tracked tracked)
    fun _ _ tracked => followsClock_iff reads tracked

theorem timeout_follows_clock_iff_punctual :
    Runs.AllSteps (watch readClock) Watched.start
      (reported finished ++ [⟨soonAfter, .manage⟩, ⟨tenMinutesAfter, .manage⟩])
      (FollowsClock readClock) := by
  apply (timeout_follows_clock_iff readClock readClock_reads _).mpr
  apply punctual_in_time readClock_reads
  intro event member entry entered
  simp only [reported, UpgradeConfirmation.upgradeStarted, List.map_cons, List.map_nil,
    List.cons_append, List.nil_append, List.mem_cons, List.not_mem_nil, or_false] at member
  rcases member with rfl | rfl | rfl | rfl | rfl | rfl | rfl
  all_goals cases entered
  rfl

/-- The clock of the agent is a day behind: the upgrade fails twenty seconds after its result
    arrived. -/
theorem stale_result_times_out :
    ReadsClock readClock ∧ ¬ Runs.AllSteps (watch readClock) Watched.start
      (reported yesterday ++ [⟨soonAfter, .manage⟩]) (FollowsClock readClock) := by
  refine ⟨readClock_reads, ?_⟩
  intro follows
  have follows_here := follows (reported yesterday) ⟨soonAfter, .manage⟩ [] rfl
  have tracked : Tracked (Runs.run (watch readClock) Watched.start (reported yesterday)) :=
    Runs.run_invariant_always Tracked (fun _ _ => watch_tracked) _ start_tracked _
  have in_time := (followsClock_iff readClock_reads tracked).mp follows_here rfl "agent-1" _
    (reported_entry yesterday)
  have stated : StatedDue readClock soonAfter ⟨finished, yesterday.toRfc3339⟩ :=
    ⟨yesterday.epochSeconds, readClock_reads yesterday, by decide⟩
  have early : ¬ Due soonAfter ⟨finished, yesterday.toRfc3339⟩ := by
    unfold Due
    decide
  exact early (in_time.mp stated)

end ReconnectTimeout
