import ZFleet.Server.AgentStore
import ZFleet.Server.TaskStore

/-!
The asynchronous store operations beside the synchronous ones. They read and write the
same tables and differ in what the synchronous ones do besides: the follow-up of an
upgrade result, the confirmation of an upgrade on reconnect, the audit event of a claim
and the notification of a result.
-/
namespace AsyncStore
open Message KeyedTables Transactions Schema AgentStore TaskStore

/-- The operations there are twice. -/
inductive Request where
  | recordTaskResult (request : TaskResult) (resultBlob errorBlob : Option Blob)
  | upsertAgent (request : AgentRegistration)
  | markAgentOffline (agentId disconnectedAt : String)
  | claimNextTaskForAgent (agentId assignedAt : String)

/-- Only claims answer with a task. -/
def answerNothing (job : Job Store Unit) : Job Store (Option Task) := do
  job
  pure none

/-- The synchronous claim generates the id of its audit event. -/
def synchronous (auditId : String) : Request → Job Store (Option Task)
  | .recordTaskResult request resultBlob errorBlob =>
    answerNothing (recordTaskResult request resultBlob errorBlob)
  | .upsertAgent request => answerNothing (upsertAgent request)
  | .markAgentOffline agentId disconnectedAt =>
    answerNothing (markAgentOffline agentId disconnectedAt)
  | .claimNextTaskForAgent agentId assignedAt => claimNextTaskForAgent agentId assignedAt auditId

def asynchronous : Request → Job Store (Option Task)
  | .recordTaskResult request resultBlob errorBlob =>
    answerNothing (asyncRecordTaskResult request resultBlob errorBlob)
  | .upsertAgent request => answerNothing (asyncUpsertAgent request)
  | .markAgentOffline agentId disconnectedAt =>
    answerNothing (asyncMarkAgentOffline agentId disconnectedAt)
  | .claimNextTaskForAgent agentId assignedAt => asyncClaimNextTaskForAgent agentId assignedAt

theorem answerNothing_succeeds {job : Job Store Unit} {store final : Store}
    (ran : Succeeds job store () final) : Succeeds (answerNothing job) store none final :=
  succeeds_bind ran (succeeds_pure none final)

theorem answerNothing_refuses {job : Job Store Unit} {store : Store} {e : Failure}
    (refused : Refuses job store e) : Refuses (answerNothing job) store e :=
  refuses_first refused

/-- The answer and the store with its notifications, when the engine lets every statement
    through. -/
def outcome {α : Type} (job : Job Store α) (store : Store) : Except Failure α × Store :=
  ((job ⟨store, []⟩).1, (job ⟨store, []⟩).2.state)

def Agrees (auditId : String) (store : Store) (request : Request) : Prop :=
  outcome (synchronous auditId request) store = outcome (asynchronous request) store

/-- The task exists, is unfinished and has no result. -/
def Recordable (store : Store) (taskId : String) : Prop :=
  store.taskResults.find taskId = none ∧
    ∃ row, store.tasks.find taskId = some row ∧ isTerminalTaskState row.state = false

/-- The reconnect of this agent decides its upgrade. -/
def ReconnectDecides (row : AgentRow) : Prop :=
  row.upgradeState = some .waitingReconnect ∧
    (row.desiredVersion ≠ none ∨ row.desiredPackageId = none)

/-- When the two operations do the same. -/
def Interchangeable (store : Store) : Request → Prop
  | .recordTaskResult request _ _ => ¬ Recordable store request.taskId
  | .upsertAgent request =>
    ∀ row, store.agents.find request.agentId = some row → ¬ ReconnectDecides row
  | .markAgentOffline _ _ => True
  | .claimNextTaskForAgent agentId assignedAt =>
    ∀ row ∈ store.tasks.rows, claimable store agentId assignedAt row = false

theorem outcome_of_succeeds {α : Type} {job : Job Store α} {store final : Store} {a : α}
    (ran : Succeeds job store a final) : outcome job store = (.ok a, final) := by
  unfold outcome
  rw [show job ⟨store, []⟩ = _ from ran]

theorem outcome_of_refuses {α : Type} {job : Job Store α} {store : Store} {e : Failure}
    (refused : Refuses job store e) : outcome job store = (.error e, store) := by
  unfold outcome
  rw [show job ⟨store, []⟩ = _ from refused]

/-! Results -/

theorem resultBody_throws {request : TaskResult} (resultBlob errorBlob : Option Blob)
    {store : Store} (unrecordable : ¬ Recordable store request.taskId) :
    ∃ message, ∀ followUp,
      Throws (resultBody request resultBlob errorBlob followUp) store (.error message) := by
  cases inserted : store.taskResults.insert (taskResultRow request resultBlob errorBlob) with
  | none =>
    refine ⟨"UNIQUE constraint failed: " ++ "task_results.task_id", fun followUp => ?_⟩
    exact throws_first (insertRow_throws inserted)
  | some results =>
    refine ⟨"task result state transition failed", fun followUp => ?_⟩
    have wrote := updateTasks_succeeds (unfinished request.taskId) (finish request)
      (finish_taskId _) { store with taskResults := results }
    refine throws_later (insertRow_succeeds inserted) (throws_later wrote ?_)
    have missed : store.tasks.changes (unfinished request.taskId) ≠ 1 := by
      intro one
      refine unrecordable ⟨?_, (changes_unfinished _ _).mp one⟩
      exact (Table.insert_some inserted).1
    rw [if_pos missed]
    exact throws_fail _ _

theorem recordTaskResult_agrees {auditId : String} {store : Store} {request : TaskResult}
    {resultBlob errorBlob : Option Blob} (unrecordable : ¬ Recordable store request.taskId) :
    Agrees auditId store (.recordTaskResult request resultBlob errorBlob) := by
  obtain ⟨message, throws⟩ := resultBody_throws resultBlob errorBlob unrecordable
  have refuses : ∀ followUp,
      Refuses (submitWrite (resultTransaction request resultBlob errorBlob followUp)) store
        (.error message) :=
    fun followUp => refuses_retry busyRetryAttempts (refuses_transaction (throws followUp))
  have sync : Refuses (synchronous auditId (.recordTaskResult request resultBlob errorBlob)) store
      (.error message) := answerNothing_refuses (refuses_first (refuses _))
  have async : Refuses (asynchronous (.recordTaskResult request resultBlob errorBlob)) store
      (.error message) := answerNothing_refuses (refuses _)
  unfold Agrees
  rw [outcome_of_refuses sync, outcome_of_refuses async]

/-- The synchronous result is announced and the asynchronous one is not. -/
theorem recordTaskResult_differs {auditId : String} {store : Store} {request : TaskResult}
    {resultBlob errorBlob : Option Blob} (recordable : Recordable store request.taskId) :
    ¬ Agrees auditId store (.recordTaskResult request resultBlob errorBlob) := by
  obtain ⟨free, row, found, open_row⟩ := recordable
  obtain ⟨results, inserted⟩ := Option.isSome_iff_exists.mp
    ((store.taskResults.insert_isSome_iff (taskResultRow request resultBlob errorBlob)).mpr free)
  have sync : Succeeds (synchronous auditId (.recordTaskResult request resultBlob errorBlob))
      store none (recordedStore request results store) :=
    answerNothing_succeeds (recordTaskResult_succeeds found open_row inserted)
  have async : Succeeds (asynchronous (.recordTaskResult request resultBlob errorBlob)) store none
      { store with tasks := finishTask store.tasks request, taskResults := results } :=
    answerNothing_succeeds (asyncRecordTaskResult_succeeds found open_row inserted)
  unfold Agrees
  rw [outcome_of_succeeds sync, outcome_of_succeeds async, Prod.mk.injEq]
  rintro ⟨_, same⟩
  have version := congrArg Store.taskQueueVersion same
  simp [recordedStore] at version

/-! Registrations -/

theorem confirmUpgrade_quiet {excluded row : AgentRow} (undecided : ¬ ReconnectDecides row) :
    confirmUpgrade excluded row = row := by
  unfold ReconnectDecides at undecided
  unfold confirmUpgrade reconnectMatches reconnectWithoutPackage reconnectMismatches
  by_cases waiting : row.upgradeState = some .waitingReconnect
  · have columns : row.desiredVersion = none ∧ row.desiredPackageId ≠ none := by
      by_contra other
      exact undecided ⟨waiting, by tauto⟩
    simp [columns.1, columns.2]
  · simp [waiting]

/-- A decided upgrade does not wait for the reconnect any more. -/
theorem confirmUpgrade_decides {excluded row : AgentRow} (decides : ReconnectDecides row) :
    (confirmUpgrade excluded row).upgradeState ≠ some .waitingReconnect := by
  obtain ⟨waiting, columns⟩ := decides
  unfold confirmUpgrade
  by_cases same : reconnectMatches excluded row = true
  · rw [if_pos same]
    simp
  · rw [if_neg same]
    by_cases without : reconnectWithoutPackage row = true
    · rw [if_pos without]
      simp
    · rw [if_neg without]
      have mismatch : reconnectMismatches excluded row = true := by
        simp only [reconnectMatches, reconnectWithoutPackage, waiting, Bool.and_eq_true,
          decide_eq_true_eq, true_and] at same without
        rcases columns with versioned | bare
        · obtain ⟨desired, wants⟩ := Option.ne_none_iff_exists'.mp versioned
          rw [wants, Option.some.injEq] at same
          simp [reconnectMismatches, waiting, wants, same]
        · exact absurd bare without
      rw [if_pos mismatch]
      simp

theorem upsertAgent_agrees_iff {auditId : String} {store : Store} {request : AgentRegistration} :
    Agrees auditId store (.upsertAgent request) ↔
      Interchangeable store (.upsertAgent request) := by
  have sync : outcome (synchronous auditId (.upsertAgent request)) store = _ :=
    outcome_of_succeeds (answerNothing_succeeds (upsertAgent_succeeds request store))
  have async : outcome (asynchronous (.upsertAgent request)) store = _ :=
    outcome_of_succeeds (answerNothing_succeeds (asyncUpsertAgent_succeeds request store))
  unfold Agrees
  rw [sync, async, Prod.mk.injEq]
  constructor
  · rintro ⟨_, same⟩ row found decides
    have agents := congrArg (fun store => store.agents.find request.agentId) same
    simp only [find_upsertInto, registeredRow, if_true, found, Option.some.injEq] at agents
    have state := congrArg AgentRow.upgradeState agents
    exact confirmUpgrade_decides decides (state.trans decides.1)
  · intro undecided
    refine ⟨rfl, ?_⟩
    congr 1
    unfold upsertInto
    cases inserted : store.agents.insert (registeredRow request) with
    | some table => rfl
    | none =>
      apply Table.ext_rows
      simp only [Option.getD_none, Table.update]
      apply List.map_congr_left
      intro row member
      by_cases own : row.agentId = request.agentId
      · have found := Table.find_of_mem member
        rw [own] at found
        simp only [mergeRegistration, confirmUpgrade_quiet (undecided row found)]
      · have other : ¬ row.agentId = (registeredRow request).agentId := own
        simp only [other, decide_false, Bool.false_eq_true, if_false]

/-! Claims -/

theorem selectClaimable_none_iff (store : Store) (agentId assignedAt : String) :
    selectClaimable agentId assignedAt store = none ↔
      ∀ row ∈ store.tasks.rows, claimable store agentId assignedAt row = false := by
  unfold selectClaimable
  rw [List.argmin_eq_none, List.filter_eq_nil_iff]
  simp only [Bool.not_eq_true]

theorem claimNextTaskForAgent_agrees_iff {auditId : String} {store : Store}
    {agentId assignedAt : String} :
    Agrees auditId store (.claimNextTaskForAgent agentId assignedAt) ↔
      Interchangeable store (.claimNextTaskForAgent agentId assignedAt) := by
  rw [show Interchangeable store (.claimNextTaskForAgent agentId assignedAt) ↔ _ from
    (selectClaimable_none_iff store agentId assignedAt).symm]
  cases selected : selectClaimable agentId assignedAt store with
  | none =>
    unfold Agrees
    rw [show outcome (synchronous auditId (.claimNextTaskForAgent agentId assignedAt)) store = _
      from outcome_of_succeeds (claimNextTaskForAgent_none selected),
      show outcome (asynchronous (.claimNextTaskForAgent agentId assignedAt)) store = _
      from outcome_of_succeeds (asyncClaimNextTaskForAgent_none selected)]
    simp
  | some row =>
    simp only [reduceCtorEq, iff_false]
    intro agrees
    unfold Agrees at agrees
    rw [show outcome (asynchronous (.claimNextTaskForAgent agentId assignedAt)) store = _
      from outcome_of_succeeds (asyncClaimNextTaskForAgent_some selected)] at agrees
    obtain ⟨replied, stored⟩ := Prod.mk.inj agrees
    have done : claimNextTaskForAgent agentId assignedAt auditId ⟨store, []⟩ =
        (.ok (some (storedTask row)),
          (claimNextTaskForAgent agentId assignedAt auditId ⟨store, []⟩).2) := by
      rw [← replied]
      rfl
    rcases claimNextTaskForAgent_audited done with
      ⟨nothing, _⟩ | ⟨chosen, events, _, _, fresh, after⟩
    · cases nothing
    · rw [show (claimNextTaskForAgent agentId assignedAt auditId ⟨store, []⟩).2.state = _
        from stored] at after
      have kept : store.auditEvents = events := congrArg Store.auditEvents after
      have inserted := (Table.insert_some fresh).2
      rw [← kept] at inserted
      simpa using congrArg List.length inserted

/-- The asynchronous operation does what the synchronous one does exactly when the
    synchronous one has nothing to do besides. -/
theorem async_agrees_iff (auditId : String) (store : Store) (request : Request) :
    Agrees auditId store request ↔ Interchangeable store request := by
  cases request with
  | recordTaskResult request =>
    constructor
    · exact fun agrees recordable => recordTaskResult_differs recordable agrees
    · exact recordTaskResult_agrees
  | upsertAgent request => exact upsertAgent_agrees_iff
  | markAgentOffline agentId disconnectedAt => exact ⟨fun _ => trivial, fun _ => rfl⟩
  | claimNextTaskForAgent agentId assignedAt => exact claimNextTaskForAgent_agrees_iff

/-- An agent that waits for its reconnect and has another task queued. -/
def waitingAgent : AgentRow where
  agentId := "agent-1"
  firstSeenAt := "2026-05-01T00:00:00Z"
  lastSeenAt := "2026-05-01T00:00:00Z"
  lastOnlineAt := "2026-05-01T00:00:00Z"
  lastOfflineAt := some "2026-05-01T00:00:00Z"
  platform := "linux"
  agentVersion := "1.0.0"
  status := .offline
  currentPackageId := none
  desiredVersion := some "2.0.0"
  desiredPackageId := some "package-1"
  desiredSetAt := some "2026-05-01T00:00:00Z"
  desiredSetBy := none
  upgradeState := some .waitingReconnect
  lastUpgradeTaskId := some "task-1"
  lastUpgradeError := none
  lastUpgradeAt := some "2026-05-01T00:00:00Z"

def queuedInventory : TaskRow where
  taskId := "task-2"
  protocolVersion := protocolVersion
  agentId := "agent-1"
  taskType := .collectBasicInventory
  capabilityLevel := .readonly
  createdAt := "2026-05-01T00:00:00Z"
  expiresAt := "2026-06-01T00:00:00Z"
  inputBlob := .collectBasicInventory
  state := .queued
  prerequisiteTaskId := none
  assignedAt := none
  completedAt := none

def waitingStore : Store :=
  { Store.empty with
    agents := ⟨[waitingAgent], by decide⟩
    tasks := ⟨[queuedInventory], by decide⟩ }

def backWithNewVersion : AgentRegistration where
  protocolVersion := protocolVersion
  requestId := "request-1"
  agentId := "agent-1"
  occurredAt := "2026-05-02T00:00:00Z"
  hostname := "host"
  os := "linux"
  arch := "x86_64"
  agentVersion := "2.0.0"
  registrationToken := none

def inventoryResult : TaskResult where
  protocolVersion := protocolVersion
  requestId := "request-2"
  agentId := "agent-1"
  occurredAt := "2026-05-02T00:00:00Z"
  taskId := "task-2"
  taskType := .collectBasicInventory
  status := .expired
  result := none
  error := none

/-- The asynchronous registration does not confirm the upgrade, the asynchronous result is
    not announced, and the asynchronous claim leaves no audit event. -/
theorem async_does_less :
    ¬ Agrees "audit-1" waitingStore (.upsertAgent backWithNewVersion) ∧
    ¬ Agrees "audit-1" waitingStore (.recordTaskResult inventoryResult none none) ∧
    ¬ Agrees "audit-1" waitingStore
      (.claimNextTaskForAgent "agent-1" "2026-05-02T00:00:00Z") := by
  refine ⟨?_, ?_, ?_⟩
  · rw [upsertAgent_agrees_iff]
    intro undecided
    exact undecided waitingAgent rfl ⟨rfl, Or.inl (by decide)⟩
  · exact recordTaskResult_differs ⟨rfl, queuedInventory, rfl, rfl⟩
  · rw [claimNextTaskForAgent_agrees_iff]
    intro unclaimable
    have refused := unclaimable queuedInventory List.mem_cons_self
    revert refused
    decide +kernel

end AsyncStore
