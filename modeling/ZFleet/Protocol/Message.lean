/-!
The messages shared by agent and server: tasks, agent events, server commands and
the task state machine. Identifiers, timestamps and versions are texts, as in the
source.
-/
namespace Message

def protocolVersion : String := "v1"

inductive ErrorCode where
  | invalidJson
  | missingRequiredField
  | invalidFieldType
  | unsupportedProtocolVersion
  | agentIdMismatch
  | agentNotRegistered
  | internalError
  | taskNotFound
  | taskAgentMismatch
  | taskAlreadyFinished
  | taskExpired
  | unsupportedTaskType
  | capabilityNotAllowed
  | taskExecutionFailed
  | taskResultInvalid
  | packageNotFound
  | packageRetired
  | platformArchMismatch
  | buildTypeNotAllowed
  | installerTooOld
  | downloadFailed
  | checksumMismatch
  | applyFailed
  | startNewAgentFailed
  | waitingReconnectTimeout
  | agentReportedUnexpectedVersion
  deriving DecidableEq, Repr

def ErrorCode.toString : ErrorCode → String
  | .invalidJson => "invalid_json"
  | .missingRequiredField => "missing_required_field"
  | .invalidFieldType => "invalid_field_type"
  | .unsupportedProtocolVersion => "unsupported_protocol_version"
  | .agentIdMismatch => "agent_id_mismatch"
  | .agentNotRegistered => "agent_not_registered"
  | .internalError => "internal_error"
  | .taskNotFound => "task_not_found"
  | .taskAgentMismatch => "task_agent_mismatch"
  | .taskAlreadyFinished => "task_already_finished"
  | .taskExpired => "task_expired"
  | .unsupportedTaskType => "unsupported_task_type"
  | .capabilityNotAllowed => "capability_not_allowed"
  | .taskExecutionFailed => "task_execution_failed"
  | .taskResultInvalid => "task_result_invalid"
  | .packageNotFound => "package_not_found"
  | .packageRetired => "package_retired"
  | .platformArchMismatch => "platform_arch_mismatch"
  | .buildTypeNotAllowed => "build_type_not_allowed"
  | .installerTooOld => "installer_too_old"
  | .downloadFailed => "download_failed"
  | .checksumMismatch => "checksum_mismatch"
  | .applyFailed => "apply_failed"
  | .startNewAgentFailed => "start_new_agent_failed"
  | .waitingReconnectTimeout => "waiting_reconnect_timeout"
  | .agentReportedUnexpectedVersion => "agent_reported_unexpected_version"

inductive AuditEventType where
  | agentRegister
  | agentAssetSnapshot
  | packageValidated
  | packagePublished
  | packageRetired
  | agentUpgradeRequested
  | agentRollbackRequested
  | agentUpgradeConfirmed
  | registrationTokenCreated
  | registrationTokenUsed
  | registrationTokenRejected
  | taskQueued
  | taskAssigned
  | taskRunning
  | taskSucceeded
  | taskFailed
  | taskExpired
  deriving DecidableEq, Repr

inductive TaskType where
  | collectBasicInventory
  | packageUpdate
  deriving DecidableEq, Repr

def TaskType.toString : TaskType → String
  | .collectBasicInventory => "collect_basic_inventory"
  | .packageUpdate => "package_update"

inductive CapabilityLevel where
  | readonly
  | lowRiskWrite
  | highRiskWrite
  | shell
  deriving DecidableEq, Repr

inductive TaskExecutionStatus where
  | succeeded
  | failed
  | expired
  deriving DecidableEq, Repr

def TaskExecutionStatus.toString : TaskExecutionStatus → String
  | .succeeded => "succeeded"
  | .failed => "failed"
  | .expired => "expired"

inductive TaskState where
  | queued
  | assigned
  | running
  | succeeded
  | failed
  | expired
  deriving DecidableEq, Repr

def TaskState.toString : TaskState → String
  | .queued => "queued"
  | .assigned => "assigned"
  | .running => "running"
  | .succeeded => "succeeded"
  | .failed => "failed"
  | .expired => "expired"

def isTerminalTaskState (state : TaskState) : Bool :=
  state = .succeeded || state = .failed || state = .expired

def canTransitionTaskState (start target : TaskState) : Bool :=
  if start = target then false
  else match start with
    | .queued => target = .assigned
    | .assigned => target = .running || target = .expired
    | .running => target = .succeeded || target = .failed || target = .expired
    | .succeeded | .failed | .expired => false

structure PackageUpdateInput where
  action : String := "apply"
  component : String := ""
  packageId : String := ""
  version : String := ""
  platform : String := ""
  arch : String := ""
  buildType : String := ""
  packageUrl : String := ""
  packageSha256 : String := ""
  manifestSha256 : String := ""
  minInstallerVersion : String := ""
  allowDowngrade : Bool := false
  force : Bool := false
  deriving DecidableEq, Repr

inductive TaskInput where
  | collectBasicInventory
  | packageUpdate (input : PackageUpdateInput)
  deriving DecidableEq, Repr

def taskInputMatchesType : TaskType → TaskInput → Bool
  | .collectBasicInventory, .collectBasicInventory => true
  | .packageUpdate, .packageUpdate _ => true
  | _, _ => false

structure Task where
  protocolVersion : String
  taskId : String
  agentId : String
  taskType : TaskType
  capabilityLevel : CapabilityLevel
  createdAt : String
  expiresAt : String
  input : TaskInput
  deriving DecidableEq, Repr

structure CollectBasicInventoryResult where
  hostname : String
  os : String
  arch : String
  agentVersion : String
  deriving DecidableEq, Repr

structure PackageUpdateResult where
  component : String
  packageId : String
  version : String
  state : String
  errorCode : String
  errorMessage : String
  deriving DecidableEq, Repr

inductive TaskResultData where
  | collectBasicInventory (result : CollectBasicInventoryResult)
  | packageUpdate (result : PackageUpdateResult)
  deriving DecidableEq, Repr

structure TaskError where
  errorCode : ErrorCode
  message : String
  retryable : Bool
  deriving DecidableEq, Repr

structure AgentRegistration where
  protocolVersion : String
  requestId : String
  agentId : String
  occurredAt : String
  agentVersion : String
  hostname : String
  os : String
  arch : String
  registrationToken : Option String
  deriving DecidableEq, Repr

structure AgentHeartbeat where
  protocolVersion : String
  requestId : String
  agentId : String
  occurredAt : String
  agentVersion : String
  deriving DecidableEq, Repr

structure AssetSnapshot where
  protocolVersion : String
  requestId : String
  agentId : String
  occurredAt : String
  hostname : String
  os : String
  osVersion : Option String
  arch : String
  agentVersion : String
  applications : List String
  services : List String
  deriving DecidableEq, Repr

structure TaskRunning where
  protocolVersion : String
  requestId : String
  taskId : String
  agentId : String
  taskType : TaskType
  occurredAt : String
  deriving DecidableEq, Repr

structure TaskResult where
  protocolVersion : String
  requestId : String
  taskId : String
  agentId : String
  taskType : TaskType
  occurredAt : String
  status : TaskExecutionStatus
  result : Option TaskResultData
  error : Option TaskError
  deriving DecidableEq, Repr

inductive AgentEvent where
  | registration (payload : AgentRegistration)
  | heartbeat (payload : AgentHeartbeat)
  | assetSnapshot (payload : AssetSnapshot)
  | taskRunning (payload : TaskRunning)
  | taskResult (payload : TaskResult)
  deriving DecidableEq, Repr

def agentEventProtocolVersion : AgentEvent → String
  | .registration p => p.protocolVersion
  | .heartbeat p => p.protocolVersion
  | .assetSnapshot p => p.protocolVersion
  | .taskRunning p => p.protocolVersion
  | .taskResult p => p.protocolVersion

def agentEventRequestId : AgentEvent → String
  | .registration p => p.requestId
  | .heartbeat p => p.requestId
  | .assetSnapshot p => p.requestId
  | .taskRunning p => p.requestId
  | .taskResult p => p.requestId

def agentEventAgentId : AgentEvent → String
  | .registration p => p.agentId
  | .heartbeat p => p.agentId
  | .assetSnapshot p => p.agentId
  | .taskRunning p => p.agentId
  | .taskResult p => p.agentId

def agentEventOccurredAt : AgentEvent → String
  | .registration p => p.occurredAt
  | .heartbeat p => p.occurredAt
  | .assetSnapshot p => p.occurredAt
  | .taskRunning p => p.occurredAt
  | .taskResult p => p.occurredAt

structure ServerError where
  errorCode : ErrorCode
  message : String
  retryable : Bool
  deriving DecidableEq, Repr

inductive ServerCommandPayload where
  | task (task : Task)
  | error (error : ServerError)
  deriving DecidableEq, Repr

structure ServerCommand where
  protocolVersion : String
  messageId : String
  correlationId : String
  agentId : String
  occurredAt : String
  payload : ServerCommandPayload
  deriving DecidableEq, Repr

/-- The state machine of the task contract: the transitions of the protocol library
    and the expiry of a task that was never handed out. -/
def TaskEdge (start target : TaskState) : Prop :=
  canTransitionTaskState start target = true ∨ (start = .queued ∧ target = .expired)

instance (start target : TaskState) : Decidable (TaskEdge start target) := by
  unfold TaskEdge
  infer_instance

theorem taskEdge_cases {start target : TaskState} (edge : TaskEdge start target) :
    (start = .queued ∧ (target = .assigned ∨ target = .expired)) ∨
      (start = .assigned ∧ (target = .running ∨ target = .expired)) ∨
      (start = .running ∧ (target = .succeeded ∨ target = .failed ∨ target = .expired)) := by
  revert edge
  cases start <;> cases target <;> decide

theorem terminal_has_no_edge {start target : TaskState}
    (terminal : isTerminalTaskState start = true) : ¬ TaskEdge start target := by
  intro edge
  revert terminal edge
  cases start <;> cases target <;> decide

end Message
