import ZFleet.Protocol.Message

/-!
The control codec: domain messages to protobuf messages and back. The protobuf
runtime, which turns protobuf messages into bytes and bytes into protobuf messages,
is a parameter.
-/
namespace ControlCodec
open Message

/-! The generated messages. An enumeration is open: a number that the schema does not
name arrives as it is. -/

inductive ProtoTaskType where
  | unspecified
  | collectBasicInventory
  | packageUpdate
  | unnamed (number : Int)
  deriving DecidableEq, Repr

inductive ProtoCapabilityLevel where
  | unspecified
  | readonly
  | lowRiskWrite
  | highRiskWrite
  | shell
  | unnamed (number : Int)
  deriving DecidableEq, Repr

inductive ProtoTaskExecutionStatus where
  | unspecified
  | succeeded
  | failed
  | expired
  | unnamed (number : Int)
  deriving DecidableEq, Repr

inductive ProtoErrorCode where
  | unspecified
  | unsupportedProtocolVersion
  | agentNotRegistered
  | internalError
  | taskNotFound
  | taskAlreadyFinished
  | taskExpired
  | unsupportedTaskType
  | capabilityNotAllowed
  | packageNotFound
  | packageRetired
  | platformArchMismatch
  | buildTypeNotAllowed
  | installerTooOld
  | downloadFailed
  | checksumMismatch
  | applyFailed
  | startNewAgentFailed
  | waitingReconnectTimeout
  | agentReportedUnexpectedVersion
  | unnamed (number : Int)
  deriving DecidableEq, Repr

structure ProtoAgentRegisterEvent where
  agentVersion : String := ""
  hostname : String := ""
  os : String := ""
  arch : String := ""
  registrationToken : String := ""
  deriving DecidableEq, Repr

structure ProtoHeartbeatEvent where
  agentVersion : String := ""
  deriving DecidableEq, Repr

structure ProtoAssetSnapshotEvent where
  hostname : String := ""
  os : String := ""
  osVersion : String := ""
  arch : String := ""
  agentVersion : String := ""
  applications : List String := []
  services : List String := []
  deriving DecidableEq, Repr

structure ProtoTaskRunningEvent where
  taskId : String := ""
  taskType : ProtoTaskType := .unspecified
  deriving DecidableEq, Repr

structure ProtoCollectBasicInventoryResult where
  hostname : String := ""
  os : String := ""
  arch : String := ""
  agentVersion : String := ""
  deriving DecidableEq, Repr

structure ProtoPackageUpdateResult where
  component : String := ""
  packageId : String := ""
  version : String := ""
  state : String := ""
  errorCode : String := ""
  errorMessage : String := ""
  deriving DecidableEq, Repr

/-- An agent error, and a server error command, which has the same fields. -/
structure ProtoError where
  code : ProtoErrorCode := .unspecified
  message : String := ""
  retryable : Bool := false
  deriving DecidableEq, Repr

/-- A message field that is absent reads as the message with all defaults. -/
structure ProtoTaskResultEvent where
  taskId : String := ""
  taskType : ProtoTaskType := .unspecified
  status : ProtoTaskExecutionStatus := .unspecified
  collectBasicInventory : Option ProtoCollectBasicInventoryResult := none
  error : Option ProtoError := none
  packageUpdate : Option ProtoPackageUpdateResult := none
  deriving DecidableEq, Repr

inductive ProtoAgentEventPayload where
  | notSet
  | register (payload : ProtoAgentRegisterEvent)
  | heartbeat (payload : ProtoHeartbeatEvent)
  | assetSnapshot (payload : ProtoAssetSnapshotEvent)
  | taskRunning (payload : ProtoTaskRunningEvent)
  | taskResult (payload : ProtoTaskResultEvent)
  | error (payload : ProtoError)
  deriving DecidableEq, Repr

structure ProtoAgentEvent where
  protocolVersion : String := ""
  messageId : String := ""
  correlationId : String := ""
  agentId : String := ""
  occurredAt : String := ""
  payload : ProtoAgentEventPayload := .notSet
  deriving DecidableEq, Repr

structure ProtoCollectBasicInventoryInput where
  deriving DecidableEq, Repr

structure ProtoPackageUpdateInput where
  component : String := ""
  packageId : String := ""
  version : String := ""
  platform : String := ""
  arch : String := ""
  buildType : String := ""
  packageUrl : String := ""
  packageSha256 : String := ""
  manifestSha256 : String := ""
  minInstallerVersion : String := ""
  allowDowngrade : Bool := false
  force : Bool := false
  action : String := ""
  deriving DecidableEq, Repr

structure ProtoTaskAssignedCommand where
  taskId : String := ""
  taskType : ProtoTaskType := .unspecified
  capabilityLevel : ProtoCapabilityLevel := .unspecified
  createdAt : String := ""
  expiresAt : String := ""
  collectBasicInventory : Option ProtoCollectBasicInventoryInput := none
  packageUpdate : Option ProtoPackageUpdateInput := none
  deriving DecidableEq, Repr

/-- The three kinds of command that no code handles stand without their fields. -/
inductive ProtoServerCommandPayload where
  | notSet
  | taskAssigned (payload : ProtoTaskAssignedCommand)
  | cancelTask
  | configUpdate
  | packageUpdate
  | error (payload : ProtoError)
  deriving DecidableEq, Repr

structure ProtoServerCommand where
  protocolVersion : String := ""
  messageId : String := ""
  correlationId : String := ""
  agentId : String := ""
  occurredAt : String := ""
  payload : ProtoServerCommandPayload := .notSet
  deriving DecidableEq, Repr

/-! The tables -/

def toDomainTaskType : ProtoTaskType → Option TaskType
  | .collectBasicInventory => some .collectBasicInventory
  | .packageUpdate => some .packageUpdate
  | .unspecified | .unnamed _ => none

def toProtoTaskType : TaskType → ProtoTaskType
  | .collectBasicInventory => .collectBasicInventory
  | .packageUpdate => .packageUpdate

def toDomainStatus : ProtoTaskExecutionStatus → Option TaskExecutionStatus
  | .succeeded => some .succeeded
  | .failed => some .failed
  | .expired => some .expired
  | .unspecified | .unnamed _ => none

def toProtoStatus : TaskExecutionStatus → ProtoTaskExecutionStatus
  | .succeeded => .succeeded
  | .failed => .failed
  | .expired => .expired

def toDomainCapabilityLevel : ProtoCapabilityLevel → Option CapabilityLevel
  | .readonly => some .readonly
  | .lowRiskWrite => some .lowRiskWrite
  | .highRiskWrite => some .highRiskWrite
  | .shell => some .shell
  | .unspecified | .unnamed _ => none

def toProtoCapabilityLevel : CapabilityLevel → ProtoCapabilityLevel
  | .readonly => .readonly
  | .lowRiskWrite => .lowRiskWrite
  | .highRiskWrite => .highRiskWrite
  | .shell => .shell

def toDomainErrorCode : ProtoErrorCode → Option ErrorCode
  | .unsupportedProtocolVersion => some .unsupportedProtocolVersion
  | .agentNotRegistered => some .agentNotRegistered
  | .internalError => some .internalError
  | .taskNotFound => some .taskNotFound
  | .taskAlreadyFinished => some .taskAlreadyFinished
  | .taskExpired => some .taskExpired
  | .unsupportedTaskType => some .unsupportedTaskType
  | .capabilityNotAllowed => some .capabilityNotAllowed
  | .packageNotFound => some .packageNotFound
  | .packageRetired => some .packageRetired
  | .platformArchMismatch => some .platformArchMismatch
  | .buildTypeNotAllowed => some .buildTypeNotAllowed
  | .installerTooOld => some .installerTooOld
  | .downloadFailed => some .downloadFailed
  | .checksumMismatch => some .checksumMismatch
  | .applyFailed => some .applyFailed
  | .startNewAgentFailed => some .startNewAgentFailed
  | .waitingReconnectTimeout => some .waitingReconnectTimeout
  | .agentReportedUnexpectedVersion => some .agentReportedUnexpectedVersion
  | .unspecified | .unnamed _ => none

/-- The schema has no number for seven of the codes. -/
def toProtoErrorCode : ErrorCode → ProtoErrorCode
  | .unsupportedProtocolVersion => .unsupportedProtocolVersion
  | .agentNotRegistered => .agentNotRegistered
  | .taskNotFound => .taskNotFound
  | .taskAlreadyFinished => .taskAlreadyFinished
  | .taskExpired => .taskExpired
  | .unsupportedTaskType => .unsupportedTaskType
  | .capabilityNotAllowed => .capabilityNotAllowed
  | .packageNotFound => .packageNotFound
  | .packageRetired => .packageRetired
  | .platformArchMismatch => .platformArchMismatch
  | .buildTypeNotAllowed => .buildTypeNotAllowed
  | .installerTooOld => .installerTooOld
  | .downloadFailed => .downloadFailed
  | .checksumMismatch => .checksumMismatch
  | .applyFailed => .applyFailed
  | .startNewAgentFailed => .startNewAgentFailed
  | .waitingReconnectTimeout => .waitingReconnectTimeout
  | .agentReportedUnexpectedVersion => .agentReportedUnexpectedVersion
  | .invalidJson | .missingRequiredField | .invalidFieldType | .agentIdMismatch
  | .internalError | .taskAgentMismatch | .taskExecutionFailed | .taskResultInvalid =>
    .internalError

/-! Agent events -/

/-- A text that may be missing is sent as the empty text then. -/
def presentUnlessEmpty (text : String) : Option String :=
  if text = "" then none else some text

def toProtoTaskError (error : TaskError) : ProtoError where
  code := toProtoErrorCode error.errorCode
  message := error.message
  retryable := error.retryable

def toProtoInventoryResult (result : CollectBasicInventoryResult) :
    ProtoCollectBasicInventoryResult where
  hostname := result.hostname
  os := result.os
  arch := result.arch
  agentVersion := result.agentVersion

def toProtoPackageUpdateResult (result : PackageUpdateResult) : ProtoPackageUpdateResult where
  component := result.component
  packageId := result.packageId
  version := result.version
  state := result.state
  errorCode := result.errorCode
  errorMessage := result.errorMessage

def fillProtoPayload : AgentEvent → ProtoAgentEventPayload
  | .registration payload => .register {
      agentVersion := payload.agentVersion
      hostname := payload.hostname
      os := payload.os
      arch := payload.arch
      registrationToken := payload.registrationToken.getD "" }
  | .heartbeat payload => .heartbeat { agentVersion := payload.agentVersion }
  | .assetSnapshot payload => .assetSnapshot {
      hostname := payload.hostname
      os := payload.os
      osVersion := payload.osVersion.getD ""
      arch := payload.arch
      agentVersion := payload.agentVersion
      applications := payload.applications
      services := payload.services }
  | .taskRunning payload => .taskRunning {
      taskId := payload.taskId
      taskType := toProtoTaskType payload.taskType }
  | .taskResult payload => .taskResult {
      taskId := payload.taskId
      taskType := toProtoTaskType payload.taskType
      status := toProtoStatus payload.status
      collectBasicInventory := match payload.result with
        | some (.collectBasicInventory result) => some (toProtoInventoryResult result)
        | _ => none
      error := payload.error.map toProtoTaskError
      packageUpdate := match payload.result with
        | some (.packageUpdate result) => some (toProtoPackageUpdateResult result)
        | _ => none }

def fillProtoAgentEvent (event : AgentEvent) : ProtoAgentEvent where
  protocolVersion := agentEventProtocolVersion event
  messageId := agentEventRequestId event
  agentId := agentEventAgentId event
  occurredAt := agentEventOccurredAt event
  payload := fillProtoPayload event

/-- The result that a succeeded task of the type has. -/
def toDomainResultData (taskType : TaskType) (payload : ProtoTaskResultEvent) : TaskResultData :=
  match taskType with
  | .collectBasicInventory =>
    let result := payload.collectBasicInventory.getD { }
    .collectBasicInventory {
      hostname := result.hostname
      os := result.os
      arch := result.arch
      agentVersion := result.agentVersion }
  | .packageUpdate =>
    let result := payload.packageUpdate.getD { }
    .packageUpdate {
      component := result.component
      packageId := result.packageId
      version := result.version
      state := result.state
      errorCode := result.errorCode
      errorMessage := result.errorMessage }

def toDomainTaskError (payload : ProtoTaskResultEvent) : Except String TaskError :=
  let error := payload.error.getD { }
  match toDomainErrorCode error.code with
  | none => .error "task error code must be set"
  | some errorCode => .ok {
      errorCode := errorCode
      message := error.message
      retryable := error.retryable }

def toDomainTaskResult (message : ProtoAgentEvent) (payload : ProtoTaskResultEvent) :
    Except String TaskResult :=
  match toDomainTaskType payload.taskType, toDomainStatus payload.status with
  | none, _ => .error "unsupported task type"
  | some _, none => .error "unsupported task result status"
  | some taskType, some status =>
    let result : TaskResult := {
      protocolVersion := message.protocolVersion
      requestId := message.messageId
      taskId := payload.taskId
      agentId := message.agentId
      taskType := taskType
      occurredAt := message.occurredAt
      status := status
      result := none
      error := none }
    if status = .succeeded then
      .ok { result with result := some (toDomainResultData taskType payload) }
    else match toDomainTaskError payload with
      | .error failure => .error failure
      | .ok error => .ok { result with error := some error }

def toDomainAgentEvent (message : ProtoAgentEvent) : Except String AgentEvent :=
  match message.payload with
  | .register payload => .ok (.registration {
      protocolVersion := message.protocolVersion
      requestId := message.messageId
      agentId := message.agentId
      occurredAt := message.occurredAt
      agentVersion := payload.agentVersion
      hostname := payload.hostname
      os := payload.os
      arch := payload.arch
      registrationToken := presentUnlessEmpty payload.registrationToken })
  | .heartbeat payload => .ok (.heartbeat {
      protocolVersion := message.protocolVersion
      requestId := message.messageId
      agentId := message.agentId
      occurredAt := message.occurredAt
      agentVersion := payload.agentVersion })
  | .assetSnapshot payload => .ok (.assetSnapshot {
      protocolVersion := message.protocolVersion
      requestId := message.messageId
      agentId := message.agentId
      occurredAt := message.occurredAt
      hostname := payload.hostname
      os := payload.os
      osVersion := presentUnlessEmpty payload.osVersion
      arch := payload.arch
      agentVersion := payload.agentVersion
      applications := payload.applications
      services := payload.services })
  | .taskRunning payload =>
    match toDomainTaskType payload.taskType with
    | none => .error "unsupported task type"
    | some taskType => .ok (.taskRunning {
        protocolVersion := message.protocolVersion
        requestId := message.messageId
        taskId := payload.taskId
        agentId := message.agentId
        taskType := taskType
        occurredAt := message.occurredAt })
  | .taskResult payload => (toDomainTaskResult message payload).map .taskResult
  | .error _ | .notSet => .error "unsupported agent event payload"

/-! Tasks and server commands -/

def toDomainPackageUpdateInput (input : ProtoPackageUpdateInput) : PackageUpdateInput where
  action := if input.action = "" then "apply" else input.action
  component := input.component
  packageId := input.packageId
  version := input.version
  platform := input.platform
  arch := input.arch
  buildType := input.buildType
  packageUrl := input.packageUrl
  packageSha256 := input.packageSha256
  manifestSha256 := input.manifestSha256
  minInstallerVersion := input.minInstallerVersion
  allowDowngrade := input.allowDowngrade
  force := input.force

def fillProtoPackageUpdateInput (input : PackageUpdateInput) : ProtoPackageUpdateInput where
  action := input.action
  component := input.component
  packageId := input.packageId
  version := input.version
  platform := input.platform
  arch := input.arch
  buildType := input.buildType
  packageUrl := input.packageUrl
  packageSha256 := input.packageSha256
  manifestSha256 := input.manifestSha256
  minInstallerVersion := input.minInstallerVersion
  allowDowngrade := input.allowDowngrade
  force := input.force

def toDomainTaskInput (taskType : TaskType) (payload : ProtoTaskAssignedCommand) : TaskInput :=
  match taskType with
  | .collectBasicInventory => .collectBasicInventory
  | .packageUpdate => .packageUpdate (toDomainPackageUpdateInput (payload.packageUpdate.getD { }))

def toDomainTask (command : ProtoServerCommand) (payload : ProtoTaskAssignedCommand) :
    Except String Task :=
  match toDomainTaskType payload.taskType, toDomainCapabilityLevel payload.capabilityLevel with
  | none, _ => .error "unsupported task type"
  | some _, none => .error "unsupported capability level"
  | some taskType, some capabilityLevel => .ok {
      protocolVersion := command.protocolVersion
      taskId := payload.taskId
      agentId := command.agentId
      taskType := taskType
      capabilityLevel := capabilityLevel
      createdAt := payload.createdAt
      expiresAt := payload.expiresAt
      input := toDomainTaskInput taskType payload }

def toDomainServerError (error : ProtoError) : Except String ServerError :=
  match toDomainErrorCode error.code with
  | none => .error "server error code must be set"
  | some errorCode => .ok {
      errorCode := errorCode
      message := error.message
      retryable := error.retryable }

def toDomainServerCommandPayload (message : ProtoServerCommand) :
    Except String ServerCommandPayload :=
  match message.payload with
  | .taskAssigned payload => (toDomainTask message payload).map .task
  | .error error => (toDomainServerError error).map .error
  | .cancelTask | .configUpdate | .packageUpdate | .notSet =>
    .error "unsupported server command payload"

def toDomainServerCommand (message : ProtoServerCommand) : Except String ServerCommand :=
  (toDomainServerCommandPayload message).map fun payload => {
    protocolVersion := message.protocolVersion
    messageId := message.messageId
    correlationId := message.correlationId
    agentId := message.agentId
    occurredAt := message.occurredAt
    payload := payload }

def toProtoServerCommandPayload : ServerCommandPayload → ProtoServerCommandPayload
  | .task task => .taskAssigned {
      taskId := task.taskId
      taskType := toProtoTaskType task.taskType
      capabilityLevel := toProtoCapabilityLevel task.capabilityLevel
      createdAt := task.createdAt
      expiresAt := task.expiresAt
      collectBasicInventory := match task.input with
        | .collectBasicInventory => some { }
        | .packageUpdate _ => none
      packageUpdate := match task.input with
        | .collectBasicInventory => none
        | .packageUpdate input => some (fillProtoPackageUpdateInput input) }
  | .error error => .error {
      code := toProtoErrorCode error.errorCode
      message := error.message
      retryable := error.retryable }

def toProtoServerCommand (command : ServerCommand) : ProtoServerCommand where
  protocolVersion := command.protocolVersion
  messageId := command.messageId
  correlationId := command.correlationId
  agentId := command.agentId
  occurredAt := command.occurredAt
  payload := toProtoServerCommandPayload command.payload

/-! Bytes -/

abbrev Bytes := List UInt8

/-- What the protobuf runtime does for one kind of message. -/
structure Wire (M : Type) where
  serializeToString : M → Option Bytes
  parseFromArray : Bytes → Option M

/-- The message can be written, and what is written is read as the message. -/
def Wire.Carries {M : Type} (wire : Wire M) (message : M) : Prop :=
  ∃ bytes, wire.serializeToString message = some bytes ∧ wire.parseFromArray bytes = some message

def serializeProto {M : Type} (wire : Wire M) (message : M) : Except String Bytes :=
  match wire.serializeToString message with
  | none => .error "failed to serialize protobuf message"
  | some bytes => .ok bytes

def encodeAgentEventPayload (wire : Wire ProtoAgentEvent) (event : AgentEvent) :
    Except String Bytes :=
  serializeProto wire (fillProtoAgentEvent event)

def decodeAgentEventPayload (wire : Wire ProtoAgentEvent) (bytes : Bytes) :
    Except String AgentEvent :=
  match wire.parseFromArray bytes with
  | none => .error "invalid protobuf agent event"
  | some message => toDomainAgentEvent message

def encodeServerCommandPayload (wire : Wire ProtoServerCommand) (command : ServerCommand) :
    Except String Bytes :=
  serializeProto wire (toProtoServerCommand command)

def decodeServerCommandPayload (wire : Wire ProtoServerCommand) (bytes : Bytes) :
    Except String ServerCommand :=
  match wire.parseFromArray bytes with
  | none => .error "failed to parse server command"
  | some message => toDomainServerCommand message

/-- The two kinds of message that a stored task input can be. -/
structure InputWire where
  inventory : Wire ProtoCollectBasicInventoryInput
  update : Wire ProtoPackageUpdateInput

def serializeTaskInputBlob (wire : InputWire) (taskType : TaskType) (input : TaskInput) :
    Except String Bytes :=
  if taskInputMatchesType taskType input then
    match input with
    | .collectBasicInventory => serializeProto wire.inventory { }
    | .packageUpdate input => serializeProto wire.update (fillProtoPackageUpdateInput input)
  else .error "task input type mismatch"

def parseTaskInputBlob (wire : InputWire) (taskType : TaskType) (inputBlob : Bytes) :
    Except String TaskInput :=
  match taskType with
  | .collectBasicInventory =>
    match wire.inventory.parseFromArray inputBlob with
    | none => .error "failed to parse stored task input"
    | some _ => .ok .collectBasicInventory
  | .packageUpdate =>
    match wire.update.parseFromArray inputBlob with
    | none => .error "failed to parse stored package update input"
    | some message => .ok (.packageUpdate (toDomainPackageUpdateInput message))

end ControlCodec
