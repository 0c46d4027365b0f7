import ZFleet.Protocol.ControlCodec

/-!
What the other side reads of a message. It reads the message itself, but for seven
error codes the schema has no number for: these arrive as internal errors.
-/
namespace ControlCodec
open Message

/-- The codes that are sent as an internal error although they are none. -/
def unnumbered : List ErrorCode := [.invalidJson, .missingRequiredField, .invalidFieldType,
  .agentIdMismatch, .taskAgentMismatch, .taskExecutionFailed, .taskResultInvalid]

def resultMatchesType : TaskType → TaskResultData → Bool
  | .collectBasicInventory, .collectBasicInventory _ => true
  | .packageUpdate, .packageUpdate _ => true
  | _, _ => false

/-- A text that is present is not empty; a task has a result of its type when it
    succeeded, and otherwise an error. -/
def EventComplete : AgentEvent → Prop
  | .registration payload => payload.registrationToken ≠ some ""
  | .assetSnapshot payload => payload.osVersion ≠ some ""
  | .taskResult payload =>
    (payload.status = .succeeded → ∃ data, payload.result = some data ∧
      resultMatchesType payload.taskType data = true ∧ payload.error = none) ∧
    (payload.status ≠ .succeeded → payload.result = none ∧ ∃ error, payload.error = some error)
  | .heartbeat _ | .taskRunning _ => True

/-- The input is of the type, and a package input names its action. -/
def InputComplete (taskType : TaskType) (input : TaskInput) : Prop :=
  taskInputMatchesType taskType input = true ∧
    ∀ update, input = .packageUpdate update → update.action ≠ ""

def CommandComplete (command : ServerCommand) : Prop :=
  ∀ task, command.payload = .task task → InputComplete task.taskType task.input ∧
    task.agentId = command.agentId ∧ task.protocolVersion = command.protocolVersion

def eventErrorCode : AgentEvent → Option ErrorCode
  | .taskResult payload => payload.error.map TaskError.errorCode
  | _ => none

def commandErrorCode (command : ServerCommand) : Option ErrorCode :=
  match command.payload with
  | .error error => some error.errorCode
  | .task _ => none

/-- The bytes that are written are read as the value again. -/
def RoundTrips {α : Type} (encode : α → Except String Bytes) (decode : Bytes → Except String α)
    (value : α) : Prop :=
  ∃ bytes, encode value = .ok bytes ∧ decode bytes = .ok value

def InputWire.Carries (wire : InputWire) : TaskInput → Prop
  | .collectBasicInventory => wire.inventory.Carries { }
  | .packageUpdate input => wire.update.Carries (fillProtoPackageUpdateInput input)

/-! The tables -/

theorem toDomainTaskType_toProto (taskType : TaskType) :
    toDomainTaskType (toProtoTaskType taskType) = some taskType := by
  cases taskType <;> rfl

theorem toDomainStatus_toProto (status : TaskExecutionStatus) :
    toDomainStatus (toProtoStatus status) = some status := by
  cases status <;> rfl

theorem toDomainCapabilityLevel_toProto (level : CapabilityLevel) :
    toDomainCapabilityLevel (toProtoCapabilityLevel level) = some level := by
  cases level <;> rfl

def receivedCode (code : ErrorCode) : ErrorCode :=
  if code ∈ unnumbered then .internalError else code

theorem toDomainErrorCode_toProto (code : ErrorCode) :
    toDomainErrorCode (toProtoErrorCode code) = some (receivedCode code) := by
  cases code <;> rfl

theorem receivedCode_eq_iff (code : ErrorCode) : receivedCode code = code ↔ code ∉ unnumbered := by
  cases code <;> decide

/-- A number that is read as a code is the number of that code. -/
theorem toProtoErrorCode_toDomain {number : ProtoErrorCode} {code : ErrorCode}
    (read : toDomainErrorCode number = some code) :
    toProtoErrorCode code = number ∧ code ∉ unnumbered := by
  cases number <;> cases read <;> exact ⟨rfl, by decide⟩

theorem presentUnlessEmpty_getD {text : Option String} (filled : text ≠ some "") :
    presentUnlessEmpty (text.getD "") = text := by
  cases text with
  | none => rfl
  | some text =>
    have nonempty : text ≠ "" := fun same => filled (by rw [same])
    simp [presentUnlessEmpty, nonempty]

theorem toDomainPackageUpdateInput_fill {input : PackageUpdateInput} (acts : input.action ≠ "") :
    toDomainPackageUpdateInput (fillProtoPackageUpdateInput input) = input := by
  simp [toDomainPackageUpdateInput, fillProtoPackageUpdateInput, acts]

/-! Events -/

def receivedEvent : AgentEvent → AgentEvent
  | .taskResult payload => .taskResult { payload with
      error := payload.error.map fun error =>
        { error with errorCode := receivedCode error.errorCode } }
  | event => event

theorem toDomainTaskResult_fill {message : ProtoAgentEvent} {payload : TaskResult}
    (complete : EventComplete (.taskResult payload)) {sent : ProtoTaskResultEvent}
    (filled : fillProtoPayload (.taskResult payload) = .taskResult sent)
    (version : message.protocolVersion = payload.protocolVersion)
    (request : message.messageId = payload.requestId) (agent : message.agentId = payload.agentId)
    (time : message.occurredAt = payload.occurredAt) :
    (toDomainTaskResult message sent).map .taskResult = .ok (receivedEvent (.taskResult payload)) := by
  obtain ⟨protocolVersion, requestId, taskId, agentId, taskType, occurredAt, status, result,
    error⟩ := payload
  obtain ⟨succeeds, fails⟩ := complete
  cases filled
  simp only at version request agent time succeeds fails
  simp only [toDomainTaskResult, toDomainTaskType_toProto, toDomainStatus_toProto]
  by_cases succeeded : status = .succeeded
  · obtain ⟨data, rfl, same_type, rfl⟩ := succeeds succeeded
    cases taskType <;> cases data <;> cases same_type <;>
      simp [succeeded, toDomainResultData, toProtoInventoryResult, toProtoPackageUpdateResult,
        receivedEvent, Except.map, version, request, agent, time]
  · obtain ⟨rfl, failure, rfl⟩ := fails succeeded
    simp [succeeded, toDomainTaskError, toProtoTaskError, toDomainErrorCode_toProto, receivedEvent,
      Except.map, version, request, agent, time]

/-- What the server makes of a complete event that the agent sent. -/
theorem toDomainAgentEvent_fill {event : AgentEvent} (complete : EventComplete event) :
    toDomainAgentEvent (fillProtoAgentEvent event) = .ok (receivedEvent event) := by
  cases event with
  | registration payload =>
    have token := presentUnlessEmpty_getD complete
    simp [toDomainAgentEvent, fillProtoAgentEvent, fillProtoPayload, receivedEvent, token,
      agentEventProtocolVersion, agentEventRequestId, agentEventAgentId, agentEventOccurredAt]
  | heartbeat payload => rfl
  | assetSnapshot payload =>
    have version := presentUnlessEmpty_getD complete
    simp [toDomainAgentEvent, fillProtoAgentEvent, fillProtoPayload, receivedEvent, version,
      agentEventProtocolVersion, agentEventRequestId, agentEventAgentId, agentEventOccurredAt]
  | taskRunning payload =>
    simp [toDomainAgentEvent, fillProtoAgentEvent, fillProtoPayload, receivedEvent,
      toDomainTaskType_toProto, agentEventProtocolVersion, agentEventRequestId, agentEventAgentId,
      agentEventOccurredAt]
  | taskResult payload => exact toDomainTaskResult_fill complete rfl rfl rfl rfl rfl

theorem receivedEvent_eq_iff (event : AgentEvent) :
    receivedEvent event = event ↔ ∀ code ∈ eventErrorCode event, code ∉ unnumbered := by
  cases event with
  | taskResult payload =>
    obtain ⟨protocolVersion, requestId, taskId, agentId, taskType, occurredAt, status, result,
      error⟩ := payload
    cases error with
    | none => simp [receivedEvent, eventErrorCode]
    | some error =>
      obtain ⟨code, message, retryable⟩ := error
      simp [receivedEvent, eventErrorCode, receivedCode_eq_iff]
  | _ => simp [receivedEvent, eventErrorCode]

/-! Commands -/

def receivedCommand (command : ServerCommand) : ServerCommand :=
  match command.payload with
  | .error error => { command with
      payload := .error { error with errorCode := receivedCode error.errorCode } }
  | .task _ => command

theorem toDomainServerCommand_toProto {command : ServerCommand}
    (complete : CommandComplete command) :
    toDomainServerCommand (toProtoServerCommand command) = .ok (receivedCommand command) := by
  obtain ⟨protocolVersion, messageId, correlationId, agentId, occurredAt, payload⟩ := command
  cases payload with
  | error error =>
    simp [toDomainServerCommand, toDomainServerCommandPayload, toProtoServerCommand,
      toProtoServerCommandPayload, toDomainServerError, toDomainErrorCode_toProto, receivedCommand,
      Except.map]
  | task task =>
    obtain ⟨⟨same_type, acts⟩, same_agent, same_version⟩ := complete task rfl
    obtain ⟨version, taskId, agent, taskType, level, createdAt, expiresAt, input⟩ := task
    simp only at same_type acts same_agent same_version
    subst same_agent same_version
    cases taskType <;> cases input <;> cases same_type
    · simp [toDomainServerCommand, toDomainServerCommandPayload, toProtoServerCommand,
        toProtoServerCommandPayload, toDomainTask, toDomainTaskType_toProto,
        toDomainCapabilityLevel_toProto, toDomainTaskInput, receivedCommand, Except.map]
    · rename_i update
      have named := toDomainPackageUpdateInput_fill (acts update rfl)
      simp [toDomainServerCommand, toDomainServerCommandPayload, toProtoServerCommand,
        toProtoServerCommandPayload, toDomainTask, toDomainTaskType_toProto,
        toDomainCapabilityLevel_toProto, toDomainTaskInput, receivedCommand, Except.map, named]

theorem receivedCommand_eq_iff (command : ServerCommand) :
    receivedCommand command = command ↔ ∀ code ∈ commandErrorCode command, code ∉ unnumbered := by
  obtain ⟨protocolVersion, messageId, correlationId, agentId, occurredAt, payload⟩ := command
  cases payload with
  | error error =>
    obtain ⟨code, message, retryable⟩ := error
    simp [receivedCommand, commandErrorCode, receivedCode_eq_iff]
  | task task => simp [receivedCommand, commandErrorCode]

/-! What is read is complete -/

theorem presentUnlessEmpty_filled (text : String) : presentUnlessEmpty text ≠ some "" := by
  unfold presentUnlessEmpty
  by_cases empty : text = ""
  · simp [empty]
  · simp [empty]

/-- An event that the server reads is complete, and its error code has a number. -/
theorem read_event_complete {message : ProtoAgentEvent} {event : AgentEvent}
    (read : toDomainAgentEvent message = .ok event) :
    EventComplete event ∧ ∀ code ∈ eventErrorCode event, code ∉ unnumbered := by
  unfold toDomainAgentEvent at read
  cases kind : message.payload with
  | notSet => simp [kind] at read
  | error payload => simp [kind] at read
  | register payload =>
    simp only [kind] at read
    cases read
    exact ⟨presentUnlessEmpty_filled _, by simp [eventErrorCode]⟩
  | heartbeat payload =>
    simp only [kind] at read
    cases read
    exact ⟨trivial, by simp [eventErrorCode]⟩
  | assetSnapshot payload =>
    simp only [kind] at read
    cases read
    exact ⟨presentUnlessEmpty_filled _, by simp [eventErrorCode]⟩
  | taskRunning payload =>
    simp only [kind] at read
    cases typed : toDomainTaskType payload.taskType with
    | none => simp [typed] at read
    | some taskType =>
      simp only [typed] at read
      cases read
      exact ⟨trivial, by simp [eventErrorCode]⟩
  | taskResult payload =>
    simp only [kind, toDomainTaskResult] at read
    cases typed : toDomainTaskType payload.taskType with
    | none => simp [typed, Except.map] at read
    | some taskType =>
      cases known : toDomainStatus payload.status with
      | none => simp [typed, known, Except.map] at read
      | some status =>
        simp only [typed, known] at read
        by_cases succeeded : status = .succeeded
        · simp only [if_pos succeeded, Except.map] at read
          cases read
          refine ⟨⟨fun _ => ⟨_, rfl, ?_, rfl⟩, fun failed => absurd succeeded failed⟩, ?_⟩
          · cases taskType <;> rfl
          · simp [eventErrorCode]
        · simp only [if_neg succeeded, toDomainTaskError] at read
          cases coded : toDomainErrorCode (payload.error.getD { }).code with
          | none => simp [coded, Except.map] at read
          | some code =>
            simp only [coded, Except.map] at read
            cases read
            refine ⟨⟨fun succeeds => absurd succeeds succeeded, fun _ => ⟨rfl, _, rfl⟩⟩, ?_⟩
            simp [eventErrorCode, (toProtoErrorCode_toDomain coded).2]

/-- A command that the agent reads is complete, and its error code has a number. -/
theorem read_command_complete {message : ProtoServerCommand} {command : ServerCommand}
    (read : toDomainServerCommand message = .ok command) :
    CommandComplete command ∧ ∀ code ∈ commandErrorCode command, code ∉ unnumbered := by
  unfold toDomainServerCommand toDomainServerCommandPayload at read
  cases kind : message.payload with
  | taskAssigned payload =>
    simp only [kind, toDomainTask] at read
    cases typed : toDomainTaskType payload.taskType with
    | none => simp [typed, Except.map] at read
    | some taskType =>
      cases allowed : toDomainCapabilityLevel payload.capabilityLevel with
      | none => simp [typed, allowed, Except.map] at read
      | some level =>
        simp only [typed, allowed, Except.map] at read
        cases read
        refine ⟨?_, by simp [commandErrorCode]⟩
        intro task same
        cases same
        refine ⟨⟨?_, ?_⟩, rfl, rfl⟩
        · cases taskType <;> rfl
        · intro update same_input
          cases taskType with
          | collectBasicInventory => cases same_input
          | packageUpdate =>
            cases same_input
            by_cases unset : (payload.packageUpdate.getD { }).action = ""
            · simp [toDomainPackageUpdateInput, unset]
            · simp [toDomainPackageUpdateInput, unset]
  | error error =>
    simp only [kind, toDomainServerError] at read
    cases coded : toDomainErrorCode error.code with
    | none => simp [coded, Except.map] at read
    | some code =>
      simp only [coded, Except.map] at read
      cases read
      constructor
      · intro task same
        cases same
      · simp [commandErrorCode, (toProtoErrorCode_toDomain coded).2]
  | notSet => simp [kind, Except.map] at read
  | cancelTask => simp [kind, Except.map] at read
  | configUpdate => simp [kind, Except.map] at read
  | packageUpdate => simp [kind, Except.map] at read

/-! Bytes -/

theorem roundTrips_iff {α M : Type} {wire : Wire M} {fill : α → M} {read : M → Except String α}
    {encode : α → Except String Bytes} {decode : Bytes → Except String α} {value received : α}
    (encodes : encode value = serializeProto wire (fill value))
    (decodes : ∀ bytes message, wire.parseFromArray bytes = some message →
      decode bytes = read message)
    (carried : wire.Carries (fill value)) (reads : read (fill value) = .ok received) :
    RoundTrips encode decode value ↔ received = value := by
  obtain ⟨bytes, written, parsed⟩ := carried
  have sent : encode value = .ok bytes := by
    rw [encodes, serializeProto, written]
  have got : decode bytes = .ok received := by
    rw [decodes bytes _ parsed, reads]
  constructor
  · intro trip
    obtain ⟨others, sent', got'⟩ := trip
    rw [sent] at sent'
    cases sent'
    rw [got] at got'
    exact Except.ok.inj got'
  · intro same
    exact ⟨bytes, sent, by rw [got, same]⟩

theorem taskInput_roundTrips {wire : InputWire} {taskType : TaskType} {input : TaskInput}
    (complete : InputComplete taskType input) (carried : wire.Carries input) :
    RoundTrips (serializeTaskInputBlob wire taskType) (parseTaskInputBlob wire taskType) input := by
  obtain ⟨same_type, acts⟩ := complete
  cases taskType <;> cases input <;> cases same_type
  · obtain ⟨bytes, written, parsed⟩ := carried
    refine ⟨bytes, ?_, ?_⟩
    · simp [serializeTaskInputBlob, taskInputMatchesType, serializeProto, written]
    · simp [parseTaskInputBlob, parsed]
  · rename_i update
    obtain ⟨bytes, written, parsed⟩ := carried
    have named := toDomainPackageUpdateInput_fill (acts update rfl)
    refine ⟨bytes, ?_, ?_⟩
    · simp [serializeTaskInputBlob, taskInputMatchesType, serializeProto, written]
    · simp [parseTaskInputBlob, parsed, named]

/-- Complete events and commands are read as they were written exactly when their error
    code has a number, and complete task inputs always. -/
theorem round_trips_iff_numbered (events : Wire ProtoAgentEvent)
    (commands : Wire ProtoServerCommand) (inputs : InputWire) :
    (∀ event, EventComplete event → events.Carries (fillProtoAgentEvent event) →
      (RoundTrips (encodeAgentEventPayload events) (decodeAgentEventPayload events) event ↔
        ∀ code ∈ eventErrorCode event, code ∉ unnumbered)) ∧
    (∀ command, CommandComplete command → commands.Carries (toProtoServerCommand command) →
      (RoundTrips (encodeServerCommandPayload commands) (decodeServerCommandPayload commands)
        command ↔ ∀ code ∈ commandErrorCode command, code ∉ unnumbered)) ∧
    ∀ taskType input, InputComplete taskType input → inputs.Carries input →
      RoundTrips (serializeTaskInputBlob inputs taskType) (parseTaskInputBlob inputs taskType)
        input := by
  refine ⟨?_, ?_, ?_⟩
  · intro event complete carried
    have encodes : encodeAgentEventPayload events event =
        serializeProto events (fillProtoAgentEvent event) := rfl
    have decodes : ∀ bytes message, events.parseFromArray bytes = some message →
        decodeAgentEventPayload events bytes = toDomainAgentEvent message := by
      intro bytes message parsed
      rw [decodeAgentEventPayload, parsed]
    rw [← receivedEvent_eq_iff]
    exact roundTrips_iff encodes decodes carried (toDomainAgentEvent_fill complete)
  · intro command complete carried
    have encodes : encodeServerCommandPayload commands command =
        serializeProto commands (toProtoServerCommand command) := rfl
    have decodes : ∀ bytes message, commands.parseFromArray bytes = some message →
        decodeServerCommandPayload commands bytes = toDomainServerCommand message := by
      intro bytes message parsed
      rw [decodeServerCommandPayload, parsed]
    rw [← receivedCommand_eq_iff]
    exact roundTrips_iff encodes decodes carried (toDomainServerCommand_toProto complete)
  · intro taskType input complete carried
    exact taskInput_roundTrips complete carried

/-- A runtime on one message and its bytes. -/
def wireOf {M : Type} [DecidableEq M] (message : M) (bytes : Bytes) : Wire M where
  serializeToString other := if other = message then some bytes else none
  parseFromArray other := if other = bytes then some message else none

theorem wireOf_carries {M : Type} [DecidableEq M] (message : M) (bytes : Bytes) :
    (wireOf message bytes).Carries message :=
  ⟨bytes, by simp [wireOf], by simp [wireOf]⟩

def sentHeartbeat : AgentEvent := .heartbeat {
  protocolVersion := protocolVersion
  requestId := "m"
  agentId := "a"
  occurredAt := "t"
  agentVersion := "1" }

def heartbeatBytes : Bytes := [0x0a, 2, 0x76, 0x31, 0x12, 1, 0x6d, 0x22, 1, 0x61, 0x2a, 1, 0x74,
  0x5a, 3, 0x0a, 1, 0x31]

theorem heartbeat_round_trips :
    RoundTrips (encodeAgentEventPayload (wireOf (fillProtoAgentEvent sentHeartbeat) heartbeatBytes))
      (decodeAgentEventPayload (wireOf (fillProtoAgentEvent sentHeartbeat) heartbeatBytes))
      sentHeartbeat := by
  let noCommands : Wire ProtoServerCommand := wireOf { } []
  let noInputs : InputWire := ⟨wireOf { } [], wireOf { } []⟩
  apply ((round_trips_iff_numbered _ noCommands noInputs).1 sentHeartbeat trivial
    (wireOf_carries _ _)).mpr
  intro code sent
  cases sent

/-- A task that failed while it was executed. -/
def failedTask : AgentEvent := .taskResult {
  protocolVersion := protocolVersion
  requestId := "m"
  taskId := "k"
  agentId := "a"
  taskType := .collectBasicInventory
  occurredAt := "t"
  status := .failed
  result := none
  error := some {
    errorCode := .taskExecutionFailed
    message := "e"
    retryable := false } }

def failedTaskBytes : Bytes := [0x0a, 2, 0x76, 0x31, 0x12, 1, 0x6d, 0x22, 1, 0x61, 0x2a, 1, 0x74,
  0x72, 14, 0x0a, 1, 0x6b, 0x10, 1, 0x18, 2, 0x2a, 5, 0x08, 3, 0x12, 1, 0x65]

/-- The documented error code of a failed execution arrives as an internal error. -/
theorem execution_failure_becomes_internal :
    EventComplete failedTask ∧
    (wireOf (fillProtoAgentEvent failedTask) failedTaskBytes).Carries
      (fillProtoAgentEvent failedTask) ∧
    ¬ RoundTrips (encodeAgentEventPayload (wireOf (fillProtoAgentEvent failedTask) failedTaskBytes))
      (decodeAgentEventPayload (wireOf (fillProtoAgentEvent failedTask) failedTaskBytes))
      failedTask := by
  have complete : EventComplete failedTask := by
    constructor
    · intro succeeded
      cases succeeded
    · intro _
      exact ⟨rfl, _, rfl⟩
  refine ⟨complete, wireOf_carries _ _, ?_⟩
  intro trip
  obtain ⟨bytes, written, read⟩ := trip
  have same : bytes = failedTaskBytes := by
    simp [encodeAgentEventPayload, serializeProto, wireOf] at written
    exact written.symm
  rw [same, decodeAgentEventPayload] at read
  simp only [wireOf, if_true] at read
  rw [toDomainAgentEvent_fill complete] at read
  exact absurd (Except.ok.inj read) (by decide)

end ControlCodec
