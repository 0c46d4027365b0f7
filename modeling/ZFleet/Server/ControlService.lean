import ZFleet.Server.AgentStore
import ZFleet.Server.TaskStore

/-!
The handling of agent events by the control service: envelope validation, one
handler for each kind of event, and the audit trail. A handler that throws is
answered with an internal error; what it wrote before stays written.
-/
namespace ControlService
open Message KeyedTables Transactions Schema AgentStore TaskStore

inductive ControlEventStatus where
  | accepted
  | invalidArgument
  | notFound
  | internalError
  deriving DecidableEq, Repr

structure ControlEventResult where
  status : ControlEventStatus
  message : String
  deriving DecidableEq, Repr

def accepted (message : String) : ControlEventResult := ⟨.accepted, message⟩
def invalidArgument (message : String) : ControlEventResult := ⟨.invalidArgument, message⟩
def notFound (message : String) : ControlEventResult := ⟨.notFound, message⟩
def internalError : ControlEventResult := ⟨.internalError, "internal error"⟩

/-- What a handler gets from elsewhere: fresh identifiers and clock readings for the
    audit events it records, the clock at its start, the hash and the serialisers. -/
structure Environment where
  auditId : Nat → String
  auditTime : Nat → String
  now : String
  sha256BytesHex : String → String
  serializeAgentEventBlob : AgentEvent → Blob
  serializeTaskResultDataBlob : TaskResultData → Blob
  serializeTaskErrorBlob : TaskError → Blob

/-- The audit event with number `n` of one handler call. -/
def auditEvent (env : Environment) (n : Nat) (eventType : AuditEventType)
    (requestId agentId result : String) (payload : List (String × String)) : AuditEventRow where
  auditId := env.auditId n
  occurredAt := env.auditTime n
  agentId := some agentId
  eventType := eventType
  requestId := requestId
  result := result
  payload := payload

def auditEventForTaskResult : TaskExecutionStatus → AuditEventType
  | .succeeded => .taskSucceeded
  | .failed => .taskFailed
  | .expired => .taskExpired

def validateEnvelope (event : AgentEvent) : ControlEventResult :=
  if agentEventProtocolVersion event ≠ protocolVersion then
    invalidArgument "unsupported protocol version"
  else if agentEventRequestId event = "" then invalidArgument "message_id must not be empty"
  else if agentEventAgentId event = "" then invalidArgument "agent_id must not be empty"
  else if agentEventOccurredAt event = "" then invalidArgument "occurred_at must not be empty"
  else accepted "accepted"

/-- The checks both task events make on the stored task. `role` names the event. -/
def checkStoredTask (role agentId : String) (taskType : TaskType) (row : TaskRow) :
    Option ControlEventResult :=
  if row.agentId ≠ agentId then
    some (invalidArgument ("task agent does not match " ++ role ++ " agent"))
  else if row.taskType ≠ taskType then
    some (invalidArgument "task type does not match stored task")
  else if isTerminalTaskState row.state then some (invalidArgument "task already finished")
  else none

def handleTaskRunning (env : Environment) (request : TaskRunning) :
    Job Store ControlEventResult :=
  if request.taskId = "" then pure (invalidArgument "task_id must not be empty")
  else recover (do
    match ← findTaskById request.taskId with
    | none => pure (notFound "task not found")
    | some row =>
      match checkStoredTask "running" request.agentId request.taskType row with
      | some refusal => pure refusal
      | none =>
        if row.state ≠ .assigned then pure (invalidArgument "task is not assigned")
        else do
          markTaskRunning request
          recordAuditEvent <| auditEvent env 0 .taskRunning request.requestId request.agentId
            "success" [("transport", "http2"), ("task_id", request.taskId),
              ("task_type", request.taskType.toString), ("status", "running")]
          pure (accepted "running"))
    fun _ => internalError

/-- The blobs stored with a result, or the message that refuses it. -/
def resultBlobs (env : Environment) (request : TaskResult) :
    Except String (Option Blob × Option Blob) :=
  if request.status = .succeeded then
    match request.result with
    | none => .error "task result payload must be set"
    | some result => .ok (some (env.serializeTaskResultDataBlob result), none)
  else
    match request.error with
    | none => .error "task error code must be set"
    | some error => .ok (none, some (env.serializeTaskErrorBlob error))

/-- Store the result and record it in the audit trail. -/
def acceptTaskResult (env : Environment) (request : TaskResult)
    (resultBlob errorBlob : Option Blob) : Job Store ControlEventResult := do
  recordTaskResult request resultBlob errorBlob
  recordAuditEvent <| auditEvent env 0 (auditEventForTaskResult request.status)
    request.requestId request.agentId "success" [("transport", "http2"),
      ("task_id", request.taskId), ("task_type", request.taskType.toString),
      ("status", request.status.toString)]
  pure (accepted "accepted")

/-- A result is accepted whatever unfinished state its task is in. -/
def storeTaskResult (env : Environment) (request : TaskResult)
    (resultBlob errorBlob : Option Blob) : Job Store ControlEventResult := do
  match ← findTaskById request.taskId with
  | none => pure (notFound "task not found")
  | some row =>
    match checkStoredTask "result" request.agentId request.taskType row with
    | some refusal => pure refusal
    | none => acceptTaskResult env request resultBlob errorBlob

def handleTaskResult (env : Environment) (request : TaskResult) :
    Job Store ControlEventResult :=
  if request.taskId = "" then pure (invalidArgument "task_id must not be empty")
  else match resultBlobs env request with
    | .error message => pure (invalidArgument message)
    | .ok (resultBlob, errorBlob) =>
      recover (storeTaskResult env request resultBlob errorBlob) fun _ => internalError

/-- Consume the token of a first registration; `none` means no token was due. -/
def consumeDueToken (env : Environment) (request : AgentRegistration) :
    Job Store (Option Bool) := do
  let known ← agentExists request.agentId
  match known, request.registrationToken with
  | false, some token => do
    let used ← consumeRegistrationToken (env.sha256BytesHex token) request.os request.arch
      env.now
    pure (some used)
  | _, _ => pure none

def confirmedState : Option UpgradeState → Option (String × String)
  | some .succeeded => some ("succeeded", "success")
  | some .failed => some ("failed", "error")
  | _ => none

/-- The audit event of an upgrade that this registration confirmed or refuted. -/
def auditConfirmation (env : Environment) (request : AgentRegistration)
    (previous current : Option AgentRow) : Job Store Unit :=
  match previous.bind AgentRow.upgradeState,
      current.bind fun row => (confirmedState row.upgradeState).map (row, ·) with
  | some .waitingReconnect, some (row, state, result) =>
    recordAuditEvent <| auditEvent env 1 .agentUpgradeConfirmed request.requestId
      request.agentId result [("state", state), ("agent_version", request.agentVersion),
        ("error_code", (row.lastUpgradeError.map ErrorCode.toString).getD "")]
  | _, _ => pure ()

def registrationSnapshot (request : AgentRegistration) : AssetSnapshot where
  protocolVersion := request.protocolVersion
  requestId := request.requestId
  agentId := request.agentId
  occurredAt := request.occurredAt
  hostname := request.hostname
  os := request.os
  osVersion := none
  arch := request.arch
  agentVersion := request.agentVersion
  applications := []
  services := []

def register (env : Environment) (request : AgentRegistration) :
    Job Store ControlEventResult := do
  let previous ← findAgent request.agentId
  upsertAgent request
  let current ← findAgent request.agentId
  auditConfirmation env request previous current
  recordAssetSnapshot (registrationSnapshot request)
    (env.serializeAgentEventBlob (.registration request))
  recordAuditEvent <| auditEvent env 2 .agentRegister request.requestId request.agentId
    "success" [("transport", "http2"), ("status", "accepted"),
      ("agent_version", request.agentVersion), ("hostname", request.hostname),
      ("os", request.os), ("arch", request.arch)]
  pure (accepted "accepted")

def handleRegister (env : Environment) (request : AgentRegistration) :
    Job Store ControlEventResult :=
  recover (do
    match ← consumeDueToken env request with
    | some false => do
      recordAuditEvent <| auditEvent env 0 .registrationTokenRejected request.requestId
        request.agentId "error" [("status", "rejected"), ("message", "invalid or expired token")]
      pure (invalidArgument "registration token is invalid or expired")
    | some true => do
      recordAuditEvent <| auditEvent env 0 .registrationTokenUsed request.requestId
        request.agentId "success" [("status", "consumed"), ("platform", request.os),
          ("arch", request.arch)]
      register env request
    | none => register env request)
    fun _ => internalError

def handleHeartbeat (request : AgentHeartbeat) : Job Store ControlEventResult :=
  recover (do
    let known ← agentExists request.agentId
    pure (if known then accepted "ok" else notFound "agent not registered"))
    fun _ => internalError

def handleAssetSnapshot (env : Environment) (request : AssetSnapshot) :
    Job Store ControlEventResult :=
  recover (do
    match ← agentExists request.agentId with
    | false => do
      recordAuditEvent <| auditEvent env 0 .agentAssetSnapshot request.requestId
        request.agentId "error" [("transport", "http2"),
          ("error_code", ErrorCode.agentNotRegistered.toString),
          ("message", "agent not registered")]
      pure (notFound "agent not registered")
    | true => do
      recordAssetSnapshot request (env.serializeAgentEventBlob (.assetSnapshot request))
      recordAuditEvent <| auditEvent env 0 .agentAssetSnapshot request.requestId
        request.agentId "success" [("transport", "http2"), ("status", "accepted"),
          ("hostname", request.hostname), ("os", request.os), ("arch", request.arch),
          ("agent_version", request.agentVersion)]
      pure (accepted "accepted"))
    fun _ => internalError

def handleAgentEvent (env : Environment) (event : AgentEvent) :
    Job Store ControlEventResult :=
  let validation := validateEnvelope event
  if validation.status ≠ .accepted then pure validation
  else match event with
    | .registration payload => handleRegister env payload
    | .heartbeat payload => handleHeartbeat payload
    | .assetSnapshot payload => handleAssetSnapshot env payload
    | .taskRunning payload => handleTaskRunning env payload
    | .taskResult payload => handleTaskResult env payload

/-- The four fields every event must carry. -/
def ValidEnvelope (event : AgentEvent) : Prop :=
  agentEventProtocolVersion event = protocolVersion ∧ agentEventRequestId event ≠ "" ∧
    agentEventAgentId event ≠ "" ∧ agentEventOccurredAt event ≠ ""

instance (event : AgentEvent) : Decidable (ValidEnvelope event) := by
  unfold ValidEnvelope
  infer_instance

theorem validateEnvelope_iff (event : AgentEvent) :
    (validateEnvelope event).status = .accepted ↔ ValidEnvelope event := by
  unfold validateEnvelope ValidEnvelope
  split
  · rename_i unsupported
    simp [invalidArgument, unsupported]
  · split
    · rename_i unnamed
      simp [invalidArgument, unnamed]
    · split
      · rename_i unnamed
        simp [invalidArgument, unnamed]
      · split
        · rename_i undated
          simp [invalidArgument, undated]
        · simp_all [accepted]

/-! Which handlers touch the tasks -/

theorem agentExists_sameTasks (agentId : String) : Evolves SameTasks (agentExists agentId) :=
  evolves_mono (agentExists_agentsOnly agentId) fun _ _ => agentsOnly_sameTasks

theorem findAgent_sameTasks (agentId : String) : Evolves SameTasks (findAgent agentId) :=
  evolves_mono (findAgent_agentsOnly agentId) fun _ _ => agentsOnly_sameTasks

theorem pure_sameTasks {α : Type} (a : α) : Evolves SameTasks (pure a : Job Store α) :=
  evolves_pure sameTasks_refl a

theorem bind_sameTasks {α β : Type} {job : Job Store α} {next : α → Job Store β}
    (first : Evolves SameTasks job) (rest : ∀ a, Evolves SameTasks (next a)) :
    Evolves SameTasks (job >>= next) := evolves_trans first rest sameTasks_trans

theorem consumeDueToken_sameTasks (env : Environment) (request : AgentRegistration) :
    Evolves SameTasks (consumeDueToken env request) := by
  apply bind_sameTasks (agentExists_sameTasks _)
  intro known
  cases known with
  | true => exact pure_sameTasks _
  | false =>
    cases request.registrationToken with
    | none => exact pure_sameTasks _
    | some token =>
      exact bind_sameTasks (consumeRegistrationToken_sameTasks _ _ _ _) fun _ => pure_sameTasks _

theorem auditConfirmation_sameTasks (env : Environment) (request : AgentRegistration)
    (previous current : Option AgentRow) :
    Evolves SameTasks (auditConfirmation env request previous current) := by
  unfold auditConfirmation
  split
  · exact recordAuditEvent_sameTasks _
  · exact pure_sameTasks _

theorem register_sameTasks (env : Environment) (request : AgentRegistration) :
    Evolves SameTasks (register env request) := by
  apply bind_sameTasks (findAgent_sameTasks _)
  intro previous
  apply bind_sameTasks
  · exact evolves_mono (upsertAgent_agentsOnly request) fun _ _ => agentsOnly_sameTasks
  intro _
  apply bind_sameTasks (findAgent_sameTasks _)
  intro current
  apply bind_sameTasks (auditConfirmation_sameTasks _ _ _ _)
  intro _
  apply bind_sameTasks (recordAssetSnapshot_sameTasks _ _)
  intro _
  exact bind_sameTasks (recordAuditEvent_sameTasks _) fun _ => pure_sameTasks _

theorem handleRegister_sameTasks (env : Environment) (request : AgentRegistration) :
    Evolves SameTasks (handleRegister env request) := by
  apply evolves_recover
  apply bind_sameTasks (consumeDueToken_sameTasks _ _)
  intro due
  cases due with
  | none => exact register_sameTasks env request
  | some used =>
    cases used with
    | false => exact bind_sameTasks (recordAuditEvent_sameTasks _) fun _ => pure_sameTasks _
    | true =>
      exact bind_sameTasks (recordAuditEvent_sameTasks _) fun _ => register_sameTasks env request

theorem handleHeartbeat_sameTasks (request : AgentHeartbeat) :
    Evolves SameTasks (handleHeartbeat request) :=
  evolves_recover <| bind_sameTasks (agentExists_sameTasks _) fun _ => pure_sameTasks _

theorem handleAssetSnapshot_sameTasks (env : Environment) (request : AssetSnapshot) :
    Evolves SameTasks (handleAssetSnapshot env request) := by
  apply evolves_recover
  apply bind_sameTasks (agentExists_sameTasks _)
  intro known
  cases known with
  | false => exact bind_sameTasks (recordAuditEvent_sameTasks _) fun _ => pure_sameTasks _
  | true =>
    apply bind_sameTasks (recordAssetSnapshot_sameTasks _ _)
    intro _
    exact bind_sameTasks (recordAuditEvent_sameTasks _) fun _ => pure_sameTasks _

theorem findTaskById_sameTasks (taskId : String) : Evolves SameTasks (findTaskById taskId) :=
  submitWrite_evolves sameTasks_trans (evolves_query sameTasks_refl _)

/-- A read that returns has read the store it was given. -/
theorem findTaskById_ok {taskId : String} {s s' : Session Store} {found : Option TaskRow}
    (done : findTaskById taskId s = (.ok found, s')) :
    found = s.state.tasks.find taskId ∧ s'.state = s.state := by
  obtain ⟨start, same, ran⟩ := submitWrite_ok (query_atomic _) done
  rw [← same]
  exact query_ok ran

end ControlService
