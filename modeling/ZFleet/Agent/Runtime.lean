import ZFleet.Foundations.Dialogues
import ZFleet.Protocol.ControlCodec
import ZFleet.Transport.FrameCodec

/-!
The run of an agent: it connects, registers, opens its command stream, handles the commands
that arrive and sends heartbeats; when anything throws it closes the connection and starts
again after a delay. What the control client, the clock and the package updater answer is
left to an environment, which may answer differently every time it is asked.
-/
namespace AgentRuntime
open Message FrameCodec Dialogues
open ControlCodec hiding Bytes

/-- What the execution of a package update reports. -/
structure PackageUpdateExecutionResult where
  ok : Bool := false
  stopAgent : Bool := false
  errorCode : ErrorCode := .taskExecutionFailed
  message : String := ""
  deriving DecidableEq, Repr

structure AgentConfig where
  installDir : Option String := none
  registrationToken : String := ""
  dataDir : String := "data/agent"
  heartbeatIntervalSeconds : UInt32 := 30
  reconnectInitialDelaySeconds : UInt32 := 1
  reconnectMaxDelaySeconds : UInt32 := 30

/-- What the agent asked for, with the answers that decide how it goes on. -/
inductive Note where
  | connect (accepted : Bool)
  | post (events : List AgentEvent) (status : Except String String)
  | openStream (status : Except String String)
  | receive (bytes : Bytes)
  | handle (command : ServerCommand)
  | execute (taskId : String) (result : PackageUpdateExecutionResult)
  | close
  | sleep (seconds : UInt32)
  deriving DecidableEq

/-- The answers to the questions of a run, by the time they are asked. -/
structure Environment where
  generateUuid : Nat → String
  nowUtcRfc3339 : Nat → String
  hostname : Nat → String
  os : String
  arch : String
  version : String
  wire : Wire ProtoAgentEvent
  commandWire : Wire ProtoServerCommand
  http2ErrorMessage : UInt32 → String
  /-- Another thread has asked the agent to stop. -/
  stopSignalled : Nat → Bool
  steadyNow : Nat → Nat
  connect : Nat → Except String Unit
  postEvents : Nat → Except String String
  startCommandStream : Nat → Except String String
  commandStreamOpen : Nat → Bool
  commandStreamErrorCode : Nat → Option UInt32
  pumpFor : Nat → Except String Unit
  drainCommandBytes : Nat → Bytes
  executePackageUpdate : Nat → PackageUpdateInput → PackageUpdateExecutionResult

structure Agent where
  /-- The number of questions asked so far. -/
  time : Nat
  stopRequested : Bool
  heartbeatCount : Nat
  log : List Note

def Agent.start : Agent := ⟨0, false, 0, []⟩

def ask {α : Type} (answer : Nat → α) : Program Agent α := fun s =>
  (.ok (answer s.time), { s with time := s.time + 1 })

def note (entry : Note) : Program Agent Unit := change fun s => { s with log := s.log ++ [entry] }

/-- A question whose answer is noted, and may be an exception. -/
def consult {α : Type} (answer : Nat → Except String α) (entry : Except String α → Note) :
    Program Agent α := fun s =>
  (answer s.time, { s with time := s.time + 1, log := s.log ++ [entry (answer s.time)] })

section Runtime
variable (env : Environment) (config : AgentConfig) (agentId : String)

/-! The events -/

def buildRegisterEvent : Program Agent AgentEvent := do
  let requestId ← ask env.generateUuid
  let occurredAt ← ask env.nowUtcRfc3339
  let hostname ← ask env.hostname
  pure (.registration {
    protocolVersion := protocolVersion
    requestId := requestId
    agentId := agentId
    occurredAt := occurredAt
    agentVersion := env.version
    hostname := hostname
    os := env.os
    arch := env.arch
    registrationToken := presentUnlessEmpty config.registrationToken })

def buildHeartbeatEvent : Program Agent AgentEvent := do
  let requestId ← ask env.generateUuid
  let occurredAt ← ask env.nowUtcRfc3339
  pure (.heartbeat {
    protocolVersion := protocolVersion
    requestId := requestId
    agentId := agentId
    occurredAt := occurredAt
    agentVersion := env.version })

def buildTaskRunningEvent (task : Task) : Program Agent AgentEvent := do
  let requestId ← ask env.generateUuid
  let occurredAt ← ask env.nowUtcRfc3339
  pure (.taskRunning {
    protocolVersion := protocolVersion
    requestId := requestId
    taskId := task.taskId
    agentId := agentId
    taskType := task.taskType
    occurredAt := occurredAt })

def buildTaskSucceededEvent (task : Task) : Program Agent AgentEvent := do
  let requestId ← ask env.generateUuid
  let occurredAt ← ask env.nowUtcRfc3339
  let hostname ← ask env.hostname
  pure (.taskResult {
    protocolVersion := protocolVersion
    requestId := requestId
    taskId := task.taskId
    agentId := agentId
    taskType := task.taskType
    occurredAt := occurredAt
    status := .succeeded
    result := some (.collectBasicInventory {
      hostname := hostname
      os := env.os
      arch := env.arch
      agentVersion := env.version })
    error := none })

/-- The result as the message of the task says it. -/
def packageUpdateResult (requestId occurredAt : String) (task : Task) (input : PackageUpdateInput)
    (execution : PackageUpdateExecutionResult) : TaskResult where
  protocolVersion := protocolVersion
  requestId := requestId
  taskId := task.taskId
  agentId := agentId
  taskType := task.taskType
  occurredAt := occurredAt
  status := if execution.ok then .succeeded else .failed
  result := some (.packageUpdate {
    component := input.component
    packageId := input.packageId
    version := input.version
    state := if execution.ok then "applied" else "failed"
    errorCode := if execution.ok then "" else execution.errorCode.toString
    errorMessage := if execution.ok then "" else execution.message })
  error := if execution.ok then none
    else some {
      errorCode := execution.errorCode
      message := execution.message
      retryable := false }

def buildPackageUpdateResultEvent (task : Task) (input : PackageUpdateInput)
    (execution : PackageUpdateExecutionResult) : Program Agent AgentEvent := do
  let requestId ← ask env.generateUuid
  let occurredAt ← ask env.nowUtcRfc3339
  pure (.taskResult (packageUpdateResult agentId requestId occurredAt task input execution))

/-- The frames of the events, one behind the other. -/
def buildEnvelopeBody (wire : Wire ProtoAgentEvent) : List AgentEvent → Except String Bytes
  | [] => .ok []
  | event :: events => do
    let payload ← encodeAgentEventPayload wire event
    let frame ← encodeFrame payload
    let body ← buildEnvelopeBody wire events
    .ok (frame ++ body)

/-! The control client -/

def connect : Program Agent Unit :=
  consult env.connect fun answer => .connect answer.toBool

/-- The status of the answer, if there is one. -/
def postEvents (events : List AgentEvent) : Program Agent String := do
  let _ ← ofExcept (buildEnvelopeBody env.wire events)
  consult env.postEvents fun status => .post events status

def startCommandStream : Program Agent String := do
  let _ ← ask env.generateUuid
  consult env.startCommandStream .openStream

def requestStop : Program Agent Unit := change fun s => { s with stopRequested := true }

def stopRequested : Program Agent Bool := do
  let signalled ← ask env.stopSignalled
  change fun s => { s with stopRequested := s.stopRequested || signalled }
  look (·.stopRequested)

def countHeartbeat : Program Agent Unit :=
  change fun s => { s with heartbeatCount := s.heartbeatCount + 1 }

/-! The run -/

def sendConnectionBootstrap : Program Agent Unit := do
  let registerEvent ← buildRegisterEvent env config agentId
  let heartbeatEvent ← buildHeartbeatEvent env agentId
  let status ← postEvents env [registerEvent, heartbeatEvent]
  if status ≠ "200" then raise "agent bootstrap events were rejected"
  else countHeartbeat

def sendHeartbeat : Program Agent Unit := do
  let heartbeatEvent ← buildHeartbeatEvent env agentId
  let status ← postEvents env [heartbeatEvent]
  if status ≠ "200" then raise "heartbeat was rejected"
  else countHeartbeat

/-- The result of the task, and whether the agent stops behind it. -/
def executeTask (task : Task) : Program Agent (AgentEvent × Bool) := do
  if task.taskType = .collectBasicInventory then
    let result ← buildTaskSucceededEvent env agentId task
    pure (result, false)
  else
    match task.input with
    | .collectBasicInventory => raise "std::get: wrong index for variant"
    | .packageUpdate input => do
      let execution ← ask fun time => env.executePackageUpdate time input
      note (.execute task.taskId execution)
      let result ← buildPackageUpdateResultEvent env agentId task input execution
      pure (result, execution.ok && execution.stopAgent)

def handleTask (task : Task) : Program Agent Unit := do
  let runningEvent ← buildTaskRunningEvent env agentId task
  let runningStatus ← postEvents env [runningEvent]
  if runningStatus ≠ "200" then
    raise ("task running event was rejected with status " ++ runningStatus)
  else
    let (taskResult, stopAfterResult) ← executeTask env agentId task
    let taskStatus ← postEvents env [taskResult]
    if taskStatus ≠ "200" then
      raise ("task result event was rejected with status " ++ taskStatus)
    else if stopAfterResult then requestStop
    else pure ()

def handleCommand (command : ServerCommand) : Program Agent Unit := do
  note (.handle command)
  match command.payload with
  | .error error =>
    raise ("server control error " ++ error.errorCode.toString ++ ": " ++ error.message)
  | .task task => handleTask env agentId task

def handleCommands : List ServerCommand → Program Agent Unit
  | [] => pure ()
  | command :: commands => do
    handleCommand env agentId command
    handleCommands commands

/-- The commands in the frames that the bytes complete. -/
def decodeServerCommands (decoder : FrameDecoder) (bytes : Bytes) :
    FrameDecoder × Except String (List ServerCommand) :=
  let pushed := decoder.push bytes
  (pushed.1, pushed.2.bind fun frames =>
    frames.mapM (decodeServerCommandPayload env.commandWire))

def handleCommandBytes (decoder : FrameDecoder) (bytes : Bytes) : Program Agent FrameDecoder :=
  if bytes.isEmpty then pure decoder
  else do
    note (.receive bytes)
    let decoded := decodeServerCommands env decoder bytes
    let commands ← ofExcept decoded.2
    handleCommands env agentId commands
    pure decoded.1

def checkCommandStream : Program Agent Unit := do
  if ← ask env.commandStreamOpen then pure ()
  else
    match ← ask env.commandStreamErrorCode with
    | none => raise "command stream closed"
    | some errorCode =>
      if errorCode ≠ 0 then
        raise ("command stream reset: " ++ env.http2ErrorMessage errorCode)
      else raise "command stream closed"

def heartbeatInterval : Nat := (max 1 config.heartbeatIntervalSeconds).toNat * 1000000000

/-- The loop over the turns of an open stream; it ends when the agent is to stop. It is
    followed for so many turns, and `false` says that it goes on. -/
def streamTurns : Nat → FrameDecoder → Nat → Program Agent Bool
  | 0, _, _ => pure false
  | turns + 1, decoder, nextHeartbeat => do
    if ← stopRequested env then pure true
    else
      checkCommandStream env
      let pumped ← ask env.pumpFor
      ofExcept pumped
      let bytes ← ask env.drainCommandBytes
      let decoder ← handleCommandBytes env agentId decoder bytes
      if ← stopRequested env then pure true
      else
        let now ← ask env.steadyNow
        if nextHeartbeat ≤ now then
          sendHeartbeat env agentId
          streamTurns turns decoder (now + heartbeatInterval config)
        else streamTurns turns decoder nextHeartbeat

def sendCommandStream : Program Agent Unit := do
  let commandStatus ← startCommandStream env
  if commandStatus ≠ "200" then raise "command stream was rejected"
  else pure ()

/-- One connection, until the agent is to stop. -/
def runConnection (turns : Nat) : Program Agent Bool := do
  connect env
  sendConnectionBootstrap env config agentId
  sendCommandStream env
  let now ← ask env.steadyNow
  streamTurns env config agentId turns .fresh (now + heartbeatInterval config)

def initialBackoff : UInt32 := max 1 config.reconnectInitialDelaySeconds

def maxBackoff : UInt32 := max (initialBackoff config) config.reconnectMaxDelaySeconds

/-- The delay after the next failure. -/
def nextBackoff (backoff : UInt32) : UInt32 := min (backoff * 2) (maxBackoff config)

/-- Wait, unless the agent is to stop. -/
def sleepUntilStop (backoff : UInt32) : Program Agent Bool := do
  note (.sleep backoff)
  let stop ← stopRequested env
  pure !stop

/-- How a turn of the outer loop ends: the run is ended, it goes on in this connection, or it
    goes on with another one. -/
inductive Ending where
  | ended
  | unfinished
  | again (backoff : UInt32)

def connectionTurn (turns : Nat) (backoff : UInt32) : Program Agent Ending :=
  attempt (do
    if ← runConnection env config agentId turns then
      note .close
      pure .ended
    else pure .unfinished) fun _ => do
      note .close
      if ← sleepUntilStop env backoff then pure (.again (nextBackoff config backoff))
      else
        note .close
        pure .ended

/-- The outer loop, followed for so many connections and so many turns in each. -/
def connections (turns : Nat) : Nat → UInt32 → Program Agent Unit
  | 0, _ => pure ()
  | more + 1, backoff => do
    if ← stopRequested env then note .close
    else
      match ← connectionTurn env config agentId turns backoff with
      | .ended | .unfinished => pure ()
      | .again backoff => connections turns more backoff

def run (turns : Nat) (attempts : Nat) : Program Agent Unit :=
  connections env config agentId turns attempts (initialBackoff config)

/-- What a run has noted, followed so far. -/
def logOf (turns attempts : Nat) : List Note := (run env config agentId turns attempts .start).2.log

end Runtime

end AgentRuntime
