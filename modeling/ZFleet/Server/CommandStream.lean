import ZFleet.Core.Time
import ZFleet.Foundations.Worklists
import ZFleet.Transport.FrameCodec
import ZFleet.Server.TaskOperations
import Mathlib.Logic.Function.Basic

/-!
The command streams of the control sessions. A stream claims a task when it has nothing
else to do, sends it as one frame and claims again; enqueued tasks are announced to the
sessions by notifications. A claim is committed by the write actor before its session
hears of it.
-/
namespace CommandStream
open Time Message KeyedTables Transactions Schema TaskStore FrameCodec

structure StreamState where
  streamId : Nat
  method : String
  path : String
  commandStream : Bool
  commandDataInFlight : Bool
  commandClaimInFlight : Bool
  commandRefreshPending : Bool
  responseBody : Bytes
  responseOffset : Nat
  /-- The task whose command is in the body. -/
  command : Option String

structure Session where
  /-- The agent of the connection in the registry. -/
  agentId : Option String
  closed : Bool
  streams : Table StreamState StreamState.streamId
  lastStreamId : Nat
  /-- Task queue notifications that are posted and not handled. -/
  notifications : Nat
  /-- The socket writes in their order, with the stream and the task of the command that
      ends in the write. -/
  pendingWrites : List (Option (Nat × String))

structure Claim where
  connectionId : String
  streamId : Nat
  agentId : String
  assignedAt : String
  /-- What the write actor answered, once it has. -/
  outcome : Option (Except Failure (Option Task))

/-! The handlers of one session -/

def beginStream (streamId : Nat) (method path : String) : StreamState where
  streamId := streamId
  method := method
  path := path
  commandStream := false
  commandDataInFlight := false
  commandClaimInFlight := false
  commandRefreshPending := false
  responseBody := []
  responseOffset := 0
  command := none

def kControlCommandsPath : String := "/v1/control/commands"

def wantsClaim (stream : StreamState) : Bool :=
  stream.commandStream && stream.commandRefreshPending && !stream.commandClaimInFlight &&
    !stream.commandDataInFlight && stream.responseBody.isEmpty

def startClaim (stream : StreamState) : StreamState :=
  { stream with commandRefreshPending := false, commandClaimInFlight := true }

theorem startClaim_streamId (stream : StreamState) :
    (startClaim stream).streamId = stream.streamId := rfl

def newClaim (connectionId agentId assignedAt : String) (stream : StreamState) : Claim where
  connectionId := connectionId
  streamId := stream.streamId
  agentId := agentId
  assignedAt := assignedAt
  outcome := none

/-- Every stream that waits for a refresh and is not busy starts a claim. -/
def tryStartQueuedCommands (connectionId assignedAt : String) (session : Session) :
    Session × List Claim :=
  if session.closed then (session, [])
  else match session.agentId with
    | none => (session, [])
    | some agentId =>
      ({ session with
          streams := session.streams.update wantsClaim startClaim startClaim_streamId },
        (session.streams.rows.filter wantsClaim).map (newClaim connectionId agentId assignedAt))

def requestRefresh (stream : StreamState) : StreamState :=
  { stream with commandRefreshPending := true }

theorem requestRefresh_streamId (stream : StreamState) :
    (requestRefresh stream).streamId = stream.streamId := rfl

def onTaskQueueChanged (connectionId assignedAt : String) (session : Session) :
    Session × List Claim :=
  if session.closed then (session, [])
  else tryStartQueuedCommands connectionId assignedAt
    { session with
      streams := session.streams.update StreamState.commandStream requestRefresh
        requestRefresh_streamId }

def addStream (session : Session) (stream : StreamState) : Session :=
  { session with
    streams := (session.streams.insert stream).getD session.streams
    lastStreamId := stream.streamId }

/-- A request that is no command request, or comes before its connection is bound, is
    answered at once, and its stream is no command stream. -/
def handleCommandHeadersEnd (connectionId assignedAt : String) (streamId : Nat)
    (method path : String) (session : Session) : Session × List Claim :=
  let stream := beginStream streamId method path
  if method ≠ "GET" ∨ path ≠ kControlCommandsPath ∨ session.agentId = none then
    (addStream session stream, [])
  else tryStartQueuedCommands connectionId assignedAt
    (addStream session { stream with commandStream := true, commandRefreshPending := true })

def isStream (streamId : Nat) (stream : StreamState) : Bool := stream.streamId = streamId

def closeStream (streamId : Nat) (session : Session) : Session :=
  { session with streams := session.streams.remove (isStream streamId) }

def sentInFull (stream : StreamState) : Bool :=
  stream.commandStream && stream.commandDataInFlight && !stream.responseBody.isEmpty &&
    stream.responseOffset = stream.responseBody.length

def finalizeCommand (stream : StreamState) : StreamState :=
  { stream with
    responseBody := []
    responseOffset := 0
    commandDataInFlight := false
    commandRefreshPending := true
    command := none }

theorem finalizeCommand_streamId (stream : StreamState) :
    (finalizeCommand stream).streamId = stream.streamId := rfl

def finalizeSentCommandData (session : Session) : Session :=
  { session with
    streams := session.streams.update sentInFull finalizeCommand finalizeCommand_streamId }

/-- A socket write is done. -/
def onWrite (connectionId assignedAt : String) (session : Session) : Session × List Claim :=
  let popped := { session with pendingWrites := session.pendingWrites.tail }
  if session.closed then (popped, [])
  else tryStartQueuedCommands connectionId assignedAt (finalizeSentCommandData popped)

def releaseClaim (stream : StreamState) : StreamState :=
  { stream with commandClaimInFlight := false }

theorem releaseClaim_streamId (stream : StreamState) :
    (releaseClaim stream).streamId = stream.streamId := rfl

/-- The command frame becomes the body of the stream. -/
def loadCommand (task : Task) (payload : Bytes) (stream : StreamState) : StreamState :=
  { stream with
    commandClaimInFlight := false
    responseBody := frameOf payload
    responseOffset := 0
    commandDataInFlight := true
    command := some task.taskId }

theorem loadCommand_streamId (task : Task) (payload : Bytes) (stream : StreamState) :
    (loadCommand task payload stream).streamId = stream.streamId := rfl

/-- The session hears of its claim. A closed session and a stream that is gone ignore it;
    a failed claim closes the session. -/
def onCommandClaimComplete (connectionId assignedAt : String) (streamId : Nat)
    (outcome : Except Failure (Option Task)) (payload : Bytes) (session : Session) :
    Session × List Claim :=
  if session.closed then (session, [])
  else match session.streams.find streamId with
    | none => (session, [])
    | some stream =>
      let released := { session with
        streams := session.streams.update (isStream streamId) releaseClaim
          releaseClaim_streamId }
      match outcome with
      | .error _ => ({ released with closed := true }, [])
      | .ok none =>
        if stream.commandRefreshPending then
          tryStartQueuedCommands connectionId assignedAt released
        else (released, [])
      | .ok (some task) =>
        ({ session with
            streams := session.streams.update (isStream streamId) (loadCommand task payload)
              (loadCommand_streamId task payload) }, [])

/-- The next bytes of a body go into a DATA frame of at most `length` bytes. -/
def readBody (length : Nat) (stream : StreamState) : StreamState :=
  { stream with
    responseOffset := stream.responseOffset +
      min length (stream.responseBody.length - stream.responseOffset) }

theorem readBody_streamId (length : Nat) (stream : StreamState) :
    (readBody length stream).streamId = stream.streamId := rfl

/-- The command that ends in a DATA frame with the next `length` bytes. -/
def endingCommand (length : Nat) (stream : StreamState) : Option (Nat × String) :=
  if stream.responseBody.length ≤ (readBody length stream).responseOffset then
    stream.command.map fun taskId => (stream.streamId, taskId)
  else none

def sendData (streamId length : Nat) (session : Session) : Session :=
  match session.streams.find streamId with
  | none => session
  | some stream =>
    if stream.commandDataInFlight ∧ stream.responseOffset < stream.responseBody.length ∧
        0 < length then
      { session with
        streams := session.streams.update (isStream streamId) (readBody length)
          (readBody_streamId length)
        pendingWrites := session.pendingWrites ++ [endingCommand length stream] }
    else session

/-! The server: its sessions, the store and the claims under way -/

structure Server where
  store : Store
  clock : UtcSecond
  sessions : String → Session
  /-- The ids of the sessions there have been. -/
  opened : List String
  claims : List Claim
  /-- The commands whose last byte was written, with their connection and stream. -/
  written : List (String × Nat × String)

def unopened : Session where
  agentId := none
  closed := true
  streams := .empty
  lastStreamId := 0
  notifications := 0
  pendingWrites := []

inductive Action where
  | storeCall (call : TaskOperations.Call)
  | tick (time : UtcSecond)
  | openSession (c : String)
  | bindAgent (c agentId : String)
  | openStream (c : String) (streamId : Nat) (method path : String)
  | closeStream (c : String) (streamId : Nat)
  | handleNotification (c : String)
  | commitClaim (claim : Nat) (faults : List (Option Fault))
  | completeClaim (claim : Nat) (payload : Bytes)
  | sendData (c : String) (streamId length : Nat)
  | sendOther (c : String)
  | completeWrite (c : String)
  | closeSession (c : String)

/-- The observers of the task queue get a notification for every change of its version. -/
def postNotifications (count : Nat) (session : Session) : Session :=
  if session.closed then session
  else { session with notifications := session.notifications + count }

/-- The store is changed and its observers are told. -/
def withStore (server : Server) (store : Store) : Server :=
  { server with
    store := store
    sessions := fun c => postNotifications
      (store.taskQueueVersion - server.store.taskQueueVersion) (server.sessions c) }

def withSession (server : Server) (c : String) (result : Session × List Claim) : Server :=
  { server with
    sessions := Function.update server.sessions c result.1
    claims := server.claims ++ result.2 }

def now (server : Server) : String := server.clock.toRfc3339

/-- An action that is not possible leaves the server as it is. -/
def step (server : Server) : Action → Server
  | .storeCall call => withStore server (TaskOperations.step server.store call)
  | .tick time =>
    if server.clock.epochSeconds ≤ time.epochSeconds then { server with clock := time }
    else server
  | .openSession c =>
    if c ∈ server.opened then server
    else { server with
      sessions := Function.update server.sessions c { unopened with closed := false }
      opened := c :: server.opened }
  | .bindAgent c agentId =>
    let session := server.sessions c
    if session.closed ∨ session.agentId ≠ none then server
    else withSession server c ({ session with agentId := some agentId }, [])
  | .openStream c streamId method path =>
    let session := server.sessions c
    if session.closed ∨ streamId ≤ session.lastStreamId then server
    else withSession server c
      (handleCommandHeadersEnd c (now server) streamId method path session)
  | .closeStream c streamId =>
    let session := server.sessions c
    if session.closed then server
    else withSession server c (closeStream streamId session, [])
  | .handleNotification c =>
    let session := server.sessions c
    match session.notifications with
    | 0 => server
    | others + 1 => withSession server c
      (onTaskQueueChanged c (now server) { session with notifications := others })
  | .commitClaim i faults =>
    match server.claims[i]? with
    | none => server
    | some claim =>
      match claim.outcome with
      | some _ => server
      | none =>
        let answer := asyncClaimNextTaskForAgent claim.agentId claim.assignedAt
          ⟨server.store, faults⟩
        withStore
          { server with claims := server.claims.set i { claim with outcome := some answer.1 } }
          answer.2.state
  | .completeClaim i payload =>
    match server.claims[i]? with
    | none => server
    | some claim =>
      match claim.outcome with
      | none => server
      | some outcome =>
        let others := { server with claims := server.claims.eraseIdx i }
        withSession others claim.connectionId
          (onCommandClaimComplete claim.connectionId (now server) claim.streamId outcome payload
            (server.sessions claim.connectionId))
  | .sendData c streamId length =>
    let session := server.sessions c
    if session.closed then server
    else withSession server c (sendData streamId length session, [])
  | .sendOther c =>
    let session := server.sessions c
    if session.closed then server
    else withSession server c
      ({ session with pendingWrites := session.pendingWrites ++ [none] }, [])
  | .completeWrite c =>
    let session := server.sessions c
    match session.pendingWrites with
    | [] => server
    | ending :: _ =>
      -- the writes of a closed session are cancelled
      let ended := if session.closed then none else ending
      { withSession server c (onWrite c (now server) session) with
        written := server.written ++
          (ended.map fun command => (c, command.1, command.2)).toList }
  | .closeSession c =>
    let session := server.sessions c
    withSession server c ({ session with closed := true }, [])

def start (store : Store) (clock : UtcSecond) : Server where
  store := store
  clock := clock
  sessions := fun _ => unopened
  opened := []
  claims := []
  written := []

end CommandStream
