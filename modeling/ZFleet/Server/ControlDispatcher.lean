import ZFleet.Transport.FrameCodec
import ZFleet.Server.ControlService
import ZFleet.Server.ConnectionRegistry

/-!
The dispatcher of one events stream. It decodes the chunks of the stream into events,
hands the events to the control service one by one and records in the connection
registry what the service accepted.
-/
namespace ControlDispatcher
open FrameCodec Message Transactions Schema ControlService ConnectionRegistry

structure Dispatcher where
  connectionId : String
  decoder : FrameDecoder

/-- The events of a chunk. One bad frame loses the events of the whole chunk. -/
def decodeEvents (decodeAgentEventPayload : Bytes → Except String AgentEvent)
    (dispatcher : Dispatcher) (bytes : Bytes) : Dispatcher × Except String (List AgentEvent) :=
  let pushed := dispatcher.decoder.push bytes
  ({ dispatcher with decoder := pushed.1 },
    match pushed.2 with
    | .error message => .error message
    | .ok frames => frames.mapM decodeAgentEventPayload)

/-- An accepted event has an agent and a time, so the registry does not throw here. -/
def recordAcceptedEvent (connectionId : String) (registry : Registry) (event : AgentEvent) :
    Registry :=
  if connectionId = "" then registry
  else match event with
    | .registration _ => ConnectionRegistry.step registry
        (.bindAgent connectionId (agentEventAgentId event) (agentEventOccurredAt event))
    | .heartbeat _ => ConnectionRegistry.step registry
        (.recordHeartbeat connectionId (agentEventAgentId event) (agentEventOccurredAt event))
    | _ => registry

/-- The events in order; event number `n` is handled with environment `env n`. -/
def handleEvents (env : Nat → Environment) (connectionId : String) :
    Nat → List AgentEvent → Registry → Job Store (Registry × List ControlEventResult)
  | _, [], registry => pure (registry, [])
  | n, event :: rest, registry => do
    let result ← handleAgentEvent (env n) event
    let recorded :=
      if result.status = .accepted then recordAcceptedEvent connectionId registry event
      else registry
    let (final, results) ← handleEvents env connectionId (n + 1) rest recorded
    pure (final, result :: results)

def pushEventBytes (decodeAgentEventPayload : Bytes → Except String AgentEvent)
    (env : Nat → Environment) (dispatcher : Dispatcher) (bytes : Bytes) (registry : Registry) :
    Job Store (Dispatcher × Registry × List ControlEventResult) :=
  match decodeEvents decodeAgentEventPayload dispatcher bytes with
  | (dispatcher', .error message) => pure (dispatcher', registry, [invalidArgument message])
  | (dispatcher', .ok events) => do
    let (registry', results) ← handleEvents env dispatcher.connectionId 0 events registry
    pure (dispatcher', registry', results)

/-- The events that are handled of a chunk. -/
def handledEvents : Except String (List AgentEvent) → List AgentEvent
  | .error _ => []
  | .ok events => events

/-- The events that are handled of chunks that come one after the other. -/
def receiveChunks (decodeAgentEventPayload : Bytes → Except String AgentEvent) :
    Dispatcher → List Bytes → Dispatcher × List AgentEvent
  | dispatcher, [] => (dispatcher, [])
  | dispatcher, chunk :: rest =>
    let decoded := decodeEvents decodeAgentEventPayload dispatcher chunk
    let later := receiveChunks decodeAgentEventPayload decoded.1 rest
    (later.1, handledEvents decoded.2 ++ later.2)

theorem receiveChunks_append (decode : Bytes → Except String AgentEvent)
    (dispatcher : Dispatcher) (first rest : List Bytes) :
    receiveChunks decode dispatcher (first ++ rest) =
      ((receiveChunks decode (receiveChunks decode dispatcher first).1 rest).1,
        (receiveChunks decode dispatcher first).2 ++
          (receiveChunks decode (receiveChunks decode dispatcher first).1 rest).2) := by
  induction first generalizing dispatcher with
  | nil => rfl
  | cons chunk first ih =>
    simp only [List.cons_append, receiveChunks, ih, List.append_assoc]

theorem decodeEvents_ok {decode : Bytes → Except String AgentEvent} {dispatcher : Dispatcher}
    {bytes : Bytes} {events : List AgentEvent}
    (decoded : (decodeEvents decode dispatcher bytes).2 = .ok events) :
    ∃ decoder' frames, dispatcher.decoder.push bytes = (decoder', .ok frames) ∧
      frames.mapM decode = .ok events := by
  unfold decodeEvents at decoded
  cases pushed : dispatcher.decoder.push bytes with
  | mk decoder' outcome =>
    simp only [pushed] at decoded
    cases outcome with
    | error message => cases decoded
    | ok frames => exact ⟨decoder', frames, rfl, decoded⟩

theorem decodeEvents_of_push {decode : Bytes → Except String AgentEvent} {dispatcher : Dispatcher}
    {bytes : Bytes} {decoder' : FrameDecoder} {frames : List Bytes}
    (pushed : dispatcher.decoder.push bytes = (decoder', .ok frames)) :
    decodeEvents decode dispatcher bytes =
      ({ dispatcher with decoder := decoder' }, frames.mapM decode) := by
  unfold decodeEvents
  rw [pushed]

theorem mapM_append_ok {decode : Bytes → Except String AgentEvent} {first rest : List Bytes}
    {events : List AgentEvent} (decoded : (first ++ rest).mapM decode = .ok events) :
    ∃ early late, first.mapM decode = .ok early ∧ rest.mapM decode = .ok late ∧
      events = early ++ late := by
  rw [List.mapM_append] at decoded
  cases at_first : first.mapM decode with
  | error message =>
    rw [at_first] at decoded
    cases decoded
  | ok early =>
    cases at_rest : rest.mapM decode with
    | error message =>
      rw [at_first, at_rest] at decoded
      cases decoded
    | ok late =>
      rw [at_first, at_rest] at decoded
      cases decoded
      exact ⟨early, late, rfl, rfl, rfl⟩

/-- Chunks that come in order give the events of their concatenation, wherever it is cut. -/
theorem receiveChunks_events {decode : Bytes → Except String AgentEvent} {dispatcher : Dispatcher}
    (settled : Settled dispatcher.decoder) {chunks : List Bytes} {events : List AgentEvent}
    (decoded : (decodeEvents decode dispatcher chunks.flatten).2 = .ok events) :
    (receiveChunks decode dispatcher chunks).2 = events := by
  induction chunks generalizing dispatcher events with
  | nil =>
    rw [List.flatten_nil, decodeEvents_of_push (push_nil settled)] at decoded
    cases decoded
    rfl
  | cons chunk chunks ih =>
    obtain ⟨decoder', frames, pushed, mapped⟩ := decodeEvents_ok decoded
    rw [List.flatten_cons] at pushed
    obtain ⟨middle, early, late, first, rest, rfl⟩ := push_append pushed
    obtain ⟨earlyEvents, lateEvents, at_early, at_late, rfl⟩ := mapM_append_ok mapped
    have later : (decodeEvents decode { dispatcher with decoder := middle } chunks.flatten).2 =
        .ok lateEvents := by
      rw [decodeEvents_of_push rest]
      exact at_late
    have head : decodeEvents decode dispatcher chunk =
        ({ dispatcher with decoder := middle }, early.mapM decode) := decodeEvents_of_push first
    simp only [receiveChunks, head, at_early, handledEvents]
    rw [ih (push_settled first) later]

end ControlDispatcher
