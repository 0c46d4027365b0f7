import ZFleet.Transport.FrameChunks
import ZFleet.Server.ControlDispatcher

/-!
One body of the events path, cut into chunks in different ways. A chunk with an
undecodable frame or an oversized length loses all frames that end in it, so what is
handled of a body depends on the cuts unless nothing in it is bad or nothing is good.
-/
namespace ControlDispatcher
open FrameCodec Message Transactions Schema ControlService ConnectionRegistry

def newDispatcher (connectionId : String) : Dispatcher where
  connectionId := connectionId
  decoder := FrameDecoder.fresh

variable {decode : Bytes → Except String AgentEvent}

def Decodes (decode : Bytes → Except String AgentEvent) (frame : Bytes) : Prop :=
  ∃ event, decode frame = .ok event

/-- The body is handled alike however it is cut. -/
def AlikeInAllChunks (decode : Bytes → Except String AgentEvent) (connectionId : String)
    (body : Bytes) : Prop :=
  ∀ chunks chunks' : List Bytes, chunks.flatten = body → chunks'.flatten = body →
    (receiveChunks decode (newDispatcher connectionId) chunks).2 =
      (receiveChunks decode (newDispatcher connectionId) chunks').2

/-! What a push hands to the control service -/

theorem handleAgentEvent_returns (env : Environment) (event : AgentEvent) (s : Session Store) :
    ∃ result s', handleAgentEvent env event s = (.ok result, s') := by
  unfold handleAgentEvent
  by_cases refused : (validateEnvelope event).status ≠ .accepted
  · simp only [if_pos refused]
    exact ⟨_, s, rfl⟩
  simp only [if_neg refused]
  cases event with
  | registration payload => exact recover_answers _ _ s
  | heartbeat payload => exact recover_answers _ _ s
  | assetSnapshot payload => exact recover_answers _ _ s
  | taskRunning payload =>
    simp only [handleTaskRunning]
    split
    · exact ⟨_, s, rfl⟩
    · exact recover_answers _ _ s
  | taskResult payload =>
    simp only [handleTaskResult]
    split
    · exact ⟨_, s, rfl⟩
    · cases resultBlobs env payload with
      | error message => exact ⟨_, s, rfl⟩
      | ok blobs => exact recover_answers _ _ s

theorem handleEvents_returns (env : Nat → Environment) (connectionId : String) (n : Nat)
    (events : List AgentEvent) (registry : Registry) (s : Session Store) :
    ∃ registry' results s', handleEvents env connectionId n events registry s =
      (.ok (registry', results), s') ∧ results.length = events.length := by
  induction events generalizing n registry s with
  | nil => exact ⟨registry, [], s, rfl, rfl⟩
  | cons event events ih =>
    obtain ⟨result, middle, handled⟩ := handleAgentEvent_returns (env n) event s
    obtain ⟨registry', results, s', later, count⟩ := ih (n + 1)
      (if result.status = .accepted then recordAcceptedEvent connectionId registry event
        else registry) middle
    refine ⟨registry', result :: results, s', ?_, by simp [count]⟩
    unfold handleEvents
    rw [bind_of_ok handled, bind_of_ok later]
    rfl

/-- A push leaves the store and the registry as its handled events do, one by one. -/
theorem pushEventBytes_hands (env : Nat → Environment) (dispatcher : Dispatcher) (bytes : Bytes)
    (registry : Registry) (s : Session Store) :
    ∃ registry' handled results s',
      handleEvents env dispatcher.connectionId 0
        (handledEvents (decodeEvents decode dispatcher bytes).2) registry s =
          (.ok (registry', handled), s') ∧
      pushEventBytes decode env dispatcher bytes registry s =
        (.ok ((decodeEvents decode dispatcher bytes).1, registry', results), s') := by
  unfold pushEventBytes
  cases decoded : decodeEvents decode dispatcher bytes with
  | mk dispatcher' outcome =>
    cases outcome with
    | error message => exact ⟨registry, [], [invalidArgument message], s, rfl, rfl⟩
    | ok events =>
      obtain ⟨registry', results, s', handled, -⟩ :=
        handleEvents_returns env dispatcher.connectionId 0 events registry s
      refine ⟨registry', results, results, s', handled, ?_⟩
      simp only
      rw [bind_of_ok handled]
      rfl

/-! Frames of one chunk -/

theorem mapM_all {frames : List Bytes} (good : ∀ frame ∈ frames, Decodes decode frame) :
    frames.mapM decode = .ok (frames.filterMap fun frame => (decode frame).toOption) := by
  induction frames with
  | nil => rfl
  | cons frame frames ih =>
    obtain ⟨event, decoded⟩ := good frame (by simp)
    have later := ih fun other member => good other (List.mem_cons_of_mem frame member)
    rw [List.mapM_cons, decoded, later]
    simp [decoded, Except.toOption]
    rfl

theorem handledEvents_bad {frames : List Bytes} {bad : Bytes} (member : bad ∈ frames)
    (undecodable : ¬ Decodes decode bad) : handledEvents (frames.mapM decode) = [] := by
  cases mapped : frames.mapM decode with
  | error message => rfl
  | ok events =>
    exfalso
    induction frames generalizing events with
    | nil => cases member
    | cons frame frames ih =>
      rw [List.mapM_cons] at mapped
      cases first : decode frame with
      | error message =>
        rw [first] at mapped
        cases mapped
      | ok event =>
        rw [first] at mapped
        rcases List.mem_cons.mp member with same | later
        · exact undecodable ⟨event, same ▸ first⟩
        · cases rest : frames.mapM decode with
          | error message =>
            rw [rest] at mapped
            cases mapped
          | ok others => exact ih later others rest

theorem handledEvents_none {frames : List Bytes}
    (bad : ∀ frame ∈ frames, ¬ Decodes decode frame) : handledEvents (frames.mapM decode) = [] := by
  cases frames with
  | nil => rfl
  | cons frame frames => exact handledEvents_bad (List.mem_cons_self) (bad frame (by simp))

/-! Three ways through a body -/

theorem push_body {body tail : Bytes} {frames : List Bytes}
    (splits : Splits kDefaultMaxFrameBytes body frames tail) :
    FrameDecoder.fresh.push body = ({ FrameDecoder.fresh with buffer := tail },
      match takeFrame kDefaultMaxFrameBytes tail with
      | .error message => .error message
      | .ok _ => .ok frames) := by
  have drained := drain_splits splits
  unfold FrameDecoder.push
  exact congrArg (fun result => ({ FrameDecoder.fresh with buffer := result.1 }, result.2)) drained

/-- All in one chunk. -/
theorem receive_whole {connectionId : String} {body tail : Bytes} {frames : List Bytes}
    (splits : Splits kDefaultMaxFrameBytes body frames tail) :
    (receiveChunks decode (newDispatcher connectionId) [body]).2 =
      match takeFrame kDefaultMaxFrameBytes tail with
      | .error _ => []
      | .ok _ => handledEvents (frames.mapM decode) := by
  have pushed : (newDispatcher connectionId).decoder.push body = _ := push_body splits
  simp only [receiveChunks, decodeEvents, pushed, List.append_nil]
  cases takeFrame kDefaultMaxFrameBytes tail with
  | error message => rfl
  | ok found => rfl

/-- Every frame in a chunk of its own, and the tail in the last one. -/
theorem receive_single {dispatcher : Dispatcher} (empty : dispatcher.decoder.buffer = [])
    {frames : List Bytes} {tail : Bytes}
    (fit : ∀ frame ∈ frames, frame.length ≤ dispatcher.decoder.maxFrameBytes.toNat)
    (last : ∀ found, takeFrame dispatcher.decoder.maxFrameBytes tail ≠ .ok (some found)) :
    (receiveChunks decode dispatcher (frames.map frameOf ++ [tail])).2 =
      frames.filterMap fun frame => (decode frame).toOption := by
  induction frames with
  | nil =>
    cases taken : takeFrame dispatcher.decoder.maxFrameBytes tail with
    | error message =>
      have drained := drain_of_error taken
      simp [receiveChunks, decodeEvents, FrameDecoder.push, empty, drained, handledEvents]
    | ok found =>
      cases found with
      | none =>
        have drained := drain_of_none taken
        simp [receiveChunks, decodeEvents, FrameDecoder.push, empty, drained, handledEvents]
        rfl
      | some found => exact absurd taken (last found)
  | cons frame frames ih =>
    have later := ih fun other member => fit other (List.mem_cons_of_mem frame member)
    have settled : Settled dispatcher.decoder := by
      unfold Settled
      rw [empty]
      rfl
    have drained : drain dispatcher.decoder.maxFrameBytes (frameOf frame) = ([], .ok [frame]) := by
      have plain := drain_frames dispatcher.decoder.maxFrameBytes [frame]
        (fun other member => fit other (by simp_all))
        (show takeFrame dispatcher.decoder.maxFrameBytes [] = .ok none from rfl)
      simpa using plain
    have single : dispatcher.decoder.push (frameOf frame) = (dispatcher.decoder, .ok [frame]) := by
      unfold FrameDecoder.push
      rw [empty, List.nil_append, drained, ← empty]
    have pushed : decodeEvents decode dispatcher (frameOf frame) =
        (dispatcher, [frame].mapM decode) := decodeEvents_of_push single
    simp only [List.map_cons, List.cons_append, receiveChunks, pushed, later]
    cases decoded : decode frame with
    | error message => simp [decoded, handledEvents, Except.toOption]
    | ok event => simp [decoded, handledEvents, Except.toOption]

/-- Chunks that hold no frame that decodes. -/
theorem receive_none {dispatcher : Dispatcher} {chunks frames : List Bytes} {tail : Bytes}
    (splits : Splits dispatcher.decoder.maxFrameBytes
      (dispatcher.decoder.buffer ++ chunks.flatten) frames tail)
    (bad : ∀ frame ∈ frames, ¬ Decodes decode frame) :
    (receiveChunks decode dispatcher chunks).2 = [] := by
  induction chunks generalizing dispatcher frames with
  | nil => rfl
  | cons chunk chunks ih =>
    obtain ⟨done, left, arrived⟩ :=
      exists_splits dispatcher.decoder.maxFrameBytes (dispatcher.decoder.buffer ++ chunk)
    rw [List.flatten_cons, ← List.append_assoc] at splits
    obtain ⟨coming, rfl, later⟩ := splits_append splits arrived
    have bad_done : ∀ frame ∈ done, ¬ Decodes decode frame :=
      fun frame member => bad frame (List.mem_append_left coming member)
    have bad_coming : ∀ frame ∈ coming, ¬ Decodes decode frame :=
      fun frame member => bad frame (List.mem_append_right done member)
    have drained := drain_splits arrived
    simp only [receiveChunks, decodeEvents, FrameDecoder.push, drained]
    rw [ih later bad_coming, List.append_nil]
    cases takeFrame dispatcher.decoder.maxFrameBytes left with
    | error message => rfl
    | ok found => exact handledEvents_none bad_done

theorem decoded_nil_iff (frames : List Bytes) :
    (frames.filterMap fun frame => (decode frame).toOption) = [] ↔
      ∀ frame ∈ frames, ¬ Decodes decode frame := by
  rw [List.filterMap_eq_nil_iff]
  constructor
  · intro nothing frame member decodes
    obtain ⟨event, decoded⟩ := decodes
    have none_decoded := nothing frame member
    rw [decoded] at none_decoded
    cases none_decoded
  · intro bad frame member
    cases decoded : decode frame with
    | error message => rfl
    | ok event => exact absurd ⟨event, decoded⟩ (bad frame member)

/-- The body gives the same events in all chunks when its frames all decode and no
    oversized length follows, or when none of its frames decodes, and only then. -/
theorem chunks_alike_iff_all_or_none (decode : Bytes → Except String AgentEvent)
    (connectionId : String) (body : Bytes) :
    (∃ frames tail, Splits kDefaultMaxFrameBytes body frames tail) ∧
    ∀ frames tail, Splits kDefaultMaxFrameBytes body frames tail →
      (AlikeInAllChunks decode connectionId body ↔
        ((∀ frame ∈ frames, Decodes decode frame) ∧ ¬ Oversized kDefaultMaxFrameBytes tail) ∨
          ∀ frame ∈ frames, ¬ Decodes decode frame) := by
  refine ⟨exists_splits kDefaultMaxFrameBytes body, ?_⟩
  intro frames tail splits
  have whole : (receiveChunks decode (newDispatcher connectionId) [body]).2 = _ :=
    receive_whole splits
  constructor
  · intro alike
    by_cases some_decodes : ∀ frame ∈ frames, ¬ Decodes decode frame
    · exact .inr some_decodes
    left
    have one_by_one : (receiveChunks decode (newDispatcher connectionId)
        (frames.map frameOf ++ [tail])).2 =
          frames.filterMap fun frame => (decode frame).toOption :=
      receive_single rfl splits.fit splits.last
    have same := alike [body] (frames.map frameOf ++ [tail]) (by simp)
      (by rw [List.flatten_append, List.flatten_singleton, ← splits.bytes])
    rw [one_by_one] at same
    have handled : (receiveChunks decode (newDispatcher connectionId) [body]).2 ≠ [] := by
      rw [same]
      exact fun nothing => some_decodes ((decoded_nil_iff frames).mp nothing)
    rw [whole] at handled
    cases taken : takeFrame kDefaultMaxFrameBytes tail with
    | error message =>
      rw [taken] at handled
      exact absurd rfl handled
    | ok found =>
      rw [taken] at handled
      constructor
      · intro frame member
        by_contra undecodable
        exact handled (handledEvents_bad member undecodable)
      · intro oversized
        obtain ⟨message, failed⟩ := oversized
        rw [taken] at failed
        cases failed
  · intro condition chunks chunks' arrives arrives'
    rcases condition with ⟨good, in_bounds⟩ | bad
    · have pushed : (newDispatcher connectionId).decoder.push body = _ := push_body splits
      cases taken : takeFrame kDefaultMaxFrameBytes tail with
      | error message => exact absurd ⟨message, taken⟩ in_bounds
      | ok found =>
        rw [taken] at pushed
        have decoded : (decodeEvents decode (newDispatcher connectionId) body).2 =
            .ok (frames.filterMap fun frame => (decode frame).toOption) := by
          rw [decodeEvents_of_push pushed]
          exact mapM_all good
        have settled : Settled (newDispatcher connectionId).decoder := rfl
        rw [receiveChunks_events settled (by rw [arrives]; exact decoded),
          receiveChunks_events settled (by rw [arrives']; exact decoded)]
    · rw [← arrives] at splits
      have nothing : (receiveChunks decode (newDispatcher connectionId) chunks).2 = [] :=
        receive_none splits bad
      rw [arrives, ← arrives'] at splits
      have nothing' : (receiveChunks decode (newDispatcher connectionId) chunks').2 = [] :=
        receive_none splits bad
      rw [nothing, nothing']

/-- Every payload but the empty one stands for a heartbeat. -/
def decodeNonempty : Bytes → Except String AgentEvent
  | [] => .error "event payload must be set"
  | _ => .ok (.heartbeat {
      protocolVersion := protocolVersion
      requestId := "request-1"
      agentId := "agent-1"
      occurredAt := "2026-03-01T12:00:00Z"
      agentVersion := "1.0" })

/-- A heartbeat in front of an empty frame is lost with it or handled without it. -/
theorem heartbeat_lost_with_bad_frame :
    ¬ AlikeInAllChunks decodeNonempty "connection-1" (frameOf [7] ++ frameOf []) := by
  intro alike
  have same := alike [frameOf [7] ++ frameOf []] [frameOf [7], frameOf []] rfl rfl
  exact absurd same (by decide)

end ControlDispatcher
