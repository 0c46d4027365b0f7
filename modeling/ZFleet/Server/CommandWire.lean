import ZFleet.Server.CommandDelivery
import ZFleet.Transport.FrameChunks

/-!
The bytes of a command stream. A claim that comes back with a task puts one frame behind
what the stream has sent; the frames leave in their order until the stream or its session
is closed, and what the agent has received of them is cut into the same frames again.
-/
namespace CommandWire
open Time Message KeyedTables Schema FrameCodec CommandStream CommandSessions CommandWakeups
open CommandPlaces CommandDelivery Tallies
open Transactions hiding Session
open TaskStore hiding start

/-! What goes into a stream and what goes out -/

/-- A command that was put into a stream: its task and the payload of its frame. -/
structure Loaded where
  connectionId : String
  streamId : Nat
  task : Task
  payload : Bytes

def onStream (c : String) (streamId : Nat) (loaded : Loaded) : Bool :=
  loaded.connectionId = c && loaded.streamId = streamId

/-- The session is open and has the stream. -/
def live (streamId : Nat) (session : Session) : Bool :=
  !session.closed && (session.streams.find streamId).isSome

def commandOf (payload : Bytes) (claim : Claim) : Option Loaded :=
  match claim.outcome with
  | some (.ok (some task)) => some ⟨claim.connectionId, claim.streamId, task, payload⟩
  | _ => none

def loads (server : Server) : Action → List Loaded
  | .completeClaim i payload =>
    ((server.claims[i]?.bind (commandOf payload)).filter fun loaded =>
      live loaded.streamId (server.sessions loaded.connectionId)).toList
  | _ => []

def loadsOn (c : String) (streamId : Nat) (server : Server) (action : Action) : List Loaded :=
  (loads server action).filter (onStream c streamId)

def framesOf (commands : List Loaded) : Bytes :=
  (commands.map fun loaded => frameOf loaded.payload).flatten

/-- The bytes of the body that are not sent. -/
def unsentBytes (stream : StreamState) : Bytes := stream.responseBody.drop stream.responseOffset

def nextBytes (length : Nat) (stream : StreamState) : Bytes :=
  if stream.commandDataInFlight ∧ stream.responseOffset < stream.responseBody.length ∧
      0 < length then
    (unsentBytes stream).take length
  else []

def sends (c : String) (streamId : Nat) (server : Server) : Action → Bytes
  | .sendData d other length =>
    let session := server.sessions c
    if d = c ∧ other = streamId ∧ session.closed = false then
      ((session.streams.find streamId).map (nextBytes length)).getD []
    else []
  | _ => []

/-- What a stream holds back. -/
def waiting (streamId : Nat) (session : Session) : Bytes :=
  if session.closed then [] else ((session.streams.find streamId).map unsentBytes).getD []

/-- The stream will not come back. -/
def Ended (streamId : Nat) (session : Session) : Prop :=
  session.closed = true ∨
    session.streams.find streamId = none ∧ streamId ≤ session.lastStreamId

/-! One session -/

variable {c assignedAt : String} {streamId : Nat} {session before after : Session}
variable {sent came : Bytes}

theorem waiting_ended (ended : Ended streamId session) : waiting streamId session = [] := by
  unfold waiting
  rcases ended with closed | ⟨absent, _⟩
  · rw [if_pos closed]
  · rw [absent]
    exact ite_self []

/-- What a handler does to a stream: bytes go out in front and come in behind, or the
    stream ends. -/
structure Flows (streamId : Nat) (before : Session) (sent came : Bytes) (after : Session) :
    Prop where
  law : sent ++ waiting streamId after = waiting streamId before ++ came ∨
    Ended streamId after ∧ sent = []
  stays : Ended streamId before → Ended streamId after

theorem flows_same (streamId : Nat) (session : Session) : Flows streamId session [] [] session where
  law := Or.inl (List.append_nil _).symm
  stays := id

theorem flows_then {middle : Session} (first : Flows streamId before [] [] middle)
    (rest : Flows streamId middle [] [] after) : Flows streamId before [] [] after where
  law := by
    rcases rest.law with flows | past
    · rcases first.law with earlier | ⟨ended, _⟩
      · left
        rw [flows, List.append_nil]
        exact earlier
      · exact Or.inr ⟨rest.stays ended, rfl⟩
    · exact Or.inr past
  stays := fun ended => rest.stays (first.stays ended)

/-- A change of streams that leaves what they hold back. -/
theorem flows_update {selects : StreamState → Bool} {change : StreamState → StreamState}
    (keeps : ∀ stream, (change stream).streamId = stream.streamId)
    (unmoved : ∀ stream, selects stream = true → unsentBytes (change stream) = unsentBytes stream)
    (closed : after.closed = session.closed)
    (streams : after.streams = session.streams.update selects change keeps)
    (last : after.lastStreamId = session.lastStreamId) :
    Flows streamId session [] [] after where
  law := by
    left
    unfold waiting
    rw [closed, streams, Table.find_update, List.append_nil, List.nil_append]
    cases session.streams.find streamId with
    | none => rfl
    | some stream =>
      simp only [Option.map_some, Option.getD_some]
      split
      · rfl
      · split
        · rename_i chosen
          exact unmoved stream chosen
        · rfl
  stays := by
    intro ended
    unfold Ended at ended ⊢
    rw [closed, streams, last, Table.find_update, Option.map_eq_none_iff]
    exact ended

theorem tryStart_flows (streamId : Nat) (session : Session) :
    Flows streamId session [] [] (tryStartQueuedCommands c assignedAt session).1 := by
  unfold tryStartQueuedCommands
  split
  · exact flows_same streamId session
  · split
    · exact flows_same streamId session
    · exact flows_update startClaim_streamId (fun _ _ => rfl) rfl rfl rfl

theorem onTaskQueueChanged_flows (notifications : Nat) :
    Flows streamId session [] []
      (onTaskQueueChanged c assignedAt { session with notifications := notifications }).1 := by
  unfold onTaskQueueChanged
  split
  · exact ⟨(flows_same streamId session).law, id⟩
  · apply flows_then _ (tryStart_flows streamId _)
    exact flows_update requestRefresh_streamId (fun _ _ => rfl) rfl rfl rfl

/-- A new stream holds nothing. -/
theorem addStream_flows {stream : StreamState} (newer : session.lastStreamId < stream.streamId)
    (empty : stream.responseBody = []) :
    Flows streamId session [] [] (addStream session stream) := by
  unfold addStream
  cases inserted : session.streams.insert stream with
  | none =>
    refine ⟨Or.inl (List.append_nil _).symm, ?_⟩
    intro ended
    rcases ended with closed | ⟨absent, seen⟩
    · exact Or.inl closed
    · exact Or.inr ⟨absent, by dsimp only; omega⟩
  | some streams =>
    have found := Table.find_insert inserted streamId
    obtain ⟨free, _⟩ := Table.insert_some inserted
    constructor
    · left
      unfold waiting
      dsimp only
      rw [Option.getD_some, found, List.append_nil, List.nil_append]
      split
      · rfl
      · split
        · rename_i same
          rw [← same, free]
          simp [unsentBytes, empty]
        · rfl
    · intro ended
      rcases ended with closed | ⟨absent, seen⟩
      · exact Or.inl closed
      · have other : stream.streamId ≠ streamId := by omega
        refine Or.inr ⟨?_, by dsimp only; omega⟩
        rw [Option.getD_some, found, if_neg other]
        exact absent

theorem handleCommandHeadersEnd_flows {opened : Nat} (method path : String)
    (newer : session.lastStreamId < opened) :
    Flows streamId session [] []
      (handleCommandHeadersEnd c assignedAt opened method path session).1 := by
  unfold handleCommandHeadersEnd
  split
  · exact addStream_flows newer rfl
  · exact flows_then (addStream_flows newer rfl) (tryStart_flows streamId _)

theorem closeStream_flows (gone : Nat)
    (known : session.closed = false → ∀ stream ∈ session.streams.rows,
      stream.streamId ≤ session.lastStreamId) :
    Flows streamId session [] [] (closeStream gone session) := by
  have found : (closeStream gone session).streams.find streamId =
      (session.streams.find streamId).filter fun stream => !isStream gone stream :=
    Table.find_remove session.streams (isStream gone) streamId
  constructor
  · by_cases closed : session.closed = true
    · exact Or.inr ⟨Or.inl closed, rfl⟩
    cases present : session.streams.find streamId with
    | none =>
      left
      unfold waiting
      rw [found, present]
      exact (List.append_nil _).symm
    | some stream =>
      by_cases same : gone = streamId
      · right
        have seen := known (Bool.eq_false_iff.mpr closed) stream (Table.find_mem present)
        have key := Table.find_key present
        refine ⟨Or.inr ⟨?_, by rw [← key]; exact seen⟩, rfl⟩
        rw [found, present]
        simp [isStream, key, same]
      · left
        have key := Table.find_key present
        have other : stream.streamId ≠ gone := fun equal => same (equal.symm.trans key)
        have kept : (!isStream gone stream) = true := by simp [isStream, other]
        unfold waiting
        rw [found, present, Option.filter_some, if_pos kept]
        exact (List.append_nil _).symm
  · intro ended
    rcases ended with closed | ⟨absent, seen⟩
    · exact Or.inl closed
    · refine Or.inr ⟨?_, seen⟩
      rw [found, absent]
      rfl

theorem onWrite_flows (streamId : Nat) (session : Session) :
    Flows streamId session [] [] (onWrite c assignedAt session).1 := by
  unfold onWrite
  dsimp only
  split
  · exact ⟨(flows_same streamId session).law, id⟩
  · apply flows_then _ (tryStart_flows streamId _)
    let popped := { session with pendingWrites := session.pendingWrites.tail }
    apply @flows_update streamId session (finalizeSentCommandData popped) sentInFull
      finalizeCommand finalizeCommand_streamId _ rfl rfl rfl
    intro stream chosen
    simp only [sentInFull, Bool.and_eq_true, decide_eq_true_eq] at chosen
    simp [unsentBytes, finalizeCommand, chosen.2]

theorem readBody_unsentBytes (length : Nat) (stream : StreamState)
    (possible : stream.commandDataInFlight = true ∧
      stream.responseOffset < stream.responseBody.length ∧ 0 < length) :
    nextBytes length stream ++ unsentBytes (readBody length stream) = unsentBytes stream := by
  have rest : unsentBytes (readBody length stream) = (unsentBytes stream).drop length := by
    unfold unsentBytes readBody
    dsimp only
    rw [List.drop_drop]
    by_cases all : stream.responseBody.length - stream.responseOffset ≤ length
    · rw [Nat.min_eq_right all, List.drop_of_length_le (by omega),
        List.drop_of_length_le (by omega)]
    · rw [Nat.min_eq_left (by omega)]
  rw [rest, nextBytes, if_pos possible, List.take_append_drop]

/-- The next bytes of one stream are sent, and nothing of another one. -/
theorem sendData_flows (sender length : Nat) (stays : session.closed = false) :
    Flows streamId session
      (if sender = streamId then ((session.streams.find streamId).map (nextBytes length)).getD []
        else [])
      [] (sendData sender length session) := by
  unfold sendData
  cases found : session.streams.find sender with
  | none =>
    have nothing : (if sender = streamId then
        ((session.streams.find streamId).map (nextBytes length)).getD [] else []) = [] := by
      split
      · rename_i same
        rw [← same, found]
        rfl
      · rfl
    rw [nothing]
    exact flows_same streamId session
  | some stream =>
    dsimp only
    by_cases possible : stream.commandDataInFlight = true ∧
        stream.responseOffset < stream.responseBody.length ∧ 0 < length
    · rw [if_pos possible]
      have moved := @Table.find_update_pinned _ _ _ _ session.streams (isStream sender)
        (readBody length) (readBody_streamId length) sender stream found
        ((isStream_iff sender stream).mpr (Table.find_key found))
        (fun other chosen => (isStream_iff sender other).mp chosen) streamId
      constructor
      · left
        unfold waiting
        dsimp only
        rw [stays, moved, List.append_nil]
        by_cases same : sender = streamId
        · subst same
          simp [found, readBody_unsentBytes length stream possible]
        · have other : streamId ≠ sender := fun equal => same equal.symm
          rw [if_neg same, if_neg other]
          rfl
      · intro ended
        rcases ended with closed | ⟨absent, seen⟩
        · exact Or.inl closed
        · refine Or.inr ⟨?_, seen⟩
          have other : streamId ≠ sender := by
            intro same
            rw [same, found] at absent
            cases absent
          dsimp only
          rw [moved, if_neg other]
          exact absent
    · rw [if_neg possible]
      have nothing : (if sender = streamId then
          ((session.streams.find streamId).map (nextBytes length)).getD [] else []) = [] := by
        split
        · rename_i same
          rw [← same, found]
          exact if_neg possible
        · rfl
      rw [nothing]
      exact flows_same streamId session

theorem live_iff : live streamId session = true ↔
    session.closed = false ∧ ∃ stream, session.streams.find streamId = some stream := by
  simp [live, Option.isSome_iff_exists]

theorem loadCommand_flows {claimed : Nat} {stream : StreamState} (task : Task) (payload : Bytes)
    (stays : session.closed = false) (found : session.streams.find claimed = some stream)
    (empty : stream.responseBody = []) :
    Flows streamId session [] (if claimed = streamId then frameOf payload else [])
      { session with
        streams := session.streams.update (isStream claimed) (loadCommand task payload)
          (loadCommand_streamId task payload) } := by
  have moved := @Table.find_update_pinned _ _ _ _ session.streams (isStream claimed)
    (loadCommand task payload) (loadCommand_streamId task payload) claimed stream found
    ((isStream_iff claimed stream).mpr (Table.find_key found))
    (fun other chosen => (isStream_iff claimed other).mp chosen) streamId
  constructor
  · left
    unfold waiting
    dsimp only
    rw [stays, moved]
    by_cases same : claimed = streamId
    · subst same
      simp [found, unsentBytes, loadCommand, empty]
    · have other : streamId ≠ claimed := fun equal => same equal.symm
      rw [if_neg same, if_neg other, List.append_nil]
      rfl
  · intro ended
    rcases ended with closed | ⟨absent, seen⟩
    · exact Or.inl closed
    · refine Or.inr ⟨?_, seen⟩
      have other : streamId ≠ claimed := by
        intro same
        rw [same, found] at absent
        cases absent
      dsimp only
      rw [moved, if_neg other]
      exact absent

theorem closed_flows (closed : after.closed = true) : Flows streamId session [] [] after where
  law := Or.inr ⟨Or.inl closed, rfl⟩
  stays := fun _ => Or.inl closed

/-- A claim that comes back puts its command behind what its stream holds. -/
theorem onCommandClaimComplete_flows {claim : Claim} {outcome : Except Failure (Option Task)}
    (payload : Bytes) (answered : claim.outcome = some outcome)
    (empty : session.closed = false → ∀ stream, session.streams.find claim.streamId = some stream →
      stream.responseBody = []) :
    Flows streamId session []
      (framesOf (((commandOf payload claim).filter fun loaded =>
        live loaded.streamId session).toList.filter fun loaded => loaded.streamId = streamId))
      (onCommandClaimComplete c assignedAt claim.streamId outcome payload session).1 := by
  unfold onCommandClaimComplete commandOf
  rw [answered]
  by_cases stays : session.closed = true
  · rw [if_pos stays]
    have dead : live claim.streamId session = false := by simp [live, stays]
    cases outcome with
    | error failure => exact flows_same streamId session
    | ok answer =>
      cases answer with
      | none => exact flows_same streamId session
      | some task =>
        simp only [Option.filter_some, dead]
        exact flows_same streamId session
  rw [if_neg stays]
  cases found : session.streams.find claim.streamId with
  | none =>
    have dead : live claim.streamId session = false := by simp [live, found]
    cases outcome with
    | error failure => exact flows_same streamId session
    | ok answer =>
      cases answer with
      | none => exact flows_same streamId session
      | some task =>
        simp only [Option.filter_some, dead]
        exact flows_same streamId session
  | some stream =>
    cases outcome with
    | error failure => exact closed_flows rfl
    | ok answer =>
      cases answer with
      | none =>
        have released : Flows streamId session [] [] { session with
            streams := session.streams.update (isStream claim.streamId) releaseClaim
              releaseClaim_streamId } :=
          flows_update releaseClaim_streamId (fun _ _ => rfl) rfl rfl rfl
        dsimp only
        split
        · exact flows_then released (tryStart_flows streamId _)
        · exact released
      | some task =>
        have open_session := Bool.eq_false_iff.mpr stays
        have alive : live claim.streamId session = true := live_iff.mpr ⟨open_session, stream, found⟩
        have loaded := @loadCommand_flows streamId session claim.streamId stream task payload
          open_session found (empty open_session stream found)
        have frames : framesOf (((some (Loaded.mk claim.connectionId claim.streamId task payload)).filter
            fun loaded => live loaded.streamId session).toList.filter
              fun loaded => loaded.streamId = streamId) =
            if claim.streamId = streamId then frameOf payload else [] := by
          rw [Option.filter_some, if_pos alive, Option.toList_some, List.filter_singleton]
          by_cases same : claim.streamId = streamId
          · simp [framesOf, same]
          · simp [framesOf, same]
        rw [frames]
        exact loaded

/-! The server -/

theorem live_ended (ended : Ended streamId session) : live streamId session = false := by
  rcases ended with closed | ⟨absent, _⟩
  · simp [live, closed]
  · simp [live, absent]

theorem mem_loads {server : Server} {action : Action} {loaded : Loaded}
    (member : loaded ∈ loads server action) :
    ∃ i payload claim, action = .completeClaim i payload ∧ server.claims[i]? = some claim ∧
      commandOf payload claim = some loaded ∧
      live loaded.streamId (server.sessions loaded.connectionId) = true := by
  cases action with
  | completeClaim i payload =>
    obtain ⟨found, alive⟩ := Option.filter_eq_some_iff.mp (Option.mem_toList.mp member)
    obtain ⟨claim, there, carried⟩ := Option.bind_eq_some_iff.mp found
    exact ⟨i, payload, claim, rfl, there, carried, alive⟩
  | _ => cases member

theorem commandOf_some {claim : Claim} {payload : Bytes} {loaded : Loaded}
    (carried : commandOf payload claim = some loaded) : ∃ task,
      claim.outcome = some (.ok (some task)) ∧
        loaded = ⟨claim.connectionId, claim.streamId, task, payload⟩ := by
  unfold commandOf at carried
  split at carried
  · rename_i task answered
    exact ⟨task, answered, (Option.some.inj carried).symm⟩
  · cases carried

/-- Nothing is put into a stream that has ended. -/
theorem loadsOn_ended {server : Server} (ended : Ended streamId (server.sessions c))
    (action : Action) : loadsOn c streamId server action = [] := by
  rw [loadsOn, List.filter_eq_nil_iff]
  intro loaded member on
  obtain ⟨_, _, _, _, _, _, alive⟩ := mem_loads member
  simp only [onStream, Bool.and_eq_true, decide_eq_true_eq] at on
  rw [on.1, on.2, live_ended ended] at alive
  cases alive

theorem withSession_flows {server : Server} {d : String} {result : Session × List Claim}
    (own : d = c → Flows streamId (server.sessions c) sent came result.1)
    (elsewhere : d ≠ c → sent = [] ∧ came = []) :
    Flows streamId (server.sessions c) sent came ((withSession server d result).sessions c) := by
  change Flows _ _ _ _ (Function.update server.sessions d result.1 c)
  by_cases same : d = c
  · rw [← same, Function.update_self, same]
    exact own same
  · obtain ⟨rfl, rfl⟩ := elsewhere same
    rw [Function.update_of_ne (fun equal => same equal.symm)]
    exact flows_same streamId _

theorem quiet_flows {server : Server} {d : String} {result : Session × List Claim}
    (own : Flows streamId (server.sessions d) [] [] result.1) :
    Flows streamId (server.sessions c) [] [] ((withSession server d result).sessions c) := by
  apply withSession_flows
  · intro same
    rw [← same]
    exact own
  · exact fun _ => ⟨rfl, rfl⟩

theorem posted_flows (count : Nat) (session : Session) :
    Flows streamId session [] [] (postNotifications count session) := by
  unfold postNotifications
  split
  · exact flows_same streamId session
  · exact ⟨(flows_same streamId session).law, id⟩

theorem loaded_own (server : Server) (payload : Bytes) (claim : Claim) :
    ((commandOf payload claim).filter fun loaded =>
        live loaded.streamId (server.sessions loaded.connectionId)).toList.filter
          (onStream c streamId) =
      if claim.connectionId = c then ((commandOf payload claim).filter fun loaded =>
        live loaded.streamId (server.sessions c)).toList.filter
          fun loaded => loaded.streamId = streamId
      else [] := by
  cases carried : commandOf payload claim with
  | none => exact (ite_self []).symm
  | some loaded =>
    obtain ⟨task, _, rfl⟩ := commandOf_some carried
    rw [Option.filter_some, Option.filter_some]
    by_cases own : claim.connectionId = c
    · rw [own]
      cases live claim.streamId (server.sessions c) <;>
        simp [List.filter_singleton, onStream]
    · cases live claim.streamId (server.sessions claim.connectionId) <;> simp [own, onStream]

theorem completeClaim_flows {server : Server} (i : Nat) (payload : Bytes)
    (steady : Steady server) :
    Flows streamId (server.sessions c) [] (framesOf (loadsOn c streamId server
      (.completeClaim i payload))) ((step server (.completeClaim i payload)).sessions c) := by
  simp only [step, loadsOn, loads]
  cases found : server.claims[i]? with
  | none => exact flows_same streamId _
  | some claim =>
    rw [Option.bind_some, loaded_own]
    dsimp only
    cases answered : claim.outcome with
    | none =>
      have nothing : commandOf payload claim = none := by
        unfold commandOf
        rw [answered]
      rw [nothing, Option.filter_none, Option.toList_none, List.filter_nil, ite_self]
      exact flows_same streamId _
    | some outcome =>
      have member := Worklists.mem_of_found found
      have claimed : 0 < underWay claim.connectionId server.claims claim.streamId :=
        underWay_pos member (claimOn_iff.mpr ⟨rfl, rfl⟩)
      have empty : (server.sessions claim.connectionId).closed = false → ∀ stream,
          (server.sessions claim.connectionId).streams.find claim.streamId = some stream →
            stream.responseBody = [] := by
        intro stays stream present
        apply claimed_empty (steady.sound.live _ stays).1 (Table.find_mem present)
        rw [Table.find_key present]
        exact claimed
      apply @withSession_flows c streamId [] _ { server with claims := server.claims.eraseIdx i }
      · intro own
        rw [if_pos own, ← own]
        exact onCommandClaimComplete_flows payload answered empty
      · intro elsewhere
        rw [if_neg elsewhere]
        exact ⟨rfl, rfl⟩

theorem sendData_step_flows (server : Server) (d : String) (sender length : Nat) :
    Flows streamId (server.sessions c) (sends c streamId server (.sendData d sender length)) []
      ((step server (.sendData d sender length)).sessions c) := by
  simp only [step, sends]
  by_cases closed : (server.sessions d).closed = true
  · rw [if_pos closed, if_neg]
    · exact flows_same streamId _
    · intro own
      rw [← own.1, closed] at own
      cases own.2.2
  · have stays := Bool.eq_false_iff.mpr closed
    rw [if_neg closed]
    apply withSession_flows
    · intro own
      rw [own] at stays ⊢
      have moved := @sendData_flows streamId (server.sessions c) sender length stays
      simpa [stays] using moved
    · intro elsewhere
      simp [elsewhere]

theorem step_flows {server : Server} (action : Action) (steady : Steady server)
    (other : action = .openSession c → c ∈ server.opened) :
    Flows streamId (server.sessions c) (sends c streamId server action)
      (framesOf (loadsOn c streamId server action)) ((step server action).sessions c) := by
  cases action with
  | storeCall call => exact posted_flows _ _
  | commitClaim i faults =>
    cases waits : unanswered server i with
    | none =>
      rw [commitClaim_answered waits]
      exact flows_same streamId _
    | some claim =>
      rw [commitClaim_unanswered faults waits]
      exact posted_flows _ _
  | completeClaim i payload => exact completeClaim_flows i payload steady
  | sendData d sender length => exact sendData_step_flows server d sender length
  | completeWrite d =>
    simp only [step]
    split
    · exact flows_same streamId _
    · exact @quiet_flows c streamId server d _ (onWrite_flows streamId _)
  | tick time =>
    simp only [step]
    split <;> exact flows_same streamId _
  | openSession d =>
    simp only [step]
    split
    · exact flows_same streamId _
    · rename_i unseen
      have elsewhere : c ≠ d := fun same => unseen (same ▸ other (same ▸ rfl))
      dsimp only
      rw [Function.update_of_ne elsewhere]
      exact flows_same streamId _
  | bindAgent d agentId =>
    simp only [step]
    split
    · exact flows_same streamId _
    · exact quiet_flows ⟨(flows_same streamId _).law, id⟩
  | openStream d opened method path =>
    simp only [step]
    split
    · exact flows_same streamId _
    · rename_i possible
      exact quiet_flows (handleCommandHeadersEnd_flows method path (by omega))
  | closeStream d gone =>
    simp only [step]
    split
    · exact flows_same streamId _
    · apply quiet_flows
      exact closeStream_flows gone fun stays => (steady.sound.live d stays).1.known
  | handleNotification d =>
    simp only [step]
    split
    · exact flows_same streamId _
    · exact quiet_flows (onTaskQueueChanged_flows _)
  | sendOther d =>
    simp only [step]
    split
    · exact flows_same streamId _
    · exact quiet_flows ⟨(flows_same streamId _).law, id⟩
  | closeSession d => exact quiet_flows (closed_flows rfl)

/-! Runs -/

def loadedIn (server : Server) (actions : List Action) : List Loaded :=
  gathered step loads server actions

def loadedOn (c : String) (streamId : Nat) (server : Server) (actions : List Action) :
    List Loaded :=
  (loadedIn server actions).filter (onStream c streamId)

def sentOn (c : String) (streamId : Nat) (server : Server) (actions : List Action) : Bytes :=
  gathered step (sends c streamId) server actions

theorem framesOf_append (first rest : List Loaded) :
    framesOf (first ++ rest) = framesOf first ++ framesOf rest := by
  unfold framesOf
  rw [List.map_append, List.flatten_append]

theorem framesOf_loadedOn (server : Server) (actions : List Action) :
    framesOf (loadedOn c streamId server actions) =
      gathered step (fun s a => framesOf (loadsOn c streamId s a)) server actions := by
  induction actions generalizing server with
  | nil => rfl
  | cons action actions ih =>
    rw [gathered, ← ih, ← framesOf_append]
    unfold loadedOn loadedIn loadsOn
    rw [gathered, List.filter_append]

/-- The session has been there, and its stream is gone for good. -/
def Over (c : String) (streamId : Nat) (server : Server) : Prop :=
  c ∈ server.opened ∧ Ended streamId (server.sessions c)

theorem opened_stays {server : Server} (action : Action) (seen : c ∈ server.opened) :
    c ∈ (step server action).opened := by
  rcases step_opened server action with same | ⟨d, _, one_more⟩
  · rw [same]
    exact seen
  · rw [one_more]
    exact List.mem_cons_of_mem d seen

theorem sends_closed {server : Server} (closed : (server.sessions c).closed = true)
    (action : Action) : sends c streamId server action = [] := by
  cases action with
  | sendData d sender length => simp [sends, closed]
  | _ => rfl

/-- A session that was never opened counts as closed, and starts with no stream. -/
theorem unopened_waiting {server : Server} (steady : Steady server) (unseen : c ∉ server.opened)
    (action : Action) : waiting streamId ((step server action).sessions c) = [] := by
  by_cases opens : action = .openSession c
  · rw [opens]
    simp only [step, if_neg unseen, Function.update_self]
    rfl
  · have flows := @step_flows c streamId server action steady fun same => absurd same opens
    exact waiting_ended (flows.stays (Or.inl (held_unopened steady unseen)))

theorem step_feeds {server : Server} (steady : Steady server) (action : Action) :
    sends c streamId server action ++ waiting streamId ((step server action).sessions c) =
        waiting streamId (server.sessions c) ++ framesOf (loadsOn c streamId server action) ∨
      Over c streamId (step server action) ∧
        sends c streamId server action ++ waiting streamId ((step server action).sessions c) = [] := by
  by_cases seen : c ∈ server.opened
  · rcases (step_flows action steady fun _ => seen).law with flows | ⟨ended, silent⟩
    · exact Or.inl flows
    · exact Or.inr ⟨⟨opened_stays action seen, ended⟩, by rw [silent, waiting_ended ended]; rfl⟩
  · have closed := held_unopened steady seen
    have ended : Ended streamId (server.sessions c) := Or.inl closed
    left
    rw [sends_closed closed, unopened_waiting steady seen, waiting_ended ended,
      loadsOn_ended ended]
    rfl

/-- The bytes that a stream has sent are the first bytes of the frames of its commands, and
    the other ones wait in its body while the stream is there. -/
theorem run_feeds_stream {server : Server} (steady : Steady server) (actions : List Action) :
    sentOn c streamId server actions ++
        waiting streamId ((Runs.run step server actions).sessions c) <+:
      waiting streamId (server.sessions c) ++ framesOf (loadedOn c streamId server actions) ∧
    (¬ Over c streamId (Runs.run step server actions) →
      sentOn c streamId server actions ++
          waiting streamId ((Runs.run step server actions).sessions c) =
        waiting streamId (server.sessions c) ++ framesOf (loadedOn c streamId server actions)) := by
  rw [framesOf_loadedOn]
  apply @run_feeds Server Action UInt8 step Steady (Over c streamId)
    (fun server => waiting streamId (server.sessions c))
  · exact fun _ action => step_steady action
  · intro before action kept past
    exact ⟨opened_stays action past.1, (step_flows action kept fun _ => past.1).stays past.2⟩
  · intro before action _ past
    rw [loadsOn_ended past.2]
    rfl
  · exact fun _ action kept => step_feeds kept action
  · exact steady

/-! What is put into streams -/

/-- The claims with the task that come back. -/
def comesBack (taskId : String) (server : Server) : Action → Nat
  | .completeClaim i _ => (server.claims[i]?.toList).countP (carries taskId)
  | _ => 0

theorem loads_comeBack (taskId : String) (server : Server) (action : Action) :
    ((loads server action).countP fun loaded => loaded.task.taskId = taskId) ≤
      comesBack taskId server action := by
  cases action with
  | completeClaim i payload =>
    simp only [loads, comesBack]
    cases server.claims[i]? with
    | none => exact Nat.le_refl 0
    | some claim =>
      rw [Option.bind_some, Option.toList_some, List.countP_singleton]
      cases carried : commandOf payload claim with
      | none => exact Nat.zero_le _
      | some loaded =>
        obtain ⟨task, answered, rfl⟩ := commandOf_some carried
        rw [Option.filter_some]
        split
        · simp [carries, answered, List.countP_singleton]
        · exact Nat.zero_le _
  | _ => exact Nat.zero_le _

theorem withSession_carried {taskId d : String} {server : Server}
    {result : Session × List Claim} {lost gained : Nat}
    (handles : Handles taskId before lost gained result) :
    (withSession server d result).claims.countP (carries taskId) =
      server.claims.countP (carries taskId) := by
  change (server.claims ++ result.2).countP (carries taskId) = _
  rw [List.countP_append, Nat.add_eq_left, List.countP_eq_zero]
  intro claim member
  simp [carries, handles.fresh claim member]

theorem claims_conserve {taskId : String} {server : Server} (action : Action)
    (steady : Steady server) :
    (step server action).claims.countP (carries taskId) + comesBack taskId server action =
      server.claims.countP (carries taskId) + hands taskId server action := by
  cases action with
  | storeCall call => rfl
  | commitClaim i faults => exact commitClaim_carried server i faults
  | completeClaim i payload =>
    simp only [step, comesBack]
    cases found : server.claims[i]? with
    | none => rfl
    | some claim =>
      dsimp only
      cases answered : claim.outcome with
      | none => simp [carries, answered, hands, handsOut]
      | some outcome =>
        have member := Worklists.mem_of_found found
        have sound : (server.sessions claim.connectionId).closed = false →
            SessionSound claim.connectionId (server.sessions claim.connectionId) server.claims _ :=
          fun stays => (steady.sound.live _ stays).1
        obtain ⟨lost, gained, handles, _⟩ := @onCommandClaimComplete_handles taskId _
          (now server) _ _ _ _ _ payload answered (claimOn_iff.mpr ⟨rfl, rfl⟩) member sound
        have taken := Worklists.countP_taken found (carries taskId)
        have others := @withSession_carried _ taskId claim.connectionId
          { server with claims := server.claims.eraseIdx i } _ _ _ handles
        rw [Option.toList_some, List.countP_singleton]
        exact (congrArg (· + if carries taskId claim then 1 else 0) others).trans taken.symm
  | completeWrite d =>
    simp only [step]
    cases writes : (server.sessions d).pendingWrites with
    | nil => rfl
    | cons ending rest =>
      by_cases stays : (server.sessions d).closed = true
      · exact @withSession_carried _ _ d _ _ _ _ (onWrite_cancelled stays)
      · exact @withSession_carried _ _ d _ _ _ _
          (onWrite_handles writes (Bool.eq_false_iff.mpr stays))
  | openStream d opened method path =>
    simp only [step]
    split
    · rfl
    · exact withSession_carried (handleCommandHeadersEnd_handles opened method path)
  | handleNotification d =>
    simp only [step]
    split
    · rfl
    · exact withSession_carried (onTaskQueueChanged_handles _)
  | sendData d sender length =>
    simp only [step]
    split
    · rfl
    · exact withSession_carried (sendData_handles sender length)
  | tick time | openSession d =>
    simp only [step]
    split <;> rfl
  | bindAgent d agentId | closeStream d gone | sendOther d =>
    simp only [step]
    split
    · rfl
    · simp [withSession, hands, handsOut, comesBack]
  | closeSession d => exact withSession_carried closeSession_handles

/-- No task is put into a stream twice, on whatever connections. -/
theorem loaded_once (store : Store) (clock : UtcSecond) (actions : List Action)
    (taskId : String) :
    ((loadedIn (start store clock) actions).countP fun loaded => loaded.task.taskId = taskId) ≤
      1 := by
  have conserved := @run_conserves Server Action step Steady
    (fun server => server.claims.countP (carries taskId)) (hands taskId) (comesBack taskId)
    (fun _ action steady => step_steady action steady) (fun _ action => claims_conserve action)
    (start store clock) (start_steady store clock) actions
  have handed := handed_once (start store clock) actions taskId
  have given : tally step (hands taskId) (start store clock) actions =
      (handedOut (start store clock) actions).countP fun given => given.2 = taskId :=
    (countP_gathered ..).symm
  have fewer := tally_mono (loads_comeBack taskId) step (start store clock) actions
  rw [loadedIn, countP_gathered]
  have none_before : (start store clock).claims.countP (carries taskId) = 0 := rfl
  omega

/-! Whose commands a connection gets -/

theorem withSession_agentId {server : Server} {d agentId : String}
    {result : Session × List Claim}
    (agent : d = c → result.1.agentId = (server.sessions d).agentId ∨
      (server.sessions d).agentId = none)
    (bound : (server.sessions c).agentId = some agentId) :
    ((withSession server d result).sessions c).agentId = some agentId := by
  change (Function.update server.sessions d result.1 c).agentId = _
  by_cases same : d = c
  · subst same
    rw [Function.update_self]
    rcases agent rfl with kept | unbound
    · rw [kept]
      exact bound
    · rw [unbound] at bound
      cases bound
  · rw [Function.update_of_ne fun equal => same equal.symm]
    exact bound

theorem step_agentId {server : Server} {agentId : String} (action : Action)
    (seen : c ∈ server.opened) (bound : (server.sessions c).agentId = some agentId) :
    ((step server action).sessions c).agentId = some agentId := by
  cases action with
  | storeCall call => exact (postNotifications_agentId ..).trans bound
  | commitClaim i faults =>
    cases waits : unanswered server i with
    | none =>
      rw [commitClaim_answered waits]
      exact bound
    | some claim =>
      rw [commitClaim_unanswered faults waits]
      exact (postNotifications_agentId ..).trans bound
  | completeClaim i payload =>
    simp only [step]
    split
    · exact bound
    · split
      · exact bound
      · apply @withSession_agentId c { server with claims := server.claims.eraseIdx i }
        · exact fun _ => Or.inl (onCommandClaimComplete_agentId ..)
        · exact bound
  | openSession d =>
    simp only [step]
    split
    · exact bound
    · rename_i unseen
      have other : c ≠ d := fun same => unseen (same ▸ seen)
      dsimp only
      rw [Function.update_of_ne other]
      exact bound
  | bindAgent d other =>
    simp only [step]
    split
    · exact bound
    · rename_i possible
      simp only [ne_eq, not_or, not_not] at possible
      exact withSession_agentId (fun _ => Or.inr possible.2) bound
  | openStream d opened method path =>
    simp only [step]
    split
    · exact bound
    · exact withSession_agentId (fun _ => Or.inl (handleCommandHeadersEnd_agentId ..)) bound
  | handleNotification d =>
    simp only [step]
    split
    · exact bound
    · exact withSession_agentId (fun _ => Or.inl (onTaskQueueChanged_agentId ..)) bound
  | sendData d sender length =>
    simp only [step]
    split
    · exact bound
    · exact withSession_agentId (fun _ => Or.inl (sendData_agentId ..)) bound
  | completeWrite d =>
    simp only [step]
    split
    · exact bound
    · exact withSession_agentId (fun _ => Or.inl (onWrite_agentId ..)) bound
  | tick time =>
    simp only [step]
    split <;> exact bound
  | closeStream d gone | sendOther d =>
    simp only [step]
    split
    · exact bound
    · exact withSession_agentId (fun _ => Or.inl rfl) bound
  | closeSession d => exact withSession_agentId (fun _ => Or.inl rfl) bound

theorem step_addressed {taskId : String} {server : Server} (action : Action)
    (addressed : Addressed server c taskId) : Addressed (step server action) c taskId := by
  obtain ⟨seen, agentId, bound, gone⟩ := addressed
  refine ⟨opened_stays action seen, agentId, step_agentId action seen bound, ?_⟩
  rw [step_store]
  exact gone_run gone _

/-- A command is put into a stream of the connection of its agent. -/
theorem loaded_addressed {store : Store} {clock : UtcSecond} {actions : List Action}
    {loaded : Loaded} (member : loaded ∈ loadedIn (start store clock) actions) :
    Addressed (Runs.run step (start store clock) actions) loaded.connectionId
      loaded.task.taskId := by
  obtain ⟨before, action, after, split, put⟩ := mem_gathered.mp member
  obtain ⟨i, payload, claim, rfl, found, carried, _⟩ := mem_loads put
  obtain ⟨task, answered, rfl⟩ := commandOf_some carried
  have kept : Steady (Runs.run step (start store clock) before) ∧
      Kept task.taskId (Runs.run step (start store clock) before) :=
    Runs.run_invariant_always (fun server => Steady server ∧ Kept task.taskId server)
      (fun _ action both => ⟨step_steady action both.1, step_kept action both.1 both.2⟩) _
      ⟨start_steady store clock, start_kept store clock⟩ before
  have addressed : Addressed (Runs.run step (start store clock) before) claim.connectionId
      task.taskId :=
    kept.2.claimed claim (Worklists.mem_of_found found) (by simp [carries, answered])
  rw [split, Runs.run_append]
  exact Runs.run_invariant_always (fun server => Addressed server claim.connectionId task.taskId)
    (fun _ action here => step_addressed action here) _ addressed _

/-! The agent's side -/

/-- Received bytes are cut into the frames that have arrived in full and a part of the next. -/
theorem received_commands {commands : List Loaded} {chunks : List Bytes}
    (fit : ∀ loaded ∈ commands, loaded.payload.length ≤ kDefaultMaxFrameBytes.toNat)
    (received : chunks.flatten <+: framesOf commands) :
    ∃ arrived coming decoder returned, commands = arrived ++ coming ∧
      FrameDecoder.fresh.pushAll chunks = (decoder, .ok returned) ∧
      returned.flatten = arrived.map Loaded.payload ∧
      chunks.flatten = framesOf arrived ++ decoder.buffer ∧
      PartOfNext decoder.buffer (coming.map Loaded.payload) := by
  obtain ⟨later, whole⟩ := received
  have frames : ∀ list : List Loaded,
      framesOf list = ((list.map Loaded.payload).map frameOf).flatten := by
    intro list
    rw [List.map_map]
    rfl
  rw [frames] at whole
  obtain ⟨done, left, part, split, cut, started⟩ := cut_frames whole
  obtain ⟨arrived, coming, rfl, rfl, rfl⟩ := List.map_eq_append_iff.mp split
  have fit_left : ∀ payload ∈ coming.map Loaded.payload,
      payload.length ≤ kDefaultMaxFrameBytes.toNat := by
    intro payload member
    obtain ⟨loaded, there, rfl⟩ := List.mem_map.mp member
    exact fit loaded (List.mem_append_right arrived there)
  have fit_done : ∀ payload ∈ arrived.map Loaded.payload,
      payload.length ≤ FrameDecoder.fresh.maxFrameBytes.toNat := by
    intro payload member
    obtain ⟨loaded, there, rfl⟩ := List.mem_map.mp member
    exact fit loaded (List.mem_append_left coming there)
  obtain ⟨returned, run, _, same⟩ :=
    pushAll_frames rfl cut fit_done (takeFrame_partOfNext fit_left started)
  exact ⟨arrived, coming, _, returned, rfl, run, same, by rw [frames]; exact cut, started⟩

def oneCommandRun : List Action :=
  [.openSession "conn-1", .bindAgent "conn-1" "agent-1", .storeCall ClaimSafety.enqueueCall,
    .openStream "conn-1" 1 "GET" kControlCommandsPath, .commitClaim 0 [],
    .completeClaim 0 [7, 8], .sendData "conn-1" 1 5, .sendData "conn-1" 1 16]

end CommandWire
