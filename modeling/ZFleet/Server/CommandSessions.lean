import ZFleet.Server.CommandStream

/-!
One control session with the claims under way for it. The flags of a stream say what is
under way; a stream whose agent may have a task is about to be notified, waits for a
refresh, is busy with a command, or has a claim under way that did not come back with
nothing. Every handler keeps this, and leaves no stream that waits without being busy.
-/
namespace CommandSessions
open Message KeyedTables TaskStore FrameCodec CommandStream
open Transactions hiding Session

def claimOn (c : String) (streamId : Nat) (claim : Claim) : Bool :=
  claim.connectionId = c && claim.streamId = streamId

theorem claimOn_iff {c : String} {streamId : Nat} {claim : Claim} :
    claimOn c streamId claim = true ↔ claim.connectionId = c ∧ claim.streamId = streamId := by
  simp [claimOn]

theorem claimOn_newClaim (c agentId assignedAt : String) (streamId : Nat) (stream : StreamState) :
    claimOn c streamId (newClaim c agentId assignedAt stream) = true ↔
      stream.streamId = streamId := by
  rw [claimOn_iff]
  simp [newClaim]

/-- How many claims are under way for the stream. -/
def underWay (c : String) (claims : List Claim) (streamId : Nat) : Nat :=
  claims.countP (claimOn c streamId)

/-- A claim is under way for the stream and did not come back with nothing. -/
def Awaited (c : String) (claims : List Claim) (streamId : Nat) : Prop :=
  ∃ claim ∈ claims, claimOn c streamId claim = true ∧ claim.outcome ≠ some (.ok none)

/-- The flags of a stream say what is under way, and if the agent is hungry then the
    stream will look for a task again. -/
structure StreamSound (notifications : Nat) (pendingWrites : List (Option (Nat × String)))
    (claims : Nat) (awaited hungry : Prop) (stream : StreamState) : Prop where
  flagged : claims = if stream.commandClaimInFlight then 1 else 0
  plain : stream.commandStream = false →
    stream.commandClaimInFlight = false ∧ stream.commandDataInFlight = false
  alone : stream.commandClaimInFlight = true → stream.commandDataInFlight = false
  loaded : stream.commandDataInFlight = true ↔ stream.responseBody ≠ []
  flushed : stream.responseBody ≠ [] → stream.responseOffset = stream.responseBody.length →
    pendingWrites ≠ []
  watched : hungry → stream.commandStream = true → 0 < notifications ∨
    stream.commandRefreshPending = true ∨ stream.commandDataInFlight = true ∨ awaited

structure SessionSound (c : String) (session : Session) (claims : List Claim) (hungry : Prop) :
    Prop where
  streams : ∀ stream ∈ session.streams.rows,
    StreamSound session.notifications session.pendingWrites (underWay c claims stream.streamId)
      (Awaited c claims stream.streamId) hungry stream
  known : ∀ stream ∈ session.streams.rows, stream.streamId ≤ session.lastStreamId
  fresh : ∀ streamId, session.lastStreamId < streamId → underWay c claims streamId = 0
  bound : session.agentId = none → ∀ stream ∈ session.streams.rows, stream.commandStream = false

/-- No stream waits for a refresh without being busy. -/
def Served (session : Session) : Prop :=
  ∀ stream ∈ session.streams.rows, stream.commandStream = true →
    stream.commandRefreshPending = true →
      stream.commandClaimInFlight = true ∨ stream.commandDataInFlight = true

theorem underWay_append (c : String) (first rest : List Claim) (streamId : Nat) :
    underWay c (first ++ rest) streamId = underWay c first streamId + underWay c rest streamId :=
  List.countP_append

theorem underWay_eq_zero {c : String} {claims : List Claim} {streamId : Nat} :
    underWay c claims streamId = 0 ↔ ∀ claim ∈ claims, claimOn c streamId claim = false := by
  simp [underWay, List.countP_eq_zero]

theorem underWay_pos {c : String} {claims : List Claim} {streamId : Nat} {claim : Claim}
    (member : claim ∈ claims) (on : claimOn c streamId claim = true) :
    0 < underWay c claims streamId :=
  List.countP_pos_iff.mpr ⟨claim, member, on⟩

theorem awaited_append {c : String} {first rest : List Claim} {streamId : Nat} :
    Awaited c (first ++ rest) streamId ↔ Awaited c first streamId ∨ Awaited c rest streamId := by
  simp [Awaited, or_and_right, exists_or]

/-- A table of streams holds each stream once, so it starts one claim for it or none. -/
theorem underWay_newClaims {c agentId assignedAt : String} {session : Session}
    {stream : StreamState} (member : stream ∈ session.streams.rows) :
    underWay c ((session.streams.rows.filter wantsClaim).map (newClaim c agentId assignedAt))
      stream.streamId = if wantsClaim stream then 1 else 0 := by
  have counted := session.streams.count_selected wantsClaim member
  rw [← counted, underWay, List.countP_map]
  apply List.countP_congr
  intro other _
  rw [decide_eq_true_iff]
  exact claimOn_newClaim c agentId assignedAt stream.streamId other

theorem underWay_newClaims_other {c agentId assignedAt : String} {session : Session}
    {streamId : Nat} (absent : ∀ stream ∈ session.streams.rows, stream.streamId ≠ streamId) :
    underWay c ((session.streams.rows.filter wantsClaim).map (newClaim c agentId assignedAt))
      streamId = 0 := by
  rw [underWay_eq_zero]
  intro claim member
  obtain ⟨stream, chosen, rfl⟩ := List.mem_map.mp member
  rw [Bool.eq_false_iff, ne_eq, claimOn_newClaim]
  exact absent stream (List.mem_filter.mp chosen).1

theorem wantsClaim_iff (stream : StreamState) :
    wantsClaim stream = true ↔ stream.commandStream = true ∧
      stream.commandRefreshPending = true ∧ stream.commandClaimInFlight = false ∧
      stream.commandDataInFlight = false ∧ stream.responseBody = [] := by
  simp [wantsClaim, and_assoc]

/-- What a started claim is about. -/
structure Started (c assignedAt : String) (session : Session) (claim : Claim) : Prop where
  connection : claim.connectionId = c
  agent : session.agentId = some claim.agentId
  time : claim.assignedAt = assignedAt
  stream : ∃ stream ∈ session.streams.rows, stream.streamId = claim.streamId

/-- The result of a handler that changed `before`. -/
structure Handled (c assignedAt : String) (claims : List Claim) (hungry : Prop)
    (before : Session) (result : Session × List Claim) : Prop where
  sound : result.1.closed = false → SessionSound c result.1 (claims ++ result.2) hungry
  served : result.1.closed = false → Served result.1
  started : ∀ claim ∈ result.2, result.1.closed = false ∧ Started c assignedAt result.1 claim
  agent : ∀ agentId, before.agentId = some agentId → result.1.agentId = some agentId
  closed : before.closed = true → result.1.closed = true

variable {c assignedAt : String} {claims : List Claim} {hungry : Prop} {session before : Session}

theorem handled_of_sound (sound : session.closed = false → SessionSound c session claims hungry)
    (served : session.closed = false → Served session)
    (agent : ∀ agentId, before.agentId = some agentId → session.agentId = some agentId)
    (closed : before.closed = true → session.closed = true) :
    Handled c assignedAt claims hungry before (session, []) where
  sound := by simpa using sound
  served := served
  started := by simp
  agent := agent
  closed := closed

theorem tryStartQueuedCommands_bound {agentId : String} (stays : session.closed = false)
    (bound : session.agentId = some agentId) :
    tryStartQueuedCommands c assignedAt session =
      ({ session with
          streams := session.streams.update wantsClaim startClaim startClaim_streamId },
        (session.streams.rows.filter wantsClaim).map (newClaim c agentId assignedAt)) := by
  simp [tryStartQueuedCommands, stays, bound]

theorem mem_startedStreams {started : StreamState}
    (member : started ∈ (session.streams.update wantsClaim startClaim startClaim_streamId).rows) :
    ∃ stream ∈ session.streams.rows,
      (if wantsClaim stream then startClaim stream else stream) = started :=
  Table.mem_update.mp member

/-- Starting the claims serves every stream that waits for a refresh. -/
theorem startClaims_handled {agentId : String} (stays : session.closed = false)
    (bound : session.agentId = some agentId) (sound : SessionSound c session claims hungry)
    (agent : ∀ agentId, before.agentId = some agentId → session.agentId = some agentId)
    (closed : before.closed = true → session.closed = true) :
    Handled c assignedAt claims hungry before
      ({ session with
          streams := session.streams.update wantsClaim startClaim startClaim_streamId },
        (session.streams.rows.filter wantsClaim).map (newClaim c agentId assignedAt)) where
  sound _ := by
    constructor
    · intro started member
      obtain ⟨stream, kept, rfl⟩ := mem_startedStreams member
      have here := sound.streams stream kept
      have count : underWay c
          ((session.streams.rows.filter wantsClaim).map (newClaim c agentId assignedAt))
          stream.streamId = if wantsClaim stream then 1 else 0 := underWay_newClaims kept
      by_cases wants : wantsClaim stream = true
      · obtain ⟨command, _, idle, noData, noBody⟩ := (wantsClaim_iff stream).mp wants
        rw [if_pos wants] at count ⊢
        refine ⟨?_, by simp [startClaim, command], by simp [startClaim, noData],
          here.loaded, here.flushed, ?_⟩
        · rw [startClaim_streamId, underWay_append, count, here.flagged, idle]
          simp [startClaim]
        · intro _ _
          refine Or.inr (Or.inr (Or.inr (awaited_append.mpr (Or.inr ?_))))
          exact ⟨newClaim c agentId assignedAt stream,
            List.mem_map_of_mem (List.mem_filter.mpr ⟨kept, wants⟩),
            (claimOn_newClaim _ _ _ _ _).mpr rfl, by simp [newClaim]⟩
      · rw [if_neg wants] at count ⊢
        refine ⟨?_, here.plain, here.alone, here.loaded, here.flushed, ?_⟩
        · rw [underWay_append, count]
          exact here.flagged
        · intro hunger command
          rcases here.watched hunger command with posted | pending | data | awaited
          · exact Or.inl posted
          · exact Or.inr (Or.inl pending)
          · exact Or.inr (Or.inr (Or.inl data))
          · exact Or.inr (Or.inr (Or.inr (awaited_append.mpr (Or.inl awaited))))
    · intro started member
      obtain ⟨stream, kept, rfl⟩ := mem_startedStreams member
      have known := sound.known stream kept
      split
      · exact known
      · exact known
    · intro streamId unseen
      rw [underWay_append, sound.fresh streamId unseen, underWay_newClaims_other]
      intro stream kept same
      have known := sound.known stream kept
      have unseen' : session.lastStreamId < streamId := unseen
      omega
    · intro unbound
      rw [bound] at unbound
      cases unbound
  served _ := by
    intro started member command pending
    obtain ⟨stream, kept, rfl⟩ := mem_startedStreams member
    have here := sound.streams stream kept
    by_cases wants : wantsClaim stream = true
    · rw [if_pos wants]
      exact Or.inl rfl
    · rw [if_neg wants] at command pending ⊢
      by_contra idle
      simp only [not_or, Bool.not_eq_true] at idle
      refine wants ((wantsClaim_iff stream).mpr ⟨command, pending, idle.1, idle.2, ?_⟩)
      by_contra body
      have data := here.loaded.mpr body
      rw [idle.2] at data
      cases data
  started := by
    intro claim member
    obtain ⟨stream, chosen, rfl⟩ := List.mem_map.mp member
    obtain ⟨kept, wants⟩ := List.mem_filter.mp chosen
    have updated : startClaim stream ∈
        (session.streams.update wantsClaim startClaim startClaim_streamId).rows :=
      Table.mem_update.mpr ⟨stream, kept, if_pos wants⟩
    exact ⟨stays, rfl, bound, rfl, startClaim stream, updated, rfl⟩
  agent := agent
  closed := closed

theorem tryStart_handled (sound : session.closed = false → SessionSound c session claims hungry)
    (agent : ∀ agentId, before.agentId = some agentId → session.agentId = some agentId)
    (closed : before.closed = true → session.closed = true) :
    Handled c assignedAt claims hungry before
      (tryStartQueuedCommands c assignedAt session) := by
  cases stays : session.closed with
  | true =>
    rw [show tryStartQueuedCommands c assignedAt session = (session, []) by
      simp [tryStartQueuedCommands, stays]]
    exact handled_of_sound sound (by simp [stays]) agent closed
  | false =>
    cases bound : session.agentId with
    | none =>
      rw [show tryStartQueuedCommands c assignedAt session = (session, []) by
        simp [tryStartQueuedCommands, stays, bound]]
      refine handled_of_sound sound ?_ agent closed
      intro _ stream member command
      rw [(sound stays).bound bound stream member] at command
      cases command
    | some agentId =>
      rw [tryStartQueuedCommands_bound stays bound]
      exact startClaims_handled stays bound (sound stays) agent closed

/-- A handler that rewrites streams keeps the session sound if it keeps each stream so. -/
theorem updateStreams_sound {after : Session} {claims' : List Claim} {hungry' : Prop}
    {selects : StreamState → Bool} {change : StreamState → StreamState}
    (keeps : ∀ stream, (change stream).streamId = stream.streamId)
    (streams : after.streams = session.streams.update selects change keeps)
    (last : after.lastStreamId = session.lastStreamId)
    (agent : after.agentId = session.agentId)
    (command : ∀ stream, (change stream).commandStream = stream.commandStream)
    (fewer : ∀ streamId, underWay c claims' streamId ≤ underWay c claims streamId)
    (sound : SessionSound c session claims hungry)
    (each : ∀ stream ∈ session.streams.rows,
      StreamSound session.notifications session.pendingWrites
        (underWay c claims stream.streamId) (Awaited c claims stream.streamId) hungry stream →
      StreamSound after.notifications after.pendingWrites
        (underWay c claims' stream.streamId) (Awaited c claims' stream.streamId) hungry'
        (if selects stream then change stream else stream)) :
    SessionSound c after claims' hungry' := by
  have key : ∀ stream, (if selects stream then change stream else stream).streamId =
      stream.streamId := by
    intro stream
    split
    · exact keeps stream
    · rfl
  constructor
  · intro changed member
    rw [streams] at member
    obtain ⟨stream, kept, rfl⟩ := Table.mem_update.mp member
    rw [key]
    exact each stream kept (sound.streams stream kept)
  · intro changed member
    rw [streams] at member
    obtain ⟨stream, kept, rfl⟩ := Table.mem_update.mp member
    rw [key, last]
    exact sound.known stream kept
  · intro streamId unseen
    rw [last] at unseen
    have none_left := sound.fresh streamId unseen
    have le := fewer streamId
    omega
  · intro unbound changed member
    rw [streams] at member
    rw [agent] at unbound
    obtain ⟨stream, kept, rfl⟩ := Table.mem_update.mp member
    have plain := sound.bound unbound stream kept
    split
    · rw [command, plain]
    · exact plain

theorem refreshed_sound (notifications : Nat) (sound : SessionSound c session claims hungry) :
    SessionSound c
      { session with
        notifications := notifications
        streams := session.streams.update StreamState.commandStream requestRefresh
          requestRefresh_streamId } claims hungry := by
  refine updateStreams_sound requestRefresh_streamId rfl rfl rfl (fun _ => rfl)
    (fun _ => le_refl _) sound ?_
  intro stream _ here
  by_cases command : stream.commandStream = true
  · rw [if_pos command]
    exact ⟨here.flagged, here.plain, here.alone, here.loaded, here.flushed,
      fun _ _ => Or.inr (Or.inl rfl)⟩
  · rw [if_neg command]
    exact ⟨here.flagged, here.plain, here.alone, here.loaded, here.flushed,
      fun _ is => absurd is command⟩

/-- Handling a notification passes it on to every command stream. -/
theorem onTaskQueueChanged_handled (notifications : Nat)
    (sound : session.closed = false → SessionSound c session claims hungry) :
    Handled c assignedAt claims hungry session
      (onTaskQueueChanged c assignedAt { session with notifications := notifications }) := by
  by_cases stays : session.closed = true
  · rw [show onTaskQueueChanged c assignedAt { session with notifications := notifications } =
      ({ session with notifications := notifications }, []) by simp [onTaskQueueChanged, stays]]
    exact handled_of_sound (by simp [stays]) (by simp [stays]) (fun _ bound => bound)
      fun is => is
  · simp only [onTaskQueueChanged, if_neg stays]
    exact tryStart_handled
      (fun _ => refreshed_sound notifications (sound (Bool.eq_false_iff.mpr stays)))
      (fun _ bound => bound) fun is => is

/-- A stream with a new id joins the session. -/
theorem addStream_sound {stream : StreamState} (sound : SessionSound c session claims hungry)
    (unseen : session.lastStreamId < stream.streamId)
    (idle : stream.commandClaimInFlight = false) (noData : stream.commandDataInFlight = false)
    (noBody : stream.responseBody = [])
    (refreshes : stream.commandStream = true → stream.commandRefreshPending = true)
    (bound : session.agentId = none → stream.commandStream = false) :
    SessionSound c (addStream session stream) claims hungry := by
  have free : session.streams.find stream.streamId = none := by
    rw [Table.find_none_iff]
    intro other member same
    have known := sound.known other member
    omega
  obtain ⟨streams, inserted⟩ :=
    Option.isSome_iff_exists.mp ((session.streams.insert_isSome_iff stream).mpr free)
  have rows : (addStream session stream).streams.rows = session.streams.rows ++ [stream] := by
    simp only [addStream, inserted, Option.getD_some]
    exact (Table.insert_some inserted).2
  constructor
  · intro other member
    rw [rows, List.mem_append, List.mem_singleton] at member
    rcases member with kept | rfl
    · have here := sound.streams other kept
      exact ⟨here.flagged, here.plain, here.alone, here.loaded, here.flushed, here.watched⟩
    · refine ⟨?_, fun _ => ⟨idle, noData⟩, fun _ => noData, by simp [noData, noBody],
        fun body => absurd noBody body, fun _ command => Or.inr (Or.inl (refreshes command))⟩
      rw [sound.fresh _ unseen, idle]
      rfl
  · intro other member
    rw [rows, List.mem_append, List.mem_singleton] at member
    change other.streamId ≤ stream.streamId
    rcases member with kept | rfl
    · have known := sound.known other kept
      omega
    · exact le_refl _
  · intro streamId later
    have later' : stream.streamId < streamId := later
    exact sound.fresh streamId (by omega)
  · intro unbound other member
    rw [rows, List.mem_append, List.mem_singleton] at member
    rcases member with kept | rfl
    · exact sound.bound unbound other kept
    · exact bound unbound

theorem addStream_served {stream : StreamState} (served : Served session)
    (plain : stream.commandStream = false) : Served (addStream session stream) := by
  intro other member command pending
  unfold addStream at member
  cases inserted : session.streams.insert stream with
  | none =>
    rw [inserted] at member
    exact served other member command pending
  | some streams =>
    rw [inserted] at member
    change other ∈ streams.rows at member
    rw [(Table.insert_some inserted).2, List.mem_append, List.mem_singleton] at member
    rcases member with kept | rfl
    · exact served other kept command pending
    · rw [plain] at command
      cases command

theorem handleCommandHeadersEnd_handled {streamId : Nat} (method path : String)
    (unseen : session.lastStreamId < streamId) (sound : SessionSound c session claims hungry)
    (served : Served session) :
    Handled c assignedAt claims hungry session
      (handleCommandHeadersEnd c assignedAt streamId method path session) := by
  unfold handleCommandHeadersEnd
  split
  · exact handled_of_sound
      (fun _ => addStream_sound sound unseen rfl rfl rfl (fun is => by cases is) fun _ => rfl)
      (fun _ => addStream_served served rfl) (fun _ bound => bound) fun is => is
  · rename_i command
    push Not at command
    exact tryStart_handled
      (fun _ => addStream_sound sound unseen rfl rfl rfl (fun _ => rfl)
        fun unbound => absurd unbound command.2.2)
      (fun _ bound => bound) fun is => is

theorem closeStream_sound (streamId : Nat) (sound : SessionSound c session claims hungry) :
    SessionSound c (closeStream streamId session) claims hungry := by
  constructor
  · intro stream member
    have here := sound.streams stream (Table.mem_remove.mp member).1
    exact ⟨here.flagged, here.plain, here.alone, here.loaded, here.flushed, here.watched⟩
  · intro stream member
    exact sound.known stream (Table.mem_remove.mp member).1
  · exact sound.fresh
  · intro unbound stream member
    exact sound.bound unbound stream (Table.mem_remove.mp member).1

theorem closeStream_served (streamId : Nat) (served : Served session) :
    Served (closeStream streamId session) :=
  fun stream member => served stream (Table.mem_remove.mp member).1

theorem finalizeSentCommandData_sound (pendingWrites : List (Option (Nat × String)))
    (sound : SessionSound c session claims hungry) :
    SessionSound c (finalizeSentCommandData { session with pendingWrites := pendingWrites })
      claims hungry := by
  have streams : (finalizeSentCommandData
      { session with pendingWrites := pendingWrites }).streams =
      session.streams.update sentInFull finalizeCommand finalizeCommand_streamId := rfl
  refine updateStreams_sound finalizeCommand_streamId streams rfl rfl (fun _ => rfl)
    (fun _ => le_refl _) sound ?_
  intro stream _ here
  by_cases sent : sentInFull stream = true
  · rw [if_pos sent]
    have command : stream.commandStream = true := by
      simp only [sentInFull, Bool.and_eq_true] at sent
      exact sent.1.1.1
    refine ⟨here.flagged, ?_, fun _ => rfl, by simp [finalizeCommand],
      fun body => absurd rfl body, fun _ _ => Or.inr (Or.inl rfl)⟩
    intro plain
    rw [show (finalizeCommand stream).commandStream = true from command] at plain
    cases plain
  · rw [if_neg sent]
    refine ⟨here.flagged, here.plain, here.alone, here.loaded, ?_, here.watched⟩
    intro body read
    have data := here.loaded.mpr body
    have command : stream.commandStream = true := by
      by_contra plain
      rw [(here.plain (Bool.eq_false_iff.mpr plain)).2] at data
      cases data
    exact absurd (by simp [sentInFull, command, data, body, read]) sent

/-- Whether the socket took a command or something else, what it took in full is over. -/
theorem onWrite_handled (sound : session.closed = false → SessionSound c session claims hungry) :
    Handled c assignedAt claims hungry session (onWrite c assignedAt session) := by
  unfold onWrite
  by_cases stays : session.closed = true
  · rw [if_pos stays]
    exact handled_of_sound (by simp [stays]) (by simp [stays]) (fun _ bound => bound)
      fun is => is
  · rw [if_neg stays]
    exact tryStart_handled
      (fun _ => finalizeSentCommandData_sound _ (sound (Bool.eq_false_iff.mpr stays)))
      (fun _ bound => bound) fun is => is

theorem sendData_sound (streamId length : Nat) (sound : SessionSound c session claims hungry) :
    SessionSound c (sendData streamId length session) claims hungry := by
  unfold sendData
  cases found : session.streams.find streamId with
  | none => exact sound
  | some stream =>
    dsimp only
    split
    · refine updateStreams_sound (readBody_streamId length) rfl rfl rfl (fun _ => rfl)
        (fun _ => le_refl _) sound ?_
      intro other _ here
      by_cases chosen : isStream streamId other = true
      · rw [if_pos chosen]
        exact ⟨here.flagged, here.plain, here.alone, here.loaded, fun _ _ => by simp,
          here.watched⟩
      · rw [if_neg chosen]
        exact ⟨here.flagged, here.plain, here.alone, here.loaded, fun _ _ => by simp,
          here.watched⟩
    · exact sound

theorem sendData_served (streamId length : Nat) (served : Served session) :
    Served (sendData streamId length session) := by
  unfold sendData
  cases found : session.streams.find streamId with
  | none => exact served
  | some stream =>
    dsimp only
    split
    · intro changed member
      obtain ⟨other, kept, rfl⟩ :=
        (Table.mem_update : _ ∈ (session.streams.update (isStream streamId) (readBody length)
          (readBody_streamId length)).rows ↔ _).mp member
      have here := served other kept
      split
      · exact here
      · exact here
    · exact served

/-! A claim comes back -/

/-- The claims that are left when one that was under way came back. -/
structure Returned (c : String) (claims : List Claim) (claim : Claim) (others : List Claim) :
    Prop where
  connection : claim.connectionId = c
  back : (claim :: others).Perm claims

theorem underWay_returned {claim : Claim} {others : List Claim}
    (returned : Returned c claims claim others) (streamId : Nat) :
    underWay c claims streamId =
      underWay c others streamId + if claim.streamId = streamId then 1 else 0 := by
  unfold underWay
  rw [← returned.back.countP_eq, List.countP_cons]
  congr 1
  have on : claimOn c streamId claim = true ↔ claim.streamId = streamId := by
    rw [claimOn_iff]
    exact ⟨fun both => both.2, fun same => ⟨returned.connection, same⟩⟩
  by_cases same : claim.streamId = streamId
  · rw [if_pos same, if_pos (on.mpr same)]
  · rw [if_neg same, if_neg fun is => same (on.mp is)]

theorem awaited_returned {claim : Claim} {others : List Claim}
    (returned : Returned c claims claim others) {streamId : Nat}
    (awaited : Awaited c claims streamId) :
    Awaited c others streamId ∨
      (claim.streamId = streamId ∧ claim.outcome ≠ some (.ok none)) := by
  obtain ⟨waiting, member, on, busy⟩ := awaited
  rw [← returned.back.mem_iff, List.mem_cons] at member
  rcases member with rfl | left
  · exact Or.inr ⟨(claimOn_iff.mp on).2, busy⟩
  · exact Or.inl ⟨waiting, left, on, busy⟩

/-- The other streams do not notice. -/
theorem returned_other {claim : Claim} {others : List Claim}
    (returned : Returned c claims claim others) {stream : StreamState}
    (other : claim.streamId ≠ stream.streamId)
    (here : StreamSound session.notifications session.pendingWrites
      (underWay c claims stream.streamId) (Awaited c claims stream.streamId) hungry stream) :
    StreamSound session.notifications session.pendingWrites
      (underWay c others stream.streamId) (Awaited c others stream.streamId) hungry stream := by
  have count := underWay_returned returned stream.streamId
  rw [if_neg other] at count
  refine ⟨by rw [← here.flagged]; omega, here.plain, here.alone, here.loaded, here.flushed, ?_⟩
  intro hunger command
  rcases here.watched hunger command with posted | pending | data | awaited
  · exact Or.inl posted
  · exact Or.inr (Or.inl pending)
  · exact Or.inr (Or.inr (Or.inl data))
  · rcases awaited_returned returned awaited with left | ⟨same, _⟩
    · exact Or.inr (Or.inr (Or.inr left))
    · exact absurd same other

/-- The stream had this claim under way and no other. -/
theorem returned_own {claim : Claim} {others : List Claim}
    (returned : Returned c claims claim others) {stream : StreamState}
    (own : claim.streamId = stream.streamId)
    (here : StreamSound session.notifications session.pendingWrites
      (underWay c claims stream.streamId) (Awaited c claims stream.streamId) hungry stream) :
    stream.commandClaimInFlight = true ∧ underWay c others stream.streamId = 0 := by
  have count := underWay_returned returned stream.streamId
  rw [if_pos own, here.flagged] at count
  cases flag : stream.commandClaimInFlight with
  | true =>
    rw [flag] at count
    exact ⟨rfl, by simp only [if_true] at count; omega⟩
  | false =>
    rw [flag] at count
    simp only [Bool.false_eq_true, if_false] at count
    omega

theorem returned_fewer {claim : Claim} {others : List Claim}
    (returned : Returned c claims claim others) (streamId : Nat) :
    underWay c others streamId ≤ underWay c claims streamId := by
  have count := underWay_returned returned streamId
  omega

/-- A claim for a stream that is gone leaves the session as it is. -/
theorem stray_sound {claim : Claim} {others : List Claim}
    (returned : Returned c claims claim others)
    (gone : session.streams.find claim.streamId = none)
    (sound : SessionSound c session claims hungry) :
    SessionSound c session others hungry := by
  constructor
  · intro stream member
    refine returned_other returned ?_ (sound.streams stream member)
    intro same
    exact (session.streams.find_none_iff _).mp gone stream member same.symm
  · exact sound.known
  · intro streamId unseen
    have none_left := sound.fresh streamId unseen
    have fewer := returned_fewer returned streamId
    omega
  · exact sound.bound

theorem isStream_iff (streamId : Nat) (stream : StreamState) :
    isStream streamId stream = true ↔ stream.streamId = streamId := by
  simp [isStream]

/-- A claim that came back with nothing frees its stream. -/
theorem released_sound {claim : Claim} {others : List Claim}
    (returned : Returned c claims claim others) (nothing : claim.outcome = some (.ok none))
    (sound : SessionSound c session claims hungry) :
    SessionSound c
      { session with
        streams := session.streams.update (isStream claim.streamId) releaseClaim
          releaseClaim_streamId } others hungry := by
  refine updateStreams_sound releaseClaim_streamId rfl rfl rfl (fun _ => rfl)
    (returned_fewer returned) sound ?_
  intro stream _ here
  by_cases own : isStream claim.streamId stream = true
  · rw [if_pos own]
    have same := ((isStream_iff _ _).mp own).symm
    obtain ⟨flag, none_left⟩ := returned_own returned same here
    refine ⟨by rw [none_left]; rfl, fun plain => ⟨rfl, (here.plain plain).2⟩, (fun is => by cases is),
      here.loaded, here.flushed, ?_⟩
    intro hunger command
    rcases here.watched hunger command with posted | pending | data | awaited
    · exact Or.inl posted
    · exact Or.inr (Or.inl pending)
    · exact Or.inr (Or.inr (Or.inl data))
    · rcases awaited_returned returned awaited with left | ⟨_, busy⟩
      · exact Or.inr (Or.inr (Or.inr left))
      · exact absurd nothing busy
  · rw [if_neg own]
    exact returned_other returned (fun same => own ((isStream_iff _ _).mpr same.symm)) here

/-- A claim that came back with a task keeps its stream busy. -/
theorem loaded_sound {claim : Claim} {others : List Claim} (task : Task) (payload : Bytes)
    (returned : Returned c claims claim others) (sound : SessionSound c session claims hungry) :
    SessionSound c
      { session with
        streams := session.streams.update (isStream claim.streamId) (loadCommand task payload)
          (loadCommand_streamId task payload) } others hungry := by
  refine updateStreams_sound (loadCommand_streamId task payload) rfl rfl rfl (fun _ => rfl)
    (returned_fewer returned) sound ?_
  intro stream _ here
  by_cases own : isStream claim.streamId stream = true
  · rw [if_pos own]
    have same := ((isStream_iff _ _).mp own).symm
    obtain ⟨flag, none_left⟩ := returned_own returned same here
    have framed : frameOf payload ≠ [] := frameOf_ne_nil payload
    refine ⟨by rw [none_left]; rfl, ?_, (fun is => by cases is), by simp [loadCommand, framed], ?_,
      fun _ _ => Or.inr (Or.inr (Or.inl rfl))⟩
    · intro plain
      rw [(here.plain plain).1] at flag
      cases flag
    · intro _ read
      have bytes := List.length_pos_of_ne_nil framed
      change 0 = (frameOf payload).length at read
      omega
  · rw [if_neg own]
    exact returned_other returned (fun same => own ((isStream_iff _ _).mpr same.symm)) here

theorem onCommandClaimComplete_handled {claim : Claim} {others : List Claim}
    {outcome : Except Failure (Option Task)} (payload : Bytes)
    (returned : Returned c claims claim others) (answered : claim.outcome = some outcome)
    (sound : session.closed = false → SessionSound c session claims hungry)
    (served : session.closed = false → Served session) :
    Handled c assignedAt others hungry session
      (onCommandClaimComplete c assignedAt claim.streamId outcome payload session) := by
  unfold onCommandClaimComplete
  by_cases stays : session.closed = true
  · rw [if_pos stays]
    exact handled_of_sound (by simp [stays]) (by simp [stays]) (fun _ bound => bound)
      fun is => is
  rw [if_neg stays]
  have live := Bool.eq_false_iff.mpr stays
  have here := sound live
  have servedStreams := served live
  cases found : session.streams.find claim.streamId with
  | none =>
    exact handled_of_sound (fun _ => stray_sound returned found here) (fun _ => servedStreams)
      (fun _ bound => bound) fun is => is
  | some stream =>
    dsimp only
    have only : ∀ other ∈ session.streams.rows, isStream claim.streamId other = true →
        other = stream := by
      intro other member own
      apply session.streams.row_unique member (Table.find_mem found)
      rw [(isStream_iff _ _).mp own, Table.find_key found]
    cases outcome with
    | error e =>
      exact handled_of_sound (by simp) (by simp) (fun _ bound => bound) fun _ => rfl
    | ok answer =>
      cases answer with
      | none =>
        have released := released_sound returned answered here
        by_cases pending : stream.commandRefreshPending = true
        · simp only [if_pos pending]
          exact tryStart_handled (fun _ => released) (fun _ bound => bound) fun is => is
        · simp only [if_neg pending]
          refine handled_of_sound (fun _ => released) ?_ (fun _ bound => bound) fun is => is
          intro _ changed member
          obtain ⟨other, kept, rfl⟩ :=
            (Table.mem_update : _ ∈ (session.streams.update (isStream claim.streamId)
              releaseClaim releaseClaim_streamId).rows ↔ _).mp member
          by_cases own : isStream claim.streamId other = true
          · rw [if_pos own, only other kept own]
            intro _ is
            exact absurd is pending
          · rw [if_neg own]
            exact servedStreams other kept
      | some task =>
        refine handled_of_sound (fun _ => loaded_sound task payload returned here) ?_
          (fun _ bound => bound) fun is => is
        intro _ changed member
        obtain ⟨other, kept, rfl⟩ :=
          (Table.mem_update : _ ∈ (session.streams.update (isStream claim.streamId)
            (loadCommand task payload) (loadCommand_streamId task payload)).rows ↔ _).mp member
        by_cases own : isStream claim.streamId other = true
        · rw [if_pos own]
          intro _ _
          exact Or.inr rfl
        · rw [if_neg own]
          exact servedStreams other kept

end CommandSessions
