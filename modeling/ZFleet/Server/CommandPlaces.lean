import ZFleet.Foundations.Tallies
import ZFleet.Server.CommandWakeups

/-!
The places of a task that a claim hands out. It is held by its claim, then by its stream,
then by a socket write, and is written at last. No action moves it but to the next place,
or loses it because it finds nobody to take it.
-/
namespace CommandPlaces
open Time Message KeyedTables Schema FrameCodec CommandStream CommandSessions CommandWakeups
open Tallies
open Transactions hiding Session
open TaskStore hiding start

/-! What the store is asked -/

/-- The claim at this position, while it has no answer. -/
def unanswered (server : Server) (i : Nat) : Option Claim :=
  server.claims[i]?.filter fun claim => claim.outcome.isNone

def claimCall (claim : Claim) (faults : List (Option Fault)) : TaskOperations.Call :=
  ⟨.queue (.asyncClaimNextTaskForAgent claim.agentId claim.assignedAt), faults⟩

def callsOf (server : Server) : Action → List TaskOperations.Call
  | .storeCall call => [call]
  | .commitClaim i faults =>
    ((unanswered server i).map fun claim => claimCall claim faults).toList
  | _ => []

def givenBy (claim : Claim) : Except Failure (Option Task) → List (String × String)
  | .ok (some task) => [(claim.agentId, task.taskId)]
  | _ => []

/-- The agent and the task that an action hands out. -/
def handsOut (server : Server) : Action → List (String × String)
  | .commitClaim i faults =>
    (unanswered server i).toList.flatMap fun claim =>
      givenBy claim (TaskOperations.reply server.store (claimCall claim faults))
  | _ => []

theorem unanswered_some {server : Server} {i : Nat} {claim : Claim}
    (waits : unanswered server i = some claim) :
    server.claims[i]? = some claim ∧ claim.outcome = none := by
  obtain ⟨found, pending⟩ := Option.filter_eq_some_iff.mp waits
  exact ⟨found, Option.isNone_iff_eq_none.mp pending⟩

theorem handsOut_answered {server : Server} {i : Nat} (faults : List (Option Fault))
    (settled : unanswered server i = none) : handsOut server (.commitClaim i faults) = [] := by
  unfold handsOut
  dsimp only
  rw [settled]
  rfl

theorem handsOut_unanswered {server : Server} {i : Nat} {claim : Claim}
    (faults : List (Option Fault)) (waits : unanswered server i = some claim) :
    handsOut server (.commitClaim i faults) =
      givenBy claim (TaskOperations.reply server.store (claimCall claim faults)) := by
  unfold handsOut
  dsimp only
  rw [waits, Option.toList_some, List.flatMap_singleton]

theorem commitClaim_answered {server : Server} {i : Nat} {faults : List (Option Fault)}
    (settled : unanswered server i = none) : step server (.commitClaim i faults) = server := by
  simp only [step]
  split
  · rfl
  · rename_i claim found
    split
    · rfl
    · rename_i pending
      rw [unanswered, found] at settled
      simp [pending] at settled

theorem commitClaim_unanswered {server : Server} {i : Nat} {claim : Claim}
    (faults : List (Option Fault)) (waits : unanswered server i = some claim) :
    step server (.commitClaim i faults) =
      withStore
        { server with
          claims := server.claims.set i
            { claim with
              outcome := some (TaskOperations.reply server.store (claimCall claim faults)) } }
        (TaskOperations.step server.store (claimCall claim faults)) := by
  obtain ⟨found, pending⟩ := unanswered_some waits
  simp only [step, found, pending]
  rfl

theorem step_store (server : Server) (action : Action) :
    (step server action).store =
      Runs.run TaskOperations.step server.store (callsOf server action) := by
  cases action with
  | storeCall call => rfl
  | commitClaim i faults =>
    cases waits : unanswered server i with
    | none =>
      rw [commitClaim_answered waits, callsOf, waits]
      rfl
    | some claim =>
      rw [commitClaim_unanswered faults waits, callsOf, waits]
      rfl
  | completeClaim i payload =>
    simp only [step]
    split
    · rfl
    · split <;> rfl
  | completeWrite c =>
    simp only [step]
    split <;> rfl
  | handleNotification c =>
    simp only [step]
    split <;> rfl
  | tick time | openSession c | bindAgent c agentId | openStream c streamId method path
  | closeStream c streamId | sendData c streamId length | sendOther c =>
    simp only [step]
    split <;> rfl
  | closeSession c => rfl

/-! The places of a task -/

def carries (taskId : String) (claim : Claim) : Bool :=
  match claim.outcome with
  | some (.ok (some task)) => task.taskId = taskId
  | _ => false

def failed (claim : Claim) : Bool :=
  match claim.outcome with
  | some (.error _) => true
  | _ => false

def unsent (taskId : String) (stream : StreamState) : Bool :=
  stream.command = some taskId && stream.responseOffset < stream.responseBody.length

def endsIn (taskId : String) (write : Option (Nat × String)) : Bool :=
  write.any fun ending => ending.2 = taskId

/-- The streams and the writes of a session that is open. -/
def held (taskId : String) (session : Session) : Nat :=
  if session.closed then 0
  else session.streams.rows.countP (unsent taskId) + session.pendingWrites.countP (endsIn taskId)

def heldOpen (taskId : String) (server : Server) : Nat :=
  (server.opened.map fun c => held taskId (server.sessions c)).sum

def underWayFor (taskId : String) (server : Server) : Nat :=
  server.claims.countP (carries taskId) + heldOpen taskId server

def timesWritten (taskId : String) (server : Server) : Nat :=
  server.written.countP fun command => command.2.2 = taskId

def places (taskId : String) (server : Server) : Nat :=
  underWayFor taskId server + timesWritten taskId server

/-- What an action drops: the command of the stream it closes, the commands of the session it
    closes, the task of a claim whose session or stream is gone. -/
def loses (taskId : String) (server : Server) : Action → Nat
  | .closeStream c streamId =>
    if (server.sessions c).closed then 0
    else (server.sessions c).streams.rows.countP fun stream =>
      isStream streamId stream && unsent taskId stream
  | .closeSession c => held taskId (server.sessions c)
  | .completeClaim i _ =>
    match server.claims[i]? with
    | none => 0
    | some claim =>
      let session := server.sessions claim.connectionId
      if session.closed = true ∨ session.streams.find claim.streamId = none then
        if carries taskId claim then 1 else 0
      else if failed claim then held taskId session
      else 0
  | _ => 0

def Loses (server : Server) (action : Action) : Prop := ∃ taskId, loses taskId server action ≠ 0

/-! Sessions and servers that keep what they hold -/

variable {taskId c assignedAt : String} {session before : Session}

theorem held_closed (closed : session.closed = true) : held taskId session = 0 := if_pos closed

theorem held_open (stays : session.closed = false) : held taskId session =
    session.streams.rows.countP (unsent taskId) +
      session.pendingWrites.countP (endsIn taskId) := by
  unfold held
  rw [stays]
  rfl

/-- The result of a handler against the session it was given: the claims it starts have no
    answer, and it holds what the session held without what it lost and with what it got. -/
structure Handles (taskId : String) (before : Session) (lost gained : Nat)
    (result : Session × List Claim) : Prop where
  fresh : ∀ claim ∈ result.2, claim.outcome = none
  closed : before.closed = true → result.1.closed = true
  held : held taskId result.1 + lost = held taskId before + gained

theorem handles_session {lost gained : Nat} (closed : before.closed = true → session.closed = true)
    (conserved : held taskId session + lost = held taskId before + gained) :
    Handles taskId before lost gained (session, []) where
  fresh := by
    intro claim member
    cases member
  closed := closed
  held := conserved

theorem tryStart_handles {lost gained : Nat}
    (closed : before.closed = true → session.closed = true)
    (conserved : held taskId session + lost = held taskId before + gained) :
    Handles taskId before lost gained (tryStartQueuedCommands c assignedAt session) := by
  unfold tryStartQueuedCommands
  split
  · exact handles_session closed conserved
  · rename_i stays
    split
    · exact handles_session closed conserved
    · rename_i agentId bound
      refine ⟨?_, closed, ?_⟩
      · intro claim member
        obtain ⟨stream, _, rfl⟩ := List.mem_map.mp member
        rfl
      · rw [← conserved]
        congr 1
        unfold held
        dsimp only
        rw [Table.countP_update startClaim_streamId fun stream _ _ => rfl]

theorem onTaskQueueChanged_handles (notifications : Nat) :
    Handles taskId session 0 0
      (onTaskQueueChanged c assignedAt { session with notifications := notifications }) := by
  unfold onTaskQueueChanged
  split
  · exact handles_session (fun is => is) rfl
  · apply tryStart_handles
    · exact fun is => is
    unfold held
    dsimp only
    rw [Table.countP_update requestRefresh_streamId fun stream _ _ => rfl]

theorem countP_addStream {stream : StreamState} (commandless : stream.command = none) :
    (addStream session stream).streams.rows.countP (unsent taskId) =
      session.streams.rows.countP (unsent taskId) := by
  unfold addStream
  cases inserted : session.streams.insert stream with
  | none => rfl
  | some streams =>
    rw [Option.getD_some, (Table.insert_some inserted).2, List.countP_append]
    simp [unsent, commandless]

theorem addStream_held {stream : StreamState} (commandless : stream.command = none) :
    held taskId (addStream session stream) = held taskId session := by
  have counted : (addStream session stream).streams.rows.countP (unsent taskId) = _ :=
    countP_addStream commandless
  unfold held
  rw [counted]
  rfl

theorem handleCommandHeadersEnd_handles (streamId : Nat) (method path : String) :
    Handles taskId session 0 0
      (handleCommandHeadersEnd c assignedAt streamId method path session) := by
  unfold handleCommandHeadersEnd
  split
  · exact handles_session (fun is => is) (addStream_held rfl)
  · exact tryStart_handles (fun is => is) (addStream_held rfl)

theorem closeStream_held (streamId : Nat) (stays : session.closed = false) :
    held taskId (closeStream streamId session) +
        session.streams.rows.countP (fun stream => isStream streamId stream && unsent taskId stream) =
      held taskId session := by
  rw [held_open (show (closeStream streamId session).closed = false from stays), held_open stays]
  have split : session.streams.rows.countP (unsent taskId) =
      (closeStream streamId session).streams.rows.countP (unsent taskId) +
        session.streams.rows.countP fun stream =>
          isStream streamId stream && unsent taskId stream := by
    unfold closeStream Table.remove
    dsimp only
    rw [List.countP_filter]
    induction session.streams.rows with
    | nil => rfl
    | cons stream streams ih =>
      simp only [List.countP_cons, ih]
      cases isStream streamId stream <;> cases unsent taskId stream <;> simp <;> omega
  have writes : (closeStream streamId session).pendingWrites = session.pendingWrites := rfl
  rw [split, writes]
  omega

theorem sentInFull_unsent {stream : StreamState} (sent : sentInFull stream = true) :
    unsent taskId stream = false := by
  simp only [sentInFull, Bool.and_eq_true, decide_eq_true_eq] at sent
  simp [unsent, sent.2]

theorem finalizeSentCommandData_count :
    (finalizeSentCommandData session).streams.rows.countP (unsent taskId) =
      session.streams.rows.countP (unsent taskId) := by
  apply Table.countP_update finalizeCommand_streamId
  intro stream _ sent
  rw [sentInFull_unsent sent]
  simp [unsent, finalizeCommand]

theorem onWrite_handles {ending : Option (Nat × String)} {others : List (Option (Nat × String))}
    (writes : session.pendingWrites = ending :: others) (stays : session.closed = false) :
    Handles taskId session (if endsIn taskId ending then 1 else 0) 0
      (onWrite c assignedAt session) := by
  unfold onWrite
  dsimp only
  rw [if_neg (show ¬ session.closed = true by simp [stays])]
  apply tryStart_handles
  · exact fun is => is
  have still : (finalizeSentCommandData
      { session with pendingWrites := session.pendingWrites.tail }).closed = false := stays
  have left : (finalizeSentCommandData
      { session with pendingWrites := session.pendingWrites.tail }).pendingWrites = others := by
    change session.pendingWrites.tail = others
    rw [writes]
    rfl
  rw [held_open still, held_open stays, finalizeSentCommandData_count, left, writes,
    List.countP_cons]
  dsimp only
  omega

/-- The writes of a closed session are cancelled. -/
theorem onWrite_cancelled (closed : session.closed = true) :
    Handles taskId session 0 0 (onWrite c assignedAt session) := by
  unfold onWrite
  dsimp only
  rw [if_pos closed]
  apply handles_session
  · exact fun is => is
  have popped : ({ session with pendingWrites := session.pendingWrites.tail } : Session).closed =
      true := closed
  rw [held_closed closed, held_closed popped]

theorem closeSession_handles :
    Handles taskId session (held taskId session) 0 ({ session with closed := true }, []) := by
  apply handles_session
  · exact fun _ => rfl
  rw [held_closed rfl, Nat.zero_add]
  rfl

/-- The next bytes of a command are its last ones, or it stays unsent. -/
theorem readBody_unsent {length : Nat} {stream : StreamState}
    (more : stream.responseOffset < stream.responseBody.length) :
    (if unsent taskId (readBody length stream) then 1 else 0) +
        (if endsIn taskId (endingCommand length stream) then 1 else 0) =
      if unsent taskId stream then 1 else 0 := by
  have body : (readBody length stream).responseBody = stream.responseBody := rfl
  have command : (readBody length stream).command = stream.command := rfl
  unfold unsent endingCommand
  rw [body, command]
  by_cases ended : stream.responseBody.length ≤ (readBody length stream).responseOffset
  · rw [if_pos ended]
    cases own : stream.command with
    | none => simp [endsIn]
    | some other =>
      by_cases same : other = taskId
      · simp [endsIn, same, more, Nat.not_lt.mpr ended]
      · simp [endsIn, same]
  · rw [if_neg ended]
    simp [endsIn, more, Nat.not_le.mp ended]

theorem sendData_handles (streamId length : Nat) :
    Handles taskId session 0 0 (sendData streamId length session, []) := by
  unfold sendData
  cases found : session.streams.find streamId with
  | none => exact handles_session (fun is => is) rfl
  | some stream =>
    dsimp only
    split
    · rename_i possible
      apply handles_session
      · exact fun is => is
      have counted := Table.countP_pinned (readBody_streamId length) (Table.find_mem found)
        ((isStream_iff _ _).mpr (Table.find_key found))
        (fun other chosen => ((isStream_iff _ _).mp chosen).trans (Table.find_key found).symm)
        (unsent taskId)
      have bytes := @readBody_unsent taskId length stream possible.2.1
      unfold held
      split
      · rfl
      · dsimp only
        rw [List.countP_append, List.countP_singleton]
        omega
    · exact handles_session (fun is => is) rfl

theorem sendOther_handles :
    Handles taskId session 0 0
      ({ session with pendingWrites := session.pendingWrites ++ [none] }, []) := by
  apply handles_session
  · exact fun is => is
  unfold held
  dsimp only
  rw [List.countP_append]
  rfl

theorem loadCommand_handles {stream : StreamState} (task : Task) (payload : Bytes)
    (stays : session.closed = false)
    (found : session.streams.find stream.streamId = some stream)
    (empty : stream.responseBody = []) :
    Handles taskId session 0 (if task.taskId = taskId then 1 else 0)
      ({ session with
          streams := session.streams.update (isStream stream.streamId) (loadCommand task payload)
            (loadCommand_streamId task payload) }, []) := by
  apply handles_session
  · exact fun is => is
  have counted := Table.countP_pinned (loadCommand_streamId task payload) (Table.find_mem found)
    ((isStream_iff _ _).mpr rfl) (fun other chosen => (isStream_iff _ _).mp chosen)
    (unsent taskId)
  have was : unsent taskId stream = false := by simp [unsent, empty]
  have bytes := List.length_pos_of_ne_nil (frameOf_ne_nil payload)
  have loaded : unsent taskId (loadCommand task payload stream) = decide (task.taskId = taskId) := by
    simp [unsent, loadCommand, bytes]
  rw [was, loaded] at counted
  have now_open : ({ session with
      streams := session.streams.update (isStream stream.streamId) (loadCommand task payload)
        (loadCommand_streamId task payload) } : Session).closed = false := stays
  rw [held_open now_open, held_open stays]
  simp only [decide_eq_true_eq, Bool.false_eq_true, if_false] at counted
  dsimp only
  omega

/-- A claim under way for a stream means that the stream has no command. -/
theorem claimed_empty {claims : List Claim} {hungry : Prop} {stream : StreamState}
    (sound : SessionSound c session claims hungry) (member : stream ∈ session.streams.rows)
    (claimed : 0 < underWay c claims stream.streamId) : stream.responseBody = [] := by
  have here := sound.streams stream member
  have flag : stream.commandClaimInFlight = true := by
    by_contra flagless
    rw [here.flagged, if_neg flagless] at claimed
    cases claimed
  by_contra body
  have data := here.loaded.mpr body
  rw [here.alone flag] at data
  cases data

/-- What a claim that comes back loses and gives to its session. -/
theorem onCommandClaimComplete_handles {claims : List Claim} {hungry : Prop} {claim : Claim}
    {outcome : Except Failure (Option Task)} (payload : Bytes)
    (answered : claim.outcome = some outcome) (on : claimOn c claim.streamId claim = true)
    (member : claim ∈ claims)
    (sound : session.closed = false → SessionSound c session claims hungry) :
    ∃ lost gained, Handles taskId session lost gained
        (onCommandClaimComplete c assignedAt claim.streamId outcome payload session) ∧
      (gained ≠ 0 → carries taskId claim = true) ∧
      gained + (if session.closed = true ∨ session.streams.find claim.streamId = none then
          if carries taskId claim then 1 else 0
        else if failed claim then held taskId session
        else 0) = lost + if carries taskId claim then 1 else 0 := by
  unfold onCommandClaimComplete carries failed
  rw [answered]
  by_cases stays : session.closed = true
  · rw [if_pos stays]
    exact ⟨0, 0, handles_session (fun is => is) rfl, by simp [stays]⟩
  rw [if_neg stays]
  cases found : session.streams.find claim.streamId with
  | none => exact ⟨0, 0, handles_session (fun is => is) rfl, by simp⟩
  | some stream =>
    have here : ¬ (session.closed = true ∨ some stream = none) := by simp [stays]
    rw [if_neg here]
    cases outcome with
    | error failure =>
      refine ⟨held taskId session, 0, handles_session (fun _ => rfl) ?_, by simp⟩
      rw [held_closed rfl, Nat.zero_add]
      rfl
    | ok answer =>
      cases answer with
      | none =>
        have released : held taskId { session with
            streams := session.streams.update (isStream claim.streamId) releaseClaim
              releaseClaim_streamId } = held taskId session := by
          unfold held
          dsimp only
          rw [Table.countP_update releaseClaim_streamId fun stream _ _ => rfl]
        dsimp only
        split
        · refine ⟨0, 0, tryStart_handles (fun is => is) ?_, by simp⟩
          rw [released]
        · refine ⟨0, 0, handles_session (fun is => is) ?_, by simp⟩
          rw [released]
      | some task =>
        have key := Table.find_key found
        have claimed : 0 < underWay c claims stream.streamId := by
          rw [key]
          exact underWay_pos member on
        have live := Bool.eq_false_iff.mpr stays
        have empty := claimed_empty (sound live) (Table.find_mem found) claimed
        rw [← key] at found ⊢
        exact ⟨0, if task.taskId = taskId then 1 else 0,
          loadCommand_handles task payload live found empty, by simp⟩

/-! The sessions without regard to the store -/

/-- The server with nothing in its store. -/
def hollow (server : Server) : Server := { server with store := .empty }

structure Steady (server : Server) : Prop where
  once : server.opened.Nodup
  sound : CommandWakeups.Sound (hollow server)

theorem hollow_quiet (server : Server) (session : Session) :
    ¬ Hungry (hollow server) session := by
  intro hungry
  obtain ⟨agentId, _, row, member, _⟩ := hungry
  cases member

theorem sound_hollow {server : Server} (sound : CommandWakeups.Sound server) :
    CommandWakeups.Sound (hollow server) := by
  refine ⟨⟨sound.backdrop.once, sound.backdrop.timely, sound.backdrop.asked,
    sound.backdrop.claimsOpened, sound.backdrop.opened⟩, ?_⟩
  intro c stays
  obtain ⟨here, served⟩ := sound.live c stays
  exact ⟨sessionSound_congr (fun _ => rfl) (fun _ _ waits => waits)
    (fun hunger => absurd hunger (hollow_quiet server _)) here, served⟩

/-- A store with nothing in it, whose queue has moved. -/
def movedStore (count : Nat) : Store :=
  { Store.empty with taskQueueVersion := Store.empty.taskQueueVersion + count }

theorem withStore_sound_hollow {server : Server} (store : Store)
    (sound : CommandWakeups.Sound (hollow server)) :
    CommandWakeups.Sound (hollow (withStore server store)) := by
  have announced : QueueAnnouncements.Announced Store.empty
      (movedStore (store.taskQueueVersion - server.store.taskQueueVersion)) := by
    refine ⟨Nat.le_add_right _ _, ?_⟩
    intro _ agentId time claimable
    obtain ⟨row, member, _⟩ := claimable
    cases member
  have moved := sound_hollow (withStore_sound announced sound)
  have same : hollow (withStore (hollow server)
      (movedStore (store.taskQueueVersion - server.store.taskQueueVersion))) =
      hollow (withStore server store) := by
    unfold hollow withStore movedStore
    simp only [Nat.add_sub_cancel_left]
  rw [same] at moved
  exact moved

theorem commitClaim_sound_hollow {server : Server} (i : Nat) (faults : List (Option Fault))
    (sound : CommandWakeups.Sound (hollow server)) :
    CommandWakeups.Sound (hollow (step server (.commitClaim i faults))) := by
  cases waits : unanswered server i with
  | none =>
    rw [commitClaim_answered waits]
    exact sound
  | some claim =>
    obtain ⟨found, _⟩ := unanswered_some waits
    rw [commitClaim_unanswered faults waits]
    apply withStore_sound_hollow
    refine @answered_sound (hollow server) i claim _ found ?_ sound
    intro _ claimable
    obtain ⟨row, member, _⟩ := claimable
    cases member

/-- Where the store is not asked it makes no difference to a step. -/
theorem step_hollow {server : Server} {action : Action}
    (unasked : callsOf (hollow server) action = []) (unasked' : callsOf server action = []) :
    hollow (step server action) = step (hollow server) action := by
  cases action with
  | storeCall call => cases unasked
  | commitClaim i faults =>
    have answered : ∀ other : Server, other.claims = server.claims →
        callsOf other (.commitClaim i faults) = [] → unanswered other i = none := by
      intro other same none_asked
      cases waits : unanswered other i with
      | none => rfl
      | some claim =>
        rw [callsOf, waits] at none_asked
        cases none_asked
    rw [commitClaim_answered (answered server rfl unasked'),
      commitClaim_answered (answered (hollow server) rfl unasked)]
  | completeClaim i payload =>
    simp only [step, hollow]
    split
    · rfl
    · split <;> rfl
  | completeWrite c =>
    simp only [step, hollow]
    split <;> rfl
  | handleNotification c =>
    simp only [step, hollow]
    split <;> rfl
  | tick time | openSession c | bindAgent c agentId | openStream c streamId method path
  | closeStream c streamId | sendData c streamId length | sendOther c =>
    exact apply_ite hollow _ _ _
  | closeSession c => rfl

theorem step_sound_hollow {server : Server} (action : Action)
    (sound : CommandWakeups.Sound (hollow server)) :
    CommandWakeups.Sound (hollow (step server action)) := by
  cases action with
  | storeCall call => exact withStore_sound_hollow _ sound
  | commitClaim i faults => exact commitClaim_sound_hollow i faults sound
  | _ =>
    rw [step_hollow rfl rfl]
    exact step_sound trivial sound

theorem step_opened (server : Server) (action : Action) :
    (step server action).opened = server.opened ∨
      ∃ c, c ∉ server.opened ∧ (step server action).opened = c :: server.opened := by
  cases action with
  | openSession c =>
    by_cases seen : c ∈ server.opened
    · exact Or.inl (by simp only [step, if_pos seen])
    · exact Or.inr ⟨c, seen, by simp only [step, if_neg seen]⟩
  | storeCall call => exact Or.inl rfl
  | commitClaim i faults | completeClaim i payload =>
    simp only [step]
    split
    · exact Or.inl rfl
    · split <;> exact Or.inl rfl
  | completeWrite c =>
    simp only [step]
    split <;> exact Or.inl rfl
  | handleNotification c =>
    simp only [step]
    split <;> exact Or.inl rfl
  | tick time | bindAgent c agentId | openStream c streamId method path
  | closeStream c streamId | sendData c streamId length | sendOther c =>
    simp only [step]
    split <;> exact Or.inl rfl
  | closeSession c => exact Or.inl rfl

theorem step_steady {server : Server} (action : Action) (steady : Steady server) :
    Steady (step server action) where
  once := by
    rcases step_opened server action with same | ⟨c, unseen, one_more⟩
    · rw [same]
      exact steady.once
    · rw [one_more]
      exact List.nodup_cons.mpr ⟨unseen, steady.once⟩
  sound := step_sound_hollow action steady.sound

theorem start_steady (store : Store) (clock : UtcSecond) : Steady (start store clock) where
  once := List.nodup_nil
  sound := start_sound .empty clock

/-! One step -/

theorem held_unopened {server : Server} (steady : Steady server) (absent : c ∉ server.opened) :
    (server.sessions c).closed = true := by
  by_contra stays
  exact absent (steady.sound.backdrop.opened c (Bool.eq_false_iff.mpr stays))

theorem withSession_places {server : Server} {result : Session × List Claim} {lost gained : Nat}
    (once : server.opened.Nodup)
    (shut : c ∉ server.opened → (server.sessions c).closed = true)
    (handles : Handles taskId (server.sessions c) lost gained result) :
    places taskId (withSession server c result) + lost = places taskId server + gained := by
  have started : (server.claims ++ result.2).countP (carries taskId) =
      server.claims.countP (carries taskId) := by
    rw [List.countP_append, Nat.add_eq_left, List.countP_eq_zero]
    intro claim member
    simp [carries, handles.fresh claim member]
  have summed := @sum_exchanged String (fun d => held taskId (server.sessions d))
    (fun d => held taskId ((withSession server c result).sessions d)) c _
    (fun d other => by
      change held taskId (Function.update server.sessions c result.1 d) = _
      rw [Function.update_of_ne other]) once
    (fun absent => by
      have closed := shut absent
      change _ = held taskId (Function.update server.sessions c result.1 c)
      rw [Function.update_self, held_closed closed, held_closed (handles.closed closed)])
  have there : held taskId ((withSession server c result).sessions c) = held taskId result.1 := by
    change held taskId (Function.update server.sessions c result.1 c) = _
    rw [Function.update_self]
  have conserved := handles.held
  simp only [there] at summed
  unfold places underWayFor heldOpen timesWritten
  change (server.claims ++ result.2).countP (carries taskId) +
    (server.opened.map fun d => held taskId ((withSession server c result).sessions d)).sum +
    server.written.countP _ + lost = _
  omega

theorem held_posted (count : Nat) :
    held taskId (postNotifications count session) = held taskId session := by
  unfold postNotifications
  split <;> rfl

theorem withStore_places (server : Server) (store : Store) :
    places taskId (withStore server store) = places taskId server := by
  unfold places underWayFor heldOpen timesWritten withStore
  simp only [held_posted]

theorem openSession_places {server : Server} (unseen : c ∉ server.opened) :
    places taskId (step server (.openSession c)) = places taskId server := by
  simp only [step, if_neg unseen]
  unfold places underWayFor heldOpen timesWritten
  have others : (server.opened.map fun d => held taskId
      (Function.update server.sessions c { unopened with closed := false } d)) =
      server.opened.map fun d => held taskId (server.sessions d) := by
    apply List.map_congr_left
    intro d seen
    have other : d ≠ c := fun same => unseen (same ▸ seen)
    rw [Function.update_of_ne other]
  dsimp only
  rw [List.map_cons, List.sum_cons, others, Function.update_self]
  simp [held, unopened, Table.empty]

/-- How often the action hands the task out. -/
def hands (taskId : String) (server : Server) (action : Action) : Nat :=
  (handsOut server action).countP fun given => given.2 = taskId

theorem carries_answered (claim : Claim) (reply : Except Failure (Option Task)) :
    (if carries taskId { claim with outcome := some reply } then 1 else 0) =
      (givenBy claim reply).countP fun given => given.2 = taskId := by
  unfold carries givenBy
  cases reply with
  | error failure => rfl
  | ok answer =>
    cases answer with
    | none => rfl
    | some task => simp [List.countP_cons]

theorem commitClaim_carried (server : Server) (i : Nat) (faults : List (Option Fault)) :
    (step server (.commitClaim i faults)).claims.countP (carries taskId) =
      server.claims.countP (carries taskId) + hands taskId server (.commitClaim i faults) := by
  unfold hands
  cases waits : unanswered server i with
  | none =>
    rw [commitClaim_answered waits, handsOut_answered faults waits]
    rfl
  | some claim =>
    obtain ⟨found, pending⟩ := unanswered_some waits
    rw [commitClaim_unanswered faults waits, handsOut_unanswered faults waits]
    have bare : carries taskId claim = false := by simp [carries, pending]
    have taken := Worklists.countP_taken found (carries taskId)
    have replaced := (Worklists.replaced_perm found { claim with
      outcome := some (TaskOperations.reply server.store (claimCall claim faults)) }).countP_eq
      (carries taskId)
    rw [List.countP_cons] at replaced
    rw [bare] at taken
    rw [carries_answered] at replaced
    simp only [Bool.false_eq_true, if_false] at taken
    refine replaced.symm.trans ?_
    omega

theorem commitClaim_places (server : Server) (i : Nat) (faults : List (Option Fault)) :
    places taskId (step server (.commitClaim i faults)) =
      places taskId server + hands taskId server (.commitClaim i faults) := by
  have carried := @commitClaim_carried taskId server i faults
  have elsewhere : ∀ store claims, heldOpen taskId (withStore { server with claims } store) =
      heldOpen taskId server := by
    intro store claims
    unfold heldOpen withStore
    simp only [held_posted]
  have same : heldOpen taskId (step server (.commitClaim i faults)) = heldOpen taskId server ∧
      (step server (.commitClaim i faults)).written = server.written := by
    cases waits : unanswered server i with
    | none =>
      rw [commitClaim_answered waits]
      exact ⟨rfl, rfl⟩
    | some claim =>
      rw [commitClaim_unanswered faults waits]
      exact ⟨elsewhere _ _, rfl⟩
  unfold places underWayFor timesWritten
  rw [same.1, same.2]
  omega

theorem completeClaim_places {server : Server} (steady : Steady server) (i : Nat)
    (payload : Bytes) :
    places taskId (step server (.completeClaim i payload)) +
        loses taskId server (.completeClaim i payload) = places taskId server := by
  simp only [step, loses]
  cases found : server.claims[i]? with
  | none => rfl
  | some claim =>
    dsimp only
    cases answered : claim.outcome with
    | none =>
      have bare : carries taskId claim = false := by simp [carries, answered]
      have sound_yet : failed claim = false := by simp [failed, answered]
      simp [bare, sound_yet]
    | some outcome =>
      have on : claimOn claim.connectionId claim.streamId claim = true := claimOn_iff.mpr ⟨rfl, rfl⟩
      have sound : (server.sessions claim.connectionId).closed = false →
          SessionSound claim.connectionId (server.sessions claim.connectionId) server.claims _ :=
        fun stays => (steady.sound.live _ stays).1
      obtain ⟨lost, gained, handles, _, moved⟩ := @onCommandClaimComplete_handles taskId _
        (now server) _ _ _ _ _ payload answered on (Worklists.mem_of_found found) sound
      have result := @withSession_places _ _ { server with
        claims := server.claims.eraseIdx i } _ _ _ steady.once
        (show claim.connectionId ∉ server.opened → _ from held_unopened steady) handles
      have taken := Worklists.countP_taken found (carries taskId)
      have before : places taskId server =
          places taskId { server with claims := server.claims.eraseIdx i } +
            if carries taskId claim then 1 else 0 := by
        unfold places underWayFor heldOpen timesWritten
        dsimp only
        omega
      dsimp only
      omega

theorem completeWrite_places {server : Server} (steady : Steady server) (c : String) :
    places taskId (step server (.completeWrite c)) = places taskId server := by
  simp only [step]
  cases writes : (server.sessions c).pendingWrites with
  | nil => rfl
  | cons ending others =>
    have write : ∀ (after : Server) (more : List (String × Nat × String)),
        places taskId { after with written := server.written ++ more } +
            after.written.countP (fun command => command.2.2 = taskId) =
          places taskId after + (server.written ++ more).countP fun command =>
            command.2.2 = taskId := by
      intro after more
      unfold places underWayFor heldOpen timesWritten
      dsimp only
      omega
    by_cases stays : (server.sessions c).closed = true
    · have handles := @onWrite_cancelled taskId c (now server) _ stays
      have result := withSession_places steady.once (held_unopened steady) handles
      have counted := write (withSession server c (onWrite c (now server) (server.sessions c))) []
      rw [List.append_nil] at counted
      have same : (withSession server c (onWrite c (now server) (server.sessions c))).written =
        server.written := rfl
      rw [same] at counted
      simp only [stays, if_true, Option.map_none, Option.toList_none, List.append_nil]
      omega
    · have handles := @onWrite_handles taskId c (now server) _ _ _ writes
        (Bool.eq_false_iff.mpr stays)
      have result := withSession_places steady.once (held_unopened steady) handles
      have counted := write (withSession server c (onWrite c (now server) (server.sessions c)))
        (ending.map fun command => (c, command.1, command.2)).toList
      have same : (withSession server c (onWrite c (now server) (server.sessions c))).written =
        server.written := rfl
      have ends : ((ending.map fun command => (c, command.1, command.2)).toList.countP
          fun command => command.2.2 = taskId) = if endsIn taskId ending then 1 else 0 := by
        cases ending with
        | none => rfl
        | some ending => simp [endsIn, List.countP_cons]
      rw [same, List.countP_append, ends] at counted
      simp only [stays, Bool.false_eq_true, if_false]
      omega

/-- A step that hands out, writes or loses nothing but by a handler of an open session. -/
theorem session_places {server : Server} (steady : Steady server) {result : Session × List Claim}
    {lost : Nat} (handles : Handles taskId (server.sessions c) lost 0 result) :
    places taskId (withSession server c result) + lost = places taskId server :=
  withSession_places steady.once (held_unopened steady) handles

/-- A task is where it was, or the action lost it, or the action handed it out. -/
theorem step_places {server : Server} (action : Action) (steady : Steady server) :
    places taskId (step server action) + loses taskId server action =
      places taskId server + hands taskId server action := by
  cases action with
  | storeCall call => exact withStore_places ..
  | tick time =>
    simp only [step]
    split <;> rfl
  | openSession c =>
    by_cases seen : c ∈ server.opened
    · simp only [step, if_pos seen]
      rfl
    · exact openSession_places seen
  | bindAgent c agentId =>
    simp only [step]
    split
    · rfl
    · exact session_places steady (handles_session (fun is => is) rfl)
  | openStream c streamId method path =>
    simp only [step]
    split
    · rfl
    · exact session_places steady (handleCommandHeadersEnd_handles streamId method path)
  | closeStream c streamId =>
    simp only [step, loses]
    split
    · rfl
    · rename_i stays
      exact session_places steady (handles_session (fun is => is)
        (closeStream_held streamId (Bool.eq_false_iff.mpr stays)))
  | handleNotification c =>
    simp only [step]
    split
    · rfl
    · exact session_places steady (onTaskQueueChanged_handles _)
  | commitClaim i faults => exact commitClaim_places server i faults
  | completeClaim i payload => exact completeClaim_places steady i payload
  | sendData c streamId length =>
    simp only [step]
    split
    · rfl
    · exact session_places steady (sendData_handles streamId length)
  | sendOther c =>
    simp only [step]
    split
    · rfl
    · exact session_places steady sendOther_handles
  | completeWrite c => exact completeWrite_places steady c
  | closeSession c =>
    exact session_places steady closeSession_handles

end CommandPlaces
