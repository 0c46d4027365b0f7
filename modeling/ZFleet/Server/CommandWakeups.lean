import ZFleet.Foundations.Runs
import ZFleet.Server.ClaimSafety
import ZFleet.Server.CommandSessions
import ZFleet.Server.QueueAnnouncements

/-!
No wake-up of a command stream is lost: over every run the sessions stay sound with
respect to the claims of the server and to the tasks its store has for their agents.
-/
namespace CommandWakeups
open Time Message KeyedTables Schema FrameCodec QueueAnnouncements CommandStream
  CommandSessions
open ClaimSafety (noon)
open Transactions hiding Session
open TaskStore hiding start

variable {c assignedAt : String} {claims : List Claim} {hungry : Prop} {session before : Session}

/-! The server -/

def Hungry (server : Server) (session : Session) : Prop :=
  ∃ agentId, session.agentId = some agentId ∧ HasClaimable server.store agentId (now server)

def Live (server : Server) (c : String) : Prop :=
  (server.sessions c).closed = false →
    SessionSound c (server.sessions c) server.claims (Hungry server (server.sessions c)) ∧
      Served (server.sessions c)

/-- What holds of the claims whether their sessions are open or not. -/
structure Backdrop (server : Server) : Prop where
  once : ∀ c streamId, underWay c server.claims streamId ≤ 1
  timely : ∀ claim ∈ server.claims, claim.assignedAt ≤ now server
  asked : ∀ claim ∈ server.claims,
    (server.sessions claim.connectionId).agentId = some claim.agentId
  claimsOpened : ∀ claim ∈ server.claims, claim.connectionId ∈ server.opened
  opened : ∀ c, (server.sessions c).closed = false → c ∈ server.opened

structure Sound (server : Server) : Prop where
  backdrop : Backdrop server
  live : ∀ c, Live server c

theorem sessionSound_congr {claims' : List Claim} {hungry' : Prop}
    (same : ∀ streamId, underWay c claims' streamId = underWay c claims streamId)
    (awaited : ∀ streamId, hungry' → Awaited c claims streamId → Awaited c claims' streamId)
    (hungrier : hungry' → hungry) (sound : SessionSound c session claims hungry) :
    SessionSound c session claims' hungry' := by
  constructor
  · intro stream member
    have here := sound.streams stream member
    refine ⟨by rw [same]; exact here.flagged, here.plain, here.alone, here.loaded, here.flushed, ?_⟩
    intro hunger command
    rcases here.watched (hungrier hunger) command with posted | pending | data | waits
    · exact Or.inl posted
    · exact Or.inr (Or.inl pending)
    · exact Or.inr (Or.inr (Or.inl data))
    · exact Or.inr (Or.inr (Or.inr (awaited _ hunger waits)))
  · exact sound.known
  · intro streamId unseen
    rw [same]
    exact sound.fresh streamId unseen
  · exact sound.bound

theorem underWay_elsewhere {c d : String} {claims : List Claim}
    (all : ∀ claim ∈ claims, claim.connectionId = c) (other : d ≠ c) (streamId : Nat) :
    underWay d claims streamId = 0 := by
  rw [underWay_eq_zero]
  intro claim member
  rw [Bool.eq_false_iff]
  intro on
  exact other ((claimOn_iff.mp on).1.symm.trans (all claim member))

/-- The handler of one session keeps the server sound. -/
theorem withSession_sound {server : Server} {c : String} {result : Session × List Claim}
    (backdrop : Backdrop server) (others : ∀ d, d ≠ c → Live server d)
    (handled : Handled c (now server) server.claims (Hungry server result.1) (server.sessions c)
      result) : Sound (withSession server c result) := by
  have here : ∀ claim ∈ result.2, claim.connectionId = c :=
    fun claim member => (handled.started claim member).2.connection
  have sessionsAt : (withSession server c result).sessions c = result.1 :=
    Function.update_self ..
  have sessionsElse : ∀ d, d ≠ c → (withSession server c result).sessions d =
      server.sessions d := fun d other => Function.update_of_ne other ..
  refine ⟨⟨?_, ?_, ?_, ?_, ?_⟩, ?_⟩
  · intro d streamId
    change underWay d (server.claims ++ result.2) streamId ≤ 1
    by_cases same : d = c
    · subst same
      by_cases some_started : ∃ claim ∈ result.2, claim.streamId = streamId
      · obtain ⟨claim, member, rfl⟩ := some_started
        obtain ⟨stays, started⟩ := handled.started claim member
        obtain ⟨stream, kept, key⟩ := started.stream
        have flagged := ((handled.sound stays).streams stream kept).flagged
        rw [key] at flagged
        rw [flagged]
        split <;> omega
      · have none_started : underWay d result.2 streamId = 0 := by
          rw [underWay_eq_zero]
          intro claim member
          rw [Bool.eq_false_iff]
          exact fun on => some_started ⟨claim, member, (claimOn_iff.mp on).2⟩
        rw [underWay_append, none_started]
        exact backdrop.once d streamId
    · rw [underWay_append, underWay_elsewhere here same]
      exact backdrop.once d streamId
  · intro claim member
    rcases List.mem_append.mp member with old | new
    · exact backdrop.timely claim old
    · rw [(handled.started claim new).2.time]
      exact le_refl _
  · intro claim member
    rcases List.mem_append.mp member with old | new
    · have asked := backdrop.asked claim old
      by_cases same : claim.connectionId = c
      · rw [same] at asked ⊢
        rw [sessionsAt]
        exact handled.agent _ asked
      · rw [sessionsElse _ same]
        exact asked
    · rw [here claim new, sessionsAt]
      exact (handled.started claim new).2.agent
  · intro claim member
    rcases List.mem_append.mp member with old | new
    · exact backdrop.claimsOpened claim old
    · rw [here claim new]
      apply backdrop.opened
      rw [Bool.eq_false_iff]
      intro was
      have still := handled.closed was
      rw [(handled.started claim new).1] at still
      cases still
  · intro d stays
    by_cases same : d = c
    · subst same
      rw [sessionsAt] at stays
      apply backdrop.opened
      rw [Bool.eq_false_iff]
      intro was
      rw [handled.closed was] at stays
      cases stays
    · rw [sessionsElse d same] at stays
      exact backdrop.opened d stays
  · intro d stays
    by_cases same : d = c
    · subst same
      rw [sessionsAt] at stays ⊢
      exact ⟨handled.sound stays, handled.served stays⟩
    · rw [sessionsElse d same] at stays ⊢
      obtain ⟨sound, served⟩ := others d same stays
      refine ⟨sessionSound_congr ?_ ?_ (fun hunger => hunger) sound, served⟩
      · intro streamId
        change underWay d (server.claims ++ result.2) streamId = _
        rw [underWay_append, underWay_elsewhere here same, Nat.add_zero]
      · exact fun streamId _ waits => awaited_append.mpr (Or.inl waits)

theorem postNotifications_closed (count : Nat) (session : Session) :
    (postNotifications count session).closed = session.closed := by
  unfold postNotifications
  split <;> rfl

theorem postNotifications_agentId (count : Nat) (session : Session) :
    (postNotifications count session).agentId = session.agentId := by
  unfold postNotifications
  split <;> rfl

theorem postNotifications_open (count : Nat) {session : Session}
    (stays : session.closed = false) : postNotifications count session =
      { session with notifications := session.notifications + count } := by
  simp [postNotifications, stays]

/-- A posted notification keeps every stream watched. -/
theorem notified_sound {count : Nat} {hungry' : Prop} (hungrier : count = 0 → hungry' → hungry)
    (sound : SessionSound c session claims hungry) :
    SessionSound c { session with notifications := session.notifications + count } claims
      hungry' := by
  constructor
  · intro stream member
    have here := sound.streams stream member
    refine ⟨here.flagged, here.plain, here.alone, here.loaded, here.flushed, ?_⟩
    intro hunger command
    cases count with
    | zero => exact here.watched (hungrier rfl hunger) command
    | succ more => exact Or.inl (Nat.succ_pos _)
  · exact sound.known
  · exact sound.fresh
  · exact sound.bound

theorem withStore_sound {server : Server} {store : Store}
    (announced : Announced server.store store) (sound : Sound server) :
    Sound (withStore server store) := by
  refine ⟨⟨sound.backdrop.once, sound.backdrop.timely, ?_, sound.backdrop.claimsOpened, ?_⟩, ?_⟩
  · intro claim member
    change (postNotifications _ (server.sessions claim.connectionId)).agentId = _
    rw [postNotifications_agentId]
    exact sound.backdrop.asked claim member
  · intro c stays
    change (postNotifications _ (server.sessions c)).closed = false at stays
    rw [postNotifications_closed] at stays
    exact sound.backdrop.opened c stays
  · intro c stays
    change (postNotifications _ (server.sessions c)).closed = false at stays
    rw [postNotifications_closed] at stays
    obtain ⟨here, served⟩ := sound.live c stays
    have posted : (withStore server store).sessions c = _ := postNotifications_open _ stays
    rw [posted]
    refine ⟨notified_sound ?_ here, served⟩
    rintro unmoved ⟨agentId, bound, has⟩
    have grows := announced.grows
    exact ⟨agentId, bound, announced.told (by omega) agentId _ has⟩

/-- The store has answered a claim; when it had nothing, there was nothing. -/
theorem answered_sound {server : Server} {i : Nat} {claim : Claim}
    {answer : Except Failure (Option Task)} (found : server.claims[i]? = some claim)
    (right : answer = .ok none → ¬ HasClaimable server.store claim.agentId claim.assignedAt)
    (sound : Sound server) :
    Sound { server with claims := server.claims.set i { claim with outcome := some answer } } := by
  have member := Worklists.mem_of_found found
  have same : ∀ c streamId,
      underWay c (server.claims.set i { claim with outcome := some answer }) streamId =
        underWay c server.claims streamId :=
    fun c streamId => Worklists.countP_replaced found rfl
  have kept : ∀ other ∈ server.claims.set i { claim with outcome := some answer },
      ∃ old ∈ server.claims, other.connectionId = old.connectionId ∧
        other.agentId = old.agentId ∧ other.assignedAt = old.assignedAt := by
    intro other new
    rcases (Worklists.mem_replaced_iff found _ _).mp new with rfl | left
    · exact ⟨claim, member, rfl, rfl, rfl⟩
    · exact ⟨other, List.mem_of_mem_eraseIdx left, rfl, rfl, rfl⟩
  refine ⟨⟨?_, ?_, ?_, ?_, sound.backdrop.opened⟩, ?_⟩
  · intro c streamId
    rw [same]
    exact sound.backdrop.once c streamId
  · intro other new
    obtain ⟨old, member, _, _, time⟩ := kept other new
    rw [time]
    exact sound.backdrop.timely old member
  · intro other new
    obtain ⟨old, member, connection, agent, _⟩ := kept other new
    rw [connection, agent]
    exact sound.backdrop.asked old member
  · intro other new
    obtain ⟨old, member, connection, _⟩ := kept other new
    rw [connection]
    exact sound.backdrop.claimsOpened old member
  · intro c stays
    obtain ⟨here, served⟩ := sound.live c stays
    refine ⟨sessionSound_congr (same c) ?_ (fun hunger => hunger) here, served⟩
    rintro streamId ⟨agentId, bound, has⟩ ⟨waiting, old, on, busy⟩
    rcases (Worklists.mem_taken_iff found waiting).mp old with rfl | left
    · refine ⟨_, (Worklists.mem_replaced_iff found _ _).mpr (Or.inl rfl), on, ?_⟩
      intro nothing
      -- the agent of the session asked, and it is hungry now, so it was then
      have asked := sound.backdrop.asked waiting member
      rw [(claimOn_iff.mp on).1] at asked
      have agent : agentId = waiting.agentId := by
        rw [show (server.sessions c).agentId = some agentId from bound] at asked
        exact Option.some.inj asked
      rw [agent] at has
      exact right (Option.some.inj nothing)
        (hasClaimable_earlier (sound.backdrop.timely waiting member) has)
    · exact ⟨waiting, (Worklists.mem_replaced_iff found _ _).mpr (Or.inr left), on, busy⟩

theorem returned_backdrop {server : Server} {i : Nat} (backdrop : Backdrop server) :
    Backdrop { server with claims := server.claims.eraseIdx i } := by
  have left : ∀ claim ∈ server.claims.eraseIdx i, claim ∈ server.claims :=
    fun claim => List.mem_of_mem_eraseIdx
  refine ⟨?_, fun claim member => backdrop.timely claim (left claim member),
    fun claim member => backdrop.asked claim (left claim member),
    fun claim member => backdrop.claimsOpened claim (left claim member), backdrop.opened⟩
  intro c streamId
  have fewer : underWay c (server.claims.eraseIdx i) streamId ≤ underWay c server.claims streamId :=
    (List.eraseIdx_sublist ..).countP_le
  exact fewer.trans (backdrop.once c streamId)

theorem returned_elsewhere {server : Server} {i : Nat} {claim : Claim}
    (found : server.claims[i]? = some claim) {d : String} (other : d ≠ claim.connectionId)
    (live : Live server d) : Live { server with claims := server.claims.eraseIdx i } d := by
  intro stays
  obtain ⟨here, served⟩ := live stays
  have off : ∀ streamId, claimOn d streamId claim = false := by
    intro streamId
    rw [Bool.eq_false_iff]
    exact fun on => other (claimOn_iff.mp on).1.symm
  refine ⟨sessionSound_congr ?_ ?_ (fun hunger => hunger) here, served⟩
  · intro streamId
    unfold underWay
    rw [Worklists.countP_taken found, off]
    rfl
  · rintro streamId _ ⟨waiting, old, on, busy⟩
    rcases (Worklists.mem_taken_iff found waiting).mp old with rfl | left
    · rw [off] at on
      cases on
    · exact ⟨waiting, left, on, busy⟩

theorem tick_sound {server : Server} {time : UtcSecond}
    (later : server.clock.epochSeconds ≤ time.epochSeconds) (sound : Sound server) :
    Sound { server with clock := time } := by
  have le : now server ≤ now { server with clock := time } :=
    (UtcSecond.toRfc3339_le_iff _ _).mpr later
  refine ⟨⟨sound.backdrop.once, ?_, sound.backdrop.asked, sound.backdrop.claimsOpened,
    sound.backdrop.opened⟩, ?_⟩
  · exact fun claim member => (sound.backdrop.timely claim member).trans le
  · intro c stays
    obtain ⟨here, served⟩ := sound.live c stays
    refine ⟨sessionSound_congr (fun _ => rfl) (fun _ _ waits => waits) ?_ here, served⟩
    rintro ⟨agentId, bound, has⟩
    exact ⟨agentId, bound, hasClaimable_earlier le has⟩

theorem openSession_sound {server : Server} {c : String} (unseen : c ∉ server.opened)
    (sound : Sound server) : Sound (step server (.openSession c)) := by
  simp only [step, if_neg unseen]
  have claimless : ∀ claim ∈ server.claims, claim.connectionId ≠ c := by
    intro claim member same
    exact unseen (same ▸ sound.backdrop.claimsOpened claim member)
  refine ⟨⟨sound.backdrop.once, sound.backdrop.timely, ?_, ?_, ?_⟩, ?_⟩
  · intro claim member
    dsimp only
    rw [Function.update_of_ne (claimless claim member)]
    exact sound.backdrop.asked claim member
  · exact fun claim member => List.mem_cons_of_mem c (sound.backdrop.claimsOpened claim member)
  · intro d stays
    by_cases same : d = c
    · rw [same]
      exact List.mem_cons_self
    · dsimp only at stays
      rw [Function.update_of_ne same] at stays
      exact List.mem_cons_of_mem c (sound.backdrop.opened d stays)
  · intro d stays
    by_cases same : d = c
    · subst same
      simp only [Function.update_self]
      have streamless : ∀ stream ∈ ({ unopened with closed := false } : Session).streams.rows,
          False := fun _ member => List.not_mem_nil member
      refine ⟨⟨fun _ member => (streamless _ member).elim,
        fun _ member => (streamless _ member).elim, ?_,
        fun _ _ member => (streamless _ member).elim⟩,
        fun _ member => (streamless _ member).elim⟩
      intro streamId _
      rw [underWay_eq_zero]
      intro claim member
      rw [Bool.eq_false_iff]
      exact fun on => claimless claim member (claimOn_iff.mp on).1
    · have kept : (Function.update server.sessions c { unopened with closed := false }) d =
          server.sessions d := Function.update_of_ne same ..
      dsimp only at stays ⊢
      rw [kept] at stays ⊢
      exact sound.live d stays

/-- The handler ran on the session as it was. -/
theorem handler_sound {server : Server} {c : String} {result : Session × List Claim}
    (sound : Sound server) (handled : Handled c (now server) server.claims
      (Hungry server result.1) (server.sessions c) result) :
    Sound (withSession server c result) :=
  withSession_sound sound.backdrop (fun d _ => sound.live d) handled

/-- A session keeps its agent, so it is as hungry as before. -/
theorem hungry_congr {server : Server} {session after : Session}
    (same : after.agentId = session.agentId) : Hungry server after ↔ Hungry server session := by
  unfold Hungry
  rw [same]

theorem tryStart_agentId (c assignedAt : String) (session : Session) :
    (tryStartQueuedCommands c assignedAt session).1.agentId = session.agentId := by
  unfold tryStartQueuedCommands
  split
  · rfl
  · split <;> rfl

theorem onTaskQueueChanged_agentId (c assignedAt : String) (session : Session) :
    (onTaskQueueChanged c assignedAt session).1.agentId = session.agentId := by
  unfold onTaskQueueChanged
  split
  · rfl
  · exact tryStart_agentId ..

theorem handleCommandHeadersEnd_agentId (c assignedAt : String) (streamId : Nat)
    (method path : String) (session : Session) :
    (handleCommandHeadersEnd c assignedAt streamId method path session).1.agentId =
      session.agentId := by
  unfold handleCommandHeadersEnd
  split
  · rfl
  · exact tryStart_agentId ..

theorem onWrite_agentId (c assignedAt : String) (session : Session) :
    (onWrite c assignedAt session).1.agentId = session.agentId := by
  unfold onWrite
  dsimp only
  split
  · rfl
  · exact tryStart_agentId ..

theorem sendData_agentId (streamId length : Nat) (session : Session) :
    (sendData streamId length session).agentId = session.agentId := by
  unfold sendData
  split
  · rfl
  · split <;> rfl

theorem sendData_closed (streamId length : Nat) (session : Session) :
    (sendData streamId length session).closed = session.closed := by
  unfold sendData
  split
  · rfl
  · split <;> rfl

theorem onCommandClaimComplete_agentId (c assignedAt : String) (streamId : Nat)
    (outcome : Except Failure (Option Task)) (payload : Bytes) (session : Session) :
    (onCommandClaimComplete c assignedAt streamId outcome payload session).1.agentId =
      session.agentId := by
  unfold onCommandClaimComplete
  split
  · rfl
  · split
    · rfl
    · dsimp only
      split
      · rfl
      · split
        · exact tryStart_agentId ..
        · rfl
      · rfl

/-- Every call of the step is announced. -/
def Announces : Action → Prop
  | .storeCall call => announcing call.op = true
  | _ => True

theorem commitClaim_sound {server : Server} (i : Nat) (faults : List (Option Fault))
    (sound : Sound server) : Sound (step server (.commitClaim i faults)) := by
  simp only [step]
  split
  · exact sound
  · rename_i claim found
    split
    · exact sound
    · apply withStore_sound
      · exact asyncClaimNextTaskForAgent_announced _ _ ⟨server.store, faults⟩ _ _ rfl
      · apply answered_sound found _ sound
        intro nothing
        have done : asyncClaimNextTaskForAgent claim.agentId claim.assignedAt
            ⟨server.store, faults⟩ = (.ok none, (asyncClaimNextTaskForAgent claim.agentId
              claim.assignedAt ⟨server.store, faults⟩).2) := by
          rw [← nothing]
        rcases asyncClaimNextTaskForAgent_ok done with ⟨_, unselected, _⟩ | ⟨_, _, some_task, _⟩
        · exact nothing_claimable unselected
        · cases some_task

theorem completeClaim_sound {server : Server} (i : Nat) (payload : Bytes)
    (sound : Sound server) : Sound (step server (.completeClaim i payload)) := by
  simp only [step]
  split
  · exact sound
  · rename_i claim found
    split
    · exact sound
    · rename_i outcome answered
      refine withSession_sound (returned_backdrop sound.backdrop)
        (fun d other => returned_elsewhere found other (sound.live d)) ?_
      rw [hungry_congr (onCommandClaimComplete_agentId ..)]
      exact onCommandClaimComplete_handled payload ⟨rfl, Worklists.taken_perm found⟩ answered
        (fun stays => (sound.live _ stays).1) (fun stays => (sound.live _ stays).2)

theorem step_sound {server : Server} {action : Action} (announces : Announces action)
    (sound : Sound server) : Sound (step server action) := by
  cases action with
  | storeCall call => exact withStore_sound (step_announced server.store announces) sound
  | tick time =>
    simp only [step]
    split
    · rename_i later
      exact tick_sound later sound
    · exact sound
  | openSession c =>
    by_cases seen : c ∈ server.opened
    · simp only [step, if_pos seen]
      exact sound
    · exact openSession_sound seen sound
  | bindAgent c agentId =>
    simp only [step]
    split
    · exact sound
    · rename_i possible
      simp only [not_or, Bool.not_eq_true, not_not] at possible
      obtain ⟨stays, unbound⟩ := possible
      obtain ⟨here, served⟩ := sound.live c stays
      apply handler_sound sound
      refine handled_of_sound (fun _ => ?_) (fun _ => served) ?_ fun is => is
      · have plain := here.bound unbound
        refine ⟨?_, here.known, here.fresh, fun is => by cases is⟩
        intro stream member
        have sound' := here.streams stream member
        refine ⟨sound'.flagged, sound'.plain, sound'.alone, sound'.loaded, sound'.flushed, ?_⟩
        intro _ command
        rw [plain stream member] at command
        cases command
      · intro other bound
        rw [unbound] at bound
        cases bound
  | openStream c streamId method path =>
    simp only [step]
    split
    · exact sound
    · rename_i possible
      simp only [not_or, Bool.not_eq_true, Nat.not_le] at possible
      obtain ⟨stays, unseen⟩ := possible
      obtain ⟨here, served⟩ := sound.live c stays
      apply handler_sound sound
      rw [hungry_congr (handleCommandHeadersEnd_agentId ..)]
      exact handleCommandHeadersEnd_handled method path unseen here served
  | closeStream c streamId =>
    simp only [step]
    split
    · exact sound
    · rename_i stays
      obtain ⟨here, served⟩ := sound.live c (Bool.eq_false_iff.mpr stays)
      exact handler_sound sound (handled_of_sound (fun _ => closeStream_sound streamId here)
        (fun _ => closeStream_served streamId served) (fun _ bound => bound) fun is => is)
  | handleNotification c =>
    simp only [step]
    split
    · exact sound
    · apply handler_sound sound
      rw [hungry_congr (onTaskQueueChanged_agentId ..)]
      exact onTaskQueueChanged_handled _ fun stays => (sound.live c stays).1
  | commitClaim i faults => exact commitClaim_sound i faults sound
  | completeClaim i payload => exact completeClaim_sound i payload sound
  | sendData c streamId length =>
    simp only [step]
    split
    · exact sound
    · rename_i stays
      obtain ⟨here, served⟩ := sound.live c (Bool.eq_false_iff.mpr stays)
      apply handler_sound sound
      rw [hungry_congr (sendData_agentId ..)]
      refine handled_of_sound (fun _ => sendData_sound streamId length here)
        (fun _ => sendData_served streamId length served) ?_ ?_
      · intro agentId bound
        rw [sendData_agentId]
        exact bound
      · intro is
        exact absurd is stays
  | sendOther c =>
    simp only [step]
    split
    · exact sound
    · rename_i stays
      obtain ⟨here, served⟩ := sound.live c (Bool.eq_false_iff.mpr stays)
      apply handler_sound sound
      refine handled_of_sound (fun _ => ?_) (fun _ => served) (fun _ bound => bound) fun is => is
      refine ⟨?_, here.known, here.fresh, here.bound⟩
      intro stream member
      have sound' := here.streams stream member
      exact ⟨sound'.flagged, sound'.plain, sound'.alone, sound'.loaded, fun _ _ => by simp,
        sound'.watched⟩
  | completeWrite c =>
    simp only [step]
    split
    · exact sound
    · have written : Sound (withSession server c (onWrite c (now server) (server.sessions c))) := by
        apply handler_sound sound
        rw [hungry_congr (onWrite_agentId ..)]
        exact onWrite_handled fun stays => (sound.live c stays).1
      exact ⟨⟨written.backdrop.once, written.backdrop.timely, written.backdrop.asked,
        written.backdrop.claimsOpened, written.backdrop.opened⟩, written.live⟩
  | closeSession c =>
    simp only [step]
    exact handler_sound sound (handled_of_sound (by simp) (by simp) (fun _ bound => bound)
      fun _ => rfl)

theorem start_sound (store : Store) (clock : UtcSecond) : Sound (start store clock) := by
  refine ⟨⟨fun _ _ => Nat.zero_le _, ?_, ?_, ?_, ?_⟩, ?_⟩
  · intro claim member
    cases member
  · intro claim member
    cases member
  · intro claim member
    cases member
  · intro c stays
    cases stays
  · intro c stays
    cases stays

theorem run_sound {store : Store} {clock : UtcSecond} {actions : List Action}
    (announced : ∀ action ∈ actions, Announces action) :
    Sound (Runs.run step (start store clock) actions) := by
  apply Runs.run_invariant Sound (fun _ action => Announces action)
    (fun _ _ sound announces => step_sound announces sound) _ (start_sound store clock)
  intro before action after split
  exact announced action (by rw [split]; simp)

/-- Nothing that could wake the session is left: no notification, no claim for its
    streams, no unsent byte and no outstanding write. -/
structure Settled (server : Server) (c : String) : Prop where
  noNotification : (server.sessions c).notifications = 0
  noClaim : ∀ claim ∈ server.claims, claim.connectionId = c →
    ∀ stream ∈ (server.sessions c).streams.rows, claim.streamId ≠ stream.streamId
  allSent : ∀ stream ∈ (server.sessions c).streams.rows,
    stream.responseOffset = stream.responseBody.length
  noWrite : (server.sessions c).pendingWrites = []

theorem settled_idle {server : Server} {c : String} (sound : Sound server)
    (stays : (server.sessions c).closed = false) (settled : Settled server c)
    {stream : StreamState} (member : stream ∈ (server.sessions c).streams.rows) :
    stream.commandClaimInFlight = false ∧ stream.commandDataInFlight = false ∧
      ¬ Awaited c server.claims stream.streamId := by
  have here := (sound.live c stays).1.streams stream member
  have none_on : ∀ claim ∈ server.claims, claimOn c stream.streamId claim = false := by
    intro claim asked
    rw [Bool.eq_false_iff]
    intro on
    exact settled.noClaim claim asked (claimOn_iff.mp on).1 stream member (claimOn_iff.mp on).2
  refine ⟨?_, ?_, ?_⟩
  · have count := here.flagged
    rw [underWay_eq_zero.mpr none_on] at count
    rw [Bool.eq_false_iff]
    intro flag
    rw [if_pos flag] at count
    cases count
  · rw [Bool.eq_false_iff]
    intro data
    exact here.flushed (here.loaded.mp data) (settled.allSent stream member) settled.noWrite
  · rintro ⟨claim, asked, on, _⟩
    rw [none_on claim asked] at on
    cases on

def newYear : UtcSecond :=
  { noon with
    month := 1
    hour := 0
    month_pos := noon.day_pos
    month_le := by decide
    day_le := by decide
    hour_lt := by decide }

/-- A stream asks, the store has nothing, and the stream hears so. -/
def idleRun : List Action :=
  [.openSession "conn-1", .bindAgent "conn-1" "agent-1",
    .openStream "conn-1" 1 "GET" kControlCommandsPath, .commitClaim 0 [], .completeClaim 0 []]

end CommandWakeups
