import ZFleet.Server.CommandPlaces

/-!
What becomes of the tasks that claims hand out, over whole runs. A task is handed out once
and is in one place until an action loses it; nothing ever puts it back into the queue.
-/
namespace CommandDelivery
open Time Message KeyedTables Schema FrameCodec CommandStream CommandSessions CommandWakeups
open CommandPlaces Tallies
open Transactions hiding Session
open TaskStore hiding start

variable {taskId c : String}

/-! Runs -/

def handedOut (server : Server) (actions : List Action) : List (String × String) :=
  gathered step handsOut server actions

def lostIn (taskId : String) (server : Server) (actions : List Action) : Nat :=
  tally step (loses taskId) server actions

theorem run_places {server : Server} (steady : Steady server) (actions : List Action) :
    places taskId (Runs.run step server actions) + lostIn taskId server actions =
      places taskId server +
        (handedOut server actions).countP fun given => given.2 = taskId := by
  rw [handedOut, countP_gathered]
  exact run_conserves (fun _ action => step_steady action) (fun _ action => step_places action)
    steady actions

theorem run_store (server : Server) (actions : List Action) :
    ∃ calls, (Runs.run step server actions).store =
      Runs.run TaskOperations.step server.store calls := by
  induction actions generalizing server with
  | nil => exact ⟨[], rfl⟩
  | cons action actions ih =>
    obtain ⟨calls, later⟩ := ih (step server action)
    refine ⟨callsOf server action ++ calls, ?_⟩
    rw [Runs.run_cons, later, step_store, Runs.run_append]

theorem handsOut_call {server : Server} {action : Action} {given : String × String}
    (handed : given ∈ handsOut server action) :
    ∃ i claim faults task, action = .commitClaim i faults ∧ unanswered server i = some claim ∧
      TaskOperations.reply server.store (claimCall claim faults) = .ok (some task) ∧
      given = (claim.agentId, task.taskId) ∧
      (step server action).store =
        TaskOperations.step server.store (claimCall claim faults) := by
  cases action with
  | commitClaim i faults =>
    cases waits : unanswered server i with
    | none =>
      rw [handsOut_answered faults waits] at handed
      cases handed
    | some claim =>
      rw [handsOut_unanswered faults waits] at handed
      unfold givenBy at handed
      split at handed
      · rename_i task returned
        refine ⟨i, claim, faults, task, rfl, waits, returned, List.mem_singleton.mp handed, ?_⟩
        rw [commitClaim_unanswered faults waits]
        rfl
      · cases handed
  | _ => cases handed

/-- The task is known, belongs to the agent and has left the queue. -/
def Gone (agentId taskId : String) (store : Store) : Prop :=
  ∃ row, store.tasks.find taskId = some row ∧ row.agentId = agentId ∧ row.state ≠ .queued

theorem gone_run {agentId : String} {store : Store} (gone : Gone agentId taskId store)
    (calls : List TaskOperations.Call) :
    Gone agentId taskId (Runs.run TaskOperations.step store calls) := by
  obtain ⟨row, found, agent, left⟩ := gone
  obtain ⟨row', found', same⟩ := TaskOperations.run_keeps_identity store calls found
  obtain ⟨state, phase, left'⟩ := Ledgers.steps_left (TaskOperations.run_refines store calls)
    (TaskOperations.ledgerOf_phase found) left
  refine ⟨row', found', (congrArg Task.agentId same.1).trans agent, ?_⟩
  rw [TaskOperations.ledgerOf_phase found'] at phase
  rw [Option.some.inj phase]
  exact left'

theorem gone_later {agentId : String} {server : Server} (gone : Gone agentId taskId server.store)
    (actions : List Action) : Gone agentId taskId (Runs.run step server actions).store := by
  obtain ⟨calls, later⟩ := run_store server actions
  rw [later]
  exact gone_run gone calls

theorem handsOut_queued {server : Server} {action : Action} {given : String × String}
    (handed : given ∈ handsOut server action) :
    ∃ row, server.store.tasks.find given.2 = some row ∧ row.state = .queued := by
  obtain ⟨i, claim, faults, task, rfl, waits, returned, rfl, _⟩ := handsOut_call handed
  rcases ClaimSafety.claim_answer rfl returned with ⟨nothing, _⟩ | ⟨row, selected, answer, _⟩
  · cases nothing
  · obtain ⟨found, queued, _⟩ := selectClaimable_queued selected
    cases answer
    exact ⟨row, found, queued⟩

theorem handsOut_gone {server : Server} {action : Action} {given : String × String}
    (handed : given ∈ handsOut server action) :
    Gone given.1 given.2 (step server action).store := by
  obtain ⟨i, claim, faults, task, rfl, waits, returned, rfl, after⟩ := handsOut_call handed
  rcases ClaimSafety.claim_answer rfl returned with ⟨nothing, _⟩ | ⟨row, selected, answer, tasks⟩
  · cases nothing
  · obtain ⟨found, queued, _⟩ := selectClaimable_queued selected
    obtain ⟨_, eligible⟩ := selectClaimable_mem selected
    simp only [claimable, Bool.and_eq_true, decide_eq_true_eq] at eligible
    cases answer
    rw [after]
    refine ⟨assign claim.assignedAt row, ?_, eligible.1.1.1, by simp [assign]⟩
    rw [tasks, TaskOperations.find_assignTask found queued]
    exact if_pos rfl

theorem not_handed_once_gone {agentId : String} {server : Server}
    (gone : Gone agentId taskId server.store) (actions : List Action) :
    (handedOut server actions).countP (fun given => given.2 = taskId) = 0 := by
  rw [List.countP_eq_zero]
  intro given member same
  obtain ⟨before, action, after, _, handed⟩ := mem_gathered.mp member
  obtain ⟨row, found, queued⟩ := handsOut_queued handed
  obtain ⟨row', found', _, left⟩ := gone_later gone before
  rw [of_decide_eq_true same, found'] at found
  cases found
  exact left queued

/-- No task is handed out twice. -/
theorem handed_once (server : Server) (actions : List Action) (taskId : String) :
    (handedOut server actions).countP (fun given => given.2 = taskId) ≤ 1 := by
  induction actions generalizing server with
  | nil => exact Nat.zero_le _
  | cons action actions ih =>
    have split : (handedOut server (action :: actions)).countP (fun given => given.2 = taskId) =
        hands taskId server action +
          (handedOut (step server action) actions).countP fun given => given.2 = taskId :=
      List.countP_append
    have later := ih (step server action)
    by_cases now_given : hands taskId server action = 0
    · omega
    · obtain ⟨given, member, same⟩ := List.countP_pos_iff.mp (Nat.pos_of_ne_zero now_given)
      have gone := handsOut_gone member
      rw [of_decide_eq_true same] at gone
      have none_later := not_handed_once_gone gone actions
      have one : hands taskId server action ≤ 1 := by
        obtain ⟨i, claim, faults, task, rfl, waits, returned, _⟩ := handsOut_call member
        unfold hands
        rw [handsOut_unanswered faults waits, returned]
        exact (List.countP_le_length).trans (le_refl _)
      omega

/-! Whose connection has the task -/

/-- The connection belongs to the agent of the task. -/
def Addressed (server : Server) (c taskId : String) : Prop :=
  c ∈ server.opened ∧
    ∃ agentId, (server.sessions c).agentId = some agentId ∧ Gone agentId taskId server.store

structure Kept (taskId : String) (server : Server) : Prop where
  claimed : ∀ claim ∈ server.claims, carries taskId claim = true →
    Addressed server claim.connectionId taskId
  holding : ∀ c, held taskId (server.sessions c) ≠ 0 → Addressed server c taskId
  written : ∀ command ∈ server.written, command.2.2 = taskId → Addressed server command.1 taskId

/-- The new state has no claim, session or write with the task that the old one had not. -/
theorem kept_onward {server after : Server} (kept : Kept taskId server)
    (onward : ∀ d, Addressed server d taskId → Addressed after d taskId)
    (claims : ∀ claim ∈ after.claims, claim ∈ server.claims ∨ carries taskId claim = false)
    (sessions : ∀ d, held taskId (after.sessions d) ≠ 0 →
      held taskId (server.sessions d) ≠ 0 ∨ Addressed after d taskId)
    (written : after.written = server.written) : Kept taskId after where
  claimed := by
    intro claim member carried
    rcases claims claim member with old | bare
    · exact onward _ (kept.claimed claim old carried)
    · rw [bare] at carried
      cases carried
  holding := by
    intro d holds
    rcases sessions d holds with held | addressed
    · exact onward d (kept.holding d held)
    · exact addressed
  written := by
    intro command member same
    rw [written] at member
    exact onward _ (kept.written command member same)

theorem addressed_withSession {server : Server} {result : Session × List Claim}
    (agent : ∀ agentId, (server.sessions c).agentId = some agentId →
      result.1.agentId = some agentId) {d : String} (addressed : Addressed server d taskId) :
    Addressed (withSession server c result) d taskId := by
  obtain ⟨seen, agentId, bound, gone⟩ := addressed
  refine ⟨seen, agentId, ?_, gone⟩
  change (Function.update server.sessions c result.1 d).agentId = _
  by_cases same : d = c
  · subst same
    rw [Function.update_self]
    exact agent agentId bound
  · rw [Function.update_of_ne same]
    exact bound

theorem withSession_kept {server : Server} {result : Session × List Claim} {lost gained : Nat}
    (kept : Kept taskId server)
    (agent : ∀ agentId, (server.sessions c).agentId = some agentId →
      result.1.agentId = some agentId)
    (handles : Handles taskId (server.sessions c) lost gained result)
    (gains : gained ≠ 0 → Addressed server c taskId) :
    Kept taskId (withSession server c result) := by
  apply kept_onward kept fun d => addressed_withSession agent
  · intro claim member
    rcases List.mem_append.mp member with old | new
    · exact Or.inl old
    · exact Or.inr (by simp [carries, handles.fresh claim new])
  · intro d holds
    change held taskId (Function.update server.sessions c result.1 d) ≠ 0 at holds
    by_cases same : d = c
    · subst same
      rw [Function.update_self] at holds
      have conserved := handles.held
      by_cases got : gained = 0
      · exact Or.inl (by omega)
      · exact Or.inr (addressed_withSession agent (gains got))
    · rw [Function.update_of_ne same] at holds
      exact Or.inl holds
  · rfl

theorem addressed_withStore {server : Server} (call : TaskOperations.Call) {d : String}
    (addressed : Addressed server d taskId) :
    Addressed (withStore server (TaskOperations.step server.store call)) d taskId := by
  obtain ⟨seen, agentId, bound, gone⟩ := addressed
  refine ⟨seen, agentId, ?_, gone_run gone [call]⟩
  change (postNotifications _ (server.sessions d)).agentId = _
  rw [postNotifications_agentId]
  exact bound

theorem withStore_kept {server : Server} (call : TaskOperations.Call)
    (kept : Kept taskId server) :
    Kept taskId (withStore server (TaskOperations.step server.store call)) := by
  apply kept_onward kept fun d => addressed_withStore call
  · exact fun claim member => Or.inl member
  · intro d holds
    change held taskId (postNotifications _ (server.sessions d)) ≠ 0 at holds
    rw [held_posted] at holds
    exact Or.inl holds
  · rfl

theorem openSession_kept {server : Server} (unseen : c ∉ server.opened)
    (kept : Kept taskId server) : Kept taskId (step server (.openSession c)) := by
  have others : ∀ d, d ∈ server.opened →
      (step server (.openSession c)).sessions d = server.sessions d := by
    intro d seen
    have other : d ≠ c := fun same => unseen (same ▸ seen)
    simp only [step, if_neg unseen]
    exact Function.update_of_ne other ..
  have onward : ∀ d, Addressed server d taskId →
      Addressed (step server (.openSession c)) d taskId := by
    intro d addressed
    obtain ⟨seen, agentId, bound, gone⟩ := addressed
    refine ⟨?_, agentId, by rw [others d seen]; exact bound, ?_⟩
    · simp only [step, if_neg unseen]
      exact List.mem_cons_of_mem c seen
    · simp only [step, if_neg unseen]
      exact gone
  apply kept_onward kept onward
  · intro claim member
    simp only [step, if_neg unseen] at member
    exact Or.inl member
  · intro d holds
    simp only [step, if_neg unseen] at holds
    by_cases same : d = c
    · subst same
      rw [Function.update_self] at holds
      exact absurd rfl holds
    · rw [Function.update_of_ne same] at holds
      exact Or.inl holds
  · simp only [step, if_neg unseen]

theorem commitClaim_kept {server : Server} (steady : Steady server) (i : Nat)
    (faults : List (Option Fault)) (kept : Kept taskId server) :
    Kept taskId (step server (.commitClaim i faults)) := by
  cases waits : unanswered server i with
  | none =>
    rw [commitClaim_answered waits]
    exact kept
  | some claim =>
    obtain ⟨found, pending⟩ := unanswered_some waits
    have given : ∀ task, TaskOperations.reply server.store (claimCall claim faults) =
        .ok (some task) → Gone claim.agentId task.taskId
          (TaskOperations.step server.store (claimCall claim faults)) := by
      intro task returned
      have member : (claim.agentId, task.taskId) ∈ handsOut server (.commitClaim i faults) := by
        simp [handsOut_unanswered faults waits, returned, givenBy]
      have gone := handsOut_gone member
      rw [commitClaim_unanswered faults waits] at gone
      exact gone
    rw [commitClaim_unanswered faults waits]
    have moved := withStore_kept (claimCall claim faults) kept
    constructor
    · intro other member carried
      rcases (Worklists.mem_replaced_iff found _ _).mp member with rfl | left
      · unfold carries at carried
        dsimp only at carried
        split at carried
        · rename_i task returned
          have gone := given task (Option.some.inj returned)
          rw [of_decide_eq_true carried] at gone
          have own := Worklists.mem_of_found found
          refine ⟨steady.sound.backdrop.claimsOpened claim own, claim.agentId, ?_, gone⟩
          change (postNotifications _ (server.sessions claim.connectionId)).agentId = _
          rw [postNotifications_agentId]
          exact steady.sound.backdrop.asked claim own
        · cases carried
      · exact moved.claimed other (List.mem_of_mem_eraseIdx left) carried
    · exact moved.holding
    · exact moved.written

theorem completeClaim_kept {server : Server} (steady : Steady server) (i : Nat)
    (payload : Bytes) (kept : Kept taskId server) :
    Kept taskId (step server (.completeClaim i payload)) := by
  simp only [step]
  cases found : server.claims[i]? with
  | none => exact kept
  | some claim =>
    dsimp only
    cases answered : claim.outcome with
    | none => exact kept
    | some outcome =>
      have own := Worklists.mem_of_found found
      have sound : (server.sessions claim.connectionId).closed = false →
          SessionSound claim.connectionId (server.sessions claim.connectionId) server.claims _ :=
        fun stays => (steady.sound.live _ stays).1
      obtain ⟨lost, gained, handles, gains, _⟩ := @onCommandClaimComplete_handles taskId _
        (now server) _ _ _ _ _ payload answered (claimOn_iff.mpr ⟨rfl, rfl⟩) own sound
      have others : Kept taskId { server with claims := server.claims.eraseIdx i } :=
        ⟨fun other member => kept.claimed other (List.mem_of_mem_eraseIdx member), kept.holding,
          kept.written⟩
      refine withSession_kept others ?_ handles ?_
      · intro agentId bound
        rw [onCommandClaimComplete_agentId]
        exact bound
      · exact fun got => kept.claimed claim own (gains got)

theorem completeWrite_kept {server : Server} (c : String) (kept : Kept taskId server) :
    Kept taskId (step server (.completeWrite c)) := by
  simp only [step]
  cases writes : (server.sessions c).pendingWrites with
  | nil => exact kept
  | cons ending others =>
    have agent : ∀ agentId, (server.sessions c).agentId = some agentId →
        (onWrite c (now server) (server.sessions c)).1.agentId = some agentId := by
      intro agentId bound
      rw [onWrite_agentId]
      exact bound
    have moved : Kept taskId (withSession server c (onWrite c (now server) (server.sessions c))) := by
      by_cases stays : (server.sessions c).closed = true
      · exact withSession_kept kept agent (onWrite_cancelled stays)
          fun none_got => absurd rfl none_got
      · exact withSession_kept kept agent (onWrite_handles writes (Bool.eq_false_iff.mpr stays))
          fun none_got => absurd rfl none_got
    refine ⟨moved.claimed, moved.holding, ?_⟩
    intro command member same
    rcases List.mem_append.mp member with old | new
    · exact addressed_withSession agent (kept.written command old same)
    · by_cases stays : (server.sessions c).closed = true
      · simp [stays] at new
      · cases ending with
        | none => simp at new
        | some ending =>
          simp only [stays, Bool.false_eq_true, if_false, Option.map_some, Option.toList_some,
            List.mem_singleton] at new
          subst new
          apply addressed_withSession agent (kept.holding c _)
          rw [held_open (Bool.eq_false_iff.mpr stays), writes, List.countP_cons]
          have ends : endsIn taskId (some ending) = true := decide_eq_true same
          rw [if_pos ends]
          omega

theorem step_kept {server : Server} (action : Action) (steady : Steady server)
    (kept : Kept taskId server) : Kept taskId (step server action) := by
  have gainless : ∀ d, (0 : Nat) ≠ 0 → Addressed server d taskId := fun _ got => absurd rfl got
  cases action with
  | storeCall call => exact withStore_kept call kept
  | tick time =>
    simp only [step]
    split
    · exact ⟨kept.claimed, kept.holding, kept.written⟩
    · exact kept
  | openSession c =>
    by_cases seen : c ∈ server.opened
    · simp only [step, if_pos seen]
      exact kept
    · exact openSession_kept seen kept
  | bindAgent c agentId =>
    simp only [step]
    split
    · exact kept
    · rename_i possible
      refine withSession_kept kept ?_ (handles_session (fun is => is) rfl) (gainless c)
      intro other bound
      simp [bound] at possible
  | openStream c streamId method path =>
    simp only [step]
    split
    · exact kept
    · refine withSession_kept kept ?_ (handleCommandHeadersEnd_handles streamId method path)
        (gainless c)
      intro agentId bound
      rw [handleCommandHeadersEnd_agentId]
      exact bound
  | closeStream c streamId =>
    simp only [step]
    split
    · exact kept
    · rename_i stays
      exact withSession_kept kept (fun _ bound => bound) (handles_session (fun is => is)
        (closeStream_held streamId (Bool.eq_false_iff.mpr stays))) (gainless c)
  | handleNotification c =>
    simp only [step]
    split
    · exact kept
    · refine withSession_kept kept ?_ (onTaskQueueChanged_handles _) (gainless c)
      intro agentId bound
      rw [onTaskQueueChanged_agentId]
      exact bound
  | commitClaim i faults => exact commitClaim_kept steady i faults kept
  | completeClaim i payload => exact completeClaim_kept steady i payload kept
  | sendData c streamId length =>
    simp only [step]
    split
    · exact kept
    · refine withSession_kept kept ?_ (sendData_handles streamId length) (gainless c)
      intro agentId bound
      rw [sendData_agentId]
      exact bound
  | sendOther c =>
    simp only [step]
    split
    · exact kept
    · exact withSession_kept kept (fun _ bound => bound) sendOther_handles (gainless c)
  | completeWrite c => exact completeWrite_kept c kept
  | closeSession c =>
    exact withSession_kept kept (fun _ bound => bound) closeSession_handles (gainless c)

/-! Delivery -/

/-- Nothing is under way: no claim, no unsent byte and no socket write. -/
structure Finished (server : Server) : Prop where
  noClaim : server.claims = []
  noByte : ∀ c, (server.sessions c).closed = false → ∀ stream ∈ (server.sessions c).streams.rows,
    stream.responseOffset = stream.responseBody.length
  noWrite : ∀ c, (server.sessions c).closed = false → (server.sessions c).pendingWrites = []

theorem finished_idle {server : Server} (finished : Finished server) (taskId : String) :
    underWayFor taskId server = 0 := by
  unfold underWayFor heldOpen
  rw [finished.noClaim, List.countP_nil, Nat.zero_add, List.sum_eq_zero_iff_forall_eq_nat]
  intro count member
  obtain ⟨c, _, rfl⟩ := List.mem_map.mp member
  by_cases stays : (server.sessions c).closed = true
  · exact held_closed stays
  · have live := Bool.eq_false_iff.mpr stays
    rw [held_open live, finished.noWrite c live, List.countP_nil, Nat.add_zero,
      List.countP_eq_zero]
    intro stream kept
    simp [unsent, finished.noByte c live stream kept]

theorem start_kept (store : Store) (clock : UtcSecond) : Kept taskId (start store clock) where
  claimed := by
    intro claim member
    cases member
  holding := fun _ holds => absurd rfl holds
  written := by
    intro command member
    cases member

/-- A stream is closed while its claim is under way: the claim comes back with a task that
    nobody takes. -/
def strayRun : List Action :=
  [.openSession "conn-1", .bindAgent "conn-1" "agent-1", .storeCall ClaimSafety.enqueueCall,
    .openStream "conn-1" 1 "GET" kControlCommandsPath, .commitClaim 0 [],
    .closeStream "conn-1" 1, .completeClaim 0 []]

example : lostIn "task-1" (start .empty newYear) strayRun = 1 := by decide

end CommandDelivery
