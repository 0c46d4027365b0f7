import ZFleet.Server.ControlService
import ZFleet.Server.TaskOperations

/-!
The task states as the server moves them when agents report through the control
service. The handler of a task result asks only whether the task is finished, so a
result for a task that is not running skips states of the contract; without such
results every change is a transition of the contract.
-/
namespace TaskLifecycle
open Message KeyedTables Transactions Ledgers Schema TaskStore TaskOperations ControlService

inductive ServerOp where
  | queue (op : QueueOp)
  | event (env : Environment) (event : AgentEvent)
  | agent (op : AgentOp)

def executeServer : ServerOp → Job Store Unit
  | .queue op => do let _ ← executeQueue op; pure ()
  | .event env event => do let _ ← handleAgentEvent env event; pure ()
  | .agent op => executeAgent op

structure ServerCall where
  op : ServerOp
  faults : List (Option Fault)

def serverStep (store : Store) (call : ServerCall) : Store :=
  (executeServer call.op ⟨store, call.faults⟩).2.state

/-- Every task whose state differs has made one transition of the contract, and a new
    task is queued. -/
structure OrderlyStep (before after : Store) : Prop where
  edge : ∀ k row row', before.tasks.find k = some row → after.tasks.find k = some row' →
    row.state ≠ row'.state → TaskEdge row.state row'.state
  birth : ∀ k row', before.tasks.find k = none → after.tasks.find k = some row' →
    row'.state = .queued

/-- The result event carries what its status asks for. -/
def CompleteResult (request : TaskResult) : Prop :=
  request.taskId ≠ "" ∧
    if request.status = .succeeded then request.result.isSome = true
    else request.error.isSome = true

/-- A task result of the agent and type of the task it is for, complete and well formed. -/
def Acceptable (store : Store) (request : TaskResult) : Prop :=
  ValidEnvelope (.taskResult request) ∧ CompleteResult request ∧
    ∃ row, store.tasks.find request.taskId = some row ∧ row.agentId = request.agentId ∧
      row.taskType = request.taskType

/-- A success or failure reported for a task that is still queued or only assigned. -/
def SkipsRunning (store : Store) : ServerOp → Prop
  | .event _ (.taskResult request) =>
    Acceptable store request ∧ request.status ≠ .expired ∧
      ∃ row, store.tasks.find request.taskId = some row ∧
        (row.state = .queued ∨ row.state = .assigned)
  | _ => False

/-! One call -/

theorem orderly_of_sameTasks {before after : Store} (same : SameTasks before after) :
    OrderlyStep before after where
  edge := by
    intro k row row' found found' differ
    rw [same.tasks, found] at found'
    cases found'
    exact absurd rfl differ
  birth := by
    intro k row' absent found
    rw [same.tasks, absent] at found
    cases found

/-- A change of the one row under a key is orderly when it follows an edge. -/
theorem orderly_of_moved {before after : Store} {j : String} {moved row₀ : TaskRow}
    (at_j : before.tasks.find j = some row₀)
    (find_after : ∀ k, after.tasks.find k = if k = j then some moved else before.tasks.find k)
    (edge : TaskEdge row₀.state moved.state) : OrderlyStep before after where
  edge := by
    intro k row row' found found' differ
    rw [find_after] at found'
    by_cases same : k = j
    · subst same
      rw [if_pos rfl] at found'
      rw [at_j] at found
      cases found
      cases found'
      exact edge
    · rw [if_neg same, found] at found'
      cases found'
      exact absurd rfl differ
  birth := by
    intro k row' absent found
    rw [find_after] at found
    by_cases same : k = j
    · rw [same, at_j] at absent
      cases absent
    · rw [if_neg same, absent] at found
      cases found

/-- An effect is orderly when the results it may record fit the states they meet. -/
theorem orderly_of_effect {created : List Task} {reported : List TaskResult}
    {before after : Store} (effect : TaskEffect created reported before after)
    (fits : ∀ request ∈ reported, ∀ row, before.tasks.find request.taskId = some row →
      isTerminalTaskState row.state = false →
      TaskEdge row.state (terminalState request.status)) : OrderlyStep before after := by
  cases effect with
  | quiet tasks _ =>
    constructor
    · intro k row row' found found' differ
      rw [tasks, found] at found'
      cases found'
      exact absurd rfl differ
    · intro k row' absent found
      rw [tasks, absent] at found
      cases found
  | queued rows queued inserted _ =>
    constructor
    · intro k row row' found found' differ
      rw [Table.insertAll_mono inserted found] at found'
      cases found'
      exact absurd rfl differ
    · intro k row' absent found
      rcases Table.find_insertAll inserted found with earlier | ⟨_, member⟩
      · rw [absent] at earlier
        cases earlier
      · exact queuedRowOf_state (queued row' member)
  | assigned row assignedAt found state tasks _ =>
    refine orderly_of_moved found (fun k => by rw [tasks, find_assignTask found state]) ?_
    rw [state]
    exact Or.inl rfl
  | started row occurredAt found state tasks _ =>
    refine orderly_of_moved found (fun k => by rw [tasks, find_startTask found state]) ?_
    rw [state]
    exact Or.inl rfl
  | finished row request resultBlob errorBlob recorded found open_row tasks _ =>
    exact orderly_of_moved found (fun k => by rw [tasks, find_finishTask found open_row])
      (fits request recorded row found open_row)

theorem checkStoredTask_none_iff (role agentId : String) (taskType : TaskType) (row : TaskRow) :
    checkStoredTask role agentId taskType row = none ↔
      row.agentId = agentId ∧ row.taskType = taskType ∧
        isTerminalTaskState row.state = false := by
  unfold checkStoredTask
  split
  · rename_i differs
    simp [differs]
  · split
    · rename_i differs
      simp [differs]
    · split
      · rename_i terminal
        simp [terminal]
      · simp_all

theorem handleTaskRunning_effect (env : Environment) (request : TaskRunning) :
    Evolves (TaskEffect [] []) (handleTaskRunning env request) := by
  unfold handleTaskRunning
  split
  · exact evolves_pure TaskEffect.refl _
  apply evolves_recover
  apply evolves_bind (findTaskById_sameTasks _) _ (fun _ _ => sameTasks_effect)
    fun _ y z same effect => TaskEffect.frame same effect (sameTasks_refl z)
  intro found
  cases found with
  | none => exact evolves_pure TaskEffect.refl _
  | some row =>
    cases check : checkStoredTask "running" request.agentId request.taskType row with
    | some refusal =>
      simp only [check]
      exact evolves_pure TaskEffect.refl _
    | none =>
      simp only [check]
      by_cases assigned : row.state ≠ .assigned
      · simp only [if_pos assigned]
        exact evolves_pure TaskEffect.refl _
      · simp only [if_neg assigned]
        exact evolves_bind (markTaskRunning_effect request)
          (fun _ => bind_sameTasks (AgentStore.recordAuditEvent_sameTasks _)
            fun _ => pure_sameTasks _)
          (fun _ _ effect => effect)
          fun x _ _ effect same => TaskEffect.frame (sameTasks_refl x) effect same

theorem acceptTaskResult_effect (env : Environment) (request : TaskResult)
    (resultBlob errorBlob : Option Blob) :
    Evolves (TaskEffect [] [request]) (acceptTaskResult env request resultBlob errorBlob) :=
  evolves_bind (recordTaskResult_effect request resultBlob errorBlob)
    (fun _ => bind_sameTasks (AgentStore.recordAuditEvent_sameTasks _) fun _ => pure_sameTasks _)
    (fun _ _ effect => effect)
    fun x _ _ effect same => TaskEffect.frame (sameTasks_refl x) effect same

/-- A result that is stored belongs to a task with its agent and type. -/
theorem storeTaskResult_effect (env : Environment) (request : TaskResult)
    (resultBlob errorBlob : Option Blob) {s s' : Session Store}
    {result : Except Failure ControlEventResult}
    (ran : storeTaskResult env request resultBlob errorBlob s = (result, s')) :
    SameTasks s.state s'.state ∨
    (∃ row, s.state.tasks.find request.taskId = some row ∧ row.agentId = request.agentId ∧
      row.taskType = request.taskType) ∧ TaskEffect [] [request] s.state s'.state := by
  rcases bind_cases ran with ⟨e, failed⟩ | ⟨found, looked, look, rest⟩
  · exact Or.inl (findTaskById_sameTasks _ s _ s' failed)
  obtain ⟨found_eq, unchanged⟩ := findTaskById_ok look
  rw [← unchanged]
  rw [← unchanged] at found_eq
  cases found with
  | none => exact Or.inl (pure_sameTasks _ looked _ s' rest)
  | some row =>
    cases check : checkStoredTask "result" request.agentId request.taskType row with
    | some refusal =>
      simp only [check] at rest
      exact Or.inl (pure_sameTasks _ looked _ s' rest)
    | none =>
      simp only [check] at rest
      obtain ⟨agent, kind, _⟩ := (checkStoredTask_none_iff _ _ _ _).mp check
      exact Or.inr ⟨⟨row, found_eq.symm, agent, kind⟩,
        acceptTaskResult_effect env request resultBlob errorBlob looked result s' rest⟩

theorem resultBlobs_ok_iff (env : Environment) (request : TaskResult) :
    (∃ blobs, resultBlobs env request = .ok blobs) ↔
      if request.status = .succeeded then request.result.isSome = true
      else request.error.isSome = true := by
  unfold resultBlobs
  by_cases succeeded : request.status = .succeeded
  · rw [if_pos succeeded, if_pos succeeded]
    cases request.result <;> simp
  · rw [if_neg succeeded, if_neg succeeded]
    cases request.error <;> simp

theorem handleTaskResult_effect (env : Environment) (request : TaskResult)
    {s s' : Session Store} {result : Except Failure ControlEventResult}
    (ran : handleTaskResult env request s = (result, s')) :
    SameTasks s.state s'.state ∨
    (CompleteResult request ∧ ∃ row, s.state.tasks.find request.taskId = some row ∧
      row.agentId = request.agentId ∧ row.taskType = request.taskType) ∧
      TaskEffect [] [request] s.state s'.state := by
  unfold handleTaskResult at ran
  by_cases unnamed : request.taskId = ""
  · rw [if_pos unnamed] at ran
    exact Or.inl (pure_sameTasks _ s _ s' ran)
  rw [if_neg unnamed] at ran
  cases blobs : resultBlobs env request with
  | error message =>
    rw [blobs] at ran
    exact Or.inl (pure_sameTasks _ s _ s' ran)
  | ok pair =>
    obtain ⟨resultBlob, errorBlob⟩ := pair
    rw [blobs] at ran
    have complete : CompleteResult request :=
      ⟨unnamed, (resultBlobs_ok_iff env request).mp ⟨_, blobs⟩⟩
    have final : s' = (storeTaskResult env request resultBlob errorBlob s).2 := by
      rw [← recover_state (storeTaskResult env request resultBlob errorBlob)
        (fun _ => internalError) s]
      exact (congrArg Prod.snd ran).symm
    rw [final]
    rcases storeTaskResult_effect env request resultBlob errorBlob (s := s) rfl with
      same | ⟨stored, effect⟩
    · exact Or.inl same
    · exact Or.inr ⟨⟨complete, stored⟩, effect⟩

/-- An event records a result only when it is one and is acceptable. -/
theorem handleAgentEvent_effect (env : Environment) (event : AgentEvent) (s : Session Store) :
    TaskEffect [] [] s.state (handleAgentEvent env event s).2.state ∨
    ∃ request, event = .taskResult request ∧ Acceptable s.state request ∧
      TaskEffect [] [request] s.state (handleAgentEvent env event s).2.state := by
  unfold handleAgentEvent
  by_cases refused : (validateEnvelope event).status ≠ .accepted
  · simp only [if_pos refused]
    exact Or.inl (TaskEffect.refl s.state)
  simp only [if_neg refused]
  have valid := (validateEnvelope_iff event).mp (not_not.mp refused)
  cases event with
  | registration payload =>
    exact Or.inl (sameTasks_effect (handleRegister_sameTasks env payload s _ _ rfl))
  | heartbeat payload =>
    exact Or.inl (sameTasks_effect (handleHeartbeat_sameTasks payload s _ _ rfl))
  | assetSnapshot payload =>
    exact Or.inl (sameTasks_effect (handleAssetSnapshot_sameTasks env payload s _ _ rfl))
  | taskRunning payload => exact Or.inl (handleTaskRunning_effect env payload s _ _ rfl)
  | taskResult payload =>
    rcases handleTaskResult_effect env payload (s := s) rfl with
      same | ⟨⟨complete, stored⟩, effect⟩
    · exact Or.inl (sameTasks_effect same)
    · exact Or.inr ⟨payload, rfl, ⟨valid, complete, stored⟩, effect⟩

/-- An acceptable result that does not skip fits whatever unfinished state it meets. -/
theorem fits_unless_skipping {store : Store} {env : Environment} {request : TaskResult}
    (acceptable : Acceptable store request)
    (in_order : ¬ SkipsRunning store (.event env (.taskResult request))) (row : TaskRow)
    (found : store.tasks.find request.taskId = some row)
    (open_row : isTerminalTaskState row.state = false) :
    TaskEdge row.state (terminalState request.status) := by
  by_cases expired : request.status = .expired
  · rw [expired]
    revert open_row
    cases row.state <;> decide
  · have running : ¬ (row.state = .queued ∨ row.state = .assigned) := fun early =>
      in_order ⟨acceptable, expired, row, found, early⟩
    revert open_row running expired
    cases row.state <;> cases request.status <;> decide

/-- What a call of the server does to the tasks. -/
theorem serverStep_effect (store : Store) (call : ServerCall) :
    ∃ created reported, TaskEffect created reported store (serverStep store call) ∧
      ∀ request ∈ reported, Acceptable store request ∧
        ∃ env, call.op = .event env (.taskResult request) := by
  obtain ⟨op, faults⟩ := call
  cases op with
  | queue op =>
    exact ⟨_, [], evolves_discard () (queueOp_effect op) ⟨store, faults⟩ _ _ rfl, by simp⟩
  | event env event =>
    have final : serverStep store ⟨.event env event, faults⟩ =
        (handleAgentEvent env event ⟨store, faults⟩).2.state :=
      congrArg Session.state (discard_state (handleAgentEvent env event) () ⟨store, faults⟩)
    rw [final]
    rcases handleAgentEvent_effect env event ⟨store, faults⟩ with
      effect | ⟨request, rfl, acceptable, effect⟩
    · exact ⟨[], [], effect, by simp⟩
    · refine ⟨[], [request], effect, ?_⟩
      intro request' member
      obtain rfl := List.mem_singleton.mp member
      exact ⟨acceptable, env, rfl⟩
  | agent op =>
    exact ⟨[], [], sameTasks_effect (agentOp_sameTasks op ⟨store, faults⟩ _ _ rfl), by simp⟩

theorem serverStep_orderly (store : Store) (call : ServerCall)
    (in_order : ¬ SkipsRunning store call.op) : OrderlyStep store (serverStep store call) := by
  obtain ⟨created, reported, effect, recorded⟩ := serverStep_effect store call
  apply orderly_of_effect effect
  intro request member
  obtain ⟨acceptable, env, is_event⟩ := recorded request member
  rw [is_event] at in_order
  exact fits_unless_skipping acceptable in_order

/-! A result that skips a state is stored all the same. -/

theorem storeTaskResult_stores (env : Environment) {request : TaskResult}
    (resultBlob errorBlob : Option Blob) {store : Store} {row : TaskRow}
    (found : store.tasks.find request.taskId = some row)
    (agent : row.agentId = request.agentId) (kind : row.taskType = request.taskType)
    (open_row : isTerminalTaskState row.state = false)
    (unrecorded : store.taskResults.find request.taskId = none) :
    (storeTaskResult env request resultBlob errorBlob ⟨store, []⟩).2.state.tasks =
      finishTask store.tasks request := by
  have looked : Succeeds (findTaskById request.taskId) store (some row) store := by
    rw [← found]
    exact succeeds_retry busyRetryAttempts (succeeds_query _ store)
  obtain ⟨results, fresh⟩ := Option.isSome_iff_exists.mp
    ((Table.insert_isSome_iff store.taskResults
      (taskResultRow request resultBlob errorBlob)).mpr unrecorded)
  have recorded := recordTaskResult_succeeds found open_row fresh
  have check : checkStoredTask "result" request.agentId request.taskType row = none :=
    (checkStoredTask_none_iff _ _ _ _).mpr ⟨agent, kind, open_row⟩
  unfold storeTaskResult
  rw [succeeds_then looked]
  simp only [check]
  unfold acceptTaskResult
  rw [succeeds_then recorded]
  have audited : Evolves SameTasks (do
      AgentStore.recordAuditEvent <| auditEvent env 0 (auditEventForTaskResult request.status)
        request.requestId request.agentId "success" [("transport", "http2"),
          ("task_id", request.taskId), ("task_type", request.taskType.toString),
          ("status", request.status.toString)]
      pure (accepted "accepted")) :=
    bind_sameTasks (AgentStore.recordAuditEvent_sameTasks _) fun _ => pure_sameTasks _
  exact (audited ⟨recordedStore request results store, []⟩ _ _ rfl).tasks

theorem skipping_event_stores {store : Store} (balanced : Balanced taskRules (ledgerOf store))
    {env : Environment} {request : TaskResult}
    (skips : SkipsRunning store (.event env (.taskResult request))) :
    (serverStep store ⟨.event env (.taskResult request), []⟩).tasks =
      finishTask store.tasks request := by
  obtain ⟨⟨valid, complete, row, found, agent, kind⟩, _, row', found', early⟩ := skips
  obtain rfl : row = row' := Option.some.inj (found.symm.trans found')
  have open_row : isTerminalTaskState row.state = false := by
    rcases early with state | state <;> rw [state] <;> rfl
  have unrecorded : store.taskResults.find request.taskId = none := by
    apply balanced.no_outcome
    intro state phase
    rw [ledgerOf_phase found] at phase
    cases phase
    rw [taskRules_closed_iff, open_row]
    simp
  have accepts : ¬ (validateEnvelope (.taskResult request)).status ≠ .accepted :=
    not_not.mpr ((validateEnvelope_iff _).mpr valid)
  obtain ⟨⟨resultBlob, errorBlob⟩, blobs⟩ := (resultBlobs_ok_iff env request).mpr complete.2
  change ((handleAgentEvent env (.taskResult request) >>= fun _ => pure ())
    ⟨store, []⟩).2.state.tasks = _
  rw [discard_state]
  unfold handleAgentEvent
  simp only [if_neg accepts]
  unfold handleTaskResult
  rw [if_neg complete.1, blobs]
  change (recover (storeTaskResult env request resultBlob errorBlob) (fun _ => internalError)
    ⟨store, []⟩).2.state.tasks = _
  rw [recover_state]
  exact storeTaskResult_stores env resultBlob errorBlob found agent kind open_row unrecorded

theorem skipping_breaks_order {store : Store} (balanced : Balanced taskRules (ledgerOf store))
    {op : ServerOp} (skips : SkipsRunning store op) :
    ¬ OrderlyStep store (serverStep store ⟨op, []⟩) := by
  intro orderly
  cases op with
  | event env event =>
    cases event with
    | taskResult request =>
      have tasks := skipping_event_stores balanced skips
      obtain ⟨_, unexpired, row, found, early⟩ := skips
      have open_row : isTerminalTaskState row.state = false := by
        rcases early with state | state <;> rw [state] <;> rfl
      have finished : (serverStep store ⟨.event env (.taskResult request), []⟩).tasks.find
          request.taskId = some (finish request row) := by
        rw [tasks, find_finishTask found open_row]
        exact if_pos rfl
      have no_edge : row.state ≠ terminalState request.status ∧
          ¬ TaskEdge row.state (terminalState request.status) := by
        revert unexpired early
        cases row.state <;> cases request.status <;> decide
      exact no_edge.2 (orderly.edge request.taskId row (finish request row) found finished
        no_edge.1)
    | _ => cases skips
  | _ => cases skips

/-! Runs -/

theorem server_balanced (calls : List ServerCall) :
    Balanced taskRules (ledgerOf (Runs.run serverStep Store.empty calls)) := by
  apply Runs.run_invariant_always (fun store => Balanced taskRules (ledgerOf store))
  · intro store call balanced
    obtain ⟨_, _, effect, _⟩ := serverStep_effect store call
    exact steps_balanced (effect_refines effect) balanced
  · exact empty_balanced

def stateOf (k : String) (store : Store) : Option TaskState :=
  (store.tasks.find k).map TaskRow.state

/-- Every step of the run follows the contract. -/
def FollowsContract (calls : List ServerCall) : Prop :=
  Runs.AllSteps serverStep Store.empty calls fun store call =>
    OrderlyStep store (serverStep store call)

/-- A task that succeeded or failed was assigned at one point of the run and running at a
    later one. -/
def ThroughRunning (calls : List ServerCall) : Prop :=
  ∀ k, stateOf k (Runs.run serverStep Store.empty calls) = some .succeeded ∨
      stateOf k (Runs.run serverStep Store.empty calls) = some .failed →
    ∃ first second rest, calls = first ++ (second ++ rest) ∧
      stateOf k (Runs.run serverStep Store.empty first) = some .assigned ∧
      stateOf k (Runs.run serverStep Store.empty (first ++ second)) = some .running

/-- No step of the run reports a success or failure past the running state. -/
def NeverSkips (calls : List ServerCall) : Prop :=
  Runs.AllSteps serverStep Store.empty calls fun store call => ¬ SkipsRunning store call.op

theorem follows_of_neverSkips {calls : List ServerCall} (never : NeverSkips calls) :
    FollowsContract calls :=
  Runs.allSteps_mono never fun store call in_order => serverStep_orderly store call in_order

/-- A task enters a state that is not queued by an edge from a state it was in. -/
theorem entered_by_edge {calls : List ServerCall} (follows : FollowsContract calls) {k : String}
    {target : TaskState} (not_queued : target ≠ .queued)
    (ends : stateOf k (Runs.run serverStep Store.empty calls) = some target) :
    ∃ before rest start, calls = before ++ rest ∧
      stateOf k (Runs.run serverStep Store.empty before) = some start ∧
      TaskEdge start target := by
  obtain ⟨before, call, after, split, elsewhere, enters⟩ :=
    Runs.observable_entered (stateOf k) ends (by simp [stateOf, Store.empty])
  have orderly := follows before call after split
  rw [Runs.run_snoc] at enters
  obtain ⟨row', found', state'⟩ := Option.map_eq_some_iff.mp enters
  cases found : (Runs.run serverStep Store.empty before).tasks.find k with
  | none =>
    have born := orderly.birth k row' found found'
    rw [state'] at born
    exact absurd born not_queued
  | some row =>
    have start : stateOf k (Runs.run serverStep Store.empty before) = some row.state := by
      simp [stateOf, found]
    have differ : row.state ≠ row'.state := by
      intro same
      rw [start, same, state'] at elsewhere
      exact elsewhere rfl
    refine ⟨before, call :: after, row.state, split, start, ?_⟩
    rw [← state']
    exact orderly.edge k row row' found found' differ

theorem throughRunning_of_follows {calls : List ServerCall} (follows : FollowsContract calls) :
    ThroughRunning calls := by
  intro k ended
  obtain ⟨second, rest, split, running⟩ : ∃ before rest, calls = before ++ rest ∧
      stateOf k (Runs.run serverStep Store.empty before) = some .running := by
    rcases ended with ends | ends
    · obtain ⟨before, rest, start, split, state, edge⟩ :=
        entered_by_edge follows (by decide) ends
      have running : start = .running := by
        revert edge
        cases start <;> decide
      exact ⟨before, rest, split, by rw [state, running]⟩
    · obtain ⟨before, rest, start, split, state, edge⟩ :=
        entered_by_edge follows (by decide) ends
      have running : start = .running := by
        revert edge
        cases start <;> decide
      exact ⟨before, rest, split, by rw [state, running]⟩
  have earlier : FollowsContract second := by
    rw [split] at follows
    exact Runs.allSteps_prefix follows
  obtain ⟨first, between, start, split', state, edge⟩ :=
    entered_by_edge earlier (by decide) running
  have assigned : start = .assigned := by
    revert edge
    cases start <;> decide
  refine ⟨first, between, rest, by rw [split, split', List.append_assoc], ?_, ?_⟩
  · rw [state, assigned]
  · rw [← split']
    exact running

/-- A run without skipping results follows the contract, whatever the engine answers; when
    the engine lets every statement through, only such runs do. -/
theorem contract_followed_iff_never_skips (calls : List ServerCall) :
    (NeverSkips calls → FollowsContract calls ∧ ThroughRunning calls) ∧
    ((∀ call ∈ calls, call.faults = []) →
      (FollowsContract calls ∧ ThroughRunning calls ↔ NeverSkips calls)) := by
  have enough : NeverSkips calls → FollowsContract calls ∧ ThroughRunning calls := fun never =>
    ⟨follows_of_neverSkips never, throughRunning_of_follows (follows_of_neverSkips never)⟩
  refine ⟨enough, fun reliable => ⟨?_, enough⟩⟩
  rintro ⟨follows, _⟩ before call after split skips
  have orderly := follows before call after split
  obtain ⟨op, faults⟩ := call
  obtain rfl : faults = [] := reliable ⟨op, faults⟩ (by rw [split]; simp)
  exact skipping_breaks_order (server_balanced before) skips orderly

def plainEnvironment : Environment where
  auditId := fun n => if n = 0 then "audit-0" else if n = 1 then "audit-1" else "audit-2"
  auditTime := fun _ => "2026-03-01T12:00:00Z"
  now := "2026-03-01T12:00:00Z"
  sha256BytesHex := fun token => token
  serializeAgentEventBlob := fun _ => ""
  serializeTaskResultDataBlob := fun _ => ""
  serializeTaskErrorBlob := fun _ => ""

def enqueueCall : ServerCall where
  op := .queue (.enqueueTask {
    protocolVersion := "v1", taskId := "task-1", agentId := "agent-1"
    taskType := .collectBasicInventory, capabilityLevel := .readonly
    createdAt := "2026-03-01T12:00:00Z", expiresAt := "2026-03-01T13:00:00Z"
    input := .collectBasicInventory })
  faults := []

def succeededCall : ServerCall where
  op := .event plainEnvironment (.taskResult {
    protocolVersion := "v1", requestId := "request-1", taskId := "task-1"
    agentId := "agent-1", taskType := .collectBasicInventory
    occurredAt := "2026-03-01T12:00:10Z", status := .succeeded
    result := some (.collectBasicInventory {
      hostname := "host", os := "linux", arch := "x86_64", agentVersion := "0.1.0" })
    error := none })
  faults := []

/-- The success of a task that was never handed out is accepted and stored. -/
theorem queued_task_succeeds : ¬ FollowsContract [enqueueCall, succeededCall] := by
  intro follows
  have orderly := follows [enqueueCall] succeededCall [] rfl
  have edge := orderly.edge "task-1" _ _ rfl rfl (by decide)
  revert edge
  decide

end TaskLifecycle
