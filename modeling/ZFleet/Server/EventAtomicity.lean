import ZFleet.Server.ControlService
import ZFleet.Server.RegistrationTokens
import ZFleet.Server.TaskLifecycle
import ZFleet.Server.TaskOperations

/-!
What is left behind by an event that is not accepted. The handlers are sequences of store
calls that commit one by one, so an event leaves the tables alone unless a store call
throws behind the first call that changed one of them.
-/
namespace EventAtomicity
open Message KeyedTables Transactions Schema AgentStore TaskStore ControlService
open TaskOperations (find_startTask)
open TaskLifecycle (plainEnvironment)
open RegistrationTokens (SameTokens sameTokens_refl recordAuditEvent_sameTokens
  consumeRegistrationToken_ok consumeRegistrationToken_atomic)

/-- The agents, tasks, results, snapshots and tokens are the same. -/
structure Untouched (before after : Store) : Prop where
  agents : after.agents = before.agents
  tasks : after.tasks = before.tasks
  taskResults : after.taskResults = before.taskResults
  assetSnapshots : after.assetSnapshots = before.assetSnapshots
  registrationTokens : after.registrationTokens = before.registrationTokens

theorem untouched_refl (store : Store) : Untouched store store := ⟨rfl, rfl, rfl, rfl, rfl⟩

theorem untouched_of_eq {before after : Store} (same : after = before) :
    Untouched before after := same ▸ untouched_refl before

theorem untouched_trans (x y z : Store) (first : Untouched x y) (rest : Untouched y z) :
    Untouched x z :=
  ⟨rest.agents.trans first.agents, rest.tasks.trans first.tasks,
    rest.taskResults.trans first.taskResults, rest.assetSnapshots.trans first.assetSnapshots,
    rest.registrationTokens.trans first.registrationTokens⟩

/-! What the store calls do to these tables -/

theorem recordAuditEvent_untouched (event : AuditEventRow) :
    Evolves Untouched (recordAuditEvent event) :=
  submitWrite_evolves untouched_trans <|
    insertRow_evolves untouched_refl fun _ _ => ⟨rfl, rfl, rfl, rfl, rfl⟩

/-- A read, whether it answers or not. -/
def Unchanged (before after : Store) : Prop := after = before

theorem read_unchanged {α : Type} (read : Store → α) :
    Evolves Unchanged (executeWithBusyRetry (query read)) :=
  evolves_of_atomic (submitWrite_atomic (query_atomic read)) (fun _ => rfl) fun _ _ _ done => by
    obtain ⟨start, same, ran⟩ := submitWrite_ok (query_atomic read) done
    exact (query_ok ran).2.trans same

theorem recordAssetSnapshot_atomic (request : AssetSnapshot) (eventBlob : Blob) :
    Atomic (recordAssetSnapshot request eventBlob) := submitWrite_atomic (execute_atomic _)

theorem recordAssetSnapshot_ok {request : AssetSnapshot} {eventBlob : Blob}
    {s s' : Session Store} {u : Unit}
    (done : recordAssetSnapshot request eventBlob s = (.ok u, s')) :
    ∃ row, s'.state = { s.state with assetSnapshots := s.state.assetSnapshots ++ [row] } := by
  obtain ⟨start, same, ran⟩ := submitWrite_ok (execute_atomic _) done
  rw [← same]
  exact ⟨_, execute_ok ran⟩

/-- The answer accepts the event. -/
def Accepts (answer : Except Failure ControlEventResult) : Prop :=
  ∃ message, answer = .ok (accepted message)

/-- An event that is not accepted leaves the tables as they were. -/
def KeptOnRefusal (job : Job Store ControlEventResult) (s : Session Store) : Prop :=
  ¬ Accepts (job s).1 → Untouched s.state (job s).2.state

/-- The job does not accept its event and has changed the tables all the same. -/
def Breaks (job : Job Store ControlEventResult) (s : Session Store) : Prop :=
  ¬ Accepts (job s).1 ∧ ¬ Untouched s.state (job s).2.state

def Thrown {α : Type} (job : Job Store α) (s : Session Store) : Prop :=
  ∃ e s', job s = (.error e, s')

theorem kept_iff (job : Job Store ControlEventResult) (s : Session Store) :
    KeptOnRefusal job s ↔ ¬ Breaks job s := by
  unfold KeptOnRefusal Breaks
  rw [not_and_not_right]

/-- Answering an internal error does not put anything back. -/
theorem recovered_kept_iff (body : Job Store ControlEventResult) (s : Session Store) :
    KeptOnRefusal (recover body fun _ => internalError) s ↔ ¬ Breaks body s := by
  rw [kept_iff]
  unfold Breaks
  cases ran : body s with
  | mk result s' =>
    cases result with
    | ok result => rw [recover_of_ok ran]
    | error e =>
      rw [recover_of_error ran]
      have unaccepted : ¬ Accepts (.ok internalError) := by
        rintro ⟨message, same⟩
        cases same
      have unaccepted' : ¬ Accepts (.error e) := by
        rintro ⟨message, same⟩
        cases same
      simp only [unaccepted, unaccepted', not_false_eq_true, true_and]

theorem breaks_pure (result : ControlEventResult) (s : Session Store) :
    ¬ Breaks (pure result) s :=
  fun breaks => breaks.2 (untouched_refl s.state)

theorem not_accepts_error (e : Failure) : ¬ Accepts (.error e) := by
  rintro ⟨message, same⟩
  cases same

/-- A call that leaves the tables alone can be made first. -/
theorem breaks_quiet {α : Type} {first : Job Store α} {next : α → Job Store ControlEventResult}
    {s : Session Store} (quiet : Evolves Untouched first) :
    Breaks (first >>= next) s ↔ ∃ a middle, first s = (.ok a, middle) ∧ Breaks (next a) middle := by
  cases ran : first s with
  | mk result middle =>
    have untouched := quiet s result middle ran
    cases result with
    | error e =>
      have whole : (first >>= next) s = (.error e, middle) := bind_of_error ran
      unfold Breaks
      rw [whole]
      simp [untouched]
    | ok a =>
      have whole : (first >>= next) s = next a middle := bind_of_ok ran
      have same : Breaks (first >>= next) s ↔ Breaks (next a) middle := by
        unfold Breaks
        rw [whole]
        refine and_congr_right fun _ => not_congr ⟨fun all => ?_, untouched_trans _ _ _ untouched⟩
        exact ⟨all.agents.trans untouched.agents.symm, all.tasks.trans untouched.tasks.symm,
          all.taskResults.trans untouched.taskResults.symm,
          all.assetSnapshots.trans untouched.assetSnapshots.symm,
          all.registrationTokens.trans untouched.registrationTokens.symm⟩
      rw [same]
      constructor
      · intro breaks
        exact ⟨a, middle, rfl, breaks⟩
      · rintro ⟨a', middle', same, breaks⟩
        cases same
        exact breaks

/-- Behind a call whose change lasts every call has to succeed. -/
theorem breaks_commit {α : Type} {first : Job Store α} {next : α → Job Store ControlEventResult}
    {s : Session Store} (atomic : Atomic first)
    (lasting : ∀ a middle, first s = (.ok a, middle) →
      ¬ Untouched s.state (next a middle).2.state) :
    Breaks (first >>= next) s ↔
      ∃ a middle, first s = (.ok a, middle) ∧ ¬ Accepts (next a middle).1 := by
  cases ran : first s with
  | mk result middle =>
    cases result with
    | error e =>
      have whole : (first >>= next) s = (.error e, middle) := bind_of_error ran
      have same := atomic s e middle ran
      unfold Breaks
      rw [whole]
      simp [untouched_of_eq same]
    | ok a =>
      have whole : (first >>= next) s = next a middle := bind_of_ok ran
      have lasts := lasting a middle ran
      unfold Breaks
      rw [whole]
      constructor
      · rintro ⟨unaccepted, _⟩
        exact ⟨a, middle, rfl, unaccepted⟩
      · rintro ⟨a', middle', same, unaccepted⟩
        cases same
        exact ⟨unaccepted, lasts⟩

/-- A last call before the answer decides whether it accepts. -/
theorem unaccepted_last {α : Type} {last : Job Store α} {message : String} {s : Session Store} :
    ¬ Accepts ((last >>= fun _ => pure (accepted message)) s).1 ↔ Thrown last s := by
  cases ran : last s with
  | mk result s' =>
    cases result with
    | error e =>
      rw [bind_of_error ran]
      exact iff_of_true (not_accepts_error e) ⟨e, s', ran⟩
    | ok a =>
      rw [bind_of_ok ran]
      refine iff_of_false (fun unaccepted => unaccepted ⟨message, rfl⟩) ?_
      rintro ⟨e, s'', threw⟩
      rw [ran] at threw
      cases threw

/-- Whatever the last calls answer, they only write the audit trail. -/
theorem audited_untouched {α : Type} (event : AuditEventRow) (a : α) :
    Evolves Untouched (recordAuditEvent event >>= fun _ => pure a) :=
  evolves_trans (recordAuditEvent_untouched event)
    (fun _ => evolves_pure untouched_refl a) untouched_trans

/-- One changing call and its audit event: the event has to be written. -/
theorem breaks_commit_audit {first : Job Store Unit} (event : AuditEventRow) (message : String)
    {s : Session Store} (atomic : Atomic first)
    (touches : ∀ middle, first s = (.ok (), middle) → ¬ Untouched s.state middle.state) :
    Breaks (first >>= fun _ => recordAuditEvent event >>= fun _ => pure (accepted message)) s ↔
      ∃ middle, first s = (.ok (), middle) ∧ Thrown (recordAuditEvent event) middle := by
  rw [breaks_commit atomic]
  · constructor
    · rintro ⟨u, middle, ran, unaccepted⟩
      exact ⟨middle, ran, unaccepted_last.mp unaccepted⟩
    · rintro ⟨middle, ran, threw⟩
      exact ⟨(), middle, ran, unaccepted_last.mpr threw⟩
  · intro u middle ran untouched
    have unaudited := audited_untouched event (accepted message) middle _ _ rfl
    refine touches middle ran ?_
    exact ⟨unaudited.agents.symm.trans untouched.agents, unaudited.tasks.symm.trans untouched.tasks,
      unaudited.taskResults.symm.trans untouched.taskResults,
      unaudited.assetSnapshots.symm.trans untouched.assetSnapshots,
      unaudited.registrationTokens.symm.trans untouched.registrationTokens⟩

/-! Task events -/

/-- The stored task lets the agent report that it runs. -/
def MayStart (request : TaskRunning) (row : TaskRow) : Prop :=
  checkStoredTask "running" request.agentId request.taskType row = none ∧ row.state = .assigned

def runningAudit (env : Environment) (request : TaskRunning) : AuditEventRow :=
  auditEvent env 0 .taskRunning request.requestId request.agentId "success"
    [("transport", "http2"), ("task_id", request.taskId),
      ("task_type", request.taskType.toString), ("status", "running")]

/-- The task was set running, and its audit event is not written. -/
def RunningInterrupted (env : Environment) (request : TaskRunning) (s : Session Store) : Prop :=
  request.taskId ≠ "" ∧ ∃ row found marked,
    findTaskById request.taskId s = (.ok (some row), found) ∧ MayStart request row ∧
    markTaskRunning request found = (.ok (), marked) ∧
    Thrown (recordAuditEvent (runningAudit env request)) marked

theorem startTask_touches {request : TaskRunning} {before after : Session Store} {u : Unit}
    (done : markTaskRunning request before = (.ok u, after)) :
    after.state.tasks ≠ before.state.tasks := by
  obtain ⟨⟨row, found, state⟩, effect⟩ := markTaskRunning_ok done
  have key := Table.find_key found
  rw [← key] at found effect
  intro same
  rw [effect] at same
  have moved := find_startTask found state request.occurredAt row.taskId
  rw [if_pos rfl, show startTask before.state.tasks row.taskId request.occurredAt =
    before.state.tasks from same, found, Option.some.injEq] at moved
  have states := congrArg TaskRow.state moved
  rw [state] at states
  cases states

theorem findTaskById_untouched (taskId : String) : Evolves Untouched (findTaskById taskId) :=
  evolves_mono (read_unchanged _) fun _ _ same => untouched_of_eq same

theorem breaks_started (env : Environment) (request : TaskRunning) (s : Session Store) :
    Breaks (do
      markTaskRunning request
      recordAuditEvent (runningAudit env request)
      pure (accepted "running")) s ↔
    ∃ marked, markTaskRunning request s = (.ok (), marked) ∧
      Thrown (recordAuditEvent (runningAudit env request)) marked :=
  breaks_commit_audit _ _ (markTaskRunning_atomic request)
    fun _ mark untouched => startTask_touches mark untouched.tasks

theorem handleTaskRunning_kept_iff (env : Environment) (request : TaskRunning)
    (s : Session Store) :
    KeptOnRefusal (handleTaskRunning env request) s ↔ ¬ RunningInterrupted env request s := by
  unfold handleTaskRunning RunningInterrupted
  by_cases unnamed : request.taskId = ""
  · rw [if_pos unnamed, kept_iff]
    simp [breaks_pure, unnamed]
  rw [if_neg unnamed, recovered_kept_iff, breaks_quiet (findTaskById_untouched _)]
  apply not_congr
  rw [and_iff_right unnamed]
  constructor
  · rintro ⟨stored, found, read, breaks⟩
    cases stored with
    | none => exact absurd breaks (breaks_pure _ _)
    | some row =>
      dsimp only at breaks
      split at breaks
      · exact absurd breaks (breaks_pure _ _)
      · rename_i fits
        split at breaks
        · exact absurd breaks (breaks_pure _ _)
        · rename_i state
          obtain ⟨marked, mark, threw⟩ := (breaks_started env request found).mp breaks
          exact ⟨row, found, marked, read, ⟨fits, not_not.mp state⟩, mark, threw⟩
  · rintro ⟨row, found, marked, read, may, mark, threw⟩
    refine ⟨some row, found, read, ?_⟩
    simp only [may.1, may.2, ne_eq, not_true_eq_false, if_false]
    exact (breaks_started env request found).mpr ⟨marked, mark, threw⟩

def resultAudit (env : Environment) (request : TaskResult) : AuditEventRow :=
  auditEvent env 0 (auditEventForTaskResult request.status) request.requestId request.agentId
    "success" [("transport", "http2"), ("task_id", request.taskId),
      ("task_type", request.taskType.toString), ("status", request.status.toString)]

/-- The result is stored, and its audit event is not written. -/
def ResultInterrupted (env : Environment) (request : TaskResult) (s : Session Store) : Prop :=
  request.taskId ≠ "" ∧ ∃ resultBlob errorBlob row found recorded,
    resultBlobs env request = .ok (resultBlob, errorBlob) ∧
    findTaskById request.taskId s = (.ok (some row), found) ∧
    checkStoredTask "result" request.agentId request.taskType row = none ∧
    recordTaskResult request resultBlob errorBlob found = (.ok (), recorded) ∧
    Thrown (recordAuditEvent (resultAudit env request)) recorded

theorem finishTask_touches {request : TaskResult} {resultBlob errorBlob : Option Blob}
    {before after : Session Store} {u : Unit}
    (done : recordTaskResult request resultBlob errorBlob before = (.ok u, after)) :
    after.state.taskResults ≠ before.state.taskResults := by
  obtain ⟨row, results, _, _, fresh, effect⟩ := recordTaskResult_ok done
  intro same
  rw [effect] at same
  have inserted := (Table.insert_some fresh).2
  rw [show results = before.state.taskResults from same] at inserted
  simpa using congrArg List.length inserted

theorem breaks_recorded (env : Environment) (request : TaskResult)
    (resultBlob errorBlob : Option Blob) (s : Session Store) :
    Breaks (acceptTaskResult env request resultBlob errorBlob) s ↔
    ∃ recorded, recordTaskResult request resultBlob errorBlob s = (.ok (), recorded) ∧
      Thrown (recordAuditEvent (resultAudit env request)) recorded :=
  breaks_commit_audit _ _ (recordTaskResult_atomic _ _ _)
    fun _ record untouched => finishTask_touches record untouched.taskResults

theorem handleTaskResult_kept_iff (env : Environment) (request : TaskResult)
    (s : Session Store) :
    KeptOnRefusal (handleTaskResult env request) s ↔ ¬ ResultInterrupted env request s := by
  unfold handleTaskResult ResultInterrupted
  by_cases unnamed : request.taskId = ""
  · rw [if_pos unnamed, kept_iff]
    simp [breaks_pure, unnamed]
  rw [if_neg unnamed, and_iff_right unnamed]
  cases blobs : resultBlobs env request with
  | error message =>
    rw [kept_iff]
    simp [breaks_pure]
  | ok pair =>
    obtain ⟨resultBlob, errorBlob⟩ := pair
    dsimp only
    rw [recovered_kept_iff]
    unfold storeTaskResult
    rw [breaks_quiet (findTaskById_untouched _)]
    apply not_congr
    constructor
    · rintro ⟨stored, found, read, breaks⟩
      cases stored with
      | none => exact absurd breaks (breaks_pure _ _)
      | some row =>
        dsimp only at breaks
        split at breaks
        · exact absurd breaks (breaks_pure _ _)
        · rename_i fits
          obtain ⟨recorded, record, threw⟩ := (breaks_recorded env request _ _ found).mp breaks
          exact ⟨resultBlob, errorBlob, row, found, recorded, rfl, read, fits, record, threw⟩
    · rintro ⟨resultBlob', errorBlob', row, found, recorded, same, read, fits, record, threw⟩
      cases same
      refine ⟨some row, found, read, ?_⟩
      simp only [fits]
      exact (breaks_recorded env request _ _ found).mpr ⟨recorded, record, threw⟩

/-! Snapshots -/

def snapshotAudit (env : Environment) (request : AssetSnapshot) : AuditEventRow :=
  auditEvent env 0 .agentAssetSnapshot request.requestId request.agentId "success"
    [("transport", "http2"), ("status", "accepted"), ("hostname", request.hostname),
      ("os", request.os), ("arch", request.arch), ("agent_version", request.agentVersion)]

/-- The snapshot is stored, and its audit event is not written. -/
def SnapshotInterrupted (env : Environment) (request : AssetSnapshot) (s : Session Store) :
    Prop :=
  ∃ asked recorded, agentExists request.agentId s = (.ok true, asked) ∧
    recordAssetSnapshot request (env.serializeAgentEventBlob (.assetSnapshot request)) asked =
      (.ok (), recorded) ∧
    Thrown (recordAuditEvent (snapshotAudit env request)) recorded

theorem agentExists_untouched (agentId : String) : Evolves Untouched (agentExists agentId) :=
  evolves_mono (read_unchanged _) fun _ _ same => untouched_of_eq same

theorem findAgent_untouched (agentId : String) : Evolves Untouched (findAgent agentId) :=
  evolves_mono (read_unchanged _) fun _ _ same => untouched_of_eq same

theorem recordAssetSnapshot_touches {request : AssetSnapshot} {eventBlob : Blob}
    {before after : Session Store} {u : Unit}
    (done : recordAssetSnapshot request eventBlob before = (.ok u, after)) :
    after.state.assetSnapshots ≠ before.state.assetSnapshots := by
  obtain ⟨row, effect⟩ := recordAssetSnapshot_ok done
  rw [effect]
  simp

/-- The last two calls for a snapshot, whichever event it comes from. -/
theorem breaks_snapshot (request : AssetSnapshot) (eventBlob : Blob) (event : AuditEventRow)
    (s : Session Store) :
    Breaks (do
      recordAssetSnapshot request eventBlob
      recordAuditEvent event
      pure (accepted "accepted")) s ↔
    ∃ recorded, recordAssetSnapshot request eventBlob s = (.ok (), recorded) ∧
      Thrown (recordAuditEvent event) recorded :=
  breaks_commit_audit _ _ (recordAssetSnapshot_atomic _ _)
    fun _ record untouched => recordAssetSnapshot_touches record untouched.assetSnapshots

theorem handleAssetSnapshot_kept_iff (env : Environment) (request : AssetSnapshot)
    (s : Session Store) :
    KeptOnRefusal (handleAssetSnapshot env request) s ↔ ¬ SnapshotInterrupted env request s := by
  unfold handleAssetSnapshot SnapshotInterrupted
  rw [recovered_kept_iff, breaks_quiet (agentExists_untouched _)]
  apply not_congr
  constructor
  · rintro ⟨known, asked, read, breaks⟩
    cases known with
    | false => exact absurd (audited_untouched _ _ asked _ _ rfl) breaks.2
    | true =>
      obtain ⟨recorded, record, threw⟩ := (breaks_snapshot request _ _ asked).mp breaks
      exact ⟨asked, recorded, read, record, threw⟩
  · rintro ⟨asked, recorded, read, record, threw⟩
    exact ⟨true, asked, read, (breaks_snapshot request _ _ asked).mpr ⟨recorded, record, threw⟩⟩

/-! Registrations -/

def registerAudit (env : Environment) (request : AgentRegistration) : AuditEventRow :=
  auditEvent env 2 .agentRegister request.requestId request.agentId "success"
    [("transport", "http2"), ("status", "accepted"), ("agent_version", request.agentVersion),
      ("hostname", request.hostname), ("os", request.os), ("arch", request.arch)]

/-- The calls behind the upsert. -/
def recordRegistration (env : Environment) (request : AgentRegistration)
    (previous : Option AgentRow) : Job Store ControlEventResult := do
  let current ← findAgent request.agentId
  auditConfirmation env request previous current
  recordAssetSnapshot (registrationSnapshot request)
    (env.serializeAgentEventBlob (.registration request))
  recordAuditEvent (registerAudit env request)
  pure (accepted "accepted")

theorem register_eq (env : Environment) (request : AgentRegistration) :
    register env request = (findAgent request.agentId >>= fun previous =>
      upsertAgent request >>= fun _ => recordRegistration env request previous) := rfl

/-- The calls behind the use of a token. -/
def answerToken (env : Environment) (request : AgentRegistration) :
    Bool → Job Store ControlEventResult
  | false => do
    recordAuditEvent <| auditEvent env 0 .registrationTokenRejected request.requestId
      request.agentId "error" [("status", "rejected"), ("message", "invalid or expired token")]
    pure (invalidArgument "registration token is invalid or expired")
  | true => do
    recordAuditEvent <| auditEvent env 0 .registrationTokenUsed request.requestId
      request.agentId "success" [("status", "consumed"), ("platform", request.os),
        ("arch", request.arch)]
    register env request

def consumeFor (env : Environment) (request : AgentRegistration) (token : String) :
    Job Store Bool :=
  consumeRegistrationToken (env.sha256BytesHex token) request.os request.arch env.now

/-- The calls of a registration behind the first one. -/
def registerKnown (env : Environment) (request : AgentRegistration) (known : Bool) :
    Job Store ControlEventResult :=
  match known, request.registrationToken with
  | false, some token => consumeFor env request token >>= answerToken env request
  | _, _ => register env request

theorem handleRegister_eq (env : Environment) (request : AgentRegistration) :
    handleRegister env request =
      recover (agentExists request.agentId >>= registerKnown env request)
        fun _ => internalError := by
  unfold handleRegister consumeDueToken
  rw [bind_assoc_run]
  congr 2
  funext known
  unfold registerKnown
  cases known with
  | true => rfl
  | false =>
    cases request.registrationToken with
    | none => rfl
    | some token =>
      dsimp only
      rw [bind_assoc_run]
      congr 1
      funext used
      cases used <;> rfl

/-- The snapshot is stored, and the audit event of the registration is not written. -/
def RegistrationUnaudited (env : Environment) (request : AgentRegistration)
    (previous : Option AgentRow) (s : Session Store) : Prop :=
  ∃ current read confirmed recorded, findAgent request.agentId s = (.ok current, read) ∧
    auditConfirmation env request previous current read = (.ok (), confirmed) ∧
    recordAssetSnapshot (registrationSnapshot request)
      (env.serializeAgentEventBlob (.registration request)) confirmed = (.ok (), recorded) ∧
    Thrown (recordAuditEvent (registerAudit env request)) recorded

/-- The agent is new, or the registration changes its row. -/
def RegistrationChanges (request : AgentRegistration) (store : Store) : Prop :=
  upsertInto store.agents (registeredRow request) mergeRegistration
    (registered_agentId request) ≠ store.agents

/-- The agent was upserted; either that changed it and a later call throws, or the last
    call throws. -/
def UpsertInterrupted (env : Environment) (request : AgentRegistration) (s : Session Store) :
    Prop :=
  ∃ previous read upserted, findAgent request.agentId s = (.ok previous, read) ∧
    upsertAgent request read = (.ok (), upserted) ∧
    ((RegistrationChanges request s.state ∧
        Thrown (recordRegistration env request previous) upserted) ∨
      RegistrationUnaudited env request previous upserted)

/-- A token was used and a later call throws, or a hash names several tokens and a refused
    use charged them all, or no token was due and the upsert is interrupted. -/
def RegistrationInterrupted (env : Environment) (request : AgentRegistration)
    (s : Session Store) : Prop :=
  ∃ known asked, agentExists request.agentId s = (.ok known, asked) ∧
    match known, request.registrationToken with
    | false, some token =>
      (∃ used, consumeFor env request token asked = (.ok true, used) ∧
        Thrown (answerToken env request true) used) ∨
      (∃ refused, consumeFor env request token asked = (.ok false, refused) ∧
        1 < s.state.registrationTokens.changes
          (tokenAccepts (env.sha256BytesHex token) request.os request.arch env.now))
    | _, _ => UpsertInterrupted env request asked

theorem auditConfirmation_untouched (env : Environment) (request : AgentRegistration)
    (previous current : Option AgentRow) :
    Evolves Untouched (auditConfirmation env request previous current) := by
  unfold auditConfirmation
  split
  · exact recordAuditEvent_untouched _
  · exact evolves_pure untouched_refl _

theorem breaks_recordRegistration (env : Environment) (request : AgentRegistration)
    (previous : Option AgentRow) (s : Session Store) :
    Breaks (recordRegistration env request previous) s ↔
      RegistrationUnaudited env request previous s := by
  unfold recordRegistration RegistrationUnaudited
  rw [breaks_quiet (findAgent_untouched _)]
  constructor
  · rintro ⟨current, read, found, breaks⟩
    obtain ⟨u, confirmed, audited, breaks⟩ :=
      (breaks_quiet (auditConfirmation_untouched _ _ _ _)).mp breaks
    obtain ⟨recorded, record, threw⟩ := (breaks_snapshot _ _ _ confirmed).mp breaks
    exact ⟨current, read, confirmed, recorded, found, audited, record, threw⟩
  · rintro ⟨current, read, confirmed, recorded, found, audited, record, threw⟩
    exact ⟨current, read, found, (breaks_quiet (auditConfirmation_untouched _ _ _ _)).mpr
      ⟨(), confirmed, audited, (breaks_snapshot _ _ _ confirmed).mpr ⟨recorded, record, threw⟩⟩⟩

/-- A registration that does not throw accepts. -/
theorem recordRegistration_answers {env : Environment} {request : AgentRegistration}
    {previous : Option AgentRow} (s : Session Store) :
    ¬ Accepts (recordRegistration env request previous s).1 ↔
      Thrown (recordRegistration env request previous) s := by
  cases ran : recordRegistration env request previous s with
  | mk result s' =>
    cases result with
    | error e => exact iff_of_true (not_accepts_error e) ⟨e, s', ran⟩
    | ok result =>
      obtain ⟨_, _, _, rest⟩ := bind_ok ran
      obtain ⟨_, _, _, rest⟩ := bind_ok rest
      obtain ⟨_, _, _, rest⟩ := bind_ok rest
      obtain ⟨_, _, _, rest⟩ := bind_ok rest
      obtain ⟨rfl, rfl⟩ := pure_ok rest
      refine iff_of_false (fun unaccepted => unaccepted ⟨_, rfl⟩) ?_
      rintro ⟨e, s'', threw⟩
      rw [ran] at threw
      cases threw

/-- What the calls behind the upsert leave alone. -/
def SameAgentsAndTokens (before after : Store) : Prop :=
  after.agents = before.agents ∧ after.registrationTokens = before.registrationTokens

theorem sameAgentsAndTokens_trans (x y z : Store) (first : SameAgentsAndTokens x y)
    (rest : SameAgentsAndTokens y z) : SameAgentsAndTokens x z :=
  ⟨rest.1.trans first.1, rest.2.trans first.2⟩

theorem untouched_sameAgentsAndTokens (before after : Store) (same : Untouched before after) :
    SameAgentsAndTokens before after := ⟨same.agents, same.registrationTokens⟩

theorem recordRegistration_keeps (env : Environment) (request : AgentRegistration)
    (previous : Option AgentRow) :
    Evolves SameAgentsAndTokens (recordRegistration env request previous) := by
  refine evolves_trans (evolves_mono (findAgent_untouched _) untouched_sameAgentsAndTokens)
    (fun current => ?_) sameAgentsAndTokens_trans
  refine evolves_trans
    (evolves_mono (auditConfirmation_untouched _ _ _ _) untouched_sameAgentsAndTokens)
    (fun _ => ?_) sameAgentsAndTokens_trans
  refine evolves_trans ?_ (fun _ => evolves_mono (audited_untouched _ _)
    untouched_sameAgentsAndTokens) sameAgentsAndTokens_trans
  exact submitWrite_evolves sameAgentsAndTokens_trans
    (evolves_execute (fun _ => ⟨rfl, rfl⟩) fun _ => ⟨rfl, rfl⟩)

theorem upsertAgent_atomic (request : AgentRegistration) : Atomic (upsertAgent request) :=
  submitWrite_atomic (execute_atomic _)

theorem upsertAgent_ok {request : AgentRegistration} {s s' : Session Store} {u : Unit}
    (done : upsertAgent request s = (.ok u, s')) :
    s'.state = { s.state with
      agents := upsertInto s.state.agents (registeredRow request) mergeRegistration
        (mergeRegistration_agentId _) } := by
  obtain ⟨start, same, ran⟩ := submitWrite_ok (execute_atomic _) done
  rw [← same]
  exact execute_ok ran

theorem breaks_upsert (env : Environment) (request : AgentRegistration)
    (previous : Option AgentRow) (s : Session Store) :
    Breaks (upsertAgent request >>= fun _ => recordRegistration env request previous) s ↔
      ∃ upserted, upsertAgent request s = (.ok (), upserted) ∧
        ((RegistrationChanges request s.state ∧
          Thrown (recordRegistration env request previous) upserted) ∨
        RegistrationUnaudited env request previous upserted) := by
  cases ran : upsertAgent request s with
  | mk result upserted =>
    cases result with
    | error e =>
      have same := upsertAgent_atomic request s e upserted ran
      unfold Breaks
      rw [bind_of_error ran]
      simp [untouched_of_eq same]
    | ok u =>
      have effect := upsertAgent_ok ran
      have kept := recordRegistration_keeps env request previous upserted _ _ rfl
      unfold Breaks
      rw [bind_of_ok ran]
      constructor
      · rintro ⟨unaccepted, touched⟩
        refine ⟨upserted, rfl, ?_⟩
        by_cases changes : RegistrationChanges request s.state
        · exact Or.inl ⟨changes, (recordRegistration_answers upserted).mp unaccepted⟩
        · have same : Untouched s.state upserted.state :=
            ⟨by rw [effect]; exact not_not.mp changes, by rw [effect], by rw [effect],
              by rw [effect], by rw [effect]⟩
          refine Or.inr ((breaks_recordRegistration _ _ _ _).mp ⟨unaccepted, ?_⟩)
          exact fun rest => touched (untouched_trans _ _ _ same rest)
      · rintro ⟨upserted', same, broken⟩
        cases same
        rcases broken with ⟨changes, threw⟩ | unaudited
        · refine ⟨(recordRegistration_answers upserted).mpr threw, fun untouched => changes ?_⟩
          have agents := kept.1.symm.trans untouched.agents
          rw [effect] at agents
          exact agents
        · obtain ⟨unaccepted, touched⟩ := (breaks_recordRegistration _ _ _ _).mpr unaudited
          refine ⟨unaccepted, fun untouched => touched ⟨kept.1, ?_, ?_, ?_, kept.2⟩⟩
          · rw [untouched.tasks, effect]
          · rw [untouched.taskResults, effect]
          · rw [untouched.assetSnapshots, effect]

theorem breaks_register (env : Environment) (request : AgentRegistration) (s : Session Store) :
    Breaks (register env request) s ↔ UpsertInterrupted env request s := by
  unfold UpsertInterrupted
  rw [register_eq, breaks_quiet (findAgent_untouched _)]
  constructor
  · rintro ⟨previous, read, found, breaks⟩
    have same := read_unchanged _ s _ read found
    obtain ⟨upserted, upsert, broken⟩ := (breaks_upsert env request previous read).mp breaks
    rw [show read.state = s.state from same] at broken
    exact ⟨previous, read, upserted, found, upsert, broken⟩
  · rintro ⟨previous, read, upserted, found, upsert, broken⟩
    have same := read_unchanged _ s _ read found
    rw [← show read.state = s.state from same] at broken
    exact ⟨previous, read, found,
      (breaks_upsert env request previous read).mpr ⟨upserted, upsert, broken⟩⟩

/-- A use that charges a token changes the tokens. -/
theorem useToken_touches {s used : Session Store} {tokenHash platform arch usedAt : String}
    {answer : Bool}
    (done : consumeRegistrationToken tokenHash platform arch usedAt s = (.ok answer, used)) :
    Untouched s.state used.state ↔
      s.state.registrationTokens.changes (tokenAccepts tokenHash platform arch usedAt) = 0 := by
  obtain ⟨_, effect⟩ := consumeRegistrationToken_ok done
  constructor
  · intro untouched
    have same := untouched.registrationTokens
    rw [effect] at same
    by_contra charges
    obtain ⟨row, member, accepts⟩ := List.countP_pos_iff.mp (Nat.pos_of_ne_zero charges)
    have moved : (s.state.registrationTokens.update (tokenAccepts tokenHash platform arch usedAt)
        useToken useToken_tokenId).find row.tokenId = some (useToken row) := by
      rw [Table.find_update, Table.find_of_mem member, Option.map_some, if_pos accepts]
    rw [show s.state.registrationTokens.update (tokenAccepts tokenHash platform arch usedAt)
      useToken useToken_tokenId = s.state.registrationTokens from same, Table.find_of_mem member,
      Option.some.injEq] at moved
    have counts := congrArg RegistrationTokenRow.useCount moved
    simp only [useToken] at counts
    omega
  · intro none_accepts
    have unselected : ∀ row ∈ s.state.registrationTokens.rows,
        tokenAccepts tokenHash platform arch usedAt row = false := by
      intro row member
      rw [Bool.eq_false_iff]
      exact List.countP_eq_zero.mp none_accepts row member
    have kept : s.state.registrationTokens.update (tokenAccepts tokenHash platform arch usedAt)
        useToken useToken_tokenId = s.state.registrationTokens :=
      Table.update_of_unselected unselected
    exact ⟨by rw [effect], by rw [effect], by rw [effect], by rw [effect],
      by rw [effect]; exact kept⟩

theorem answerToken_keeps_tokens (env : Environment) (request : AgentRegistration) :
    Evolves SameTokens (answerToken env request true) := by
  have tokens : ∀ before after, SameAgentsAndTokens before after → SameTokens before after :=
    fun _ _ same => same.2
  have trans : ∀ x y z, SameTokens x y → SameTokens y z → SameTokens x z :=
    fun _ _ _ first rest => rest.trans first
  refine evolves_trans (recordAuditEvent_sameTokens _) (fun _ => ?_) trans
  rw [register_eq]
  refine evolves_trans (evolves_mono (findAgent_untouched _)
    fun _ _ same => same.registrationTokens) (fun previous => ?_) trans
  refine evolves_trans (evolves_mono (upsertAgent_agentsOnly request) ?_)
    (fun _ => evolves_mono (recordRegistration_keeps env request previous) tokens) trans
  rintro before _ ⟨agents, rfl⟩
  rfl

theorem answerToken_answers {env : Environment} {request : AgentRegistration}
    (s : Session Store) :
    ¬ Accepts (answerToken env request true s).1 ↔ Thrown (answerToken env request true) s := by
  cases ran : answerToken env request true s with
  | mk result s' =>
    cases result with
    | error e => exact iff_of_true (not_accepts_error e) ⟨e, s', ran⟩
    | ok result =>
      refine iff_of_false (fun unaccepted => unaccepted ?_) ?_
      · obtain ⟨_, audited, _, rest⟩ := bind_ok ran
        rw [register_eq] at rest
        obtain ⟨previous, read, _, rest⟩ := bind_ok rest
        obtain ⟨_, upserted, _, rest⟩ := bind_ok rest
        by_contra unaccepted
        have threw := (recordRegistration_answers upserted).mp (by rw [rest]; exact unaccepted)
        obtain ⟨e, s'', threw⟩ := threw
        rw [rest] at threw
        cases threw
      · rintro ⟨e, s'', threw⟩
        rw [ran] at threw
        cases threw

theorem breaks_consume (env : Environment) (request : AgentRegistration) (token : String)
    (s : Session Store) :
    Breaks (consumeFor env request token >>= answerToken env request) s ↔
      (∃ used, consumeFor env request token s = (.ok true, used) ∧
        Thrown (answerToken env request true) used) ∨
      (∃ refused, consumeFor env request token s = (.ok false, refused) ∧
        1 < s.state.registrationTokens.changes
          (tokenAccepts (env.sha256BytesHex token) request.os request.arch env.now)) := by
  cases ran : consumeFor env request token s with
  | mk result used =>
    cases result with
    | error e =>
      have same := consumeRegistrationToken_atomic _ _ _ _ s e used ran
      unfold Breaks
      rw [bind_of_error ran]
      simp [untouched_of_eq same]
    | ok answer =>
      have count := (consumeRegistrationToken_ok ran).1
      have touches := useToken_touches ran
      unfold Breaks
      rw [bind_of_ok ran]
      cases answer with
      | true =>
        have one := of_decide_eq_true count.symm
        have lasting : ¬ Untouched s.state (answerToken env request true used).2.state := by
          intro untouched
          have kept := answerToken_keeps_tokens env request used _ _ rfl
          obtain ⟨_, effect⟩ := consumeRegistrationToken_ok ran
          have same : used.state.registrationTokens = s.state.registrationTokens :=
            kept.symm.trans untouched.registrationTokens
          have zero := touches.mp
            ⟨by rw [effect], by rw [effect], by rw [effect], by rw [effect], same⟩
          omega
        rw [and_iff_left lasting, answerToken_answers]
        simp
      | false =>
        have other := of_decide_eq_false count.symm
        have quiet := audited_untouched (auditEvent env 0 .registrationTokenRejected
          request.requestId request.agentId "error" [("status", "rejected"),
            ("message", "invalid or expired token")])
          (invalidArgument "registration token is invalid or expired") used _ _ rfl
        have refuses : ¬ Accepts (answerToken env request false used).1 := by
          rintro ⟨message, same⟩
          obtain ⟨_, _, _, rest⟩ := bind_ok (Prod.ext same rfl :
            answerToken env request false used = (.ok (accepted message), _))
          cases (pure_ok rest).1
        have whole : Untouched s.state (answerToken env request false used).2.state ↔
            Untouched s.state used.state := by
          constructor
          · intro untouched
            exact ⟨quiet.agents.symm.trans untouched.agents,
              quiet.tasks.symm.trans untouched.tasks,
              quiet.taskResults.symm.trans untouched.taskResults,
              quiet.assetSnapshots.symm.trans untouched.assetSnapshots,
              quiet.registrationTokens.symm.trans untouched.registrationTokens⟩
          · exact fun first => untouched_trans _ _ _ first quiet
        rw [and_iff_right refuses, whole, touches]
        simp only [Prod.mk.injEq, Except.ok.injEq, Bool.false_eq_true, false_and, exists_false,
          false_or, true_and, exists_eq_left']
        omega

theorem handleRegister_kept_iff (env : Environment) (request : AgentRegistration)
    (s : Session Store) :
    KeptOnRefusal (handleRegister env request) s ↔ ¬ RegistrationInterrupted env request s := by
  rw [handleRegister_eq, recovered_kept_iff, breaks_quiet (agentExists_untouched _)]
  apply not_congr
  unfold RegistrationInterrupted
  apply exists_congr
  intro known
  apply exists_congr
  intro asked
  apply and_congr_right
  intro read
  have same : asked.state = s.state := read_unchanged _ s _ asked read
  unfold registerKnown
  cases known with
  | true => exact breaks_register env request asked
  | false =>
    cases request.registrationToken with
    | none => exact breaks_register env request asked
    | some token =>
      dsimp only
      rw [breaks_consume, same]

/-! All events -/

/-- A store call throws behind the first call of the event that changed one of the tables;
    or a refused token use charged several tokens at once. -/
def Interrupted (env : Environment) (s : Session Store) : AgentEvent → Prop
  | .registration payload => RegistrationInterrupted env payload s
  | .heartbeat _ => False
  | .assetSnapshot payload => SnapshotInterrupted env payload s
  | .taskRunning payload => RunningInterrupted env payload s
  | .taskResult payload => ResultInterrupted env payload s

theorem handleHeartbeat_kept (request : AgentHeartbeat) (s : Session Store) :
    KeptOnRefusal (handleHeartbeat request) s := by
  unfold handleHeartbeat
  rw [recovered_kept_iff, breaks_quiet (agentExists_untouched _)]
  rintro ⟨known, asked, _, breaks⟩
  exact breaks_pure _ _ breaks

/-- An event that is not accepted leaves the tables as they were exactly when it was not
    interrupted: whatever the store holds and wherever the engine makes a call throw. -/
theorem refused_event_changes_nothing_iff (env : Environment) (event : AgentEvent)
    (s : Session Store) :
    KeptOnRefusal (handleAgentEvent env event) s ↔
      ¬ (ValidEnvelope event ∧ Interrupted env s event) := by
  unfold handleAgentEvent
  by_cases valid : ValidEnvelope event
  · have passed := (validateEnvelope_iff event).mpr valid
    simp only [passed, ne_eq, not_true_eq_false, if_false, valid, true_and]
    cases event with
    | registration payload => exact handleRegister_kept_iff env payload s
    | heartbeat payload => simp [Interrupted, handleHeartbeat_kept]
    | assetSnapshot payload => exact handleAssetSnapshot_kept_iff env payload s
    | taskRunning payload => exact handleTaskRunning_kept_iff env payload s
    | taskResult payload => exact handleTaskResult_kept_iff env payload s
  · have refused : (validateEnvelope event).status ≠ .accepted :=
      fun passed => valid ((validateEnvelope_iff event).mp passed)
    simp only [ne_eq, refused, not_false_eq_true, if_true, valid, false_and, iff_true]
    rw [kept_iff]
    exact breaks_pure _ _

def assignedInventory : TaskRow where
  taskId := "task-1"
  protocolVersion := protocolVersion
  agentId := "agent-1"
  taskType := .collectBasicInventory
  capabilityLevel := .readonly
  createdAt := "2026-05-01T00:00:00Z"
  expiresAt := "2026-06-01T00:00:00Z"
  inputBlob := .collectBasicInventory
  state := .assigned
  prerequisiteTaskId := none
  assignedAt := some "2026-05-02T00:00:00Z"
  completedAt := none

/-- The third statement is the insert of the audit event. -/
def lockedAuditTable : Session Store where
  state := { Store.empty with tasks := ⟨[assignedInventory], by decide⟩ }
  faults := [none, none, some .error]

def startsTask : TaskRunning where
  protocolVersion := protocolVersion
  requestId := "request-1"
  taskId := "task-1"
  agentId := "agent-1"
  taskType := .collectBasicInventory
  occurredAt := "2026-05-02T00:00:05Z"

/-- The task is running afterwards, though the answer is an internal error. -/
theorem refused_start_changes_task :
    ¬ KeptOnRefusal (handleAgentEvent plainEnvironment (.taskRunning startsTask))
      lockedAuditTable := by
  intro kept
  have refused : ¬ Accepts (handleAgentEvent plainEnvironment (.taskRunning startsTask)
      lockedAuditTable).1 := by
    rintro ⟨message, same⟩
    cases same
  have states := congrArg (fun tasks => tasks.rows.map TaskRow.state) (kept refused).tasks
  revert states
  decide

end EventAtomicity
