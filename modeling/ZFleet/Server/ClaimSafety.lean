import ZFleet.Core.Time
import ZFleet.Server.TaskOperations

/-!
What claims hand out. With canonical timestamps a claim returns the oldest task it may
return and nothing when there is none, over a whole run no task is returned twice, and
a task whose prerequisite ended badly is never returned again.
-/
namespace ClaimSafety
open Message KeyedTables Transactions Ledgers Schema TaskStore TaskOperations Time

def Canonical (text : String) : Prop := ∃ t : UtcSecond, text = t.toRfc3339

/-- The agent and the time of a claim. -/
def claimOf : StoreOp → Option (String × String)
  | .queue (.claimNextTaskForAgent agentId assignedAt _) => some (agentId, assignedAt)
  | .queue (.asyncClaimNextTaskForAgent agentId assignedAt) => some (agentId, assignedAt)
  | _ => none

def CanonicalTimes (op : StoreOp) : Prop :=
  (∀ task ∈ createdTasks op, Canonical task.createdAt ∧ Canonical task.expiresAt) ∧
    ∀ claim, claimOf op = some claim → Canonical claim.2

/-- The prerequisite of a task is absent or has succeeded. -/
def PrerequisiteMet (store : Store) (row : TaskRow) : Prop :=
  row.prerequisiteTaskId = none ∨
    ∃ id prerequisite, row.prerequisiteTaskId = some id ∧
      store.tasks.find id = some prerequisite ∧ prerequisite.state = .succeeded

/-- A task the agent may be given at this time. -/
structure Eligible (store : Store) (agentId : String) (time : UtcSecond) (row : TaskRow) :
    Prop where
  stored : row ∈ store.tasks.rows
  agent : row.agentId = agentId
  queued : row.state = .queued
  unexpired : ∃ expiry : UtcSecond, row.expiresAt = expiry.toRfc3339 ∧
    time.epochSeconds < expiry.epochSeconds
  prerequisite : PrerequisiteMet store row

/-- Created no later than the other task. -/
def CreatedFirst (row other : TaskRow) : Prop :=
  ∃ created created' : UtcSecond, row.createdAt = created.toRfc3339 ∧
    other.createdAt = created'.toRfc3339 ∧ created.epochSeconds ≤ created'.epochSeconds

def CanonicalRow (row : TaskRow) : Prop := Canonical row.createdAt ∧ Canonical row.expiresAt

def CanonicalStore (store : Store) : Prop := ∀ row ∈ store.tasks.rows, CanonicalRow row

theorem canonicalRow_of_identity {row row' : TaskRow} (same : SameIdentity row row')
    (canonical : CanonicalRow row) : CanonicalRow row' := by
  have created : row'.createdAt = row.createdAt := congrArg Task.createdAt same.1
  have expires : row'.expiresAt = row.expiresAt := congrArg Task.expiresAt same.1
  unfold CanonicalRow
  rw [created, expires]
  exact canonical

theorem canonical_step {store : Store} {call : Call} (times : CanonicalTimes call.op)
    (canonical : CanonicalStore store) : CanonicalStore (step store call) := by
  intro row' member
  rcases effect_origin (step_effect store call) (Table.find_of_mem member) with
    ⟨row, found, same⟩ | ⟨task, created, input, prerequisite, _, rfl⟩
  · exact canonicalRow_of_identity same (canonical row (Table.find_mem found))
  · exact times.1 task created

theorem canonical_run {calls : List Call} (times : ∀ call ∈ calls, CanonicalTimes call.op) :
    CanonicalStore (Runs.run step Store.empty calls) := by
  apply Runs.run_invariant CanonicalStore (fun _ call => CanonicalTimes call.op)
    (fun _ _ canonical times => canonical_step times canonical)
  · intro before call after split
    exact times call (by rw [split]; simp)
  · intro row member
    cases member

theorem prerequisiteMet_iff (store : Store) (row : TaskRow) :
    prerequisiteMet store.tasks row = true ↔ PrerequisiteMet store row := by
  unfold prerequisiteMet PrerequisiteMet
  cases row.prerequisiteTaskId with
  | none => simp
  | some id =>
    simp only [List.any_eq_true, Bool.and_eq_true, decide_eq_true_eq, reduceCtorEq,
      Option.some.injEq, false_or]
    constructor
    · rintro ⟨prerequisite, member, rfl, state⟩
      exact ⟨_, prerequisite, rfl, Table.find_of_mem member, state⟩
    · rintro ⟨_, prerequisite, rfl, found, state⟩
      exact ⟨prerequisite, Table.find_mem found, Table.find_key found, state⟩

/-- With canonical times the where clause of the claim says what it means. -/
theorem claimable_iff {store : Store} (canonical : CanonicalStore store) (agentId : String)
    (time : UtcSecond) (row : TaskRow) (member : row ∈ store.tasks.rows) :
    claimable store agentId time.toRfc3339 row = true ↔ Eligible store agentId time row := by
  obtain ⟨_, expiry, expires⟩ := canonical row member
  have later : time.toRfc3339 < row.expiresAt ↔ time.epochSeconds < expiry.epochSeconds := by
    rw [expires, UtcSecond.toRfc3339_lt_iff]
  simp only [claimable, Bool.and_eq_true, decide_eq_true_eq, prerequisiteMet_iff]
  constructor
  · rintro ⟨⟨⟨agent, queued⟩, before⟩, met⟩
    exact ⟨member, agent, queued, ⟨expiry, expires, later.mp before⟩, met⟩
  · rintro ⟨_, agent, queued, ⟨expiry', expires', before⟩, met⟩
    refine ⟨⟨⟨agent, queued⟩, ?_⟩, met⟩
    rw [expires', UtcSecond.toRfc3339_lt_iff]
    exact before

theorem createdFirst_of_le {store : Store} (canonical : CanonicalStore store)
    {row other : TaskRow} (member : row ∈ store.tasks.rows) (member' : other ∈ store.tasks.rows)
    (le : row.createdAt ≤ other.createdAt) : CreatedFirst row other := by
  obtain ⟨⟨created, created_eq⟩, _⟩ := canonical row member
  obtain ⟨⟨created', created'_eq⟩, _⟩ := canonical other member'
  refine ⟨created, created', created_eq, created'_eq, ?_⟩
  rw [created_eq, created'_eq, UtcSecond.toRfc3339_le_iff] at le
  exact le

/-! One claim -/

theorem run_of_reply {store : Store} {call : Call} {answer : Option Task}
    (done : reply store call = .ok answer) :
    ∃ final, executeOp call.op ⟨store, call.faults⟩ = (.ok answer, final) ∧
      final.state = step store call := by
  refine ⟨(executeOp call.op ⟨store, call.faults⟩).2, ?_, rfl⟩
  rw [← done]
  rfl

/-- A claim that answers selects a row and hands it out, or finds none. -/
theorem claim_answer {store : Store} {call : Call} {agentId assignedAt : String}
    (claim : claimOf call.op = some (agentId, assignedAt)) {answer : Option Task}
    (done : reply store call = .ok answer) :
    (answer = none ∧ selectClaimable agentId assignedAt store = none) ∨
    ∃ row, selectClaimable agentId assignedAt store = some row ∧
      answer = some (storedTask row) ∧
      (step store call).tasks = assignTask store.tasks row.taskId assignedAt := by
  obtain ⟨final, ran, after⟩ := run_of_reply done
  obtain ⟨op, faults⟩ := call
  cases op with
  | queue op =>
    cases op with
    | claimNextTaskForAgent agentId' assignedAt' auditId =>
      cases claim
      rcases claimNextTaskForAgent_ok ran with
        ⟨nothing, unselected, _⟩ | ⟨row, events, selected, handed, effect⟩
      · exact Or.inl ⟨nothing, unselected⟩
      · exact Or.inr ⟨row, selected, handed, by rw [← after, effect]⟩
    | asyncClaimNextTaskForAgent agentId' assignedAt' =>
      cases claim
      rcases asyncClaimNextTaskForAgent_ok ran with
        ⟨nothing, unselected, _⟩ | ⟨row, selected, handed, effect⟩
      · exact Or.inl ⟨nothing, unselected⟩
      · exact Or.inr ⟨row, selected, handed, by rw [← after, effect]⟩
    | _ => cases claim
  | _ => cases claim

/-- Only claims answer with a task. -/
theorem claim_of_returned {store : Store} {call : Call} {task : Task}
    (returned : reply store call = .ok (some task)) :
    ∃ claim, claimOf call.op = some claim := by
  obtain ⟨final, ran, _⟩ := run_of_reply returned
  obtain ⟨op, faults⟩ := call
  cases op with
  | queue op =>
    cases op with
    | claimNextTaskForAgent agentId assignedAt auditId => exact ⟨_, rfl⟩
    | asyncClaimNextTaskForAgent agentId assignedAt => exact ⟨_, rfl⟩
    | _ =>
      obtain ⟨_, _, _, rest⟩ := bind_ok ran
      cases rest
  | report op =>
    obtain ⟨_, _, _, rest⟩ := bind_ok ran
    cases rest
  | agent op =>
    obtain ⟨_, _, _, rest⟩ := bind_ok ran
    cases rest

/-- A returned task was queued before the call and is assigned after it. -/
theorem returned_task {store : Store} {call : Call} {task : Task}
    (returned : reply store call = .ok (some task)) :
    (ledgerOf store).phase task.taskId = some .queued ∧
      (ledgerOf (step store call)).phase task.taskId = some .assigned := by
  obtain ⟨⟨agentId, assignedAt⟩, claim⟩ := claim_of_returned returned
  rcases claim_answer claim returned with ⟨nothing, _⟩ | ⟨row, selected, handed, effect⟩
  · cases nothing
  · obtain rfl : task = storedTask row := Option.some.inj handed
    obtain ⟨found, queued, _⟩ := selectClaimable_queued selected
    constructor
    · rw [← queued]
      exact ledgerOf_phase found
    · have assigned : (step store call).tasks.find row.taskId = some (assign assignedAt row) := by
        rw [effect, find_assignTask found queued]
        exact if_pos rfl
      exact ledgerOf_phase assigned

/-- A task that is not queued any more is not returned any more. -/
theorem not_returned_once_left {store : Store} {k : String} {state : TaskState}
    (phase : (ledgerOf store).phase k = some state) (left : state ≠ .queued)
    (calls : List Call) (call : Call) {task : Task}
    (returned : reply (Runs.run step store calls) call = .ok (some task)) :
    task.taskId ≠ k := by
  rintro rfl
  obtain ⟨later, phase', left'⟩ := steps_left (run_refines store calls) phase left
  rw [(returned_task returned).1] at phase'
  cases phase'
  exact left' rfl

/-- A task whose prerequisite is finished without success is not returned any more. -/
theorem not_returned_once_blocked {store : Store} {row prerequisite : TaskRow}
    {id : String} (member : row ∈ store.tasks.rows) (needs : row.prerequisiteTaskId = some id)
    (found : store.tasks.find id = some prerequisite)
    (ended : prerequisite.state = .failed ∨ prerequisite.state = .expired)
    (calls : List Call) (call : Call) {task : Task}
    (returned : reply (Runs.run step store calls) call = .ok (some task)) :
    task.taskId ≠ row.taskId := by
  intro same
  obtain ⟨⟨agentId, assignedAt⟩, claim⟩ := claim_of_returned returned
  rcases claim_answer claim returned with ⟨nothing, _⟩ | ⟨chosen, selected, handed, _⟩
  · cases nothing
  obtain rfl : task = storedTask chosen := Option.some.inj handed
  obtain ⟨chosen_member, eligible⟩ := selectClaimable_mem selected
  have terminal : isTerminalTaskState prerequisite.state = true := by
    rcases ended with state | state <;> rw [state] <;> rfl
  obtain ⟨phase, _⟩ := steps_closed (run_refines store calls) (ledgerOf_phase found)
    ((taskRules_closed_iff _).mpr terminal)
  obtain ⟨row', found', identity⟩ := run_keeps_identity store calls (Table.find_of_mem member)
  obtain rfl : chosen = row' := by
    have key : chosen.taskId = row.taskId := same
    rw [← key, Table.find_of_mem chosen_member] at found'
    exact Option.some.inj found'
  simp only [claimable, Bool.and_eq_true] at eligible
  rcases (prerequisiteMet_iff _ _).mp eligible.2 with absent | ⟨id', row', needs', found'', ok⟩
  · rw [identity.2, needs] at absent
    cases absent
  · rw [identity.2, needs] at needs'
    cases needs'
    rw [ledgerOf_phase found''] at phase
    rw [← Option.some.inj phase, ok] at ended
    rcases ended with state | state <;> cases state

/-- The audit event of a claim needs an unused identifier. -/
def FreshAudit (store : Store) : StoreOp → Prop
  | .queue (.claimNextTaskForAgent _ _ auditId) => store.auditEvents.find auditId = none
  | _ => True

/-- A claim that meets no fault answers. -/
theorem claim_answers {store : Store} {op : StoreOp} {claim : String × String}
    (is_claim : claimOf op = some claim) (fresh : FreshAudit store op) :
    ∃ answer, reply store ⟨op, []⟩ = .ok answer := by
  have done : ∃ answer final, Succeeds (executeOp op) store answer final := by
    cases op with
    | queue op =>
      cases op with
      | claimNextTaskForAgent agentId assignedAt auditId =>
        cases selected : selectClaimable agentId assignedAt store with
        | none => exact ⟨_, _, claimNextTaskForAgent_none selected⟩
        | some row =>
          obtain ⟨events, inserted⟩ := Option.isSome_iff_exists.mp
            ((Table.insert_isSome_iff store.auditEvents
              (assignedAuditEvent auditId agentId assignedAt (storedTask row))).mpr fresh)
          exact ⟨_, _, claimNextTaskForAgent_some selected inserted⟩
      | asyncClaimNextTaskForAgent agentId assignedAt =>
        cases selected : selectClaimable agentId assignedAt store with
        | none => exact ⟨_, _, asyncClaimNextTaskForAgent_none selected⟩
        | some row => exact ⟨_, _, asyncClaimNextTaskForAgent_some selected⟩
      | _ => cases is_claim
    | _ => cases is_claim
  obtain ⟨answer, final, succeeded⟩ := done
  refine ⟨answer, ?_⟩
  unfold reply
  rw [show executeOp op ⟨store, []⟩ = _ from succeeded]

/-- What a claim at this time answers in a store with canonical times. -/
theorem claim_answer_iff {store : Store} (canonical : CanonicalStore store) {call : Call}
    {agentId : String} {time : UtcSecond}
    (claim : claimOf call.op = some (agentId, time.toRfc3339)) {answer : Option Task}
    (done : reply store call = .ok answer) :
    (answer = none ↔ ∀ row, ¬ Eligible store agentId time row) ∧
    ∀ task, answer = some task → ∃ row, storedTask row = task ∧
      Eligible store agentId time row ∧
      ∀ other, Eligible store agentId time other → CreatedFirst row other := by
  have means := claimable_iff canonical agentId time
  rcases claim_answer claim done with ⟨rfl, unselected⟩ | ⟨row, selected, rfl, _⟩
  · refine ⟨⟨fun _ => ?_, fun _ => rfl⟩, fun task other => by cases other⟩
    intro row eligible
    have refused := (selectClaimable_none_iff _ _ _).mp unselected row eligible.stored
    rw [(means row eligible.stored).mpr eligible] at refused
    cases refused
  · obtain ⟨member, chosen⟩ := selectClaimable_mem selected
    have eligible := (means row member).mp chosen
    refine ⟨⟨fun nothing => ?_, fun nobody => absurd eligible (nobody row)⟩, ?_⟩
    · cases nothing
    · intro task handed
      cases handed
      refine ⟨row, rfl, eligible, ?_⟩
      intro other eligible'
      exact createdFirst_of_le canonical member eligible'.stored
        (selectClaimable_oldest selected eligible'.stored
          ((means other eligible'.stored).mpr eligible'))

/-- Over any calls with canonical times: no task is returned by two claims; a claim that
    answers returns the oldest eligible task, and none exactly when no task is eligible,
    and a claim that meets no fault answers; and a task whose prerequisite failed or
    expired is returned by no later claim. -/
theorem claims_are_safe (calls : List Call)
    (times : ∀ call ∈ calls, CanonicalTimes call.op) :
    (∀ before first middle second after task task',
      calls = before ++ first :: (middle ++ second :: after) →
      reply (Runs.run step Store.empty before) first = .ok (some task) →
      reply (Runs.run step Store.empty (before ++ first :: middle)) second = .ok (some task') →
      task.taskId ≠ task'.taskId) ∧
    (∀ before call after agentId time, calls = before ++ call :: after →
      claimOf call.op = some (agentId, time.toRfc3339) →
      (∀ answer, reply (Runs.run step Store.empty before) call = .ok answer →
        (answer = none ↔
          ∀ row, ¬ Eligible (Runs.run step Store.empty before) agentId time row) ∧
        ∀ task, answer = some task → ∃ row, storedTask row = task ∧
          Eligible (Runs.run step Store.empty before) agentId time row ∧
          ∀ other, Eligible (Runs.run step Store.empty before) agentId time other →
            CreatedFirst row other) ∧
      (call.faults = [] → FreshAudit (Runs.run step Store.empty before) call.op →
        ∃ answer, reply (Runs.run step Store.empty before) call = .ok answer)) ∧
    (∀ before middle call after row prerequisite id task,
      calls = before ++ (middle ++ call :: after) →
      row ∈ (Runs.run step Store.empty before).tasks.rows →
      row.prerequisiteTaskId = some id →
      (Runs.run step Store.empty before).tasks.find id = some prerequisite →
      prerequisite.state = .failed ∨ prerequisite.state = .expired →
      reply (Runs.run step Store.empty (before ++ middle)) call = .ok (some task) →
      task.taskId ≠ row.taskId) := by
  refine ⟨?_, ?_, ?_⟩
  · intro before first middle second after task task' split returned returned'
    have phase := (returned_task returned).2
    rw [Runs.run_append, Runs.run_cons] at returned'
    exact (not_returned_once_left phase (by decide) middle second returned').symm
  · intro before call after agentId time split claim
    have canonical : CanonicalStore (Runs.run step Store.empty before) :=
      canonical_run fun call' member => times call' (by rw [split]; simp [member])
    refine ⟨fun answer done => claim_answer_iff canonical claim done, ?_⟩
    intro clear fresh
    obtain ⟨op, faults⟩ := call
    obtain rfl : faults = [] := clear
    exact claim_answers claim fresh
  · intro before middle call after row prerequisite id task split member needs found ended
      returned
    rw [Runs.run_append] at returned
    exact not_returned_once_blocked member needs found ended middle call returned

def noon : UtcSecond where
  year := 2026
  month := 3
  day := 1
  hour := 12
  minute := 0
  second := 0
  year_lt := by decide
  month_pos := by decide
  month_le := by decide
  day_pos := by decide
  day_le := by decide
  hour_lt := by decide
  minute_lt := by decide
  second_lt := by decide

def oneOClock : UtcSecond :=
  { noon with
    hour := 13
    day_le := noon.day_le
    hour_lt := by decide }

/-- A task created at noon that expires an hour later. -/
def inventoryTask (taskId : String) : Task where
  protocolVersion := protocolVersion
  taskId := taskId
  agentId := "agent-1"
  taskType := .collectBasicInventory
  capabilityLevel := .readonly
  createdAt := noon.toRfc3339
  expiresAt := oneOClock.toRfc3339
  input := .collectBasicInventory

def enqueueCall : Call := ⟨.queue (.enqueueTask (inventoryTask "task-1")), []⟩

def claimCall : Call := ⟨.queue (.asyncClaimNextTaskForAgent "agent-1" noon.toRfc3339), []⟩

theorem claims_are_safe_enqueued :
    (∀ call ∈ [enqueueCall, claimCall], CanonicalTimes call.op) ∧
    ∃ row, storedTask row = inventoryTask "task-1" ∧
      Eligible (Runs.run step Store.empty [enqueueCall]) "agent-1" noon row := by
  have times : ∀ call ∈ [enqueueCall, claimCall], CanonicalTimes call.op := by
    intro call member
    rcases List.mem_pair.mp member with rfl | rfl
    · constructor
      · intro task created
        obtain rfl := List.mem_singleton.mp created
        exact ⟨⟨noon, rfl⟩, oneOClock, rfl⟩
      · intro claim is_claim
        cases is_claim
    · constructor
      · intro task created
        cases created
      · intro claim is_claim
        cases is_claim
        exact ⟨noon, rfl⟩
  have returned : reply (Runs.run step Store.empty [enqueueCall]) claimCall =
      .ok (some (inventoryTask "task-1")) := rfl
  obtain ⟨row, same, eligible, _⟩ :=
    (((claims_are_safe [enqueueCall, claimCall] times).2.1 [enqueueCall] claimCall [] "agent-1"
      noon rfl rfl).1 _ returned).2 (inventoryTask "task-1") rfl
  exact ⟨times, row, same, eligible⟩

end ClaimSafety
