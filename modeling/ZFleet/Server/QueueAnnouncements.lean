import ZFleet.Server.ClaimSafety

/-!
What the store tells the observers of the task queue. A change of the store that gives
an agent a claimable task moves the version of the queue; only the asynchronous result
does not.
-/
namespace QueueAnnouncements
open Time Message KeyedTables Transactions Schema TaskStore ClaimSafety
open TaskOperations hiding step

/-- The agent has a task it can be given. -/
def HasClaimable (store : Store) (agentId now : String) : Prop :=
  ∃ row ∈ store.tasks.rows, row.agentId = agentId ∧ row.state = .queued ∧
    now < row.expiresAt ∧ PrerequisiteMet store row

theorem hasClaimable_iff (store : Store) (agentId now : String) :
    HasClaimable store agentId now ↔
      ∃ row ∈ store.tasks.rows, claimable store agentId now row = true := by
  simp only [HasClaimable, claimable, Bool.and_eq_true, decide_eq_true_eq,
    prerequisiteMet_iff, and_assoc]

/-- A claim that finds nothing was right. -/
theorem nothing_claimable {store : Store} {agentId assignedAt : String}
    (unselected : selectClaimable agentId assignedAt store = none) :
    ¬ HasClaimable store agentId assignedAt := by
  rw [hasClaimable_iff]
  rintro ⟨row, member, chosen⟩
  have empty := List.argmin_eq_none.mp unselected
  have kept : row ∈ store.tasks.rows.filter (claimable store agentId assignedAt) :=
    List.mem_filter.mpr ⟨member, chosen⟩
  rw [empty] at kept
  cases kept

/-- Tasks expire and do not come back. -/
theorem hasClaimable_earlier {store : Store} {agentId now later : String} (le : now ≤ later)
    (has : HasClaimable store agentId later) : HasClaimable store agentId now := by
  obtain ⟨row, member, agent, queued, unexpired, met⟩ := has
  exact ⟨row, member, agent, queued, lt_of_le_of_lt le unexpired, met⟩

/-- Tasks that moved on and succeeded neither before nor after make no task claimable. -/
theorem hasClaimable_of_moved {before after : Store} {agentId now : String}
    (moved : ∀ k row, after.tasks.find k = some row →
      before.tasks.find k = some row ∨ row.state ≠ .queued ∧ row.state ≠ .succeeded)
    (has : HasClaimable after agentId now) : HasClaimable before agentId now := by
  obtain ⟨row, member, agent, queued, unexpired, met⟩ := has
  have stays : ∀ k other, after.tasks.find k = some other →
      other.state = .queued ∨ other.state = .succeeded → before.tasks.find k = some other := by
    intro k other found state
    rcases moved k other found with same | ⟨unqueued, unfinished⟩
    · exact same
    · exact absurd state (by simp [unqueued, unfinished])
  have found := stays _ row (Table.find_of_mem member) (Or.inl queued)
  refine ⟨row, Table.find_mem found, agent, queued, unexpired, ?_⟩
  rcases met with absent | ⟨id, prerequisite, named, found', succeeded⟩
  · exact Or.inl absent
  · exact Or.inr ⟨id, prerequisite, named, stays id prerequisite found' (Or.inr succeeded),
      succeeded⟩

/-- A change of the store that does not move the version makes no task claimable. -/
structure Announced (before after : Store) : Prop where
  grows : before.taskQueueVersion ≤ after.taskQueueVersion
  told : after.taskQueueVersion = before.taskQueueVersion →
    ∀ agentId now, HasClaimable after agentId now → HasClaimable before agentId now

theorem announced_refl (store : Store) : Announced store store :=
  ⟨le_refl _, fun _ _ _ has => has⟩

theorem announced_trans (x y z : Store) (first : Announced x y) (rest : Announced y z) :
    Announced x z := by
  refine ⟨first.grows.trans rest.grows, ?_⟩
  intro same agentId now has
  have grows := first.grows
  have grows' := rest.grows
  exact first.told (by omega) agentId now (rest.told (by omega) agentId now has)

theorem announced_of_notified {before after : Store}
    (notified : after.taskQueueVersion = before.taskQueueVersion + 1) :
    Announced before after :=
  ⟨by omega, fun same => by omega⟩

theorem announced_of_moved {before after : Store}
    (version : after.taskQueueVersion = before.taskQueueVersion)
    (moved : ∀ k row, after.tasks.find k = some row →
      before.tasks.find k = some row ∨ row.state ≠ .queued ∧ row.state ≠ .succeeded) :
    Announced before after :=
  ⟨by omega, fun _ _ _ has => hasClaimable_of_moved moved has⟩

theorem announced_of_sameTasks {before after : Store} (same : SameTasks before after) :
    Announced before after := by
  apply announced_of_moved same.taskQueueVersion
  intro k row found
  rw [same.tasks] at found
  exact Or.inl found

theorem startTask_announced {request : TaskRunning} {before after : Store}
    (assigned : ∃ row, before.tasks.find request.taskId = some row ∧ row.state = .assigned)
    (effect : after = { before with
      tasks := startTask before.tasks request.taskId request.occurredAt }) :
    Announced before after := by
  obtain ⟨row, found, state⟩ := assigned
  have key := Table.find_key found
  rw [← key] at found effect
  apply announced_of_moved (by rw [effect])
  intro k row' found'
  rw [show after.tasks = startTask before.tasks row.taskId request.occurredAt by rw [effect],
    find_startTask found state] at found'
  split at found'
  · cases found'
    exact Or.inr ⟨by simp [TaskStore.start], by simp [TaskStore.start]⟩
  · exact Or.inl found'

/-- The calls whose change is announced: all but the asynchronous result. -/
def announcing : StoreOp → Bool
  | .report (.asyncRecordTaskResult ..) => false
  | _ => true

theorem enqueueTask_announced (task : Task) : Evolves Announced (enqueueTask task) :=
  evolves_of_atomic (enqueueTask_atomic task) announced_refl fun s _ s' done => by
    obtain ⟨_, _, _, _, after⟩ := enqueueTask_ok done
    exact announced_of_notified (by rw [after])

theorem asyncEnqueueTask_announced (task : Task) : Evolves Announced (asyncEnqueueTask task) :=
  evolves_of_atomic (asyncEnqueueTask_atomic task) announced_refl fun s _ s' done => by
    obtain ⟨_, _, _, _, after⟩ := asyncEnqueueTask_ok done
    exact announced_of_notified (by rw [after])

theorem scheduleAgentUpgrade_announced (agentId version packageId : String)
    (setBy : Option String) (setAt : String) (task : Task) (prerequisite : Option Task) :
    Evolves Announced
      (scheduleAgentUpgrade agentId version packageId setBy setAt task prerequisite) :=
  evolves_of_atomic (scheduleAgentUpgrade_atomic _ _ _ _ _ _ _) announced_refl
    fun s _ s' done => by
      obtain ⟨_, _, _, _, after⟩ := scheduleAgentUpgrade_ok done
      exact announced_of_notified (by rw [after])

theorem scheduleAgentRollback_announced (agentId : String) (setBy : Option String)
    (setAt : String) (task : Task) :
    Evolves Announced (scheduleAgentRollback agentId setBy setAt task) :=
  evolves_bind (scheduleAgentUpgrade_announced agentId "" "" setBy setAt task none)
    (fun _ => clearDesiredTarget_agentsOnly agentId task.taskId)
    (fun _ _ announced => announced)
    fun x y z announced cleared =>
      announced_trans x y z announced (announced_of_sameTasks (agentsOnly_sameTasks cleared))

theorem claimNextTaskForAgent_announced (agentId assignedAt auditId : String) :
    Evolves Announced (claimNextTaskForAgent agentId assignedAt auditId) :=
  evolves_of_atomic (claimNextTaskForAgent_atomic _ _ _) announced_refl fun s _ s' done => by
    rcases claimNextTaskForAgent_ok done with ⟨_, _, same⟩ | ⟨_, _, _, _, after⟩
    · rw [same]
      exact announced_refl _
    · exact announced_of_notified (by rw [after])

theorem asyncClaimNextTaskForAgent_announced (agentId assignedAt : String) :
    Evolves Announced (asyncClaimNextTaskForAgent agentId assignedAt) :=
  evolves_of_atomic (asyncClaimNextTaskForAgent_atomic _ _) announced_refl fun s _ s' done => by
    rcases asyncClaimNextTaskForAgent_ok done with ⟨_, _, same⟩ | ⟨_, _, _, after⟩
    · rw [same]
      exact announced_refl _
    · exact announced_of_notified (by rw [after])

theorem queueOp_announced (op : QueueOp) : Evolves Announced (executeQueue op) := by
  cases op with
  | enqueueTask task => exact evolves_discard none (enqueueTask_announced task)
  | asyncEnqueueTask task => exact evolves_discard none (asyncEnqueueTask_announced task)
  | scheduleAgentUpgrade =>
    exact evolves_discard none (scheduleAgentUpgrade_announced _ _ _ _ _ _ _)
  | scheduleAgentRollback => exact evolves_discard none (scheduleAgentRollback_announced _ _ _ _)
  | claimNextTaskForAgent => exact claimNextTaskForAgent_announced _ _ _
  | asyncClaimNextTaskForAgent => exact asyncClaimNextTaskForAgent_announced _ _

theorem recordTaskResult_announced (request : TaskResult) (resultBlob errorBlob : Option Blob) :
    Evolves Announced (recordTaskResult request resultBlob errorBlob) :=
  evolves_of_atomic (recordTaskResult_atomic _ _ _) announced_refl fun s _ s' done => by
    obtain ⟨_, _, _, _, _, after⟩ := recordTaskResult_ok done
    exact announced_of_notified (by rw [after]; rfl)

theorem reportOp_announced {op : ReportOp} (announces : announcing (.report op) = true) :
    Evolves Announced (executeReport op) := by
  cases op with
  | markTaskRunning request =>
    exact evolves_of_atomic (markTaskRunning_atomic request) announced_refl
      fun _ _ _ done => startTask_announced (markTaskRunning_ok done).1
        (markTaskRunning_ok done).2
  | asyncMarkTaskRunning request =>
    exact evolves_of_atomic (asyncMarkTaskRunning_atomic request) announced_refl
      fun _ _ _ done => startTask_announced (asyncMarkTaskRunning_ok done).1
        (asyncMarkTaskRunning_ok done).2
  | recordTaskResult => exact recordTaskResult_announced _ _ _
  | asyncRecordTaskResult => cases announces

theorem step_announced (store : Store) {call : Call} (announces : announcing call.op = true) :
    Announced store (TaskOperations.step store call) := by
  obtain ⟨op, faults⟩ := call
  cases op with
  | queue op => exact queueOp_announced op ⟨store, faults⟩ _ _ rfl
  | report op =>
    exact evolves_discard none (reportOp_announced announces) ⟨store, faults⟩ _ _ rfl
  | agent op =>
    exact announced_of_sameTasks
      (evolves_discard none (agentOp_sameTasks op) ⟨store, faults⟩ _ _ rfl)

end QueueAnnouncements
