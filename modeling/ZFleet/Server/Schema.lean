import ZFleet.Foundations.KeyedTables
import ZFleet.Foundations.Transactions
import ZFleet.Protocol.Message

/-!
The tables of the server database and the statements that write them. A text
column that only ever holds the names of an enumeration is that enumeration; a
nullable column is an `Option`. The tables of packages have a schema of their own.
-/
namespace Schema
open Message KeyedTables Transactions

inductive AgentStatus where
  | online
  | offline
  deriving DecidableEq, Repr

inductive UpgradeState where
  | queued
  | waitingReconnect
  | succeeded
  | failed
  deriving DecidableEq, Repr

structure AgentRow where
  agentId : String
  firstSeenAt : String
  lastSeenAt : String
  lastOnlineAt : String
  lastOfflineAt : Option String
  platform : String
  agentVersion : String
  status : AgentStatus
  currentPackageId : Option String
  desiredVersion : Option String
  desiredPackageId : Option String
  desiredSetAt : Option String
  desiredSetBy : Option String
  upgradeState : Option UpgradeState
  lastUpgradeTaskId : Option String
  lastUpgradeError : Option ErrorCode
  lastUpgradeAt : Option String
  deriving DecidableEq, Repr

/-- The input blob is kept as the message it parses to. -/
structure TaskRow where
  taskId : String
  protocolVersion : String
  agentId : String
  taskType : TaskType
  capabilityLevel : CapabilityLevel
  createdAt : String
  expiresAt : String
  inputBlob : TaskInput
  state : TaskState
  prerequisiteTaskId : Option String
  assignedAt : Option String
  completedAt : Option String
  deriving DecidableEq, Repr

abbrev Blob := String

structure TaskResultRow where
  taskId : String
  protocolVersion : String
  requestId : String
  agentId : String
  taskType : TaskType
  occurredAt : String
  status : TaskExecutionStatus
  errorCode : Option ErrorCode
  errorRetryable : Option Bool
  resultBlob : Option Blob
  errorBlob : Option Blob
  deriving DecidableEq, Repr

structure AuditEventRow where
  auditId : String
  occurredAt : String
  agentId : Option String
  eventType : AuditEventType
  requestId : String
  result : String
  payload : List (String × String)
  deriving DecidableEq, Repr

structure AssetSnapshotRow where
  snapshotId : Nat
  agentId : String
  occurredAt : String
  hostname : String
  os : String
  osVersion : Option String
  arch : String
  agentVersion : String
  applications : List String
  services : List String
  eventBlob : Blob
  deriving DecidableEq, Repr

inductive TokenStatus where
  | active
  | consumed
  | revoked
  deriving DecidableEq, Repr

structure RegistrationTokenRow where
  tokenId : String
  tokenHash : String
  purpose : String
  channel : Option String
  platform : Option String
  arch : Option String
  maxUses : Option Int
  useCount : Int
  status : TokenStatus
  createdAt : String
  expiresAt : String
  revokedAt : Option String
  deriving DecidableEq, Repr

/-- The tables and, beside them, the version counter the task queue observers see. -/
structure Store where
  agents : Table AgentRow AgentRow.agentId
  tasks : Table TaskRow TaskRow.taskId
  taskResults : Table TaskResultRow TaskResultRow.taskId
  auditEvents : Table AuditEventRow AuditEventRow.auditId
  assetSnapshots : List AssetSnapshotRow
  registrationTokens : Table RegistrationTokenRow RegistrationTokenRow.tokenId
  taskQueueVersion : Nat

def Store.empty : Store := ⟨.empty, .empty, .empty, .empty, [], .empty, 0⟩

def uniqueViolation (column : String) : Failure := .error ("UNIQUE constraint failed: " ++ column)

/-! Statements -/

/-- An insert into one of the tables, refused when the primary key is taken. -/
def insertRow {Row Key : Type} {key : Row → Key} [DecidableEq Key]
    (get : Store → Table Row key) (set : Store → Table Row key → Store) (column : String)
    (row : Row) : Job Store Unit := statement fun store =>
  match (get store).insert row with
  | some table => .ok ((), set store table)
  | none => .error (uniqueViolation column)

def insertTask : TaskRow → Job Store Unit :=
  insertRow Store.tasks (fun store tasks => { store with tasks := tasks }) "tasks.task_id"

def insertTaskResult : TaskResultRow → Job Store Unit :=
  insertRow Store.taskResults (fun store results => { store with taskResults := results })
    "task_results.task_id"

def insertAuditEvent : AuditEventRow → Job Store Unit :=
  insertRow Store.auditEvents (fun store events => { store with auditEvents := events })
    "audit_events.audit_id"

/-- An update of tasks reports how many rows it changed. -/
def updateTasks (selects : TaskRow → Bool) (change : TaskRow → TaskRow)
    (keeps : ∀ r, (change r).taskId = r.taskId) : Job Store Nat := statement fun store =>
  .ok (store.tasks.changes selects,
    { store with tasks := store.tasks.update selects change keeps })

/-- The selection of an update of agents may look at the other tables. -/
def updateAgents (selects : Store → AgentRow → Bool) (change : AgentRow → AgentRow)
    (keeps : ∀ r, (change r).agentId = r.agentId) : Job Store Nat := statement fun store =>
  .ok (store.agents.changes (selects store),
    { store with agents := store.agents.update (selects store) change keeps })

def commit : Job Store Unit := execute id

/-- Wakes the waiters and posts the new version to every observer. -/
def notifyTaskQueueChanged : Job Store Unit := bookkeep fun store =>
  { store with taskQueueVersion := store.taskQueueVersion + 1 }

/-- A failed attempt is repeated this often while the engine is busy. -/
def busyRetryAttempts : Nat := 5

def executeWithBusyRetry {α : Type} (job : Job Store α) : Job Store α :=
  retry busyRetryAttempts job

/-- A write handed to the write actor and waited for. -/
def submitWrite {α : Type} (job : Job Store α) : Job Store α := executeWithBusyRetry job

theorem submitWrite_atomic {α : Type} {job : Job Store α} (atomic : Atomic job) :
    Atomic (submitWrite job) := retry_atomic busyRetryAttempts atomic

theorem submitWrite_ok {α : Type} {job : Job Store α} (atomic : Atomic job)
    {s s' : Session Store} {a : α} (done : submitWrite job s = (.ok a, s')) :
    ∃ start, start.state = s.state ∧ job start = (.ok a, s') := retry_ok atomic done

theorem insertRow_ok {Row Key : Type} {key : Row → Key} [DecidableEq Key]
    {get : Store → Table Row key} {set : Store → Table Row key → Store} {column : String}
    {row : Row} {s s' : Session Store} {u : Unit}
    (done : insertRow get set column row s = (.ok u, s')) :
    ∃ table, (get s.state).insert row = some table ∧ s'.state = set s.state table := by
  have ran := statement_ok done
  split at ran
  · rename_i table inserted
    simp only [Except.ok.injEq, Prod.mk.injEq] at ran
    exact ⟨table, inserted, ran.2.symm⟩
  · cases ran

theorem insertRow_atomic {Row Key : Type} {key : Row → Key} [DecidableEq Key]
    {get : Store → Table Row key} {set : Store → Table Row key → Store} {column : String}
    {row : Row} : Atomic (insertRow get set column row) := statement_atomic _

theorem updateTasks_ok {selects : TaskRow → Bool} {change : TaskRow → TaskRow}
    {keeps : ∀ r, (change r).taskId = r.taskId} {s s' : Session Store} {changed : Nat}
    (done : updateTasks selects change keeps s = (.ok changed, s')) :
    changed = s.state.tasks.changes selects ∧
      s'.state = { s.state with tasks := s.state.tasks.update selects change keeps } := by
  have ran := statement_ok done
  simp only [Except.ok.injEq, Prod.mk.injEq] at ran
  exact ⟨ran.1.symm, ran.2.symm⟩

theorem updateAgents_ok {selects : Store → AgentRow → Bool} {change : AgentRow → AgentRow}
    {keeps : ∀ r, (change r).agentId = r.agentId} {s s' : Session Store} {changed : Nat}
    (done : updateAgents selects change keeps s = (.ok changed, s')) :
    changed = s.state.agents.changes (selects s.state) ∧
      s'.state = { s.state with
        agents := s.state.agents.update (selects s.state) change keeps } := by
  have ran := statement_ok done
  simp only [Except.ok.injEq, Prod.mk.injEq] at ran
  exact ⟨ran.1.symm, ran.2.symm⟩

theorem submitWrite_evolves {α : Type} {R : Store → Store → Prop} {job : Job Store α}
    (trans : ∀ x y z, R x y → R y z → R x z) (evolves : Evolves R job) :
    Evolves R (submitWrite job) := evolves_retry_of_trans busyRetryAttempts evolves trans

theorem insertRow_evolves {Row Key : Type} {key : Row → Key} [DecidableEq Key]
    {get : Store → Table Row key} {set : Store → Table Row key → Store} {column : String}
    {row : Row} {R : Store → Store → Prop} (stays : ∀ x, R x x)
    (allowed : ∀ x table, R x (set x table)) :
    Evolves R (insertRow get set column row) :=
  evolves_of_atomic insertRow_atomic stays fun s _ s' done => by
    obtain ⟨table, _, after⟩ := insertRow_ok done
    rw [after]
    exact allowed s.state table

theorem commit_ok {s s' : Session Store} {u : Unit} (done : commit s = (.ok u, s')) :
    s'.state = s.state := execute_ok done

theorem notify_ok {s s' : Session Store} {u : Unit}
    (done : notifyTaskQueueChanged s = (.ok u, s')) :
    s'.state = { s.state with taskQueueVersion := s.state.taskQueueVersion + 1 } :=
  bookkeep_ok done

theorem notify_never_fails (s s' : Session Store) (e : Failure) :
    notifyTaskQueueChanged s ≠ (.error e, s') := by
  intro failed
  cases failed

/-! Statements that meet no fault -/

theorem insertRow_succeeds {Row Key : Type} {key : Row → Key} [DecidableEq Key]
    {get : Store → Table Row key} {set : Store → Table Row key → Store} {column : String}
    {row : Row} {store : Store} {table : Table Row key}
    (inserted : (get store).insert row = some table) :
    Succeeds (insertRow get set column row) store () (set store table) := by
  apply succeeds_statement
  rw [inserted]

theorem insertRow_throws {Row Key : Type} {key : Row → Key} [DecidableEq Key]
    {get : Store → Table Row key} {set : Store → Table Row key → Store} {column : String}
    {row : Row} {store : Store} (taken : (get store).insert row = none) :
    Throws (insertRow get set column row) store (uniqueViolation column) := by
  apply throws_statement
  rw [taken]

theorem updateTasks_succeeds (selects : TaskRow → Bool) (change : TaskRow → TaskRow)
    (keeps : ∀ r, (change r).taskId = r.taskId) (store : Store) :
    Succeeds (updateTasks selects change keeps) store (store.tasks.changes selects)
      { store with tasks := store.tasks.update selects change keeps } :=
  succeeds_statement rfl

theorem updateAgents_succeeds (selects : Store → AgentRow → Bool)
    (change : AgentRow → AgentRow) (keeps : ∀ r, (change r).agentId = r.agentId)
    (store : Store) :
    Succeeds (updateAgents selects change keeps) store (store.agents.changes (selects store))
      { store with agents := store.agents.update (selects store) change keeps } :=
  succeeds_statement rfl

theorem submitWrite_succeeds {α : Type} {job : Job Store α} {store final : Store} {a : α}
    (ran : Succeeds job store a final) : Succeeds (submitWrite job) store a final :=
  succeeds_retry busyRetryAttempts ran

/-! Frames: what a write leaves alone -/

/-- The tasks, their results and the queue version are the same. -/
structure SameTasks (before after : Store) : Prop where
  tasks : after.tasks = before.tasks
  taskResults : after.taskResults = before.taskResults
  taskQueueVersion : after.taskQueueVersion = before.taskQueueVersion

theorem sameTasks_refl (store : Store) : SameTasks store store := ⟨rfl, rfl, rfl⟩

theorem sameTasks_trans (x y z : Store) (first : SameTasks x y) (rest : SameTasks y z) :
    SameTasks x z :=
  ⟨rest.tasks.trans first.tasks, rest.taskResults.trans first.taskResults,
    rest.taskQueueVersion.trans first.taskQueueVersion⟩

/-- Only the agents may differ. -/
def AgentsOnly (before after : Store) : Prop :=
  ∃ agents, after = { before with agents := agents }

theorem agentsOnly_refl (store : Store) : AgentsOnly store store := ⟨store.agents, rfl⟩

theorem agentsOnly_trans (x y z : Store) (first : AgentsOnly x y) (rest : AgentsOnly y z) :
    AgentsOnly x z := by
  obtain ⟨_, rfl⟩ := first
  obtain ⟨agents, rfl⟩ := rest
  exact ⟨agents, rfl⟩

theorem updateAgents_agentsOnly (selects : Store → AgentRow → Bool)
    (change : AgentRow → AgentRow) (keeps : ∀ r, (change r).agentId = r.agentId) :
    Evolves AgentsOnly (updateAgents selects change keeps) :=
  evolves_of_atomic (statement_atomic _) agentsOnly_refl fun _ _ _ done =>
    ⟨_, (updateAgents_ok done).2⟩

theorem agentsOnly_sameTasks {before after : Store} (agents : AgentsOnly before after) :
    SameTasks before after := by
  obtain ⟨_, rfl⟩ := agents
  exact ⟨rfl, rfl, rfl⟩

end Schema
