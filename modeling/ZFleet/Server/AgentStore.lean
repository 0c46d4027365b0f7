import ZFleet.Server.Schema
import Mathlib.Data.String.Basic

/-!
The agent side of the server database: registration upserts, presence, the reconnect
timeout, registration tokens, asset snapshots and audit events. None of these
operations touches a task.
-/
namespace AgentStore
open Message KeyedTables Transactions Schema

/-- The row an agent gets at its first registration; the upgrade columns are null. -/
def registeredRow (request : AgentRegistration) : AgentRow where
  agentId := request.agentId
  firstSeenAt := request.occurredAt
  lastSeenAt := request.occurredAt
  lastOnlineAt := request.occurredAt
  lastOfflineAt := none
  platform := request.os
  agentVersion := request.agentVersion
  status := .online
  currentPackageId := none
  desiredVersion := none
  desiredPackageId := none
  desiredSetAt := none
  desiredSetBy := none
  upgradeState := none
  lastUpgradeTaskId := none
  lastUpgradeError := none
  lastUpgradeAt := none

/-- The presence columns of the on-conflict update. -/
def comeOnline (excluded row : AgentRow) : AgentRow :=
  { row with
    lastSeenAt := if row.status ≠ .online then excluded.lastSeenAt else row.lastSeenAt
    lastOnlineAt := if row.status ≠ .online then excluded.lastOnlineAt else row.lastOnlineAt
    lastOfflineAt := if row.status ≠ .online then none else row.lastOfflineAt
    platform := excluded.platform
    agentVersion := excluded.agentVersion
    status := excluded.status }

def reconnectMatches (excluded row : AgentRow) : Bool :=
  row.upgradeState = some .waitingReconnect &&
    row.desiredVersion = some excluded.agentVersion

def reconnectWithoutPackage (row : AgentRow) : Bool :=
  row.upgradeState = some .waitingReconnect && row.desiredPackageId = none

def reconnectMismatches (excluded row : AgentRow) : Bool :=
  row.upgradeState = some .waitingReconnect &&
    row.desiredVersion.any fun desired => desired ≠ excluded.agentVersion

/-- The upgrade columns of the on-conflict update, all read from the old row. -/
def confirmUpgrade (excluded row : AgentRow) : AgentRow :=
  if reconnectMatches excluded row then
    { row with
      currentPackageId := row.desiredPackageId
      upgradeState := some .succeeded
      lastUpgradeError := none
      lastUpgradeAt := some excluded.lastOnlineAt }
  else if reconnectWithoutPackage row then
    { row with
      currentPackageId := none
      upgradeState := some .succeeded
      lastUpgradeError := none
      lastUpgradeAt := some excluded.lastOnlineAt }
  else if reconnectMismatches excluded row then
    { row with
      upgradeState := some .failed
      lastUpgradeError := some .agentReportedUnexpectedVersion
      lastUpgradeAt := some excluded.lastOnlineAt }
  else row

theorem comeOnline_agentId (excluded row : AgentRow) :
    (comeOnline excluded row).agentId = row.agentId := rfl

theorem confirmUpgrade_agentId (excluded row : AgentRow) :
    (confirmUpgrade excluded row).agentId = row.agentId := by
  unfold confirmUpgrade
  split
  · rfl
  · split
    · rfl
    · split <;> rfl

/-- All columns of the on-conflict update. -/
def mergeRegistration (excluded row : AgentRow) : AgentRow :=
  comeOnline excluded (confirmUpgrade excluded row)

theorem mergeRegistration_agentId (excluded row : AgentRow) :
    (mergeRegistration excluded row).agentId = row.agentId := by
  rw [mergeRegistration, comeOnline_agentId, confirmUpgrade_agentId]

theorem registered_agentId (request : AgentRegistration) (row : AgentRow) :
    (mergeRegistration (registeredRow request) row).agentId = row.agentId :=
  mergeRegistration_agentId _ row

/-- Insert the row, or on a conflict of its key merge it into the stored one. -/
def upsertInto (agents : Table AgentRow AgentRow.agentId) (excluded : AgentRow)
    (merge : AgentRow → AgentRow → AgentRow)
    (keeps : ∀ r, (merge excluded r).agentId = r.agentId) : Table AgentRow AgentRow.agentId :=
  (agents.insert excluded).getD
    (agents.update (fun row => row.agentId = excluded.agentId) (merge excluded) keeps)

theorem find_upsertInto (agents : Table AgentRow AgentRow.agentId) (excluded : AgentRow)
    (merge : AgentRow → AgentRow → AgentRow)
    (keeps : ∀ r, (merge excluded r).agentId = r.agentId) (k : String) :
    (upsertInto agents excluded merge keeps).find k =
      if excluded.agentId = k then
        some (match agents.find k with
          | none => excluded
          | some row => merge excluded row)
      else agents.find k := by
  unfold upsertInto
  cases inserted : agents.insert excluded with
  | some table =>
    rw [Option.getD_some, Table.find_insert inserted]
    by_cases same : excluded.agentId = k
    · subst same
      rw [if_pos rfl, if_pos rfl, (Table.insert_some inserted).1]
    · rw [if_neg same, if_neg same]
  | none =>
    rw [Option.getD_none, Table.find_update]
    by_cases same : excluded.agentId = k
    · subst same
      have taken : agents.find excluded.agentId ≠ none := by
        intro free
        have fresh := (Table.insert_isSome_iff agents excluded).mpr free
        rw [inserted] at fresh
        cases fresh
      obtain ⟨row, found⟩ := Option.ne_none_iff_exists'.mp taken
      rw [if_pos rfl, found]
      simp [Table.find_key found]
    · rw [if_neg same]
      cases found : agents.find k with
      | none => rfl
      | some row =>
        have other : ¬ row.agentId = excluded.agentId := by
          rw [Table.find_key found]
          exact fun back => same back.symm
        simp [other]

def upsertAgentRow (excluded : AgentRow) (merge : AgentRow → AgentRow → AgentRow)
    (keeps : ∀ r, (merge excluded r).agentId = r.agentId) : Job Store Unit :=
  execute fun store => { store with agents := upsertInto store.agents excluded merge keeps }

def upsertAgent (request : AgentRegistration) : Job Store Unit :=
  submitWrite <| upsertAgentRow (registeredRow request) mergeRegistration
    (mergeRegistration_agentId _)

theorem upsertAgent_succeeds (request : AgentRegistration) (store : Store) :
    Succeeds (upsertAgent request) store ()
      { store with
        agents := upsertInto store.agents (registeredRow request) mergeRegistration
          (mergeRegistration_agentId _) } :=
  submitWrite_succeeds (succeeds_execute _ store)

/-- The asynchronous upsert knows only the presence columns. -/
def asyncUpsertAgent (request : AgentRegistration) : Job Store Unit :=
  submitWrite <| upsertAgentRow (registeredRow request) comeOnline
    (comeOnline_agentId _)

theorem asyncUpsertAgent_succeeds (request : AgentRegistration) (store : Store) :
    Succeeds (asyncUpsertAgent request) store ()
      { store with
        agents := upsertInto store.agents (registeredRow request) comeOnline
          (comeOnline_agentId _) } :=
  submitWrite_succeeds (succeeds_execute _ store)

def onlineIs (agentId : String) (row : AgentRow) : Bool :=
  row.agentId = agentId && row.status ≠ .offline

def goOffline (disconnectedAt : String) (row : AgentRow) : AgentRow :=
  { row with
    lastSeenAt := disconnectedAt
    lastOfflineAt := some disconnectedAt
    status := .offline }

theorem goOffline_agentId (disconnectedAt : String) (row : AgentRow) :
    (goOffline disconnectedAt row).agentId = row.agentId := rfl

def markAgentOffline (agentId disconnectedAt : String) : Job Store Unit :=
  submitWrite do
    let _ ← updateAgents (fun _ => onlineIs agentId) (goOffline disconnectedAt)
      (goOffline_agentId _)
    pure ()

/-- The asynchronous write has the same statement. -/
def asyncMarkAgentOffline (agentId disconnectedAt : String) : Job Store Unit :=
  submitWrite do
    let _ ← updateAgents (fun _ => onlineIs agentId) (goOffline disconnectedAt)
      (goOffline_agentId _)
    pure ()

theorem markAgentOffline_succeeds (agentId disconnectedAt : String) (store : Store) :
    Succeeds (markAgentOffline agentId disconnectedAt) store ()
      { store with
        agents := store.agents.update (onlineIs agentId) (goOffline disconnectedAt)
          (goOffline_agentId _) } :=
  submitWrite_succeeds <|
    succeeds_bind (updateAgents_succeeds _ _ _ store) (succeeds_pure () _)

def agentExists (agentId : String) : Job Store Bool :=
  executeWithBusyRetry <| query fun store => (store.agents.find agentId).isSome

def findAgent (agentId : String) : Job Store (Option AgentRow) :=
  executeWithBusyRetry <| query fun store => store.agents.find agentId

/-- The waiting agents whose last upgrade event is ten minutes old at `now`; a time the
    engine cannot read compares as null. -/
def reconnectExpired (datetime : String → Option Int) (now : String) (row : AgentRow) : Bool :=
  row.upgradeState = some .waitingReconnect &&
    match row.lastUpgradeAt.bind datetime, datetime now with
    | some since, some current => since ≤ current - 600
    | _, _ => false

def failReconnect (row : AgentRow) : AgentRow :=
  { row with upgradeState := some .failed, lastUpgradeError := some .waitingReconnectTimeout }

theorem failReconnect_agentId (row : AgentRow) :
    (failReconnect row).agentId = row.agentId := rfl

def expireWaitingReconnect (datetime : String → Option Int) (now : String) :
    Job Store (List String) :=
  submitWrite do
    let expired ← query fun store =>
      (store.agents.rows.filter (reconnectExpired datetime now)).map AgentRow.agentId
    let _ ← updateAgents (fun _ => reconnectExpired datetime now) failReconnect
      failReconnect_agentId
    pure expired

/-! Registration tokens -/

def updateTokens (selects : RegistrationTokenRow → Bool)
    (change : RegistrationTokenRow → RegistrationTokenRow)
    (keeps : ∀ r, (change r).tokenId = r.tokenId) : Job Store Nat := statement fun store =>
  .ok (store.registrationTokens.changes selects,
    { store with registrationTokens := store.registrationTokens.update selects change keeps })

def createRegistrationToken (token : RegistrationTokenRow) : Job Store Unit :=
  submitWrite <| insertRow Store.registrationTokens
    (fun store tokens => { store with registrationTokens := tokens })
    "registration_tokens.token_id" token

def tokenAccepts (tokenHash platform arch usedAt : String) (row : RegistrationTokenRow) : Bool :=
  row.tokenHash = tokenHash && row.purpose = "agent_register" && row.status = .active &&
    decide (usedAt ≤ row.expiresAt) && row.platform.all (· = platform) &&
    row.arch.all (· = arch) && row.maxUses.all fun limit => row.useCount < limit

def useToken (row : RegistrationTokenRow) : RegistrationTokenRow :=
  { row with
    useCount := row.useCount + 1
    status := if row.maxUses.any fun limit => row.useCount + 1 ≥ limit then .consumed
      else row.status }

theorem useToken_tokenId (row : RegistrationTokenRow) : (useToken row).tokenId = row.tokenId := rfl

def consumeRegistrationToken (tokenHash platform arch usedAt : String) : Job Store Bool :=
  submitWrite do
    let changed ← updateTokens (tokenAccepts tokenHash platform arch usedAt) useToken
      useToken_tokenId
    pure (changed = 1)

def revoke (revokedAt : String) (row : RegistrationTokenRow) : RegistrationTokenRow :=
  { row with status := .revoked, revokedAt := some revokedAt }

theorem revoke_tokenId (revokedAt : String) (row : RegistrationTokenRow) :
    (revoke revokedAt row).tokenId = row.tokenId := rfl

def revokeRegistrationToken (tokenId revokedAt : String) : Job Store Bool :=
  submitWrite do
    let changed ← updateTokens (fun row => row.tokenId = tokenId && row.status = .active)
      (revoke revokedAt) (revoke_tokenId _)
    pure (changed = 1)

/-! Snapshots and audit events -/

def recordAssetSnapshot (request : AssetSnapshot) (eventBlob : Blob) : Job Store Unit :=
  submitWrite <| execute fun store =>
    { store with assetSnapshots := store.assetSnapshots ++ [
        { snapshotId := store.assetSnapshots.length + 1
          agentId := request.agentId
          occurredAt := request.occurredAt
          hostname := request.hostname
          os := request.os
          osVersion := request.osVersion
          arch := request.arch
          agentVersion := request.agentVersion
          applications := request.applications
          services := request.services
          eventBlob := eventBlob }] }

def recordAuditEvent (event : AuditEventRow) : Job Store Unit :=
  submitWrite (insertAuditEvent event)

/-! No operation of this module touches the task tables. -/

theorem upsertAgentRow_agentsOnly (excluded : AgentRow) (merge : AgentRow → AgentRow → AgentRow)
    (keeps : ∀ r, (merge excluded r).agentId = r.agentId) :
    Evolves AgentsOnly (upsertAgentRow excluded merge keeps) :=
  evolves_execute agentsOnly_refl fun _ => ⟨_, rfl⟩

theorem upsertAgent_agentsOnly (request : AgentRegistration) :
    Evolves AgentsOnly (upsertAgent request) :=
  submitWrite_evolves agentsOnly_trans (upsertAgentRow_agentsOnly _ _ _)

theorem asyncUpsertAgent_agentsOnly (request : AgentRegistration) :
    Evolves AgentsOnly (asyncUpsertAgent request) :=
  submitWrite_evolves agentsOnly_trans (upsertAgentRow_agentsOnly _ _ _)

theorem markAgentOffline_agentsOnly (agentId disconnectedAt : String) :
    Evolves AgentsOnly (markAgentOffline agentId disconnectedAt) :=
  submitWrite_evolves agentsOnly_trans <|
    evolves_trans (updateAgents_agentsOnly _ _ _) (fun _ => evolves_pure agentsOnly_refl _)
      agentsOnly_trans

theorem expireWaitingReconnect_agentsOnly (datetime : String → Option Int) (now : String) :
    Evolves AgentsOnly (expireWaitingReconnect datetime now) :=
  submitWrite_evolves agentsOnly_trans <|
    evolves_trans (evolves_query agentsOnly_refl _)
      (fun _ => evolves_trans (updateAgents_agentsOnly _ _ _)
        (fun _ => evolves_pure agentsOnly_refl _) agentsOnly_trans)
      agentsOnly_trans

theorem agentExists_agentsOnly (agentId : String) : Evolves AgentsOnly (agentExists agentId) :=
  submitWrite_evolves agentsOnly_trans (evolves_query agentsOnly_refl _)

theorem findAgent_agentsOnly (agentId : String) : Evolves AgentsOnly (findAgent agentId) :=
  submitWrite_evolves agentsOnly_trans (evolves_query agentsOnly_refl _)

theorem updateTokens_sameTasks (selects : RegistrationTokenRow → Bool)
    (change : RegistrationTokenRow → RegistrationTokenRow)
    (keeps : ∀ r, (change r).tokenId = r.tokenId) :
    Evolves SameTasks (updateTokens selects change keeps) :=
  evolves_statement sameTasks_refl fun _ _ _ ran => by
    cases ran
    exact ⟨rfl, rfl, rfl⟩

theorem consumeRegistrationToken_sameTasks (tokenHash platform arch usedAt : String) :
    Evolves SameTasks (consumeRegistrationToken tokenHash platform arch usedAt) :=
  submitWrite_evolves sameTasks_trans <|
    evolves_trans (updateTokens_sameTasks _ _ _) (fun _ => evolves_pure sameTasks_refl _)
      sameTasks_trans

theorem revokeRegistrationToken_sameTasks (tokenId revokedAt : String) :
    Evolves SameTasks (revokeRegistrationToken tokenId revokedAt) :=
  submitWrite_evolves sameTasks_trans <|
    evolves_trans (updateTokens_sameTasks _ _ _) (fun _ => evolves_pure sameTasks_refl _)
      sameTasks_trans

theorem createRegistrationToken_sameTasks (token : RegistrationTokenRow) :
    Evolves SameTasks (createRegistrationToken token) :=
  submitWrite_evolves sameTasks_trans <|
    insertRow_evolves sameTasks_refl fun _ _ => ⟨rfl, rfl, rfl⟩

theorem recordAssetSnapshot_sameTasks (request : AssetSnapshot) (eventBlob : Blob) :
    Evolves SameTasks (recordAssetSnapshot request eventBlob) :=
  submitWrite_evolves sameTasks_trans <|
    evolves_execute sameTasks_refl fun _ => ⟨rfl, rfl, rfl⟩

theorem recordAuditEvent_sameTasks (event : AuditEventRow) :
    Evolves SameTasks (recordAuditEvent event) :=
  submitWrite_evolves sameTasks_trans <|
    insertRow_evolves sameTasks_refl fun _ _ => ⟨rfl, rfl, rfl⟩

end AgentStore
