import Mathlib.Data.List.Infix
import ZFleet.Core.Semver
import ZFleet.Package.Manifest
import ZFleet.Server.InstallApi
import ZFleet.Server.PackageStore
import ZFleet.Server.TaskStore

/-!
The package requests of the admin server: upload, validate, publish and retire, and the
upgrade of an agent to a package. A request is a sequence of database calls; the validation
of a package answers every exception by rejecting the package, the other requests leave
what they wrote and answer an internal error.
-/
namespace PackageApi
open Message Package KeyedTables Transactions Schema AgentStore TaskStore PackageStore Semver
open InstallApi (ErrorResponse)

/-- What the server is configured with and the libraries it calls. -/
structure Environment where
  json : JsonLibrary
  sha256BytesHex : String → String
  packageRepository : String
  allowHighRiskWrite : Bool
  packageDownloadBaseUrl : String

/-- The generated values of one request. -/
structure Origin where
  now : String
  taskId : String
  prerequisiteTaskId : String
  auditId : Nat → String
  auditTime : Nat → String

structure PublishRequestBody where
  channel : String
  publishedBy : Option String
  deriving DecidableEq, Repr

structure UpgradeRequestBody where
  packageId : String
  setBy : Option String
  expiresAt : String
  deriving DecidableEq, Repr

/-- An empty body is an empty object. -/
def parseJsonObject (library : JsonLibrary) (body : String) : Except String JsonObject :=
  if body = "" then .ok fun _ => none
  else do
    match ← library.parse body with
    | none => .error "cannot use value() with a value that is no object"
    | some json => .ok json

def parsePublishRequestBody (library : JsonLibrary) (body : String) :
    Except String PublishRequestBody := do
  let json ← parseJsonObject library body
  let channel ← valueOr json "channel" ""
  let publishedBy ← optionalText json "published_by"
  pure ⟨channel, publishedBy⟩

def parseUpgradeRequestBody (library : JsonLibrary) (body : String) :
    Except String UpgradeRequestBody := do
  let json ← parseJsonObject library body
  let packageId ← valueOr json "package_id" ""
  let setBy ← optionalText json "set_by"
  let expiresAt ← valueOr json "expires_at" "2099-12-31T23:59:59Z"
  pure ⟨packageId, setBy, expiresAt⟩

def what : Failure → String
  | .busy => "database is locked"
  | .error message => message

abbrev Answer (α : Type) := Except ErrorResponse α

def packageNotFound : ErrorResponse := ⟨404, "package_not_found", "package was not found"⟩

/-- A request whose exception nobody caught before. -/
def respond {α : Type} (handler : Job Depot (Answer α)) : Job Depot (Answer α) :=
  recover handler fun e => .error ⟨500, "internal_error", what e⟩

def audit (origin : Origin) (n : Nat) (eventType : AuditEventType) (requestId result : String)
    (payload : List (String × String)) : Job Depot Unit :=
  onStore <| InstallApi.recordAdminAudit (origin.auditId n) (origin.auditTime n) eventType
    requestId result payload

/-- The package as the database has it now; it is there. -/
def answerPackage (packageId : String) : Job Depot (Answer AgentPackageRow) := do
  match ← findAgentPackage packageId with
  | some row => pure (.ok row)
  | none => fail (.error "bad optional access")

def metadataPayload (packageId : String) (metadata : AgentPackageMetadata) :
    List (String × String) :=
  [("package_id", packageId), ("version", metadata.version), ("platform", metadata.platform),
    ("arch", metadata.arch), ("build_type", metadata.buildType),
    ("component", metadata.component)]

/-! Upload -/

def safePackageStoragePath (repository packageId : String) : Except String String :=
  if packageId = "" ∨ '/' ∈ packageId.toList ∨ '\\' ∈ packageId.toList ∨
      ['.', '.'] <:+: packageId.toList then .error "package id is invalid"
  else .ok (repository ++ "/" ++ packageId ++ ".zip")

def uploadedRow (packageId filename storagePath now : String)
    (metadata : AgentPackageMetadata) : AgentPackageRow where
  packageId := packageId
  component := metadata.component
  version := metadata.version
  platform := metadata.platform
  arch := metadata.arch
  buildType := metadata.buildType
  filename := filename
  storagePath := storagePath
  sizeBytes := metadata.sizeBytes
  sha256 := metadata.sha256
  manifestJson := metadata.manifestJson
  status := .uploaded
  uploadedAt := now
  validatedAt := none
  publishedAt := none
  retiredAt := none

/-- A generated id: hexadecimal digits, which are alphanumeric, and dashes. -/
structure Uuid where
  text : String
  plain : text.toList.all (fun c => c.isAlphanum || c = '-') = true

/-- The upload that was received: its generated id, file name, size, and the archive under
    its storage path once it was moved there. -/
structure Upload where
  packageId : Uuid
  filename : String
  uploadedBytes : Nat
  stored : Except String Archive

def storeUpload (env : Environment) (origin : Origin) (upload : Upload) :
    Job Depot (Answer AgentPackageRow) := do
  let storagePath ← ofExcept (safePackageStoragePath env.packageRepository upload.packageId.text)
  let metadata ← ofExcept (validateAgentPackageUpload env.json upload.stored upload.filename)
  let uploaded := uploadedRow upload.packageId.text upload.filename storagePath origin.now metadata
  upsertAgentPackage uploaded
  let validated := { uploaded with status := .validated, validatedAt := some origin.now }
  upsertAgentPackage validated
  audit origin 0 .packageValidated upload.packageId.text "success"
    (metadataPayload upload.packageId.text metadata)
  pure (.ok validated)

def commitAgentPackageUpload (env : Environment) (origin : Origin) (upload : Upload) :
    Job Depot (Answer AgentPackageRow) :=
  if upload.uploadedBytes = 0 then
    pure (.error ⟨400, "package_body_empty", "package upload body is empty"⟩)
  else recover (storeUpload env origin upload) fun e =>
    .error ⟨400, "package_validation_failed", what e⟩

/-! Validate -/

def validatedRow (package : AgentPackageRow) (metadata : AgentPackageMetadata) (now : String) :
    AgentPackageRow :=
  { package with
    component := metadata.component
    version := metadata.version
    platform := metadata.platform
    arch := metadata.arch
    buildType := metadata.buildType
    sizeBytes := metadata.sizeBytes
    sha256 := metadata.sha256
    manifestJson := metadata.manifestJson
    status := .validated
    validatedAt := some now }

def rejectedRow (package : AgentPackageRow) : AgentPackageRow :=
  { package with status := .rejected }

def acceptValidation (env : Environment) (origin : Origin) (stored : Except String Archive)
    (package : AgentPackageRow) : Job Depot (Answer AgentPackageRow) := do
  let metadata ← ofExcept (validateAgentPackageUpload env.json stored package.filename)
  upsertAgentPackage (validatedRow package metadata origin.now)
  audit origin 0 .packageValidated package.packageId "success"
    (metadataPayload package.packageId metadata)
  answerPackage package.packageId

def rejectValidation (origin : Origin) (package : AgentPackageRow) (e : Failure) :
    Job Depot (Answer AgentPackageRow) := do
  upsertAgentPackage (rejectedRow package)
  audit origin 1 .packageValidated package.packageId "failure"
    [("package_id", package.packageId), ("error", what e)]
  pure (.error ⟨400, "package_validation_failed", what e⟩)

/-- A package is validated again whatever it is, unless it was retired. -/
def validatePackage (env : Environment) (origin : Origin) (stored : Except String Archive)
    (packageId : String) : Job Depot (Answer AgentPackageRow) := do
  match ← findAgentPackage packageId with
  | none => pure (.error packageNotFound)
  | some package =>
    if package.status = .retired then
      pure (.error ⟨409, "package_retired", "retired package cannot be validated"⟩)
    else rescue (acceptValidation env origin stored package) (rejectValidation origin package)

/-! Publish and retire -/

def packageSlot (package : AgentPackageRow) (channel : String) : Slot :=
  ⟨package.component, channel, package.platform, package.arch, package.buildType⟩

def channelOf (input : PublishRequestBody) : String :=
  if input.channel = "" then "stable" else input.channel

/-- The checks of a publish request behind its body. -/
def checkPublication (package : AgentPackageRow) (channel : String) : Option ErrorResponse :=
  if channel ≠ "stable" ∧ channel ≠ "candidate" ∧ channel ≠ "dev" then
    some ⟨400, "channel_not_allowed", "channel must be stable, candidate or dev"⟩
  else if channel = "stable" ∧ package.buildType = "debug" then
    some ⟨400, "build_type_not_allowed", "debug package cannot be published to stable"⟩
  else if package.status = .retired then
    some ⟨409, "package_retired", "retired package cannot be published"⟩
  else none

/-- Publish, with what was published. -/
def publishPackage (env : Environment) (origin : Origin) (body packageId : String) :
    Job Depot (Answer AgentPackageRow) := do
  match ← findAgentPackage packageId with
  | none => pure (.error packageNotFound)
  | some package =>
    if package.status ≠ .validated ∧ package.status ≠ .published then
      pure (.error ⟨409, "package_not_validated", "package must be validated before publishing"⟩)
    else do
      let input ← ofExcept (parsePublishRequestBody env.json body)
      match checkPublication package (channelOf input) with
      | some refusal => pure (.error refusal)
      | none => do
        publishAgentPackage packageId (packageSlot package (channelOf input)) input.publishedBy
          origin.now
        audit origin 0 .packagePublished packageId "success"
          [("package_id", packageId), ("channel", channelOf input)]
        answerPackage packageId

def retirePackage (origin : Origin) (packageId : String) :
    Job Depot (Answer AgentPackageRow) := do
  match ← findAgentPackage packageId with
  | none => pure (.error packageNotFound)
  | some _ => do
    retireAgentPackage packageId origin.now
    audit origin 0 .packageRetired packageId "success" [("package_id", packageId)]
    answerPackage packageId

/-! Upgrade -/

/-- The snapshots of an agent, the last one first. -/
def snapshotsOf (agentId : String) (store : Store) : List AssetSnapshotRow :=
  (store.assetSnapshots.filter fun row => row.agentId = agentId).mergeSort
    fun p q => q.snapshotId ≤ p.snapshotId

def latestSnapshot (agentId : String) (store : Store) : Option AssetSnapshotRow :=
  (snapshotsOf agentId store).head?

def findLatestAssetSnapshot (agentId : String) : Job Store (Option AssetSnapshotRow) :=
  executeWithBusyRetry <| query (latestSnapshot agentId)

/-- An installer that fits the package and is new enough. -/
def fitsInstaller (package : AgentPackageRow) (minimum : Semver3) (candidate : AgentPackageRow) :
    Bool :=
  candidate.component = "installer" && candidate.status = .published &&
    candidate.platform = package.platform && candidate.arch = package.arch &&
    candidate.buildType = package.buildType &&
    match parseSemver3 candidate.version with
    | none => false
    | some version => !(version < minimum)

/-- Of two fitting installers the newer one, of equal ones the later in the list. -/
def newerInstaller (installer : Option AgentPackageRow) (candidate : AgentPackageRow) :
    Option AgentPackageRow :=
  match installer with
  | none => some candidate
  | some chosen =>
    match parseSemver3 candidate.version, parseSemver3 chosen.version with
    | some version, some version' => if version' ≤ version then some candidate else some chosen
    | _, _ => some candidate

def chooseInstaller (package : AgentPackageRow) (minimum : Semver3)
    (listed : List AgentPackageRow) : Option AgentPackageRow :=
  (listed.filter (fitsInstaller package minimum)).foldl newerInstaller none

def findCompatibleInstallerPackage (package : AgentPackageRow) (minInstallerVersion : String) :
    Job Depot (Option AgentPackageRow) :=
  if minInstallerVersion = "" then pure none
  else match parseSemver3 minInstallerVersion with
    | none => pure none
    | some minimum => do
      let listed ← listAgentPackages
      pure (chooseInstaller package minimum listed)

/-- The task that applies a package; its manifest is parsed once more. -/
def createPackageTask (env : Environment) (agentId now expiresAt : String)
    (target : AgentPackageRow) (taskId : String) : Except String Message.Task := do
  let manifest ← parseManifestJson env.json target.manifestJson
  pure
    { protocolVersion := protocolVersion
      taskId := taskId
      agentId := agentId
      taskType := .packageUpdate
      capabilityLevel := .highRiskWrite
      createdAt := now
      expiresAt := expiresAt
      input := .packageUpdate {
        component := target.component
        packageId := target.packageId
        version := target.version
        platform := target.platform
        arch := target.arch
        buildType := target.buildType
        packageUrl := env.packageDownloadBaseUrl ++ "/api/v1/packages/" ++ target.component ++
          "/" ++ target.packageId ++ "/download"
        packageSha256 := target.sha256
        manifestSha256 := env.sha256BytesHex target.manifestJson
        minInstallerVersion := manifest.minInstallerVersion
        allowDowngrade := false
        force := false } }

/-- The checks of the target of an upgrade, in the order they are made. -/
def checkUpgrade (package : AgentPackageRow) (agent : AgentRow)
    (asset : Option AssetSnapshotRow) : Option ErrorResponse :=
  if asset.all fun snapshot => package.platform ≠ agent.platform ∨ package.arch ≠ snapshot.arch then
    some ⟨400, "platform_arch_mismatch", "package target does not match agent"⟩
  else if package.version = agent.agentVersion then
    some ⟨400, "version_not_newer", "upgrade target must be newer than current agent"⟩
  else match parseSemver3 package.version, parseSemver3 agent.agentVersion with
    | some packageVersion, some agentVersion =>
      if packageVersion < agentVersion then
        some ⟨400, "downgrade_not_allowed", "agent downgrade is not allowed"⟩
      else none
    | _, _ => some ⟨400, "downgrade_not_allowed", "agent downgrade is not allowed"⟩

def checkTarget (package : AgentPackageRow) : Option ErrorResponse :=
  if package.status = .retired then some ⟨409, "package_retired", "package was retired"⟩
  else if package.component ≠ "agent" then
    some ⟨400, "package_not_agent", "upgrade target must be an agent package"⟩
  else none

structure UpgradeAnswer where
  taskId : String
  prerequisiteTaskId : String
  agentId : String
  desiredPackageId : String
  desiredVersion : String
  deriving DecidableEq, Repr

/-- The task that installs a new installer first; the answer when there is none. -/
def prerequisiteTask (env : Environment) (origin : Origin) (agentId expiresAt : String)
    (package : AgentPackageRow) (minInstallerVersion : String) :
    Job Depot (Answer (Option Message.Task)) :=
  if minInstallerVersion = "" then pure (.ok none)
  else do
    match ← findCompatibleInstallerPackage package minInstallerVersion with
    | none =>
      pure (.error ⟨409, "installer_too_old", "no compatible installer package is published"⟩)
    | some installer => do
      let task ← ofExcept <| createPackageTask env agentId origin.now expiresAt installer
        origin.prerequisiteTaskId
      pure (.ok (some task))

def auditUpgrade (origin : Origin) (agentId packageId : String)
    (prerequisite : Option Message.Task) : Job Depot Unit := do
  audit origin 0 .agentUpgradeRequested origin.taskId "success"
    [("agent_id", agentId), ("package_id", packageId), ("task_id", origin.taskId),
      ("capability_level", "high_risk_write")]
  match prerequisite with
  | some task =>
    audit origin 1 .taskQueued task.taskId "success"
      [("agent_id", agentId), ("task_id", task.taskId), ("task_type", "package_update"),
        ("component", "installer"), ("next_task_id", origin.taskId)]
  | none => pure ()
  audit origin 2 .taskQueued origin.taskId "success"
    [("agent_id", agentId), ("task_id", origin.taskId), ("task_type", "package_update"),
      ("package_id", packageId)]

/-- What an upgrade has looked up and built before it writes. -/
structure Preparation where
  agent : AgentRow
  package : AgentPackageRow
  asset : Option AssetSnapshotRow
  input : UpgradeRequestBody
  task : Message.Task
  prerequisite : Option Message.Task

/-- The tasks of an upgrade whose target passed its checks. -/
def buildTasks (env : Environment) (origin : Origin) (agentId : String) (agent : AgentRow)
    (package : AgentPackageRow) (asset : Option AssetSnapshotRow) (input : UpgradeRequestBody) :
    Job Depot (Answer Preparation) := do
  let manifest ← ofExcept (parseManifestJson env.json package.manifestJson)
  let task ← ofExcept <|
    createPackageTask env agentId origin.now input.expiresAt package origin.taskId
  match ← prerequisiteTask env origin agentId input.expiresAt package
      manifest.minInstallerVersion with
  | .error refusal => pure (.error refusal)
  | .ok prerequisite => pure (.ok ⟨agent, package, asset, input, task, prerequisite⟩)

/-- The checks of an upgrade, up to its first write. -/
def prepareUpgrade (env : Environment) (origin : Origin) (agentId body : String) :
    Job Depot (Answer Preparation) :=
  if !env.allowHighRiskWrite then
    pure (.error ⟨403, "capability_not_allowed", "high_risk_write policy is disabled"⟩)
  else do
    match ← onStore (findAgent agentId) with
    | none => pure (.error ⟨404, "agent_not_found", "agent was not found"⟩)
    | some agent => do
      let input ← ofExcept (parseUpgradeRequestBody env.json body)
      match ← findAgentPackage input.packageId with
      | none => pure (.error packageNotFound)
      | some package =>
        match checkTarget package with
        | some refusal => pure (.error refusal)
        | none => do
          let asset ← onStore (findLatestAssetSnapshot agentId)
          match checkUpgrade package agent asset with
          | some refusal => pure (.error refusal)
          | none => buildTasks env origin agentId agent package asset input

def schedulePrepared (origin : Origin) (agentId : String) (prepared : Preparation) :
    Job Depot Unit :=
  onStore <| scheduleAgentUpgrade agentId prepared.package.version prepared.input.packageId
    prepared.input.setBy origin.now prepared.task prepared.prerequisite

def upgradeAgent (env : Environment) (origin : Origin) (agentId body : String) :
    Job Depot (Answer UpgradeAnswer) := do
  match ← prepareUpgrade env origin agentId body with
  | .error refusal => pure (.error refusal)
  | .ok prepared => do
    schedulePrepared origin agentId prepared
    auditUpgrade origin agentId prepared.input.packageId prepared.prerequisite
    pure <| .ok
      { taskId := origin.taskId
        prerequisiteTaskId := (prepared.prerequisite.map Message.Task.taskId).getD ""
        agentId := agentId
        desiredPackageId := prepared.input.packageId
        desiredVersion := prepared.package.version }

end PackageApi
