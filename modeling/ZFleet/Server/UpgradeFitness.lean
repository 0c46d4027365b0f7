import ZFleet.Server.PublicationLifecycle
import ZFleet.Server.TaskLifecycle

/-!
Which packages are sent to agents. The upgrade request refuses a retired package and no
other status, and it compares versions as texts before it compares them as numbers; so it
deploys a package that was rejected, and one whose version differs from the agent's in its
text only. All else it checks, and it checks the installer it schedules first completely.
-/
namespace UpgradeFitness
open Message Package KeyedTables Transactions Schema AgentStore TaskStore PackageStore PackageApi
open Semver
open PublicationLifecycle (SameShelves)

inductive Request where
  | package (request : PublicationLifecycle.Request)
  | event (env : ControlService.Environment) (event : AgentEvent)
  | upgrade (agentId body : String)

structure Call where
  request : Request
  origin : Origin
  faults : List (Option Fault)

def execute (env : Environment) (origin : Origin) : Request → Job Depot Unit
  | .package request => do
    let _ ← PublicationLifecycle.execute env origin request
    pure ()
  | .event service event => do
    let _ ← onStore (ControlService.handleAgentEvent service event)
    pure ()
  | .upgrade agentId body => do
    let _ ← respond (upgradeAgent env origin agentId body)
    pure ()

def step (env : Environment) (depot : Depot) (call : Call) : Depot :=
  (execute env call.origin call.request ⟨depot, call.faults⟩).2.state

/-! What a created task must fit -/

def Created (before after : Depot) (row : TaskRow) : Prop :=
  after.store.tasks.find row.taskId = some row ∧ before.store.tasks.find row.taskId = none

/-- The task is for this package. -/
def Applies (row : TaskRow) (package : AgentPackageRow) : Prop :=
  ∃ input, row.inputBlob = .packageUpdate input ∧ input.packageId = package.packageId

def Newer (version current : String) : Prop :=
  ∃ v w, parseSemver3 version = some v ∧ parseSemver3 current = some w ∧ w < v

structure FitsAgent (depot : Depot) (agentId : String) (package : AgentPackageRow) : Prop where
  stored : depot.packages.find package.packageId = some package
  component : package.component = "agent"
  status : package.status = .validated ∨ package.status = .published
  target : ∃ agent snapshot, depot.store.agents.find agentId = some agent ∧
    latestSnapshot agentId depot.store = some snapshot ∧ package.platform = agent.platform ∧
    package.arch = snapshot.arch ∧ Newer package.version agent.agentVersion

/-- A published installer for the package, not below what its manifest asks for. -/
structure FitsInstaller (env : Environment) (depot : Depot) (package installer : AgentPackageRow) :
    Prop where
  stored : depot.packages.find installer.packageId = some installer
  component : installer.component = "installer"
  status : installer.status = .published
  platform : installer.platform = package.platform
  arch : installer.arch = package.arch
  buildType : installer.buildType = package.buildType
  version : ∃ manifest minimum v,
    parseManifestJson env.json package.manifestJson = .ok manifest ∧
    parseSemver3 manifest.minInstallerVersion = some minimum ∧
    parseSemver3 installer.version = some v ∧ minimum ≤ v

/-- A created update task is for a package that fits its agent, or it is the prerequisite of
    such a task and for an installer that fits that package. -/
def FitTask (env : Environment) (before after : Depot) (row : TaskRow) : Prop :=
  ∃ package, (Applies row package ∧ FitsAgent before row.agentId package) ∨
    ∃ task installer, Created before after task ∧ task.prerequisiteTaskId = some row.taskId ∧
      Applies task package ∧ FitsAgent before task.agentId package ∧
      Applies row installer ∧ FitsInstaller env before package installer

def CreatesFit (env : Environment) (before after : Depot) : Prop :=
  ∀ row, Created before after row → row.taskType = .packageUpdate → FitTask env before after row

/-- The manifest asks for no installer, or a fitting one is published and its task is new. -/
def Installable (env : Environment) (origin : Origin) (depot : Depot)
    (package : AgentPackageRow) (minInstallerVersion : String) : Prop :=
  minInstallerVersion = "" ∨ ∃ minimum installer manifest,
    parseSemver3 minInstallerVersion = some minimum ∧
    chooseInstaller package minimum (depot.packages.rows.mergeSort listedBefore) =
      some installer ∧
    parseManifestJson env.json installer.manifestJson = .ok manifest ∧
    depot.store.tasks.find origin.prerequisiteTaskId = none ∧
    origin.prerequisiteTaskId ≠ origin.taskId

/-- The agent and the package that an upgrade request names pass all that it checks. -/
structure Passes (env : Environment) (origin : Origin) (depot : Depot) (agentId body : String)
    (agent : AgentRow) (package : AgentPackageRow) : Prop where
  allowed : env.allowHighRiskWrite = true
  known : depot.store.agents.find agentId = some agent
  selected : ∃ input, parseUpgradeRequestBody env.json body = .ok input ∧
    depot.packages.find input.packageId = some package
  target : checkTarget package = none
  upgrade : checkUpgrade package agent (latestSnapshot agentId depot.store) = none
  installable : ∃ manifest, parseManifestJson env.json package.manifestJson = .ok manifest ∧
    Installable env origin depot package manifest.minInstallerVersion
  fresh : depot.store.tasks.find origin.taskId = none

/-- What the request does not check: that the package was validated, and that the versions
    differ as versions. -/
def Unchecked (agent : AgentRow) (package : AgentPackageRow) : Prop :=
  package.status = .uploaded ∨ package.status = .rejected ∨
    parseSemver3 package.version = parseSemver3 agent.agentVersion

/-- An upgrade that passes the checks, to a package that was uploaded or rejected or that
    has the version of the agent in another spelling. -/
def Unfit (env : Environment) (depot : Depot) (call : Call) : Prop :=
  ∃ agentId body agent package, call.request = .upgrade agentId body ∧
    Passes env call.origin depot agentId body agent package ∧ Unchecked agent package

/-! The checks of an upgrade -/

theorem checkTarget_none {package : AgentPackageRow} (passed : checkTarget package = none) :
    package.status ≠ .retired ∧ package.component = "agent" := by
  unfold checkTarget at passed
  split at passed
  · cases passed
  · rename_i current
    split at passed
    · cases passed
    · rename_i component
      exact ⟨current, not_not.mp component⟩

theorem checkUpgrade_none {package : AgentPackageRow} {agent : AgentRow}
    {asset : Option AssetSnapshotRow} (passed : checkUpgrade package agent asset = none) :
    (∃ snapshot, asset = some snapshot ∧ package.platform = agent.platform ∧
      package.arch = snapshot.arch) ∧
    ∃ v w, parseSemver3 package.version = some v ∧ parseSemver3 agent.agentVersion = some w ∧
      w ≤ v := by
  unfold checkUpgrade at passed
  split at passed
  · cases passed
  · rename_i fits
    split at passed
    · cases passed
    · cases version : parseSemver3 package.version with
      | none => simp [version] at passed
      | some v =>
        cases current : parseSemver3 agent.agentVersion with
        | none => simp [version, current] at passed
        | some w =>
          simp only [version, current] at passed
          split at passed
          · cases passed
          · rename_i newer
            refine ⟨?_, v, w, rfl, rfl, not_lt.mp newer⟩
            cases asset with
            | none => simp at fits
            | some snapshot =>
              refine ⟨snapshot, rfl, ?_⟩
              simpa [not_or] using fits

theorem fitsInstaller_of_listed {env : Environment} {depot : Depot}
    {package installer : AgentPackageRow} {manifest : Manifest} {minimum : Semver3}
    (parsed : parseManifestJson env.json package.manifestJson = .ok manifest)
    (least : parseSemver3 manifest.minInstallerVersion = some minimum)
    (member : installer ∈ depot.packages.rows)
    (fits : fitsInstaller package minimum installer = true) :
    FitsInstaller env depot package installer := by
  unfold fitsInstaller at fits
  simp only [Bool.and_eq_true, decide_eq_true_eq] at fits
  obtain ⟨⟨⟨⟨⟨component, status⟩, platform⟩, arch⟩, buildType⟩, enough⟩ := fits
  refine ⟨Table.find_of_mem member, component, status, platform, arch, buildType, ?_⟩
  cases version : parseSemver3 installer.version with
  | none => simp [version] at enough
  | some v =>
    rw [version] at enough
    exact ⟨manifest, minimum, v, parsed, least, rfl, by simpa using enough⟩

/-- The chosen installer is one of the fitting ones. -/
theorem newerInstaller_mem {start chosen : Option AgentPackageRow}
    {listed : List AgentPackageRow} {installer : AgentPackageRow}
    (folded : listed.foldl newerInstaller start = chosen) (some_chosen : chosen = some installer) :
    installer ∈ listed ∨ start = some installer := by
  induction listed generalizing start with
  | nil => exact Or.inr (folded.trans some_chosen)
  | cons candidate listed ih =>
    rcases ih folded with later | now
    · exact Or.inl (List.mem_cons_of_mem candidate later)
    · unfold newerInstaller at now
      split at now
      · cases now
        exact Or.inl (by simp)
      · split at now
        · split at now
          · cases now
            exact Or.inl (by simp)
          · exact Or.inr now
        · cases now
          exact Or.inl (by simp)

theorem chooseInstaller_some {package installer : AgentPackageRow} {minimum : Semver3}
    {listed : List AgentPackageRow}
    (chosen : chooseInstaller package minimum listed = some installer) :
    installer ∈ listed ∧ fitsInstaller package minimum installer = true := by
  rcases newerInstaller_mem rfl chosen with member | impossible
  · exact List.mem_filter.mp member
  · cases impossible

/-! What an upgrade has looked up and built -/

def Unchanged (before after : Depot) : Prop := after = before

theorem unchanged_refl (depot : Depot) : Unchanged depot depot := rfl

theorem unchanged_trans (x y z : Depot) (first : Unchanged x y) (rest : Unchanged y z) :
    Unchanged x z := Eq.trans rest first

theorem onStore_query_ok {α : Type} {read : Store → α} {s s' : Session Depot} {a : α}
    (done : onStore (executeWithBusyRetry (query read)) s = (.ok a, s')) :
    a = read s.state.store ∧ s'.state = s.state := by
  obtain ⟨final, ran, after⟩ := onStore_ok done
  obtain ⟨start, same, asked⟩ := retry_ok (query_atomic read) ran
  obtain ⟨answer, kept⟩ := query_ok asked
  rw [same] at answer kept
  refine ⟨answer, ?_⟩
  rw [after, kept]

theorem onStore_atomic {α : Type} {job : Job Store α} (atomic : Atomic job) :
    Atomic (onStore job) := by
  intro s e s' failed
  unfold onStore at failed
  cases ran : job ⟨s.state.store, s.faults⟩ with
  | mk result final =>
    rw [ran] at failed
    cases failed
    have kept : final.state = s.state.store := atomic _ e final ran
    change { s.state with store := final.state } = s.state
    rw [kept]

theorem onStore_query_unchanged {α : Type} (read : Store → α) :
    Evolves Unchanged (onStore (executeWithBusyRetry (query read))) :=
  evolves_of_atomic (onStore_atomic (retry_atomic busyRetryAttempts (query_atomic read)))
    unchanged_refl fun _ _ _ done => (onStore_query_ok done).2

theorem findAgentPackage_unchanged (packageId : String) :
    Evolves Unchanged (findAgentPackage packageId) :=
  evolves_of_atomic (findAgentPackage_atomic packageId) unchanged_refl
    fun _ _ _ done => (findAgentPackage_ok done).2

theorem listAgentPackages_unchanged : Evolves Unchanged listAgentPackages :=
  evolves_of_atomic (submit_atomic (query_atomic _)) unchanged_refl
    fun _ _ _ done => (listAgentPackages_ok done).2

theorem bind_unchanged {α β : Type} {job : Job Depot α} {next : α → Job Depot β}
    (first : Evolves Unchanged job) (rest : ∀ a, Evolves Unchanged (next a)) :
    Evolves Unchanged (job >>= next) := evolves_trans first rest unchanged_trans

theorem ofExcept_unchanged {α : Type} (result : Except String α) :
    Evolves Unchanged (ofExcept result : Job Depot α) := evolves_ofExcept unchanged_refl result

theorem pure_unchanged {α : Type} (a : α) : Evolves Unchanged (pure a : Job Depot α) :=
  evolves_pure unchanged_refl a

theorem findCompatibleInstallerPackage_unchanged (package : AgentPackageRow)
    (minInstallerVersion : String) :
    Evolves Unchanged (findCompatibleInstallerPackage package minInstallerVersion) := by
  unfold findCompatibleInstallerPackage
  split
  · exact pure_unchanged none
  · split
    · exact pure_unchanged none
    · exact bind_unchanged listAgentPackages_unchanged fun _ => pure_unchanged _

theorem prerequisiteTask_unchanged (env : Environment) (origin : Origin)
    (agentId expiresAt : String) (package : AgentPackageRow) (minInstallerVersion : String) :
    Evolves Unchanged
      (prerequisiteTask env origin agentId expiresAt package minInstallerVersion) := by
  unfold prerequisiteTask
  split
  · exact pure_unchanged _
  · apply bind_unchanged (findCompatibleInstallerPackage_unchanged package minInstallerVersion)
    intro found
    cases found with
    | none => exact pure_unchanged _
    | some installer => exact bind_unchanged (ofExcept_unchanged _) fun _ => pure_unchanged _

theorem buildTasks_unchanged (env : Environment) (origin : Origin) (agentId : String)
    (agent : AgentRow) (package : AgentPackageRow) (asset : Option AssetSnapshotRow)
    (input : UpgradeRequestBody) :
    Evolves Unchanged (buildTasks env origin agentId agent package asset input) := by
  apply bind_unchanged (ofExcept_unchanged _)
  intro manifest
  apply bind_unchanged (ofExcept_unchanged _)
  intro task
  apply bind_unchanged (prerequisiteTask_unchanged env origin agentId _ package _)
  intro answer
  cases answer with
  | error refusal => exact pure_unchanged _
  | ok prerequisite => exact pure_unchanged _

/-- The checks only read. -/
theorem prepareUpgrade_unchanged (env : Environment) (origin : Origin) (agentId body : String) :
    Evolves Unchanged (prepareUpgrade env origin agentId body) := by
  unfold prepareUpgrade
  split
  · exact pure_unchanged _
  · apply bind_unchanged (onStore_query_unchanged _)
    intro known
    cases known with
    | none => exact pure_unchanged _
    | some agent =>
      apply bind_unchanged (ofExcept_unchanged _)
      intro input
      apply bind_unchanged (findAgentPackage_unchanged input.packageId)
      intro found
      cases found with
      | none => exact pure_unchanged _
      | some package =>
        cases target : checkTarget package with
        | some refusal =>
          simp only [target]
          exact pure_unchanged _
        | none =>
          simp only [target]
          apply bind_unchanged (onStore_query_unchanged _)
          intro asset
          cases upgrade : checkUpgrade package agent asset with
          | some refusal => exact pure_unchanged _
          | none => exact buildTasks_unchanged env origin agentId agent package asset input

/-- The task is for this agent and applies this package. -/
structure AppliesTo (agentId taskId : String) (package : AgentPackageRow) (task : Message.Task) :
    Prop where
  agentId : task.agentId = agentId
  taskId : task.taskId = taskId
  taskType : task.taskType = .packageUpdate
  input : ∃ input, task.input = .packageUpdate input ∧ input.packageId = package.packageId

theorem createPackageTask_ok {env : Environment} {agentId now expiresAt taskId : String}
    {package : AgentPackageRow} {task : Message.Task}
    (built : createPackageTask env agentId now expiresAt package taskId = .ok task) :
    AppliesTo agentId taskId package task := by
  unfold createPackageTask at built
  cases parsed : parseManifestJson env.json package.manifestJson with
  | error message =>
    rw [parsed] at built
    cases built
  | ok manifest =>
    rw [parsed] at built
    cases built
    exact ⟨rfl, rfl, rfl, _, rfl, rfl⟩

theorem createPackageTask_parsed {env : Environment} {agentId now expiresAt taskId : String}
    {package : AgentPackageRow} {task : Message.Task}
    (built : createPackageTask env agentId now expiresAt package taskId = .ok task) :
    ∃ manifest, parseManifestJson env.json package.manifestJson = .ok manifest := by
  unfold createPackageTask at built
  cases parsed : parseManifestJson env.json package.manifestJson with
  | error message =>
    rw [parsed] at built
    cases built
  | ok manifest => exact ⟨manifest, rfl⟩

/-- The installer task that precedes an upgrade. -/
inductive Prerequisite (env : Environment) (origin : Origin) (agentId : String) (depot : Depot)
    (package : AgentPackageRow) (minInstallerVersion : String) : Option Message.Task → Prop where
  | none : minInstallerVersion = "" →
      Prerequisite env origin agentId depot package minInstallerVersion none
  | some (minimum : Semver3) (installer : AgentPackageRow) (manifest : Manifest)
      (task : Message.Task) : parseSemver3 minInstallerVersion = some minimum →
      chooseInstaller package minimum (depot.packages.rows.mergeSort listedBefore) =
        some installer →
      parseManifestJson env.json installer.manifestJson = .ok manifest →
      AppliesTo agentId origin.prerequisiteTaskId installer task →
      Prerequisite env origin agentId depot package minInstallerVersion (some task)

/-- What an upgrade whose checks all passed goes by. -/
structure Prepared (env : Environment) (origin : Origin) (agentId body : String) (depot : Depot)
    (prepared : Preparation) : Prop where
  allowed : env.allowHighRiskWrite = true
  known : depot.store.agents.find agentId = some prepared.agent
  parsed : parseUpgradeRequestBody env.json body = .ok prepared.input
  package : depot.packages.find prepared.input.packageId = some prepared.package
  target : checkTarget prepared.package = none
  upgrade : checkUpgrade prepared.package prepared.agent (latestSnapshot agentId depot.store) =
    none
  task : AppliesTo agentId origin.taskId prepared.package prepared.task
  prerequisite : ∃ manifest,
    parseManifestJson env.json prepared.package.manifestJson = .ok manifest ∧
    Prerequisite env origin agentId depot prepared.package manifest.minInstallerVersion
      prepared.prerequisite

theorem prerequisiteTask_ok {env : Environment} {origin : Origin}
    {agentId expiresAt minInstallerVersion : String} {package : AgentPackageRow}
    {s s' : Session Depot} {prerequisite : Option Message.Task}
    (done : prerequisiteTask env origin agentId expiresAt package minInstallerVersion s =
      (.ok (.ok prerequisite), s')) :
    Prerequisite env origin agentId s.state package minInstallerVersion prerequisite := by
  unfold prerequisiteTask at done
  split at done
  · rename_i unasked
    cases (pure_ok done).1
    exact .none unasked
  · rename_i required
    obtain ⟨found, middle, lookup, rest⟩ := bind_ok done
    cases found with
    | none => cases (pure_ok rest).1
    | some installer =>
      obtain ⟨task, _, build, rest⟩ := bind_ok rest
      cases (pure_ok rest).1
      have built := (ofExcept_ok build).1
      unfold findCompatibleInstallerPackage at lookup
      rw [if_neg required] at lookup
      cases least : parseSemver3 minInstallerVersion with
      | none =>
        rw [least] at lookup
        cases (pure_ok lookup).1
      | some minimum =>
        simp only [least] at lookup
        obtain ⟨listed, _, list, rest⟩ := bind_ok lookup
        have chosen := (pure_ok rest).1
        rw [(listAgentPackages_ok list).1] at chosen
        obtain ⟨manifest, parsed⟩ := createPackageTask_parsed built
        exact .some minimum installer manifest task least chosen parsed
          (createPackageTask_ok built)

theorem buildTasks_ok {env : Environment} {origin : Origin} {agentId : String} {agent : AgentRow}
    {package : AgentPackageRow} {asset : Option AssetSnapshotRow} {input : UpgradeRequestBody}
    {s s' : Session Depot} {prepared : Preparation}
    (done : buildTasks env origin agentId agent package asset input s =
      (.ok (.ok prepared), s')) :
    prepared.agent = agent ∧ prepared.package = package ∧ prepared.input = input ∧
      AppliesTo agentId origin.taskId package prepared.task ∧
      ∃ manifest, parseManifestJson env.json package.manifestJson = .ok manifest ∧
        Prerequisite env origin agentId s.state package manifest.minInstallerVersion
          prepared.prerequisite := by
  obtain ⟨manifest, _, parse, building⟩ := bind_ok done
  obtain ⟨parsed, rfl⟩ := ofExcept_ok parse
  obtain ⟨task, _, build, asking⟩ := bind_ok building
  obtain ⟨built, rfl⟩ := ofExcept_ok build
  obtain ⟨answer, middle, asked, last⟩ := bind_ok asking
  cases answer with
  | error refusal => cases (pure_ok last).1
  | ok prerequisite =>
    cases (pure_ok last).1
    exact ⟨rfl, rfl, rfl, createPackageTask_ok built, manifest, parsed,
      prerequisiteTask_ok asked⟩

theorem prepareUpgrade_ok {env : Environment} {origin : Origin} {agentId body : String}
    {s s' : Session Depot} {prepared : Preparation}
    (done : prepareUpgrade env origin agentId body s = (.ok (.ok prepared), s')) :
    Prepared env origin agentId body s.state prepared := by
  unfold prepareUpgrade at done
  split at done
  · cases (pure_ok done).1
  · rename_i allowed
    obtain ⟨known, first, lookup, rest⟩ := bind_ok done
    obtain ⟨agent_known, same⟩ := onStore_query_ok lookup
    cases known with
    | none => cases (pure_ok rest).1
    | some agent =>
      obtain ⟨input, _, parse, searching⟩ := bind_ok rest
      obtain ⟨parsed, rfl⟩ := ofExcept_ok parse
      obtain ⟨found, second, search, rest⟩ := bind_ok searching
      obtain ⟨package_found, same'⟩ := findAgentPackage_ok search
      cases found with
      | none => cases (pure_ok rest).1
      | some package =>
        cases target : checkTarget package with
        | some refusal =>
          simp only [target] at rest
          cases (pure_ok rest).1
        | none =>
          simp only [target] at rest
          obtain ⟨asset, third, look, rest⟩ := bind_ok rest
          obtain ⟨asset_found, same''⟩ := onStore_query_ok look
          rw [same', same] at same''
          rw [same', same] at asset_found
          rw [same] at package_found
          subst asset_found
          cases upgrade : checkUpgrade package agent (latestSnapshot agentId s.state.store) with
          | some refusal =>
            simp only [upgrade] at rest
            cases (pure_ok rest).1
          | none =>
            simp only [upgrade] at rest
            obtain ⟨rfl, rfl, rfl, task, prerequisite⟩ := buildTasks_ok rest
            rw [same''] at prerequisite
            exact ⟨by simpa using allowed, agent_known.symm, parsed, package_found.symm, target,
              upgrade, task, prerequisite⟩

section
variable {env : Environment} {origin : Origin} {agentId body : String} {depot : Depot}
  {prepared : Preparation}

/-- A package that passed the checks and was looked at closely fits its agent. -/
theorem Prepared.fitsAgent (ready : Prepared env origin agentId body depot prepared)
    (checked : ¬ Unchecked prepared.agent prepared.package) :
    FitsAgent depot agentId prepared.package := by
  obtain ⟨current, component⟩ := checkTarget_none ready.target
  obtain ⟨⟨snapshot, latest, platform, arch⟩, v, w, version, current', least⟩ :=
    checkUpgrade_none ready.upgrade
  simp only [Unchecked, not_or] at checked
  obtain ⟨not_uploaded, not_rejected, differs⟩ := checked
  have own := Table.find_key ready.package
  refine ⟨own ▸ ready.package, component, ?_, prepared.agent, snapshot, ready.known, latest,
    platform, arch, v, w, version, current', ?_⟩
  · cases status : prepared.package.status with
    | uploaded => exact absurd status not_uploaded
    | validated => exact Or.inl rfl
    | published => exact Or.inr rfl
    | retired => exact absurd status current
    | rejected => exact absurd status not_rejected
  · refine lt_of_le_of_ne least ?_
    rintro rfl
    exact differs (version.trans current'.symm)

/-- The other way round: what fits was looked at closely. -/
theorem Prepared.checked (ready : Prepared env origin agentId body depot prepared)
    (fits : FitsAgent depot agentId prepared.package) :
    ¬ Unchecked prepared.agent prepared.package := by
  obtain ⟨agent, snapshot, known, _, _, _, v, w, version, current, newer⟩ := fits.target
  cases known.symm.trans ready.known
  rintro (uploaded | rejected | same)
  · simpa [uploaded] using fits.status
  · simpa [rejected] using fits.status
  · rw [version, current] at same
    cases same
    exact lt_irrefl v newer

/-- The prerequisite, if any, is for a fitting installer. -/
theorem Prepared.fitsInstaller (ready : Prepared env origin agentId body depot prepared)
    {task : Message.Task} (first : prepared.prerequisite = some task) :
    ∃ installer, FitsInstaller env depot prepared.package installer ∧
      AppliesTo agentId origin.prerequisiteTaskId installer task := by
  obtain ⟨manifest, parsed, prerequisite⟩ := ready.prerequisite
  rw [first] at prerequisite
  cases prerequisite with
  | some minimum installer _ _ least chosen _ applies =>
    obtain ⟨member, fits⟩ := chooseInstaller_some chosen
    exact ⟨installer,
      fitsInstaller_of_listed parsed least (List.mem_mergeSort.mp member) fits, applies⟩

/-- With new ids an upgrade that was prepared passes its checks. -/
theorem Prepared.passes (ready : Prepared env origin agentId body depot prepared)
    (fresh : NewTasks depot.store prepared.task prepared.prerequisite) :
    Passes env origin depot agentId body prepared.agent prepared.package := by
  obtain ⟨manifest, parsed, prerequisite⟩ := ready.prerequisite
  refine ⟨ready.allowed, ready.known, ⟨prepared.input, ready.parsed, ready.package⟩,
    ready.target, ready.upgrade, ⟨manifest, parsed, ?_⟩, ready.task.taskId ▸ fresh.1⟩
  cases chosen : prepared.prerequisite with
  | none =>
    rw [chosen] at prerequisite
    cases prerequisite with
    | none unasked => exact Or.inl unasked
  | some task =>
    rw [chosen] at prerequisite
    obtain ⟨new, differs⟩ := fresh.2 task chosen
    cases prerequisite with
    | some minimum installer manifest' _ least chosen' parsed' applies =>
      rw [applies.taskId, ready.task.taskId] at differs
      rw [applies.taskId] at new
      exact Or.inr ⟨minimum, installer, manifest', least, chosen', parsed', new, differs⟩

end

/-! The rows of the created tasks -/

theorem applies_queued {agentId taskId : String} {package : AgentPackageRow}
    {task : Message.Task} (applies : AppliesTo agentId taskId package task) {input : TaskInput}
    (serialized : serializeTaskInputBlob task.taskType task.input = .ok input)
    (prerequisiteTaskId : Option String) :
    Applies (queuedTaskRow task input prerequisiteTaskId) package := by
  obtain ⟨given, is_input, target⟩ := applies.input
  unfold serializeTaskInputBlob at serialized
  split at serialized
  · cases serialized
    rw [is_input]
    exact ⟨_, rfl, target⟩
  · cases serialized

/-- A schedule that returned has created the upgrade task, and nothing else but the
    prerequisite. -/
structure Scheduled (prepared : Preparation) (before after : Depot) : Prop where
  created : ∃ input, serializeTaskInputBlob prepared.task.taskType prepared.task.input =
      .ok input ∧ Created before after
    (queuedTaskRow prepared.task input (prepared.prerequisite.map Message.Task.taskId))
  only : ∀ row, Created before after row →
    QueuedRowOf (prepared.prerequisite.toList ++ [prepared.task]) row
  fresh : NewTasks before.store prepared.task prepared.prerequisite

theorem schedulePrepared_ok {origin : Origin} {agentId : String}
    {prepared : Preparation} {s s' : Session Depot} {u : Unit}
    (done : schedulePrepared origin agentId prepared s = (.ok u, s')) :
    Scheduled prepared s.state s'.state := by
  obtain ⟨final, ran, after⟩ := onStore_ok done
  obtain ⟨rows, tasks, queued, inserted, effect, _, fresh, input, serialized, stored⟩ :=
    scheduleAgentUpgrade_queues ran
  have tasks_after : s'.state.store.tasks = tasks := by rw [after, effect]
  refine ⟨⟨input, serialized, ?_, fresh.1⟩, ?_, fresh⟩
  · rw [tasks_after]
    exact stored
  · rintro row ⟨found, new⟩
    rw [tasks_after] at found
    rcases Table.find_insertAll inserted found with known | ⟨_, member⟩
    · rw [new] at known
      cases known
    · exact queued row member

/-- What applies a package applies no other. -/
theorem applies_unique {row : TaskRow} {package package' : AgentPackageRow}
    (applies : Applies row package) (applies' : Applies row package') :
    package.packageId = package'.packageId := by
  obtain ⟨input, is_input, target⟩ := applies
  obtain ⟨input', is_input', target'⟩ := applies'
  cases is_input.symm.trans is_input'
  exact target.symm.trans target'

section
variable {env : Environment} {origin : Origin} {agentId body : String}
  {prepared : Preparation} {before after : Depot}

/-- The upgrade task fits only as a task for the package, not as one for an installer. -/
theorem Prepared.fits_of_fitTask (ready : Prepared env origin agentId body before prepared)
    {row : TaskRow} (applies : Applies row prepared.package) (agent : row.agentId = agentId)
    (fit : FitTask env before after row) : FitsAgent before agentId prepared.package := by
  have own := Table.find_key ready.package
  have stored : before.packages.find prepared.package.packageId = some prepared.package :=
    own ▸ ready.package
  obtain ⟨package, ⟨applies', fits⟩ | ⟨_, installer, _, _, _, _, applies', fits⟩⟩ := fit
  · have found := fits.stored
    rw [← applies_unique applies applies', stored] at found
    cases found
    rw [agent] at fits
    exact fits
  · have found := fits.stored
    rw [← applies_unique applies applies', stored] at found
    cases found
    have component := (checkTarget_none ready.target).2
    rw [fits.component] at component
    exact absurd component (by decide)

/-- The created tasks all fit exactly when the package was looked at closely. -/
theorem Scheduled.fit_iff (ready : Prepared env origin agentId body before prepared)
    (scheduled : Scheduled prepared before after) :
    CreatesFit env before after ↔ ¬ Unchecked prepared.agent prepared.package := by
  obtain ⟨input, serialized, created⟩ := scheduled.created
  have applies := applies_queued ready.task serialized
    (prepared.prerequisite.map Message.Task.taskId)
  have agent := ready.task.agentId
  constructor
  · intro fit
    have fitting := fit _ created ready.task.taskType
    exact ready.checked (ready.fits_of_fitTask applies agent fitting)
  · intro checked row fresh _
    have fits : FitsAgent before prepared.task.agentId prepared.package := by
      rw [agent]
      exact ready.fitsAgent checked
    obtain ⟨task, member, input', first, serialized', rfl⟩ := scheduled.only row fresh
    refine ⟨prepared.package, ?_⟩
    rcases List.mem_append.mp member with prerequisite | target
    · have chosen : prepared.prerequisite = some task := Option.mem_toList.mp prerequisite
      obtain ⟨installer, fits_installer, applies_installer⟩ := ready.fitsInstaller chosen
      refine Or.inr ⟨_, installer, created, ?_, applies, fits,
        applies_queued applies_installer serialized' first, fits_installer⟩
      rw [chosen]
      rfl
    · obtain rfl := List.mem_singleton.mp target
      exact Or.inl ⟨applies_queued ready.task serialized' first, fits⟩

end

/-! Requests that create no task -/

theorem createsFit_of_none {env : Environment} {before after : Depot}
    (none_created : ∀ row, ¬ Created before after row) : CreatesFit env before after :=
  fun row created _ => absurd created (none_created row)

def SameQueue (before after : Depot) : Prop := after.store.tasks = before.store.tasks

theorem sameQueue_refl (depot : Depot) : SameQueue depot depot := rfl

theorem sameQueue_trans (x y z : Depot) (first : SameQueue x y) (rest : SameQueue y z) :
    SameQueue x z := Eq.trans rest first

theorem none_created_of_sameQueue {before after : Depot} (same : SameQueue before after)
    (row : TaskRow) : ¬ Created before after row := by
  rintro ⟨found, fresh⟩
  rw [same, fresh] at found
  cases found

theorem createsFit_congr {env : Environment} {before middle after : Depot}
    (same : SameQueue middle after) :
    CreatesFit env before after ↔ CreatesFit env before middle := by
  unfold CreatesFit FitTask Created
  rw [same]

theorem bind_sameQueue {α β : Type} {job : Job Depot α} {next : α → Job Depot β}
    (first : Evolves SameQueue job) (rest : ∀ a, Evolves SameQueue (next a)) :
    Evolves SameQueue (job >>= next) := evolves_trans first rest sameQueue_trans

theorem unchanged_sameQueue {α : Type} {job : Job Depot α} (reads : Evolves Unchanged job) :
    Evolves SameQueue job := evolves_mono reads fun x _ same => same ▸ sameQueue_refl x

theorem audit_sameQueue (origin : Origin) (n : Nat) (eventType : AuditEventType)
    (requestId result : String) (payload : List (String × String)) :
    Evolves SameQueue (audit origin n eventType requestId result payload) :=
  onStore_evolves (recordAuditEvent_sameTasks _) fun _ _ same => same.tasks

theorem upsertAgentPackage_sameQueue (package : AgentPackageRow) :
    Evolves SameQueue (upsertAgentPackage package) :=
  evolves_of_atomic (upsertAgentPackage_atomic package) sameQueue_refl fun _ _ _ done => by
    rw [upsertAgentPackage_ok done]
    exact sameQueue_refl _

theorem submit_sameQueue {α : Type} {job : Job Depot α} (keeps : Evolves SameQueue job) :
    Evolves SameQueue (submit job) :=
  evolves_retry_of_trans busyRetryAttempts keeps sameQueue_trans

theorem clearDefaults_sameQueue (selects : PublicationRow → Bool) :
    Evolves SameQueue (clearDefaults selects) :=
  evolves_execute sameQueue_refl fun _ => rfl

theorem putPublication_sameQueue (row : PublicationRow) :
    Evolves SameQueue (putPublication row) :=
  evolves_statement sameQueue_refl fun depot _ _ ran => by
    split at ran
    · cases ran
      exact sameQueue_refl depot
    · cases ran

theorem updatePackage_sameQueue (packageId : String) (change : AgentPackageRow → AgentPackageRow)
    (keeps : ∀ r, (change r).packageId = r.packageId) :
    Evolves SameQueue (updatePackage packageId change keeps) :=
  evolves_statement sameQueue_refl fun depot _ _ ran => by
    cases ran
    exact sameQueue_refl depot

theorem commit_sameQueue : Evolves SameQueue commit :=
  evolves_execute sameQueue_refl sameQueue_refl

theorem publishAgentPackage_sameQueue (packageId : String) (slot : Slot)
    (publishedBy : Option String) (publishedAt : String) :
    Evolves SameQueue (publishAgentPackage packageId slot publishedBy publishedAt) := by
  apply submit_sameQueue
  apply evolves_transaction sameQueue_refl
  apply bind_sameQueue (clearDefaults_sameQueue _)
  intro _
  apply bind_sameQueue (putPublication_sameQueue _)
  intro _
  apply bind_sameQueue (updatePackage_sameQueue _ _ _)
  intro changed
  split
  · exact evolves_fail sameQueue_refl _
  · exact bind_sameQueue commit_sameQueue fun _ => evolves_pure sameQueue_refl _

theorem retireAgentPackage_sameQueue (packageId retiredAt : String) :
    Evolves SameQueue (retireAgentPackage packageId retiredAt) := by
  apply submit_sameQueue
  apply evolves_transaction sameQueue_refl
  apply bind_sameQueue (updatePackage_sameQueue _ _ _)
  intro changed
  split
  · exact evolves_fail sameQueue_refl _
  · apply bind_sameQueue (clearDefaults_sameQueue _)
    intro _
    exact bind_sameQueue commit_sameQueue fun _ => evolves_pure sameQueue_refl _

theorem answerPackage_sameQueue (packageId : String) :
    Evolves SameQueue (answerPackage packageId) := by
  apply bind_sameQueue (unchanged_sameQueue (findAgentPackage_unchanged packageId))
  intro found
  cases found with
  | none => exact evolves_fail sameQueue_refl _
  | some row => exact evolves_pure sameQueue_refl _

theorem storeUpload_sameQueue (env : Environment) (origin : Origin) (upload : Upload) :
    Evolves SameQueue (storeUpload env origin upload) := by
  apply bind_sameQueue (evolves_ofExcept sameQueue_refl _)
  intro storagePath
  apply bind_sameQueue (evolves_ofExcept sameQueue_refl _)
  intro metadata
  apply bind_sameQueue (upsertAgentPackage_sameQueue _)
  intro _
  apply bind_sameQueue (upsertAgentPackage_sameQueue _)
  intro _
  exact bind_sameQueue (audit_sameQueue _ _ _ _ _ _) fun _ => evolves_pure sameQueue_refl _

theorem validatePackage_sameQueue (env : Environment) (origin : Origin)
    (stored : Except String Archive) (packageId : String) :
    Evolves SameQueue (validatePackage env origin stored packageId) := by
  apply bind_sameQueue (unchanged_sameQueue (findAgentPackage_unchanged packageId))
  intro found
  cases found with
  | none => exact evolves_pure sameQueue_refl _
  | some package =>
    dsimp only
    split
    · exact evolves_pure sameQueue_refl _
    · refine evolves_rescue ?_ ?_ sameQueue_trans
      · apply bind_sameQueue (evolves_ofExcept sameQueue_refl _)
        intro metadata
        apply bind_sameQueue (upsertAgentPackage_sameQueue _)
        intro _
        exact bind_sameQueue (audit_sameQueue _ _ _ _ _ _) fun _ => answerPackage_sameQueue _
      · intro e
        apply bind_sameQueue (upsertAgentPackage_sameQueue _)
        intro _
        exact bind_sameQueue (audit_sameQueue _ _ _ _ _ _) fun _ => evolves_pure sameQueue_refl _

theorem publishPackage_sameQueue (env : Environment) (origin : Origin) (body packageId : String) :
    Evolves SameQueue (publishPackage env origin body packageId) := by
  apply bind_sameQueue (unchanged_sameQueue (findAgentPackage_unchanged packageId))
  intro found
  cases found with
  | none => exact evolves_pure sameQueue_refl _
  | some package =>
    dsimp only
    split
    · exact evolves_pure sameQueue_refl _
    · apply bind_sameQueue (evolves_ofExcept sameQueue_refl _)
      intro input
      cases checkPublication package (channelOf input) with
      | some refusal => exact evolves_pure sameQueue_refl _
      | none =>
        apply bind_sameQueue (publishAgentPackage_sameQueue _ _ _ _)
        intro _
        exact bind_sameQueue (audit_sameQueue _ _ _ _ _ _) fun _ => answerPackage_sameQueue _

theorem retirePackage_sameQueue (origin : Origin) (packageId : String) :
    Evolves SameQueue (retirePackage origin packageId) := by
  apply bind_sameQueue (unchanged_sameQueue (findAgentPackage_unchanged packageId))
  intro found
  cases found with
  | none => exact evolves_pure sameQueue_refl _
  | some package =>
    apply bind_sameQueue (retireAgentPackage_sameQueue _ _)
    intro _
    exact bind_sameQueue (audit_sameQueue _ _ _ _ _ _) fun _ => answerPackage_sameQueue _

theorem packageRequest_sameQueue (env : Environment) (origin : Origin)
    (request : PublicationLifecycle.Request) :
    Evolves SameQueue (PublicationLifecycle.execute env origin request) := by
  cases request with
  | upload upload =>
    apply evolves_recover
    unfold commitAgentPackageUpload
    split
    · exact evolves_pure sameQueue_refl _
    · exact evolves_recover (storeUpload_sameQueue env origin upload)
  | validate stored packageId =>
    exact evolves_recover (validatePackage_sameQueue env origin stored packageId)
  | publish body packageId =>
    exact evolves_recover (publishPackage_sameQueue env origin body packageId)
  | retire packageId => exact evolves_recover (retirePackage_sameQueue origin packageId)

/-- An event of an agent creates no task. -/
theorem event_creates_none (service : ControlService.Environment) (event : AgentEvent)
    (store : Store) (faults : List (Option Fault)) {row : TaskRow}
    (found : (ControlService.handleAgentEvent service event ⟨store, faults⟩).2.state.tasks.find
      row.taskId = some row) : store.tasks.find row.taskId ≠ none := by
  intro fresh
  have origin : ∀ {reported : List TaskResult}, TaskOperations.TaskEffect [] reported store
      (ControlService.handleAgentEvent service event ⟨store, faults⟩).2.state → False := by
    intro reported effect
    rcases TaskOperations.effect_origin effect found with ⟨_, known, _⟩ | ⟨_, member, _⟩
    · rw [fresh] at known
      cases known
    · cases member
  rcases TaskLifecycle.handleAgentEvent_effect service event ⟨store, faults⟩ with
    effect | ⟨_, _, _, effect⟩
  · exact origin effect
  · exact origin effect

/-! What an upgrade request does -/

theorem auditUpgrade_sameQueue (origin : Origin) (agentId packageId : String)
    (prerequisite : Option Message.Task) :
    Evolves SameQueue (auditUpgrade origin agentId packageId prerequisite) := by
  apply bind_sameQueue (audit_sameQueue _ _ _ _ _ _)
  intro _
  cases prerequisite with
  | none => exact audit_sameQueue _ _ _ _ _ _
  | some task =>
    exact bind_sameQueue (audit_sameQueue _ _ _ _ _ _) fun _ => audit_sameQueue _ _ _ _ _ _

/-- An upgrade that schedules nothing leaves the tasks; otherwise only audits follow. -/
inductive Upgraded (env : Environment) (origin : Origin) (agentId body : String)
    (start : Session Depot) (after : Depot) : Prop where
  | refused : SameQueue start.state after →
      (∀ prepared middle final, prepareUpgrade env origin agentId body start =
          (.ok (.ok prepared), middle) →
        schedulePrepared origin agentId prepared middle ≠ (.ok (), final)) →
      Upgraded env origin agentId body start after
  | scheduled (prepared : Preparation) (middle final : Session Depot) :
      prepareUpgrade env origin agentId body start = (.ok (.ok prepared), middle) →
      schedulePrepared origin agentId prepared middle = (.ok (), final) →
      SameQueue final.state after → Upgraded env origin agentId body start after

theorem upgradeAgent_upgraded (env : Environment) (origin : Origin) (agentId body : String)
    (start : Session Depot) :
    Upgraded env origin agentId body start
      (upgradeAgent env origin agentId body start).2.state := by
  unfold upgradeAgent
  cases prepare : prepareUpgrade env origin agentId body start with
  | mk answer middle =>
    have read : middle.state = start.state :=
      prepareUpgrade_unchanged env origin agentId body start answer middle prepare
    cases answer with
    | error e =>
      rw [bind_of_error prepare]
      refine .refused (by rw [read]; exact sameQueue_refl _) ?_
      intro prepared middle' final prepared_ok
      cases prepare.symm.trans prepared_ok
    | ok answer =>
      rw [bind_of_ok prepare]
      cases answer with
      | error refusal =>
        refine .refused (read ▸ sameQueue_refl _) ?_
        intro prepared middle' final prepared_ok
        cases prepare.symm.trans prepared_ok
      | ok prepared =>
        cases schedule : schedulePrepared origin agentId prepared middle with
        | mk answer final =>
          cases answer with
          | error e =>
            have undone : final.state = middle.state :=
              onStore_atomic (scheduleAgentUpgrade_atomic _ _ _ _ _ _ _) middle e final schedule
            dsimp only
            rw [bind_of_error schedule]
            refine .refused (by rw [undone, read]; exact sameQueue_refl _) ?_
            intro prepared' middle' final' prepared_ok scheduled_ok
            cases prepare.symm.trans prepared_ok
            cases schedule.symm.trans scheduled_ok
          | ok u =>
            dsimp only
            rw [bind_of_ok schedule]
            refine .scheduled prepared middle final prepare schedule ?_
            refine bind_sameQueue (auditUpgrade_sameQueue _ _ _ _) ?_ final _ _ rfl
            exact fun _ => evolves_pure sameQueue_refl _

/-! An upgrade that passes its checks and meets no fault -/

section
variable {env : Environment} {origin : Origin} {agentId body : String} {depot : Depot}
  {agent : AgentRow} {package : AgentPackageRow}

theorem createPackageTask_of_parsed {manifest : Manifest}
    (parsed : parseManifestJson env.json package.manifestJson = .ok manifest)
    (agentId now expiresAt taskId : String) :
    ∃ task, createPackageTask env agentId now expiresAt package taskId = .ok task := by
  unfold createPackageTask
  rw [parsed]
  exact ⟨_, rfl⟩

theorem findCompatibleInstallerPackage_succeeds {minInstallerVersion : String}
    {minimum : Semver3} (required : minInstallerVersion ≠ "")
    (least : parseSemver3 minInstallerVersion = some minimum) :
    Succeeds (findCompatibleInstallerPackage package minInstallerVersion) depot
      (chooseInstaller package minimum (depot.packages.rows.mergeSort listedBefore)) depot := by
  unfold findCompatibleInstallerPackage
  rw [if_neg required, least]
  exact succeeds_bind (listAgentPackages_succeeds depot) (succeeds_pure _ _)

theorem prerequisiteTask_succeeds {minInstallerVersion : String}
    (installable : Installable env origin depot package minInstallerVersion)
    (expiresAt : String) :
    ∃ prerequisite, Succeeds
      (prerequisiteTask env origin agentId expiresAt package minInstallerVersion) depot
      (.ok prerequisite) depot := by
  unfold prerequisiteTask
  by_cases unasked : minInstallerVersion = ""
  · rw [if_pos unasked]
    exact ⟨none, succeeds_pure _ _⟩
  · obtain empty | ⟨minimum, installer, manifest, least, chosen, parsed, _⟩ := installable
    · exact absurd empty unasked
    · rw [if_neg unasked]
      have found := @findCompatibleInstallerPackage_succeeds depot package _ _ unasked least
      rw [chosen] at found
      obtain ⟨task, built⟩ := createPackageTask_of_parsed parsed agentId origin.now expiresAt
        origin.prerequisiteTaskId
      refine ⟨some task, succeeds_bind found ?_⟩
      dsimp only
      rw [built]
      exact succeeds_pure _ _

theorem prepareUpgrade_succeeds (passes : Passes env origin depot agentId body agent package) :
    ∃ prepared, Succeeds (prepareUpgrade env origin agentId body) depot (.ok prepared) depot ∧
      prepared.agent = agent ∧ prepared.package = package := by
  obtain ⟨input, parsed, found⟩ := passes.selected
  obtain ⟨manifest, manifest_parsed, installable⟩ := passes.installable
  obtain ⟨task, built⟩ := createPackageTask_of_parsed manifest_parsed agentId origin.now
    input.expiresAt origin.taskId
  obtain ⟨prerequisite, asked⟩ := @prerequisiteTask_succeeds env origin agentId depot package _
    installable input.expiresAt
  have look : Succeeds (onStore (findAgent agentId)) depot (some agent) depot := by
    rw [← passes.known]
    exact onStore_succeeds (submitWrite_succeeds (succeeds_query _ _))
  have search := findAgentPackage_succeeds input.packageId depot
  rw [found] at search
  have snapshot : Succeeds (onStore (findLatestAssetSnapshot agentId)) depot
      (latestSnapshot agentId depot.store) depot :=
    onStore_succeeds (submitWrite_succeeds (succeeds_query _ _))
  have building : Succeeds (buildTasks env origin agentId agent package
      (latestSnapshot agentId depot.store) input) depot
      (.ok ⟨agent, package, latestSnapshot agentId depot.store, input, task, prerequisite⟩)
      depot := by
    unfold buildTasks
    rw [manifest_parsed, ofExcept_bind, built, ofExcept_bind]
    exact succeeds_bind asked (succeeds_pure _ _)
  refine ⟨⟨agent, package, latestSnapshot agentId depot.store, input, task, prerequisite⟩, ?_,
    rfl, rfl⟩
  unfold prepareUpgrade
  rw [passes.allowed]
  refine succeeds_bind look ?_
  dsimp only
  rw [parsed, ofExcept_bind]
  refine succeeds_bind search ?_
  dsimp only
  simp only [passes.target]
  refine succeeds_bind snapshot ?_
  simp only [passes.upgrade]
  exact building

theorem applies_serializes {taskId : String} {task : Message.Task}
    (applies : AppliesTo agentId taskId package task) :
    ∃ input, serializeTaskInputBlob task.taskType task.input = .ok input := by
  obtain ⟨input, is_input, _⟩ := applies.input
  unfold serializeTaskInputBlob
  rw [applies.taskType, is_input]
  exact ⟨_, rfl⟩

/-- The tasks that a passing upgrade has built can be queued. -/
theorem schedulePrepared_succeeds {prepared : Preparation}
    (passes : Passes env origin depot agentId body prepared.agent prepared.package)
    (ready : Prepared env origin agentId body depot prepared) :
    ∃ final, Succeeds (schedulePrepared origin agentId prepared) depot () final := by
  have fresh : NewTasks depot.store prepared.task prepared.prerequisite := by
    refine ⟨ready.task.taskId.symm ▸ passes.fresh, ?_⟩
    intro task first
    obtain ⟨manifest, parsed, prerequisite⟩ := ready.prerequisite
    obtain ⟨manifest', parsed', installable⟩ := passes.installable
    cases parsed.symm.trans parsed'
    rw [first] at prerequisite
    cases prerequisite with
    | some minimum installer _ _ least _ _ applies =>
      rw [applies.taskId, ready.task.taskId]
      obtain empty | ⟨_, _, _, _, _, _, new, differs⟩ := installable
      · have unreadable : parseSemver3 "" = none := by decide
        rw [empty, unreadable] at least
        cases least
      · exact ⟨new, differs⟩
  have known : (depot.store.agents.find agentId).isSome := by
    rw [ready.known]
    rfl
  have serialized : ∀ t ∈ prepared.prerequisite.toList ++ [prepared.task], ∃ input,
      serializeTaskInputBlob t.taskType t.input = .ok input := by
    intro t member
    rcases List.mem_append.mp member with prerequisite | target
    · obtain ⟨_, _, applies⟩ := ready.fitsInstaller (Option.mem_toList.mp prerequisite)
      exact applies_serializes applies
    · obtain rfl := List.mem_singleton.mp target
      exact applies_serializes ready.task
  obtain ⟨final, ran⟩ := scheduleAgentUpgrade_succeeds known serialized fresh
    prepared.package.version prepared.input.packageId prepared.input.setBy origin.now
  exact ⟨_, onStore_succeeds ran⟩

end

/-! Whole runs -/

theorem step_upgrade (env : Environment) (origin : Origin) (agentId body : String)
    (depot : Depot) (faults : List (Option Fault)) :
    step env depot ⟨.upgrade agentId body, origin, faults⟩ =
      (upgradeAgent env origin agentId body ⟨depot, faults⟩).2.state := by
  unfold step execute respond
  rw [discard_state, recover_state]

/-- A request that is no unfit upgrade creates only fitting tasks, whatever the engine
    answers. -/
theorem step_createsFit {env : Environment} {depot : Depot} {call : Call}
    (fit : ¬ Unfit env depot call) : CreatesFit env depot (step env depot call) := by
  obtain ⟨request, origin, faults⟩ := call
  cases request with
  | package request =>
    apply createsFit_of_none
    apply none_created_of_sameQueue
    unfold step execute
    rw [discard_state]
    exact packageRequest_sameQueue env origin request ⟨depot, faults⟩ _ _ rfl
  | event service event =>
    apply createsFit_of_none
    rintro row ⟨found, fresh⟩
    unfold step execute at found
    rw [discard_state] at found
    exact event_creates_none service event depot.store faults found fresh
  | upgrade agentId body =>
    rw [step_upgrade]
    cases upgradeAgent_upgraded env origin agentId body ⟨depot, faults⟩ with
    | refused same _ => exact createsFit_of_none (none_created_of_sameQueue same)
    | scheduled prepared middle final prepare schedule same =>
      have read : middle.state = depot :=
        prepareUpgrade_unchanged env origin agentId body ⟨depot, faults⟩ _ middle prepare
      have ready : Prepared env origin agentId body depot prepared := prepareUpgrade_ok prepare
      have scheduled := schedulePrepared_ok schedule
      rw [read] at scheduled
      rw [createsFit_congr same, scheduled.fit_iff ready]
      intro unchecked
      exact fit ⟨agentId, body, _, _, rfl, ready.passes scheduled.fresh, unchecked⟩

/-- An unfit upgrade that meets no fault creates a task that does not fit. -/
theorem step_not_createsFit {env : Environment} {depot : Depot} {call : Call}
    (reliable : call.faults = []) (unfit : Unfit env depot call) :
    ¬ CreatesFit env depot (step env depot call) := by
  obtain ⟨request, origin, faults⟩ := call
  obtain rfl : faults = [] := reliable
  obtain ⟨agentId, body, agent, package, upgrade, passes, unchecked⟩ := unfit
  obtain rfl : request = .upgrade agentId body := upgrade
  obtain ⟨prepared, prepare, rfl, rfl⟩ := prepareUpgrade_succeeds passes
  have ready : Prepared env origin agentId body depot prepared := prepareUpgrade_ok prepare
  obtain ⟨final, schedule⟩ := schedulePrepared_succeeds passes ready
  rw [step_upgrade]
  cases upgradeAgent_upgraded env origin agentId body ⟨depot, []⟩ with
  | refused _ never => exact absurd schedule (never prepared _ _ prepare)
  | scheduled prepared' middle final' prepare' schedule' same =>
    cases Eq.trans (Eq.symm prepare) prepare'
    rw [createsFit_congr same, (schedulePrepared_ok schedule').fit_iff ready]
    exact not_not.mpr unchecked

/-- Only fitting tasks are created in a run whose upgrades are not unfit, whatever the engine
    answers; when it lets every statement through, only in such a run. -/
theorem only_fit_deployed_iff (env : Environment) (start : Depot) (calls : List Call) :
    (Runs.AllSteps (step env) start calls (fun depot call => ¬ Unfit env depot call) →
      Runs.AllSteps (step env) start calls
        (fun depot call => CreatesFit env depot (step env depot call))) ∧
    ((∀ call ∈ calls, call.faults = []) →
      (Runs.AllSteps (step env) start calls
          (fun depot call => CreatesFit env depot (step env depot call)) ↔
        Runs.AllSteps (step env) start calls (fun depot call => ¬ Unfit env depot call))) := by
  constructor
  · intro fit before call after split
    exact step_createsFit (fit before call after split)
  · intro reliable
    refine Runs.allSteps_iff_sides_on calls (fun call => call.faults = []) reliable
      (fun _ => True) _ _ trivial (fun _ _ _ _ => trivial) ?_
    intro depot call reliable _
    constructor
    · intro creates unfit
      exact step_not_createsFit reliable unfit creates
    · exact step_createsFit

/-! A rejected package that is sent to an agent -/

theorem latestSnapshot_of_only {agentId : String} {store : Store} {row : AssetSnapshotRow}
    (only : store.assetSnapshots.filter (fun row => row.agentId = agentId) = [row]) :
    latestSnapshot agentId store = some row := by
  unfold latestSnapshot snapshotsOf
  rw [only, List.mergeSort_singleton]
  rfl

theorem chooseInstaller_of_only {package installer : AgentPackageRow} {minimum : Semver3}
    {listed : List AgentPackageRow}
    (only : listed.filter (fitsInstaller package minimum) = [installer]) :
    chooseInstaller package minimum (listed.mergeSort listedBefore) = some installer := by
  have same : ((listed.mergeSort listedBefore).filter (fitsInstaller package minimum)).Perm
      [installer] := only ▸ (List.mergeSort_perm listed listedBefore).filter _
  unfold chooseInstaller
  rw [List.perm_singleton.mp same]
  rfl

def installerManifest (key : String) : Option JsonValue :=
  if key = "component" then some (.text "installer")
  else if key = "version" then some (.text "1.0.0")
  else PublicationLifecycle.releaseManifest key

def upgradeRequest : JsonObject
  | "package_id" => some (.text "a1")
  | _ => none

def upgradeText : String := "\x7b\"package_id\":\"a1\"\x7d"

/-- The manifest of the installer with its keys in order. -/
def installerText : String :=
  "\x7b\"schema_version\":2,\"component\":\"installer\",\"version\":\"1.0.0\"," ++
  "\"platform\":\"linux\",\"arch\":\"x86_64\",\"build_type\":\"release\"," ++
  "\"min_installer_version\":\"1.0.0\",\"files\":[]\x7d"

def releaseText : String :=
  "\x7b\"schema_version\":2,\"component\":\"agent\",\"version\":\"1.1.0\"," ++
  "\"platform\":\"linux\",\"arch\":\"x86_64\",\"build_type\":\"release\"," ++
  "\"min_installer_version\":\"1.0.0\",\"files\":[]\x7d"

/-- Reads the three texts of the run. -/
def readJson (text : String) : Except String (Option JsonObject) :=
  if text = upgradeText then .ok (some upgradeRequest)
  else if text = installerText then .ok (some installerManifest)
  else if text = releaseText then .ok (some PublicationLifecycle.releaseManifest)
  else .error "unexpected token"

def runEnvironment : Environment where
  json := { parse := readJson, files := fun _ => .ok [] }
  sha256BytesHex := fun text => text
  packageRepository := "packages"
  allowHighRiskWrite := true
  packageDownloadBaseUrl := "http://localhost"

def agentService : ControlService.Environment where
  auditId := fun n => if n = 0 then "agent-audit-0" else "agent-audit-1"
  auditTime := fun _ => "2026-05-24T10:00:00Z"
  now := "2026-05-24T10:00:00Z"
  sha256BytesHex := fun text => text
  serializeAgentEventBlob := fun _ => ""
  serializeTaskResultDataBlob := fun _ => ""
  serializeTaskErrorBlob := fun _ => ""

def originFor (auditId : String) : Origin :=
  { PublicationLifecycle.plainOrigin with auditId := fun _ => auditId }

def agentToken : RegistrationTokenRow where
  tokenId := "token-1"
  tokenHash := "secret"
  purpose := "agent_register"
  channel := none
  platform := none
  arch := none
  maxUses := some 1
  useCount := 0
  status := .active
  createdAt := "2026-05-24T09:00:00Z"
  expiresAt := "2099-12-31T23:59:59Z"
  revokedAt := none

/-- The database in which only a registration token was created. -/
def withToken : Depot :=
  { Depot.empty with
    store := { Store.empty with
      registrationTokens := Table.empty.put agentToken } }

def oldAgent : AgentRegistration where
  protocolVersion := protocolVersion
  requestId := "register-1"
  agentId := "agent-1"
  occurredAt := "2026-05-24T10:00:00Z"
  agentVersion := "1.0.0"
  hostname := "host-1"
  os := "linux"
  arch := "x86_64"
  registrationToken := some "secret"

def installerUpload : Upload where
  packageId := ⟨"b1", by decide⟩
  filename := "zfleet_installer-v1.0.0-linux-x86_64-release.zip"
  uploadedBytes := 2
  stored := .ok { PublicationLifecycle.releaseArchive with manifestJson := .ok installerText }

def releaseUpload : Upload where
  packageId := PublicationLifecycle.releaseId
  filename := "zfleet_agent-v1.1.0-linux-x86_64-release.zip"
  uploadedBytes := 2
  stored := .ok { PublicationLifecycle.releaseArchive with manifestJson := .ok releaseText }

/-- A package is uploaded and then rejected, because its archive is gone; an installer is
    published, and an agent registers. -/
def beforeUpgrade : List Call :=
  [⟨.package (.upload releaseUpload), originFor "audit-1", []⟩,
    ⟨.package (.validate (.error "failed to open package archive") "a1"), originFor "audit-2",
      []⟩,
    ⟨.package (.upload installerUpload), originFor "audit-3", []⟩,
    ⟨.package (.publish "" "b1"), originFor "audit-4", []⟩,
    ⟨.event agentService (.registration oldAgent), originFor "audit-5", []⟩]

def rejectedUpgrade : Call where
  request := .upgrade "agent-1" upgradeText
  origin := originFor "audit-6"
  faults := []

def releaseOf (component version : String) : Manifest :=
  ⟨2, component, version, "linux", "x86_64", "release", "1.0.0", []⟩

def rejectedDepot : Depot := Runs.run (step runEnvironment) withToken beforeUpgrade

theorem rejected_passes : ∃ agent package,
    Passes runEnvironment (originFor "audit-6") rejectedDepot "agent-1" upgradeText agent
      package ∧ package.status = .rejected := by
  have target : ∃ agent ∈ rejectedDepot.store.agents.rows,
      ∃ package ∈ rejectedDepot.packages.rows, ∃ snapshot ∈ rejectedDepot.store.assetSnapshots,
      ∃ installer ∈ rejectedDepot.packages.rows,
      rejectedDepot.store.agents.find "agent-1" = some agent ∧
      rejectedDepot.packages.find "a1" = some package ∧ package.status = .rejected ∧
      checkTarget package = none ∧
      rejectedDepot.store.assetSnapshots.filter (fun row => row.agentId = "agent-1") =
        [snapshot] ∧
      checkUpgrade package agent (some snapshot) = none ∧
      parseManifestJson runEnvironment.json package.manifestJson =
        .ok (releaseOf "agent" "1.1.0") ∧
      rejectedDepot.packages.rows.filter (fitsInstaller package ⟨1, 0, 0⟩) = [installer] ∧
      parseManifestJson runEnvironment.json installer.manifestJson =
        .ok (releaseOf "installer" "1.0.0") ∧
      rejectedDepot.store.tasks.rows = [] := by decide +kernel
  obtain ⟨agent, _, package, _, snapshot, _, installer, _, known, found, status, current, latest,
    upgrade, parsed, only, parsed', no_tasks⟩ := target
  have fresh : ∀ k, rejectedDepot.store.tasks.find k = none := by
    intro k
    simp [Table.find, no_tasks]
  have body : parseUpgradeRequestBody runEnvironment.json upgradeText =
      .ok ⟨"a1", none, "2099-12-31T23:59:59Z"⟩ := by decide +kernel
  refine ⟨agent, package, ⟨rfl, known, ⟨_, body, found⟩, current, ?_,
    ⟨_, parsed, Or.inr ⟨⟨1, 0, 0⟩, installer, _, by decide, chooseInstaller_of_only only, parsed',
      fresh _, by decide⟩⟩, fresh _⟩, status⟩
  rw [show latestSnapshot "agent-1" _ = some snapshot from latestSnapshot_of_only latest]
  exact upgrade

/-- A rejected package is sent to an agent. -/
theorem rejected_package_deployed :
    ¬ Runs.AllSteps (step runEnvironment) withToken (beforeUpgrade ++ [rejectedUpgrade])
      (fun depot call => CreatesFit runEnvironment depot (step runEnvironment depot call)) := by
  intro fit
  obtain ⟨agent, package, passes, rejected⟩ := rejected_passes
  exact step_not_createsFit rfl
    ⟨"agent-1", upgradeText, agent, package, rfl, passes, Or.inr (Or.inl rejected)⟩
    (fit beforeUpgrade rejectedUpgrade [] rfl)

end UpgradeFitness
