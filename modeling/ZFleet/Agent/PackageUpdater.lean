import ZFleet.Agent.Runtime
import ZFleet.Installer.FailedSwitches
import ZFleet.Installer.Launcher
import ZFleet.Package.ExtractedFiles

/-!
The execution of a package update: the package is downloaded and its digests are compared,
then the installer that is active is run with it as a process of its own, and a new agent is
started. The program of an installer is taken for the one of this repository. What the
network answers and how the processes fare is left to a world.
-/
namespace PackageUpdater
open FileTrees ByteReader PackageArchive Message Dialogues AgentRuntime
open Package (systemNames osPath JsonObject RawFile)
open Installer hiding attempt

/-- How a process of the installer fares. -/
inductive Fate where
  | unspawned (message : String)
  /-- It is killed and leaves this below the root. -/
  | killed (root : Tree)
  /-- It runs to its end, and these of its file operations fail. -/
  | runs (faults : List (Option Transactions.Fault))

/-- What is outside of the agent, by the time it is asked. -/
structure World where
  host : Host
  inflate : Bytes → Bytes × Except String Unit
  /-- Where the system finds a path. -/
  locate : String → Path
  /-- What arrives, and the status or what is thrown behind it. -/
  download : Nat → String → Bytes × Except String Nat
  tempDir : Nat → Except String Path
  installer : Nat → Fate
  spawn : Nat → Except String Unit

/-- The disk holds the downloads and the temporary directories; below the root are the
    releases. -/
structure Machine where
  time : Nat
  disk : Tree
  root : Tree
  /-- The stubs of the agents that were started. -/
  agents : List Path

/-! Package directories -/

def readFile (t : Tree) (p : Path) : Except String String :=
  match t.regular p with
  | some (content, _) => .ok content
  | none => .error "failed to open file"

/-- A link on the way counts. -/
def sourceAt (t : Tree) (dir names : Path) : SourceFile :=
  if names.inits.any fun front => t.isLink (dir ++ front) then .symlink
  else
    match t.regular (dir ++ names) with
    | some (content, executable) => .regular content executable
    | none => .missing

/-- The package in a directory. -/
def packageAt (t : Tree) (dir : Path) : PackageDirectory where
  manifestText := readFile t (manifestPath dir)
  manifestExecutable := (t.regular (manifestPath dir)).any fun file => file.2
  source name := sourceAt t dir (osPath name)

def faultText : ByteReader.Fault → String
  | .thrown message => message
  | .outOfBounds => ""

section Updater
variable (world : World)

/-- What the installer finds in the archive, in a temporary directory of its own. -/
def extracted (disk : Tree) (path : String) (tempDir : Except String Path) :
    Except String PackageDirectory := do
  let dir ← tempDir
  match extractArchive world.inflate path (world.locate path) dir true disk with
  | (disk, .ok ()) => .ok (packageAt disk dir)
  | (_, .error fault) => .error (faultText fault)

/-- What the installer takes the path for. -/
def packageOf (disk : Tree) (path : String) (tempDir : Except String Path) : PackagePath :=
  if disk.isDirectory (world.locate path) then .directory (packageAt disk (world.locate path))
  else if !isArchivePath path then .other
  else .archive (extracted world disk path tempDir)

/-! Processes -/

/-- The stub of the installer looks for the active installer, which performs the call. -/
def launch (call : Call) : Work Bool := do
  let target ← resolveLaunchTarget world.host (launcherStubPath "installer")
  if target.ok then call.perform world.host else pure false

def exitsWell {σ : Type} : Except Transactions.Failure Bool × σ → Bool
  | (.ok done, _) => done
  | (.error _, _) => false

/-- Whether the process exits with zero, and what it leaves. -/
def process (call : Call) (root : Tree) : Fate → Except String (Bool × Tree)
  | .unspawned message => .error message
  | .killed left => .ok (false, left)
  | .runs faults =>
    let outcome := launch world call ⟨root, faults⟩
    .ok (exitsWell outcome, outcome.2.state)

/-- The call is made of what is on the machine when the process runs. -/
def runInstallerCommand (call : Machine → Call) : Program Machine Bool := fun m =>
  if isLaunchableProgram m.root (launcherStubPath "installer") = false then
    (.error "active installer binary is unavailable", m)
  else
    match process world (call m) m.root (world.installer m.time) with
    | .error message => (.error message, { m with time := m.time + 1 })
    | .ok (done, root) => (.ok done, { m with time := m.time + 1, root := root })

def runRollback : Program Machine Bool := runInstallerCommand world fun _ => .rollback "agent"

def runApply (path : String) : Program Machine Bool :=
  runInstallerCommand world fun m => .apply (packageOf world m.disk path (world.tempDir m.time))

def startNewAgent : Program Machine Unit := fun m =>
  if isLaunchableProgram m.root (launcherStubPath "agent") = false then
    (.error "new agent binary is unavailable", m)
  else
    match world.spawn m.time with
    | .error message => (.error message, { m with time := m.time + 1 })
    | .ok () => (.ok (), { m with
        time := m.time + 1, agents := m.agents ++ [launcherStubPath "agent"] })

/-! The download -/

def onDisk (operation : Tree → Except String Tree) : Program Machine Unit := fun m =>
  match operation m.disk with
  | .error message => (.error message, m)
  | .ok disk => (.ok (), { m with disk := disk })

/-- What arrives is in the file, also when the download fails behind it. -/
def downloadHttpToFile (url path : String) : Program Machine Nat := do
  onDisk (·.makeDirectories (world.locate path).dropLast)
  onDisk (·.writeFile (world.locate path) "")
  let (arrived, status) ← fun m => (.ok (world.download m.time url), { m with time := m.time + 1 })
  onDisk (·.writeFile (world.locate path) (textOf arrived))
  ofExcept status

def downloadPackageToFile (url path : String) : Program Machine Unit := do
  let status ← downloadHttpToFile world url path
  if status ≠ 200 then raise ("package download returned status " ++ toString status)
  else pure ()

def sha256FileHex (path : String) : Program Machine String := fun m =>
  match m.disk.regular (world.locate path) with
  | some (content, _) => (.ok (world.host.sha256 content), m)
  | none => (.error ("failed to open file for sha256: " ++ path), m)

def readPackageFile (path name : String) : Program Machine Bytes := fun m =>
  match openArchive path (world.locate path) m.disk with
  | none => (.error ("failed to open file: " ++ path), m)
  | some archive =>
    match readArchiveFile world.inflate archive name with
    | .error fault => (.error (faultText fault), m)
    | .ok contents => (.ok contents, m)

/-! The update -/

def joinPath (base tail : String) : String :=
  if tail.startsWith "/" then tail
  else if base = "" ∨ base.endsWith "/" then base ++ tail
  else base ++ "/" ++ tail

def packagePath (config : AgentConfig) (packageId : String) : String :=
  joinPath (joinPath config.dataDir "updates") (packageId ++ ".zip")

def installRoot (config : AgentConfig) : Program Machine Unit :=
  if config.installDir = none then raise "agent install root is unavailable" else pure ()

def failed (errorCode : ErrorCode) (message : String) : PackageUpdateExecutionResult :=
  { errorCode := errorCode, message := message }

/-- A new agent, unless it cannot be started. -/
def withNewAgent (result : PackageUpdateExecutionResult) :
    Program Machine PackageUpdateExecutionResult :=
  attempt (do
    startNewAgent world
    pure result) fun message => pure (failed .startNewAgentFailed message)

def executeRollback (config : AgentConfig) : Program Machine PackageUpdateExecutionResult := do
  installRoot config
  if !(← runRollback world) then pure (failed .applyFailed "installer rollback failed")
  else withNewAgent world { ok := true, stopAgent := true, message := "package rollback applied" }

/-- The installer is run with a package whose digests were compared. -/
def applyVerified (config : AgentConfig) (input : PackageUpdateInput) (path : String) :
    Program Machine PackageUpdateExecutionResult := do
  installRoot config
  if !(← runApply world path) then pure (failed .applyFailed "installer apply failed")
  else if input.component = "agent" then
    withNewAgent world { ok := true, stopAgent := true, message := "package update applied" }
  else pure { ok := true, stopAgent := false, message := "package update applied" }

def executeApply (config : AgentConfig) (input : PackageUpdateInput) :
    Program Machine PackageUpdateExecutionResult := do
  let path := packagePath config input.packageId
  downloadPackageToFile world input.packageUrl path
  let actualSha ← sha256FileHex world path
  if actualSha ≠ input.packageSha256 then
    pure (failed .checksumMismatch "downloaded package SHA-256 mismatch")
  else
    let manifestBytes ← readPackageFile world path "META/manifest.json"
    if input.manifestSha256 ≠ "" ∧
        world.host.sha256 (textOf manifestBytes) ≠ input.manifestSha256 then
      pure (failed .checksumMismatch "downloaded manifest SHA-256 mismatch")
    else applyVerified world config input path

def executePackageUpdate (config : AgentConfig) (input : PackageUpdateInput) :
    Program Machine PackageUpdateExecutionResult :=
  attempt (if input.action = "rollback" then executeRollback world config
    else executeApply world config input) fun message => pure (failed .downloadFailed message)

/-! What an update comes to -/

/-- A process of the installer with this call ends so. -/
def Leaves (call : Call) (root : Tree) (done : Bool) (root' : Tree) : Prop :=
  ∃ time, process world call root (world.installer time) = .ok (done, root')

/-- The digest of the file. -/
def Digested (path digest : String) (disk : Tree) : Prop :=
  ∃ content executable, disk.regular (world.locate path) = some (content, executable) ∧
    world.host.sha256 content = digest

/-- The file is the package that was ordered, and the manifest in it the one that was. -/
def Verified (input : PackageUpdateInput) (path : String) (disk : Tree) : Prop :=
  Digested world path input.packageSha256 disk ∧ ∃ archive manifestBytes,
    openArchive path (world.locate path) disk = some archive ∧
    readArchiveFile world.inflate archive "META/manifest.json" = .ok manifestBytes ∧
    (input.manifestSha256 ≠ "" →
      world.host.sha256 (textOf manifestBytes) = input.manifestSha256)

/-- The call that the update asks of the installer, with what is on the disk then. -/
def Ordered (config : AgentConfig) (input : PackageUpdateInput) (disk : Tree) (call : Call) :
    Prop :=
  input.action = "rollback" ∧ call = .rollback "agent" ∨
    input.action ≠ "rollback" ∧ Verified world input (packagePath config input.packageId) disk ∧
      ∃ time, call = .apply (packageOf world disk (packagePath config input.packageId)
        (world.tempDir time))

/-- The update is one of the agent itself. -/
def restarts (input : PackageUpdateInput) : Bool :=
  input.action = "rollback" || input.component = "agent"

/-- The result of an update tells how far it came. -/
inductive Outcome (config : AgentConfig) (input : PackageUpdateInput) (m m' : Machine) :
    PackageUpdateExecutionResult → Prop
  | stopped {errorCode : ErrorCode} {message : String}
      (early : errorCode = .downloadFailed ∨ errorCode = .checksumMismatch)
      (root : m'.root = m.root) (agents : m'.agents = m.agents) :
      Outcome config input m m' (failed errorCode message)
  | refused {call : Call} {message : String} (ordered : Ordered world config input m'.disk call)
      (leaves : Leaves world call m.root false m'.root) (agents : m'.agents = m.agents) :
      Outcome config input m m' (failed .applyFailed message)
  | unstarted {call : Call} {message : String} (own : restarts input = true)
      (ordered : Ordered world config input m'.disk call)
      (leaves : Leaves world call m.root true m'.root) (agents : m'.agents = m.agents) :
      Outcome config input m m' (failed .startNewAgentFailed message)
  | completed {call : Call} {message : String} (ordered : Ordered world config input m'.disk call)
      (leaves : Leaves world call m.root true m'.root)
      (agents : m'.agents = if restarts input then m.agents ++ [launcherStubPath "agent"]
        else m.agents) :
      Outcome config input m m' { ok := true, stopAgent := restarts input, message := message }

end Updater

section Outcomes
variable {world : World} {config : AgentConfig} {input : PackageUpdateInput} {m : Machine}
variable {path : String}

/-- Nothing was done below the root, and no agent was started. -/
def Untouched (m s : Machine) : Prop := s.root = m.root ∧ s.agents = m.agents

theorem onDisk_untouched (operation : Tree → Except String Tree) :
    Ensures (Untouched m) (onDisk operation) (fun _ => Untouched m) (Untouched m) := by
  apply ensures_step
  intro s here
  unfold onDisk
  cases operation s.disk <;> exact here

theorem downloadPackageToFile_untouched (url path : String) :
    Ensures (Untouched m) (downloadPackageToFile world url path) (fun _ => Untouched m)
      (Untouched m) := by
  apply @ensures_bind _ _ _ _ _ _ _ _ fun _ => Untouched m
  · apply ensures_bind (onDisk_untouched _)
    intro _
    apply ensures_bind (onDisk_untouched _)
    intro _
    apply @ensures_bind _ _ _ _ _ _ _ _ fun _ => Untouched m
    · apply ensures_step
      exact fun s here => here
    · intro answer
      apply ensures_bind (onDisk_untouched _)
      intro _
      exact ensures_ofExcept _ (fun s _ here _ => here) fun s here => here
  · intro status
    split
    · exact ensures_raise _ fun s here => here
    · exact ensures_pure () fun s here => here

theorem sha256FileHex_reads (path : String) :
    Ensures (Untouched m) (sha256FileHex world path)
      (fun digest s => Untouched m s ∧ Digested world path digest s.disk) (Untouched m) := by
  apply ensures_step
  intro s here
  unfold sha256FileHex
  cases found : s.disk.regular (world.locate path) with
  | none => exact here
  | some file => exact ⟨here, file.1, file.2, found, rfl⟩

theorem readPackageFile_reads {holds : Tree → Prop} (path name : String) :
    Ensures (fun s => Untouched m s ∧ holds s.disk) (readPackageFile world path name)
      (fun contents s => (Untouched m s ∧ holds s.disk) ∧ ∃ archive,
        openArchive path (world.locate path) s.disk = some archive ∧
          readArchiveFile world.inflate archive name = .ok contents) (Untouched m) := by
  apply ensures_step
  intro s here
  unfold readPackageFile
  cases opened : openArchive path (world.locate path) s.disk with
  | none => exact here.1
  | some archive =>
    dsimp only
    cases read : readArchiveFile world.inflate archive name with
    | error fault => exact here.1
    | ok contents => exact ⟨here, archive, opened, read⟩

/-- The installer was run with the call of the update and ended so. -/
def Ran (world : World) (config : AgentConfig) (input : PackageUpdateInput) (m : Machine)
    (done : Bool) (s : Machine) : Prop :=
  s.agents = m.agents ∧ ∃ call, Ordered world config input s.disk call ∧
    Leaves world call m.root done s.root

theorem runInstallerCommand_leaves {callOf : Machine → Call} {holds : Tree → Prop}
    (asks : ∀ s, holds s.disk → Ordered world config input s.disk (callOf s)) :
    Ensures (fun s => Untouched m s ∧ holds s.disk) (runInstallerCommand world callOf)
      (fun done s => Ran world config input m done s) (Untouched m) := by
  apply ensures_step
  intro s here
  obtain ⟨⟨root, agents⟩, ready⟩ := here
  unfold runInstallerCommand
  split
  · rename_i answer message s' result
    split at result
    · cases result
    · split at result
      · cases result
      · rename_i ended
        cases result
        refine ⟨agents, callOf s, asks s ready, s.time, ?_⟩
        rw [← root]
        exact ended
  · rename_i answer message s' result
    split at result
    · cases result
      exact ⟨root, agents⟩
    · split at result
      · cases result
        exact ⟨root, agents⟩
      · cases result

theorem startNewAgent_starts :
    Ensures (Ran world config input m true) (startNewAgent world)
      (fun _ s => s.agents = m.agents ++ [launcherStubPath "agent"] ∧
        ∃ call, Ordered world config input s.disk call ∧ Leaves world call m.root true s.root)
      (Ran world config input m true) := by
  apply ensures_step
  intro s here
  obtain ⟨agents, call, ordered, leaves⟩ := here
  unfold startNewAgent
  split
  · rename_i answer s' result
    split at result
    · cases result
    · split at result
      · cases result
      · cases result
        exact ⟨by rw [agents], call, ordered, leaves⟩
  · rename_i answer s' result
    split at result
    · cases result
      exact ⟨agents, call, ordered, leaves⟩
    · split at result
      · cases result
        exact ⟨agents, call, ordered, leaves⟩
      · cases result

theorem withNewAgent_ends {message : String} {thrown : Machine → Prop}
    (own : restarts input = true) :
    Ensures (Ran world config input m true)
      (withNewAgent world { ok := true, stopAgent := true, message := message })
      (fun result s => Outcome world config input m s result) thrown := by
  apply ensures_attempt
  · apply ensures_bind startNewAgent_starts
    intro _
    apply ensures_pure
    intro s here
    obtain ⟨agents, call, ordered, leaves⟩ := here
    have done := @Outcome.completed world config input m s call message ordered leaves
      (by rw [own]; exact agents)
    rw [own] at done
    exact done
  · intro message'
    apply ensures_pure
    intro s here
    obtain ⟨agents, call, ordered, leaves⟩ := here
    exact .unstarted own ordered leaves agents

theorem installRoot_given {before : Machine → Prop} (stays : ∀ s, before s → Untouched m s) :
    Ensures before (installRoot config) (fun _ => before) (Untouched m) := by
  unfold installRoot
  split
  · exact ensures_raise _ stays
  · exact ensures_pure () fun s here => here

theorem executeRollback_outcome (rollback : input.action = "rollback") :
    Ensures (· = m) (executeRollback world config)
      (fun result s => Outcome world config input m s result) (Untouched m) := by
  apply @ensures_bind _ _ _ _ _ _ _ _ fun _ s => Untouched m s ∧ True
  · apply ensures_mono (installRoot_given fun s same => ?_) (fun s same => same)
      (fun _ s same => (⟨?_, trivial⟩ : Untouched m s ∧ True)) fun s here => here
    · rw [same]
      exact ⟨rfl, rfl⟩
    · rw [same]
      exact ⟨rfl, rfl⟩
  intro _
  apply ensures_bind (@runInstallerCommand_leaves world config input m _ (fun _ => True)
    fun s _ => Or.inl ⟨rollback, rfl⟩)
  intro done
  cases done with
  | false =>
    apply ensures_pure
    intro s here
    obtain ⟨agents, call, ordered, leaves⟩ := here
    exact .refused ordered leaves agents
  | true => exact withNewAgent_ends (by simp [restarts, rollback])

theorem applyVerified_outcome (apply_it : input.action ≠ "rollback") :
    Ensures (fun s => Untouched m s ∧
        Verified world input (packagePath config input.packageId) s.disk)
      (applyVerified world config input (packagePath config input.packageId))
      (fun result s => Outcome world config input m s result) (Untouched m) := by
  apply ensures_bind (installRoot_given fun s here => here.1)
  intro _
  apply ensures_bind (runInstallerCommand_leaves fun s verified =>
    Or.inr ⟨apply_it, verified, s.time, rfl⟩)
  intro done
  cases done with
  | false =>
    apply ensures_pure
    intro s here
    obtain ⟨agents, call, ordered, leaves⟩ := here
    exact .refused ordered leaves agents
  | true =>
    rw [if_neg (by simp)]
    split
    · rename_i own
      exact withNewAgent_ends (by simp [restarts, own])
    · rename_i other
      apply ensures_pure
      intro s here
      obtain ⟨agents, call, ordered, leaves⟩ := here
      have elsewhere : restarts input = false := by simp [restarts, apply_it, other]
      have ended := @Outcome.completed world config input m s call "package update applied" ordered
        leaves (by rw [elsewhere]; exact agents)
      rw [elsewhere] at ended
      exact ended

theorem executeApply_outcome (apply_it : input.action ≠ "rollback") :
    Ensures (· = m) (executeApply world config input)
      (fun result s => Outcome world config input m s result) (Untouched m) := by
  unfold executeApply
  apply @ensures_bind _ _ _ _ _ _ _ _ fun _ => Untouched m
  · apply ensures_mono (downloadPackageToFile_untouched _ _) (fun s same => ?_)
      (fun _ s here => here) fun s here => here
    rw [same]
    exact ⟨rfl, rfl⟩
  intro _
  apply ensures_bind (sha256FileHex_reads _)
  intro digest
  split
  · apply ensures_pure
    intro s here
    exact .stopped (Or.inr rfl) here.1.1 here.1.2
  rename_i equal
  apply ensures_bind (@readPackageFile_reads world m (Digested world _ digest) _ _)
  intro manifestBytes
  split
  · apply ensures_pure
    intro s here
    exact .stopped (Or.inr rfl) here.1.1.1 here.1.1.2
  rename_i accepted
  apply ensures_mono (applyVerified_outcome apply_it) ?_ (fun _ s here => here) fun s here => here
  intro s here
  obtain ⟨⟨untouched, digested⟩, archive, opened, read⟩ := here
  refine ⟨untouched, ?_, archive, manifestBytes, opened, read, ?_⟩
  · rw [← not_not.mp equal]
    exact digested
  · intro given
    by_contra other
    exact accepted ⟨given, other⟩

theorem executePackageUpdate_outcome : Ensures (· = m) (executePackageUpdate world config input)
    (fun result s => Outcome world config input m s result) fun _ => False := by
  unfold executePackageUpdate
  apply @ensures_attempt _ _ _ (Untouched m)
  · split
    · rename_i rollback
      exact executeRollback_outcome rollback
    · rename_i apply_it
      exact executeApply_outcome apply_it
  · intro message
    apply ensures_pure
    exact fun s here => .stopped (Or.inl rfl) here.1 here.2

end Outcomes

/-! What a process of the installer does -/

section Processes
variable {world : World} {root root' : Tree}

theorem quiet_bind {α β : Type} {holds : Tree → α → Prop} {job : Work α} {next : α → Work β}
    (reads : Transactions.Reads holds job)
    (rest : ∀ a, Transactions.Reads (fun _ _ => True) (next a)) :
    Transactions.Reads (fun _ _ => True) (job >>= next) :=
  Transactions.reads_mono (Transactions.reads_bind reads rest) fun _ _ _ => trivial

/-- Looking for the program changes nothing. -/
theorem resolveLaunchTarget_reads (host : Host) (launcherPath : Path) :
    Transactions.Reads (fun _ _ => True) (resolveLaunchTarget host launcherPath) := by
  have nothing : ∀ found, Transactions.Reads (fun _ _ => True) (pure found : Work ResolveResult) :=
    fun found => Transactions.reads_answer fun _ => trivial
  unfold resolveLaunchTarget
  dsimp only
  split
  · exact nothing _
  split
  · exact nothing _
  apply quiet_bind (Transactions.reads_query _)
  intro there
  split
  · exact nothing _
  apply quiet_bind (attempt_reads (readFileTrimmed_reads _))
  intro read
  split
  · exact nothing _
  unfold resolveVersion
  split
  · exact nothing _
  apply quiet_bind (Transactions.reads_query _)
  intro launchable
  split
  · exact nothing _
  · exact nothing _

/-- A process that exits well has performed its call on what was below the root. -/
theorem leaves_performed {call : Call} (leaves : Leaves world call root true root') :
    ∃ s s', s.state = root ∧ call.perform world.host s = (.ok true, s') ∧ s'.state = root' := by
  obtain ⟨time, ended⟩ := leaves
  unfold process at ended
  split at ended
  · cases ended
  · cases ended
  · rename_i faults _
    obtain ⟨done, left⟩ := Prod.mk.inj (Except.ok.inj ended)
    cases launched : launch world call ⟨root, faults⟩ with
    | mk answer s' =>
      rw [launched] at done left
      cases answer with
      | error failure => cases done
      | ok finished =>
        obtain rfl : finished = true := done
        obtain ⟨target, middle, resolved, performed⟩ := Transactions.bind_ok launched
        have same := (resolveLaunchTarget_reads world.host _ _ _ _ resolved).1
        split at performed
        · exact ⟨middle, s', same, performed, left⟩
        · cases performed

theorem leaves_applied {path : PackagePath} (leaves : Leaves world (.apply path) root true root') :
    ∃ package manifest, path.opened = some package ∧
      Applied world.host package manifest root root' := by
  obtain ⟨s, s', before, performed, after⟩ := leaves_performed leaves
  obtain ⟨result, middle, applied, answered⟩ := Transactions.bind_ok performed
  obtain ⟨ok, same⟩ := Transactions.pure_ok answered
  obtain ⟨package, manifest, opened, _, _, outcome⟩ := applyPackage_ok applied ok
  refine ⟨package, manifest, opened, ?_⟩
  rw [← before, ← after, same]
  exact outcome

end Processes

/-! The package that is applied -/

section Packages
variable {world : World} {path digest : String} {dir : Path} {disk : Tree}
variable {archive : ArchiveFile}

/-- The package holds what can be read from the archive. -/
structure ReadFrom (world : World) (archive : ArchiveFile) (package : PackageDirectory) : Prop where
  manifest : ∀ contents,
    readArchiveFile world.inflate archive "META/manifest.json" = .ok contents →
    package.manifestText = .ok (textOf contents)
  sources : ∀ name content executable, package.source name = .regular content executable →
    ∃ entry contents, readArchiveFile world.inflate archive entry = .ok contents ∧
      content = textOf contents ∧ (systemNames entry.toList).map String.ofList = osPath name

theorem sourceAt_regular {t : Tree} {names : Path} {content : String} {executable : Bool}
    (found : sourceAt t dir names = .regular content executable) :
    t.regular (dir ++ names) = some (content, executable) := by
  unfold sourceAt at found
  split at found
  · cases found
  · split at found
    · rename_i there
      cases found
      exact there
    · cases found

theorem packageAt_readFrom
    (plain : ¬ Aliased world.inflate path (world.locate path) dir true disk)
    (done : (extractArchive world.inflate path (world.locate path) dir true disk).2 = .ok ())
    (opened : openArchive path (world.locate path) disk = some archive) :
    ReadFrom world archive (packageAt
      (extractArchive world.inflate path (world.locate path) dir true disk).1 dir) := by
  obtain ⟨records, completed⟩ := extractArchive_completed done opened
  constructor
  · intro contents read
    obtain ⟨_, executable, there⟩ := completed.extracted plain done read
    have names : place dir (systemNames "META/manifest.json".toList) = manifestPath dir := by
      have split : systemNames "META/manifest.json".toList =
          ["META".toList, "manifest.json".toList] := by decide
      rw [split, place, manifestPath]
      simp
    rw [names] at there
    simp only [packageAt, readFile, there]
  · intro name content executable found
    have there := sourceAt_regular found
    have within : dir <+: dir ++ osPath name := List.prefix_append _ _
    obtain ⟨entry, contents, read, same⟩ := completed.from_archive within (by rw [there]; simp)
    obtain ⟨_, executable', there'⟩ := completed.extracted plain done read
    rw [← same, there] at there'
    exact ⟨entry, contents, read, congrArg Prod.fst (Option.some.inj there'),
      (List.append_cancel_left same).symm⟩

theorem packageOf_opened {tempDir : Except String Path} {package : PackageDirectory}
    (found : Digested world path digest disk) (checked : isArchivePath path = true)
    (opened : (packageOf world disk path tempDir).opened = some package) : ∃ dir,
      (extractArchive world.inflate path (world.locate path) dir true disk).2 = .ok () ∧
      package = packageAt
        (extractArchive world.inflate path (world.locate path) dir true disk).1 dir := by
  obtain ⟨content, executable, there, _⟩ := found
  have no_directory : disk.isDirectory (world.locate path) = false := by
    have node := Tree.regular_iff.mp there
    simp [Tree.isDirectory, node]
  unfold packageOf at opened
  rw [if_neg (by simp [no_directory]), if_neg (by simp [checked])] at opened
  cases tempDir with
  | error message => cases opened
  | ok dir =>
    refine ⟨dir, ?_⟩
    cases result : extractArchive world.inflate path (world.locate path) dir true disk with
    | mk disk' ending =>
      have unpacked : extracted world disk path (.ok dir) = match
          extractArchive world.inflate path (world.locate path) dir true disk with
        | (disk, .ok ()) => .ok (packageAt disk dir)
        | (_, .error fault) => .error (faultText fault) := rfl
      rw [unpacked, result] at opened
      cases ending with
      | error fault => cases opened
      | ok done =>
        cases opened
        exact ⟨rfl, rfl⟩

end Packages

section Updates
variable {world : World} {config : AgentConfig} {root root' : Tree}

theorem resolveLaunchTarget_fair (host : Host) (launcherPath : Path) :
    Transactions.Fair (resolveLaunchTarget host launcherPath) := by
  unfold resolveLaunchTarget
  dsimp only
  split
  · exact Transactions.fair_pure _
  split
  · exact Transactions.fair_pure _
  apply Transactions.fair_bind (Transactions.fair_query _)
  intro there
  split
  · exact Transactions.fair_pure _
  apply Transactions.fair_bind (attempt_fair (Transactions.fair_statement _))
  intro read
  split
  · exact Transactions.fair_pure _
  unfold resolveVersion
  split
  · exact Transactions.fair_pure _
  apply Transactions.fair_bind (Transactions.fair_query _)
  intro launchable
  split <;> exact Transactions.fair_pure _

theorem answered_state {α : Type} (job : Work α) (answer : α → Bool)
    (s : Transactions.Session Tree) :
    ((job >>= fun result => pure (answer result)) s).2.state = (job s).2.state := by
  cases ran : job s with
  | mk outcome s' =>
    cases outcome with
    | ok result => rw [Transactions.bind_of_ok ran]; rfl
    | error e => rw [Transactions.bind_of_error ran]

theorem perform_run (host : Host) (call : Call) (t : Tree) :
    (call.perform host ⟨t, []⟩).2.state = call.run host t := by
  cases call with
  | apply path => exact answered_state _ _ _
  | rollback component => exact answered_state _ _ _

/-- Processes run to their end, and every file operation does what it can. -/
def Undisturbed (world : World) : Prop :=
  ∀ time, (∃ message, world.installer time = .unspawned message) ∨ world.installer time = .runs []

theorem leaves_run {call : Call} {done : Bool} (undisturbed : Undisturbed world)
    (leaves : Leaves world call root done root') :
    root' = root ∧ done = false ∨ root' = call.run world.host root := by
  obtain ⟨time, ended⟩ := leaves
  rcases undisturbed time with ⟨message, unspawned⟩ | runs
  · rw [unspawned] at ended
    cases ended
  · rw [runs] at ended
    obtain ⟨done_eq, left⟩ := Prod.mk.inj (Except.ok.inj ended)
    obtain ⟨answer, t, resolved⟩ := (resolveLaunchTarget_fair world.host
      (launcherStubPath "installer")).quiet root
    have same : t = root := (resolveLaunchTarget_reads world.host _ _ _ _ resolved).1
    cases answer with
    | error e =>
      have stopped : launch world call ⟨root, []⟩ = (.error e, ⟨t, []⟩) :=
        Transactions.bind_of_error resolved
      rw [stopped] at left done_eq
      exact Or.inl ⟨left.symm.trans same, done_eq.symm⟩
    | ok target =>
      have goes_on : launch world call ⟨root, []⟩ =
          (if target.ok then call.perform world.host else pure false) ⟨t, []⟩ :=
        Transactions.bind_of_ok resolved
      rw [goes_on] at left done_eq
      split at left
      · right
        rw [← left, same]
        exact perform_run world.host call root
      · rename_i unresolved
        rw [if_neg unresolved] at done_eq
        exact Or.inl ⟨left.symm.trans same, done_eq.symm⟩

def afterUpdates (world : World) (config : AgentConfig) (m : Machine) :
    List PackageUpdateInput → Machine :=
  List.foldl (fun m input => (executePackageUpdate world config input m).2) m

/-- What an update does below the root a call of the installer does, or nothing. -/
theorem update_calls (undisturbed : Undisturbed world) (input : PackageUpdateInput)
    (m : Machine) : ∃ calls,
      (executePackageUpdate world config input m).2.root =
        Runs.run (Call.run world.host) m.root calls ∧
      (∀ call ∈ calls, Ordered world config input
        (executePackageUpdate world config input m).2.disk call) ∧
      calls.length ≤ 1 ∧
      (executePackageUpdate world config input m).2.agents.length ≤
        m.agents.length + calls.length := by
  obtain ⟨result, m', ran⟩ : ∃ result m',
      executePackageUpdate world config input m = (.ok result, m') := by
    cases ran : executePackageUpdate world config input m with
    | mk outcome m' =>
      cases outcome with
      | ok result => exact ⟨result, m', rfl⟩
      | error message => exact (executePackageUpdate_outcome.throws m message m' rfl ran).elim
  rw [ran]
  have nothing : ∀ {root agents}, root = m.root → agents = m.agents → ∃ calls : List Call,
      root = Runs.run (Call.run world.host) m.root calls ∧
      (∀ call ∈ calls, Ordered world config input m'.disk call) ∧ calls.length ≤ 1 ∧
      agents.length ≤ m.agents.length + calls.length := by
    rintro _ _ rfl rfl
    exact ⟨[], rfl, by simp, by simp, Nat.le_refl _⟩
  have performed : ∀ {call root agents}, Ordered world config input m'.disk call →
      root = call.run world.host m.root → agents.length ≤ m.agents.length + 1 →
      ∃ calls : List Call, root = Runs.run (Call.run world.host) m.root calls ∧
      (∀ call ∈ calls, Ordered world config input m'.disk call) ∧ calls.length ≤ 1 ∧
      (agents : List Path).length ≤ m.agents.length + calls.length := by
    rintro call _ agents ordered rfl few
    refine ⟨[call], rfl, ?_, Nat.le_refl _, few⟩
    intro other member
    rw [List.mem_singleton.mp member]
    exact ordered
  cases executePackageUpdate_outcome.returns m result m' rfl ran with
  | stopped early root agents => exact nothing root agents
  | refused ordered leaves agents =>
    rcases leaves_run undisturbed leaves with ⟨same, _⟩ | run
    · exact nothing same agents
    · exact performed ordered run (by rw [agents]; omega)
  | unstarted own ordered leaves agents =>
    rcases leaves_run undisturbed leaves with ⟨_, failed⟩ | run
    · cases failed
    · exact performed ordered run (by rw [agents]; omega)
  | completed ordered leaves agents =>
    rcases leaves_run undisturbed leaves with ⟨_, failed⟩ | run
    · cases failed
    · apply performed ordered run
      rw [agents]
      split
      · simp
      · omega

end Updates

/-! A machine on which the installer 1.0.0 was applied -/

def installerFilesOnly (members : JsonObject) : List RawFile :=
  if members "component" = some (.text "installer") then
    [sampleFile "zfleet_launcher" "launcher", sampleFile "zfleet_installer" "launcher"]
  else []

def updateHost : Host :=
  ⟨{ sampleLibrary with filesArray := fun members => some (installerFilesOnly members) },
    sampleDigest, "/srv/zfleet"⟩

/-- A block of deflated data that holds the bytes as they are. -/
def storedBlock (contents : Bytes) : Bytes :=
  1 :: (writeU16 contents.length.toUInt16 ++ writeU16 (contents.length.toUInt16 ^^^ 0xffff) ++
    contents)

def inflateBlock (bytes : Bytes) : Bytes × Except String Unit :=
  if bytes = storedBlock (bytes.drop 5) then (bytes.drop 5, .ok ())
  else ([], .error "failed to inflate ZIP entry: ")

/-- The fields that the two headers of an entry share. -/
def entryFields (name contents : Bytes) : Bytes :=
  writeU16 20 ++ writeU16 0 ++ writeU16 kDeflatedCompressionMethod ++ writeU32 0 ++ writeU32 0 ++
    writeU32 (storedBlock contents).length.toUInt32 ++ writeU32 contents.length.toUInt32 ++
    writeU16 name.length.toUInt16 ++ writeU16 0

/-- An archive of one entry. -/
def packageBytes (name contents : Bytes) : Bytes :=
  let front := writeU32 kLocalFileHeaderSignature ++ entryFields name contents ++ name ++
    storedBlock contents
  let central := writeU32 kCentralDirectorySignature ++ writeU16 20 ++ entryFields name contents ++
    writeU16 0 ++ writeU16 0 ++ writeU16 0 ++ writeU32 0 ++ writeU32 0 ++ name
  front ++ central ++ directoryEnd 1 central.length.toUInt32 front.length.toUInt32

def agentUpdate : Bytes := packageBytes (bytesOf "META/manifest.json") (bytesOf "agent 2.1.0")

def updateWorld : World where
  host := updateHost
  inflate := inflateBlock
  locate := osPath
  download _ _ := (agentUpdate, .ok 200)
  tempDir _ := .ok ["tmp", "zfleet-installer"]
  installer _ := .runs []
  spawn _ := .ok ()

def installerCall : Call := .apply (.directory (samplePackage "installer 1.0.0" "launcher"))

def installedMachine : Machine :=
  ⟨0, Tree.empty fun _ => true,
    Runs.run (Call.run updateHost) (Tree.empty fun _ => true) [installerCall], []⟩

def updateConfig : AgentConfig := { installDir := some "/srv/zfleet/agent" }

def agentInput : PackageUpdateInput :=
  { component := "agent", packageId := "p", packageSha256 := sampleDigest "",
    manifestSha256 := sampleDigest "" }

theorem agent_updated : (executePackageUpdate updateWorld updateConfig agentInput
    installedMachine).1 =
      .ok { ok := true, stopAgent := true, message := "package update applied" } := by
  decide +kernel

def freeTargets : Except Transactions.Failure Package.Manifest → Bool
  | .ok manifest => decide (∀ file ∈ manifest.files, Package.NulFree file.target)
  | .error _ => true

/-- No manifest that the host can read names a target with a NUL. -/
theorem updateHost_free (text : String) : freeTargets (parsedManifest updateHost text) = true := by
  by_cases known : text ∈ sampleObjects.map Prod.fst
  · have each : ∀ other ∈ sampleObjects.map Prod.fst,
        freeTargets (parsedManifest updateHost other) = true := by
      decide +kernel
    exact each text known
  · have unread : updateHost.json.parse text = .error "parse error" := by
      have absent : sampleObjects.lookup text = none := by
        rw [List.lookup_eq_none_iff]
        intro entry inside
        have other : text ≠ entry.1 := fun same => known (same ▸ List.mem_map_of_mem inside)
        simpa using other
      change sampleLibrary.parse text = _
      simp only [sampleLibrary, absent]
    have failed : parsedManifest updateHost text = .error (.error "parse error") := by
      unfold parsedManifest Package.parseManifestJson
      rw [show updateHost.json.toLibrary.parse text = .error "parse error" from unread]
      rfl
    rw [failed]
    rfl

end PackageUpdater
