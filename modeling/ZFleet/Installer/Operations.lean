import ZFleet.Core.Semver
import ZFleet.Installer.Release

/-!
Apply and rollback: a release is staged beside the releases, moved into place, made the
active one by the version files, and gets its launcher stub. What a failed call has done
so far stays.
-/
namespace Installer
open FileTrees Transactions Package Semver

def operation (change : Tree → Except String Tree) : Work Unit := statement fun t =>
  match change t with
  | .ok t' => .ok ((), t')
  | .error message => .error (.error message)

/-- What a path under the package directory leads to; a link on the way counts. -/
inductive SourceFile where
  | symlink
  | missing
  | regular (content : String) (executable : Bool)
  deriving DecidableEq, Repr

/-- A package directory outside the root. -/
structure PackageDirectory where
  manifestText : Except String String
  manifestExecutable : Bool
  source : String → SourceFile

inductive PackagePath where
  | directory (package : PackageDirectory)
  /-- A `.zip` file and what its extraction gives. -/
  | archive (extracted : Except String PackageDirectory)
  | other

/-- The package that the path leads to. -/
def PackagePath.opened : PackagePath → Option PackageDirectory
  | .directory package => some package
  | .archive (.ok package) => some package
  | _ => none

/-! Version files -/

/-- The path with `.tmp` at its end. -/
def tempPath (path : Path) : Path := path.dropLast ++ [path.getLastD "" ++ ".tmp"]

def writeTextFile (path : Path) (content : String) : Work Unit := do
  operation (·.makeDirectories path.dropLast)
  operation (·.writeFile path content)

def writeVersionFile (path : Path) (version : String) : Work Unit := do
  operation (·.makeDirectories path.dropLast)
  writeTextFile (tempPath path) (version ++ "\n")
  rescue (operation (·.rename (tempPath path) path)) fun _ => do
    recover (operation (·.remove path)) fun _ => ()
    operation (·.rename (tempPath path) path)

def shouldRecordPreviousVersion (activeRelease : ActiveReleaseInfo) (nextVersion : String) :
    Bool :=
  activeRelease.state = .healthy && activeRelease.version ≠ nextVersion

def recordPreviousVersion (component : String) (activeRelease : ActiveReleaseInfo)
    (nextVersion : String) : Work Unit :=
  if shouldRecordPreviousVersion activeRelease nextVersion then
    writeVersionFile (previousVersionPath component) activeRelease.version
  else pure ()

def switchActiveVersion (component : String) (activeRelease : ActiveReleaseInfo)
    (nextVersion : String) : Work Unit := do
  recordPreviousVersion component activeRelease nextVersion
  writeVersionFile (activeVersionPath component) nextVersion

/-! Launcher stubs -/

/-- The extension is `.dll`; a name that starts with its only dot has none. -/
def isRuntimeLibrary (name : String) : Bool :=
  4 < name.length && ".dll".toList.isSuffixOf name.toList

def copyFile (source destination : Path) : Work Unit := operation fun t =>
  match t.regular source with
  | some (content, executable) => t.copyTo destination content executable
  | none => .error "No such file or directory"

def copyFiles (sourceDir destinationDir : Path) : List String → Work Unit
  | [] => pure ()
  | name :: rest => do
    copyFile (sourceDir ++ [name]) (destinationDir ++ [name])
    copyFiles sourceDir destinationDir rest

def runtimeLibraries (t : Tree) (dir : Path) : List String :=
  (t.children dir).filter fun name => (t.regular (dir ++ [name])).isSome && isRuntimeLibrary name

def copyLauncherRuntimeDependencies (installerReleaseDir stubDir : Path) : Work Unit := do
  if !(← query fun t => t.isDirectory (installerReleaseDir ++ ["bin"])) then pure ()
  else do
    operation (·.makeDirectories stubDir)
    let names ← query fun t => runtimeLibraries t (installerReleaseDir ++ ["bin"])
    copyFiles (installerReleaseDir ++ ["bin"]) stubDir names

section Operations
variable (host : Host)

/-- Copy the asset to the stub and make it executable. -/
def copyStub (asset : Path) (component : String) : Work Unit := do
  operation (·.makeDirectories (binRoot component))
  copyFile asset (launcherStubPath component)
  operation (·.setExecutable (launcherStubPath component) true)

def ensureLauncherStub (installerVersion component : String) : Work Unit := do
  let installerReleaseDir := releaseDir "installer" installerVersion
  if (← query fun t => t.regular (launcherTemplatePath installerReleaseDir)).isNone then
    fail (.error ("launcher asset missing: " ++
      pathText host (launcherTemplatePath installerReleaseDir)))
  else do
    copyStub (launcherTemplatePath installerReleaseDir) component
    copyLauncherRuntimeDependencies installerReleaseDir (binRoot component)

def ensureLauncherStubs (installerVersion : String) : List String → Work Unit
  | [] => pure ()
  | component :: rest => do
    ensureLauncherStub host installerVersion component
    ensureLauncherStubs installerVersion rest

def managedComponents : List String := ["installer", "agent", "server"]

/-- The stubs that a switch of the component renews. -/
def stubComponents (component : String) : List String :=
  if component = "installer" then managedComponents else [component]

/-! Staging -/

def stageFile (package : PackageDirectory) (stagingDir : Path) (file : ManifestFile) :
    Work Unit := do
  match ← query fun _ => package.source file.source with
  | .symlink => fail (.error ("source path uses symlink: " ++ file.source))
  | .missing => fail (.error ("source file missing: " ++ file.source))
  | .regular content executable =>
    if content.length ≠ file.size then fail (.error ("size mismatch: " ++ file.source))
    else if host.sha256 content ≠ file.sha256 then
      fail (.error ("sha256 mismatch: " ++ file.source))
    else do
      operation (·.makeDirectories (stagingDir ++ osParent file.target))
      operation (·.copyTo (stagingDir ++ osPath file.target) content executable)
      operation (·.setExecutable (stagingDir ++ osPath file.target) file.launchable)

def stageFiles (package : PackageDirectory) (stagingDir : Path) : List ManifestFile → Work Unit
  | [] => pure ()
  | file :: rest => do
    stageFile host package stagingDir file
    stageFiles package stagingDir rest

def stageRelease (package : PackageDirectory) (stagingDir : Path) (manifest : Manifest) :
    Work Unit := do
  operation (·.removeAll stagingDir)
  operation (·.makeDirectories stagingDir)
  stageFiles host package stagingDir manifest.files
  operation (·.makeDirectories (stagingDir ++ ["META"]))
  let text ← ofExcept package.manifestText
  operation (·.copyTo (manifestPath stagingDir) text package.manifestExecutable)

/-! Apply -/

/-- An installer is its own; another package asks the active one. -/
def resolveInstallerVersionForPackage (component version minInstallerVersion : String) :
    Work String := do
  if component = "installer" then pure version
  else
    let installerRelease ← inspectActiveRelease host "installer"
    match installerRelease.state with
    | .missing => fail (.error "active installer release is not installed")
    | .corrupt =>
      fail (.error ("active installer release is corrupt: " ++ installerRelease.message))
    | .healthy =>
      match parseSemver3 installerRelease.version with
      | none =>
        fail (.error ("active installer version is invalid: " ++ installerRelease.version))
      | some actualVersion =>
        match parseSemver3 minInstallerVersion with
        | none =>
          fail (.error ("package min_installer_version is invalid: " ++ minInstallerVersion))
        | some minimumVersion =>
          if actualVersion < minimumVersion then
            fail (.error ("active installer version " ++ installerRelease.version ++
              " does not satisfy min_installer_version " ++ minInstallerVersion))
          else pure installerRelease.version

structure ApplyResult where
  ok : Bool
  component : String
  version : String
  message : String
  deriving DecidableEq, Repr

/-- The version files, then the stubs. -/
def activate (manifest : Manifest) (activeRelease : ActiveReleaseInfo)
    (installerVersion : String) : Work Unit := do
  switchActiveVersion manifest.component activeRelease manifest.version
  ensureLauncherStubs host installerVersion (stubComponents manifest.component)

def stagingDir (manifest : Manifest) : Path :=
  stagingRoot manifest.component ++ [manifest.version]

/-- A staged installer must bring its launcher. -/
def checkStagedLauncher (manifest : Manifest) : Work Unit :=
  if manifest.component = "installer" then do
    match ← query fun t => launcherAssetError host t (stagingDir manifest) with
    | some message => fail (.error message)
    | none => pure ()
  else pure ()

/-- The staged directory becomes the release. -/
def placeRelease (package : PackageDirectory) (manifest : Manifest) : Work Unit := do
  stageRelease host package (stagingDir manifest) manifest
  checkStagedLauncher host manifest
  operation (·.makeDirectories (releasesRoot manifest.component))
  operation (·.rename (stagingDir manifest) (releaseDir manifest.component manifest.version))

/-- A release that is new; after a failure its staging directory is removed. -/
def installRelease (package : PackageDirectory) (manifest : Manifest)
    (activeRelease : ActiveReleaseInfo) (installerVersion : String) : Work Unit :=
  rescue (do
    placeRelease host package manifest
    activate host manifest activeRelease installerVersion) fun e => do
      recover (operation (·.removeAll (stagingDir manifest))) fun _ => ()
      fail e

def applyManifest (package : PackageDirectory) (manifest : Manifest) : Work ApplyResult := do
  let activeRelease ← inspectActiveRelease host manifest.component
  let installerVersion ← resolveInstallerVersionForPackage host manifest.component
    manifest.version manifest.minInstallerVersion
  if ← query fun t => t.exists? (releaseDir manifest.component manifest.version) then do
    let validation ← validateReleaseDirectory host
      (releaseDir manifest.component manifest.version) manifest.component
    if !validation.ok then
      pure ⟨false, manifest.component, manifest.version,
        "existing release is unhealthy: " ++ validation.message⟩
    else do
      activate host manifest activeRelease installerVersion
      pure ⟨true, manifest.component, manifest.version, "release already installed"⟩
  else do
    installRelease host package manifest activeRelease installerVersion
    pure ⟨true, manifest.component, manifest.version, "applied"⟩

def loadPackageManifest (package : PackageDirectory) : Work Manifest := statement fun t => do
  let text ← package.manifestText.mapError Failure.error
  let manifest ← parsedManifest host text
  .ok (manifest, t)

/-- `none` stands for a path that is no directory. -/
def applyPackageDirectory (found : Option PackageDirectory) : Work ApplyResult :=
  recover (do
    match ← query fun _ => found with
    | none => fail (.error "package must be a directory")
    | some package =>
      let manifest ← loadPackageManifest host package
      applyManifest host package manifest) fun e => ⟨false, "", "", what e⟩

def applyPackage (path : PackagePath) : Work ApplyResult := do
  match ← query fun _ => path with
  | .directory package => applyPackageDirectory host (some package)
  | .archive extracted =>
    recover (do
      let package ← ofExcept extracted
      applyPackageDirectory host (some package)) fun e => ⟨false, "", "", what e⟩
  | .other => pure ⟨false, "", "", "package must be a directory or .zip archive"⟩

/-! Rollback -/

structure RollbackResult where
  ok : Bool
  component : String
  fromVersion : String
  toVersion : String
  message : String
  deriving DecidableEq, Repr

def makeRollbackFailure (component fromVersion toVersion message : String) : RollbackResult :=
  ⟨false, component, fromVersion, toVersion, message⟩

/-- The checks of the version that the previous-version file names. -/
def checkPrevious (component activeVersion previousVersion : String) :
    Work (Except RollbackResult String) := do
  if !isSafeVersionString previousVersion then
    pure (.error (makeRollbackFailure component activeVersion previousVersion
      "previous-version is invalid"))
  else if previousVersion = activeVersion then
    pure (.error (makeRollbackFailure component activeVersion previousVersion
      "previous-version matches active-version"))
  else if !(← query fun t => t.isDirectory (releaseDir component previousVersion)) then
    pure (.error (makeRollbackFailure component activeVersion previousVersion
      "previous release missing"))
  else do
    let validation ← validateReleaseDirectory host (releaseDir component previousVersion) component
    if !validation.ok then
      pure (.error (makeRollbackFailure component activeVersion previousVersion
        ("previous release is unhealthy: " ++ validation.message)))
    else pure (.ok previousVersion)

/-- The version to go back to, or why there is none. -/
def findPrevious (component activeVersion : String) : Work (Except RollbackResult String) := do
  if !(← query fun t => t.exists? (previousVersionPath component)) then
    pure (.error (makeRollbackFailure component activeVersion "" "previous-version is missing"))
  else
    match ← attempt (readFileTrimmed host (previousVersionPath component)) with
    | .error message => pure (.error (makeRollbackFailure component activeVersion "" message))
    | .ok previousVersion => checkPrevious host component activeVersion previousVersion

/-- Both version files are written before the installer is looked for. -/
def switchBack (component activeVersion previousVersion : String) : Work Unit := do
  writeVersionFile (previousVersionPath component) activeVersion
  writeVersionFile (activeVersionPath component) previousVersion
  let installerVersion ← resolveInstallerVersionForPackage host component previousVersion "0.0.0"
  ensureLauncherStubs host installerVersion (stubComponents component)

def rollbackActive (component activeVersion : String) : Work RollbackResult := do
  match ← findPrevious host component activeVersion with
  | .error result => pure result
  | .ok previousVersion =>
    match ← attempt (switchBack host component activeVersion previousVersion) with
    | .error message =>
      pure (makeRollbackFailure component activeVersion previousVersion message)
    | .ok _ => pure ⟨true, component, activeVersion, previousVersion, "rolled back"⟩

def rollbackComponent (component : String) : Work RollbackResult := do
  validateComponent component
  let activeRelease ← inspectActiveRelease host component
  match activeRelease.state with
  | .missing => pure (makeRollbackFailure component "" "" "active release is not installed")
  | .corrupt =>
    pure (makeRollbackFailure component activeRelease.version ""
      ("active release is corrupt: " ++ activeRelease.message))
  | .healthy => rollbackActive host component activeRelease.version

end Operations

end Installer
