import ZFleet.Installer.Outcomes

/-!
How often a call asks the oracle depends on the tree alone. So a run in which every file
operation does what it can is a run of any oracle that lets enough of them through.
-/
namespace Installer
open FileTrees Transactions Package Semver

theorem operation_fair (change : Tree → Except String Tree) : Fair (operation change) :=
  fair_statement _

theorem attempt_fair {α : Type} {job : Work α} (fair : Fair job) : Fair (attempt job) :=
  fair_recover (fair_bind fair fun _ => fair_pure _)

section Fairness
variable {host : Host}

theorem validateLoadedRelease_fair (dir : Path) (component : String) (manifest : Manifest) :
    Fair (validateLoadedRelease host dir component manifest) := by
  unfold validateLoadedRelease
  split
  · exact fair_pure _
  · split
    · exact fair_pure _
    · apply fair_bind (fair_query _)
      intro found
      cases found <;> exact fair_pure _

theorem validateReleaseDirectory_fair (dir : Path) (component : String) :
    Fair (validateReleaseDirectory host dir component) := by
  apply fair_bind (fair_query _)
  intro there
  split
  · exact fair_pure _
  · apply fair_bind (attempt_fair (fair_statement _))
    intro loaded
    cases loaded with
    | error message => exact fair_pure _
    | ok manifest => exact validateLoadedRelease_fair dir component manifest

theorem inspectVersion_fair (component version : String) :
    Fair (inspectVersion host component version) := by
  unfold inspectVersion
  split
  · exact fair_pure _
  · apply fair_bind (fair_query _)
    intro there
    split
    · exact fair_pure _
    · apply fair_bind (validateReleaseDirectory_fair _ _)
      intro validation
      split <;> exact fair_pure _

theorem inspectActiveRelease_fair (component : String) :
    Fair (inspectActiveRelease host component) := by
  apply fair_bind (fair_query _)
  intro there
  split
  · exact fair_pure _
  · apply fair_bind (attempt_fair (fair_statement _))
    intro read
    cases read with
    | error message => exact fair_pure _
    | ok version => exact inspectVersion_fair component version

theorem writeTextFile_fair (path : Path) (content : String) : Fair (writeTextFile path content) :=
  fair_bind (operation_fair _) fun _ => operation_fair _

theorem writeVersionFile_fair (path : Path) (version : String) :
    Fair (writeVersionFile path version) := by
  apply fair_bind (operation_fair _)
  intro _
  apply fair_bind (writeTextFile_fair _ _)
  intro _
  apply fair_rescue (operation_fair _)
  intro _
  exact fair_bind (fair_recover (operation_fair _)) fun _ => operation_fair _

theorem recordPreviousVersion_fair (component : String) (activeRelease : ActiveReleaseInfo)
    (nextVersion : String) : Fair (recordPreviousVersion component activeRelease nextVersion) := by
  unfold recordPreviousVersion
  split
  · exact writeVersionFile_fair _ _
  · exact fair_pure ()

theorem switchActiveVersion_fair (component : String) (activeRelease : ActiveReleaseInfo)
    (nextVersion : String) : Fair (switchActiveVersion component activeRelease nextVersion) :=
  fair_bind (recordPreviousVersion_fair _ _ _) fun _ => writeVersionFile_fair _ _

theorem copyFiles_fair (sourceDir destinationDir : Path) (names : List String) :
    Fair (copyFiles sourceDir destinationDir names) := by
  induction names with
  | nil => exact fair_pure ()
  | cons name rest ih => exact fair_bind (operation_fair _) fun _ => ih

theorem copyLauncherRuntimeDependencies_fair (installerReleaseDir stubDir : Path) :
    Fair (copyLauncherRuntimeDependencies installerReleaseDir stubDir) := by
  apply fair_bind (fair_query _)
  intro there
  split
  · exact fair_pure ()
  · apply fair_bind (operation_fair _)
    intro _
    exact fair_bind (fair_query _) fun names => copyFiles_fair _ _ names

theorem ensureLauncherStub_fair (installerVersion component : String) :
    Fair (ensureLauncherStub host installerVersion component) := by
  apply fair_bind (fair_query _)
  intro asset
  split
  · exact fair_fail _
  · apply fair_bind
    · apply fair_bind (operation_fair _)
      intro _
      exact fair_bind (operation_fair _) fun _ => operation_fair _
    · exact fun _ => copyLauncherRuntimeDependencies_fair _ _

theorem ensureLauncherStubs_fair (installerVersion : String) (components : List String) :
    Fair (ensureLauncherStubs host installerVersion components) := by
  induction components with
  | nil => exact fair_pure ()
  | cons component rest ih => exact fair_bind (ensureLauncherStub_fair _ _) fun _ => ih

theorem stageFile_fair (package : PackageDirectory) (dir : Path) (file : ManifestFile) :
    Fair (stageFile host package dir file) := by
  apply fair_bind (fair_query _)
  intro found
  cases found with
  | symlink => exact fair_fail _
  | missing => exact fair_fail _
  | regular content executable =>
    simp only
    split
    · exact fair_fail _
    · split
      · exact fair_fail _
      · apply fair_bind (operation_fair _)
        intro _
        exact fair_bind (operation_fair _) fun _ => operation_fair _

theorem stageFiles_fair (package : PackageDirectory) (dir : Path) (files : List ManifestFile) :
    Fair (stageFiles host package dir files) := by
  induction files with
  | nil => exact fair_pure ()
  | cons file rest ih => exact fair_bind (stageFile_fair package dir file) fun _ => ih

theorem stageRelease_fair (package : PackageDirectory) (dir : Path) (manifest : Manifest) :
    Fair (stageRelease host package dir manifest) := by
  apply fair_bind (operation_fair _)
  intro _
  apply fair_bind (operation_fair _)
  intro _
  apply fair_bind (stageFiles_fair package dir manifest.files)
  intro _
  apply fair_bind (operation_fair _)
  intro _
  exact fair_bind (fair_ofExcept _) fun _ => operation_fair _

theorem checkStagedLauncher_fair (manifest : Manifest) :
    Fair (checkStagedLauncher host manifest) := by
  unfold checkStagedLauncher
  split
  · apply fair_bind (fair_query _)
    intro found
    cases found with
    | some message => exact fair_fail _
    | none => exact fair_pure ()
  · exact fair_pure ()

theorem placeRelease_fair (package : PackageDirectory) (manifest : Manifest) :
    Fair (placeRelease host package manifest) := by
  apply fair_bind (stageRelease_fair package _ manifest)
  intro _
  apply fair_bind (checkStagedLauncher_fair manifest)
  intro _
  exact fair_bind (operation_fair _) fun _ => operation_fair _

theorem resolveInstallerVersion_fair (component version minInstallerVersion : String) :
    Fair (resolveInstallerVersionForPackage host component version minInstallerVersion) := by
  unfold resolveInstallerVersionForPackage
  split
  · exact fair_pure _
  · apply fair_bind (inspectActiveRelease_fair _)
    intro info
    split
    · exact fair_fail _
    · exact fair_fail _
    · split
      · exact fair_fail _
      · split
        · exact fair_fail _
        · split
          · exact fair_fail _
          · exact fair_pure _

theorem activate_fair (manifest : Manifest) (activeRelease : ActiveReleaseInfo)
    (installerVersion : String) : Fair (activate host manifest activeRelease installerVersion) :=
  fair_bind (switchActiveVersion_fair _ _ _) fun _ => ensureLauncherStubs_fair _ _

theorem installRelease_fair (package : PackageDirectory) (manifest : Manifest)
    (activeRelease : ActiveReleaseInfo) (installerVersion : String) :
    Fair (installRelease host package manifest activeRelease installerVersion) := by
  apply fair_rescue
  · exact fair_bind (placeRelease_fair package manifest) fun _ => activate_fair _ _ _
  · intro e
    exact fair_bind (fair_recover (operation_fair _)) fun _ => fair_fail e

theorem applyManifest_fair (package : PackageDirectory) (manifest : Manifest) :
    Fair (applyManifest host package manifest) := by
  apply fair_bind (inspectActiveRelease_fair _)
  intro active
  apply fair_bind (resolveInstallerVersion_fair _ _ _)
  intro installerVersion
  apply fair_bind (fair_query _)
  intro there
  split
  · apply fair_bind (validateReleaseDirectory_fair _ _)
    intro validation
    split
    · exact fair_pure _
    · exact fair_bind (activate_fair _ _ _) fun _ => fair_pure _
  · exact fair_bind (installRelease_fair _ _ _ _) fun _ => fair_pure _

theorem applyPackageDirectory_fair (found : Option PackageDirectory) :
    Fair (applyPackageDirectory host found) := by
  apply fair_recover
  apply fair_bind (fair_query _)
  intro package
  cases package with
  | none => exact fair_fail _
  | some package => exact fair_bind (fair_statement _) fun _ => applyManifest_fair _ _

theorem applyPackage_fair (path : PackagePath) : Fair (applyPackage host path) := by
  apply fair_bind (fair_query _)
  intro found
  cases found with
  | directory package => exact applyPackageDirectory_fair _
  | archive extracted =>
    exact fair_recover (fair_bind (fair_ofExcept _) fun _ => applyPackageDirectory_fair _)
  | other => exact fair_pure _

theorem checkPrevious_fair (component activeVersion previousVersion : String) :
    Fair (checkPrevious host component activeVersion previousVersion) := by
  unfold checkPrevious
  split
  · exact fair_pure _
  · split
    · exact fair_pure _
    · apply fair_bind (fair_query _)
      intro there
      split
      · exact fair_pure _
      · apply fair_bind (validateReleaseDirectory_fair _ _)
        intro validation
        split <;> exact fair_pure _

theorem findPrevious_fair (component activeVersion : String) :
    Fair (findPrevious host component activeVersion) := by
  apply fair_bind (fair_query _)
  intro there
  split
  · exact fair_pure _
  · apply fair_bind (attempt_fair (fair_statement _))
    intro read
    cases read with
    | error message => exact fair_pure _
    | ok version => exact checkPrevious_fair component activeVersion version

theorem switchBack_fair (component activeVersion previousVersion : String) :
    Fair (switchBack host component activeVersion previousVersion) := by
  apply fair_bind (writeVersionFile_fair _ _)
  intro _
  apply fair_bind (writeVersionFile_fair _ _)
  intro _
  apply fair_bind (resolveInstallerVersion_fair _ _ _)
  exact fun _ => ensureLauncherStubs_fair _ _

theorem rollbackActive_fair (component activeVersion : String) :
    Fair (rollbackActive host component activeVersion) := by
  apply fair_bind (findPrevious_fair component activeVersion)
  intro previous
  cases previous with
  | error result => exact fair_pure _
  | ok version =>
    apply fair_bind (attempt_fair (switchBack_fair component activeVersion version))
    intro switched
    cases switched <;> exact fair_pure _

theorem rollbackComponent_fair (component : String) : Fair (rollbackComponent host component) := by
  apply fair_bind
  · unfold validateComponent
    split
    · exact fair_pure ()
    · exact fair_fail _
  · intro _
    apply fair_bind (inspectActiveRelease_fair component)
    intro active
    cases active.state with
    | missing => exact fair_pure _
    | corrupt => exact fair_pure _
    | healthy => exact rollbackActive_fair component active.version

end Fairness

end Installer
