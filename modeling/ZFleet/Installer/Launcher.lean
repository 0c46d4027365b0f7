import ZFleet.Installer.InstalledFiles

/-!
The launcher at the fixed path of a component: it reads the version file and looks for the
program in that release. What an apply has to leave so that it finds one.
-/
namespace Installer
open FileTrees Transactions Package

structure LaunchTarget where
  component : String
  componentRoot : Path
  activeVersionPath : Path
  version : String
  executablePath : Path
  deriving DecidableEq, Repr

structure ResolveResult where
  ok : Bool
  target : LaunchTarget
  message : String
  deriving DecidableEq, Repr

def unresolved (message : String) : ResolveResult := ⟨false, ⟨"", [], [], "", []⟩, message⟩

def componentForBinaryName (binaryName : String) : Option String :=
  if binaryName = "zfleet_agent" then some "agent"
  else if binaryName = "zfleet_server" then some "server"
  else if binaryName = "zfleet_installer" then some "installer"
  else none

def isLaunchableProgram (t : Tree) (path : Path) : Bool :=
  match t.regular path with
  | some (_, executable) => executable
  | none => false

section Resolve
variable (host : Host)

/-- The program of the version that was read. -/
def resolveVersion (component : String) (componentRoot : Path) (executableName version : String) :
    Work ResolveResult :=
  match validatePathSegment "active-version is invalid:" version with
  | .error message => pure (unresolved message)
  | .ok version => do
    let executablePath := componentRoot ++ ["releases", version, "bin", executableName]
    if !(← query fun t => isLaunchableProgram t executablePath) then
      pure (unresolved "target executable is missing or not executable")
    else
      pure ⟨true, ⟨component, componentRoot, componentRoot ++ ["var", "active-version"], version,
        executablePath⟩, ""⟩

def resolveLaunchTarget (launcherPath : Path) : Work ResolveResult := do
  let executableName := filename launcherPath
  let componentRoot := launcherPath.dropLast.dropLast
  match componentForBinaryName executableName with
  | none => pure (unresolved ("unknown launcher executable: " ++ executableName))
  | some component =>
    if filename launcherPath.dropLast ≠ "bin" ∨ filename componentRoot ≠ component then
      pure (unresolved ("launcher path must match <root>/" ++ component ++ "/bin/" ++
        executableName))
    else if !(← query fun t => t.exists? (componentRoot ++ ["var", "active-version"])) then
      pure (unresolved "active-version is missing")
    else
      match ← attempt (readFileTrimmed host (componentRoot ++ ["var", "active-version"])) with
      | .error message => pure (unresolved message)
      | .ok version => resolveVersion component componentRoot executableName version

end Resolve

/-- The program that the launcher of the component starts. -/
def programPath (component version : String) : Path :=
  releaseDir component version ++ ["bin", binaryNameForComponent component]

section Launch
variable {host : Host}

theorem validatePathSegment_safe {field version : String}
    (safe : isSafePathSegment version = true) : validatePathSegment field version = .ok version := by
  obtain ⟨nonempty, not_dot, not_dots, -⟩ := safe_segment safe
  unfold validatePathSegment
  rw [if_neg nonempty, if_neg (by rintro (dot | dots); exacts [not_dot dot, not_dots dots]),
    if_neg (by simp [safe])]

theorem componentForBinaryName_component {component : String}
    (known : isKnownComponent component = true) :
    componentForBinaryName (binaryNameForComponent component) = some component := by
  simp only [isKnownComponent, Bool.or_eq_true, decide_eq_true_eq] at known
  rcases known with (rfl | rfl) | rfl <;> decide +kernel

/-- The launcher of a component with a version file starts the program of that version, if
    that is one. -/
theorem resolveLaunchTarget_named {t : Tree} {component version text : String}
    (known : isKnownComponent component = true) (safe : isSafePathSegment version = true)
    (found : contentAt host t (activeVersionPath component) = .ok text)
    (named : trimmed text = version) :
    Succeeds (resolveLaunchTarget host (launcherStubPath component)) t
      (if isLaunchableProgram t (programPath component version) then
        ⟨true, ⟨component, [component], activeVersionPath component, version,
          programPath component version⟩, ""⟩
      else unresolved "target executable is missing or not executable") t := by
  have name : filename (launcherStubPath component) = binaryNameForComponent component := by
    simp [filename, launcherStubPath, List.getLastD_eq_getLast?]
  have resolved : Succeeds (resolveVersion component [component]
      (binaryNameForComponent component) version) t
      (if isLaunchableProgram t (programPath component version) then
        ⟨true, ⟨component, [component], activeVersionPath component, version,
          programPath component version⟩, ""⟩
      else unresolved "target executable is missing or not executable") t := by
    unfold resolveVersion
    rw [validatePathSegment_safe safe]
    apply succeeds_bind (succeeds_query _ t)
    change Succeeds (if (!isLaunchableProgram t (programPath component version)) = true then _
      else _) t _ t
    cases isLaunchableProgram t (programPath component version) with
    | true => exact succeeds_pure _ t
    | false => exact succeeds_pure _ t
  have root : (List.dropLast (launcherStubPath component)).dropLast = [component] := rfl
  have there : t.exists? ([component] ++ ["var", "active-version"]) = true :=
    exists_of_content found
  unfold resolveLaunchTarget
  simp only [name, root, componentForBinaryName_component known]
  rw [if_neg (by simp [filename, launcherStubPath, binRoot])]
  apply succeeds_bind (succeeds_query _ t)
  rw [there]
  apply succeeds_bind (attempt_succeeds (readFileTrimmed_succeeds found))
  rw [named]
  exact resolved

theorem isLaunchableProgram_iff {t : Tree} {path : Path} :
    isLaunchableProgram t path = true ↔ ∃ content, t.regular path = some (content, true) := by
  unfold isLaunchableProgram
  cases found : t.regular path with
  | none => simp
  | some pair =>
    obtain ⟨content, executable⟩ := pair
    cases executable <;> simp

/-- The manifest lists the program of its component, and as launchable. -/
def ListsProgram (manifest : Manifest) : Prop :=
  ∃ file, lastAt manifest.files ["bin", binaryNameForComponent manifest.component] = some file ∧
    file.launchable = true

/-- A new release has the program if its manifest lists it, an old one if it is there. -/
def HasProgram (t : Tree) (manifest : Manifest) : Prop :=
  if t.exists? (releaseDir manifest.component manifest.version) then
    isLaunchableProgram t (programPath manifest.component manifest.version) = true
  else ListsProgram manifest

theorem Applied.program_iff {package : PackageDirectory} {manifest : Manifest} {t t' : Tree}
    (applied : Applied host package manifest t t') :
    isLaunchableProgram t' (programPath manifest.component manifest.version) = true ↔
      HasProgram t manifest := by
  unfold HasProgram
  rcases applied.release with ⟨there, -, kept⟩ | ⟨absent, staged, -⟩
  · have same : t'.regular (programPath manifest.component manifest.version) =
        t.regular (programPath manifest.component manifest.version) :=
      Tree.regular_of_node_eq (kept _)
    rw [if_pos there, isLaunchableProgram_iff, isLaunchableProgram_iff, same]
  · have files : t'.regular (programPath manifest.component manifest.version) =
        (lastAt manifest.files ["bin", binaryNameForComponent manifest.component]).map fun file =>
          (sourceContent package file, file.launchable) := staged.files _ (by simp)
    rw [if_neg (by simp [absent]), isLaunchableProgram_iff, files, ListsProgram]
    cases lastAt manifest.files ["bin", binaryNameForComponent manifest.component] with
    | none => simp
    | some file => simp

end Launch

end Installer
