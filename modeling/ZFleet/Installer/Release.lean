import ZFleet.Foundations.FileTrees
import ZFleet.Foundations.Transactions
import ZFleet.Package.ManifestFiles

/-!
Releases of a component under the root of an installation, and what is read of them.
A call is a job on the tree under the root: every file operation may fail, and one that
fails changes nothing. Reads in a row of which none is caught count as one operation.
-/
namespace Installer
open FileTrees Transactions Package

abbrev Work (α : Type) := Job Tree α

/-- What is not under the root: the libraries and the text of the root itself. -/
structure Host where
  json : RawLibrary
  sha256 : String → String
  root : String

section Paths
variable (component : String)

def releasesRoot : Path := [component, "releases"]
def stagingRoot : Path := [component, ".staging"]
def varRoot : Path := [component, "var"]
def binRoot : Path := [component, "bin"]
def activeVersionPath : Path := varRoot component ++ ["active-version"]
def previousVersionPath : Path := varRoot component ++ ["previous-version"]
def releaseDir (version : String) : Path := releasesRoot component ++ [version]

def binaryNameForComponent : String := "zfleet_" ++ component
def launcherStubPath : Path := binRoot component ++ [binaryNameForComponent component]

end Paths

def manifestPath (dir : Path) : Path := dir ++ ["META", "manifest.json"]
def launcherTemplatePath (dir : Path) : Path := dir ++ ["bin", "zfleet_launcher"]

/-- The name of the last directory on the path. -/
def filename (dir : Path) : String := dir.getLastD ""

def what : Failure → String
  | .busy => "resource busy"
  | .error message => message

/-- The job's failure is caught and looked at. -/
def attempt {α : Type} (job : Work α) : Work (Except String α) :=
  recover (job >>= fun a => pure (.ok a)) fun e => .error (what e)

def isSpace (ch : Char) : Bool := ch = ' ' || (9 ≤ ch.toNat && ch.toNat ≤ 13)

def trimmed (text : String) : String :=
  String.ofList ((text.toList.reverse.dropWhile isSpace).reverse.dropWhile isSpace)

def isSafeVersionString (version : String) : Bool :=
  version ≠ "" && version ≠ "." && version ≠ ".." &&
    version.toList.all fun ch => ch ≠ '/' && ch ≠ '\\'

section Reading
variable (host : Host)

def pathText (p : Path) : String := host.root ++ String.join (p.map ("/" ++ ·))

def contentAt (t : Tree) (p : Path) : Except Failure String :=
  match t.node p with
  | some (.file content _) => .ok content
  | some .directory => .error (.error "error reading the file: Is a directory")
  | _ => .error (.error ("failed to open file: " ++ pathText host p))

def readFileTrimmed (p : Path) : Work String := statement fun t => do
  let text ← contentAt host t p
  .ok (trimmed text, t)

def parsedManifest (text : String) : Except Failure Manifest :=
  (parseManifestJson host.json.toLibrary text).mapError Failure.error

def manifestAt (t : Tree) (p : Path) : Except Failure Manifest := do
  parsedManifest host (← contentAt host t p)

def loadManifest (p : Path) : Work Manifest := statement fun t => do
  let manifest ← manifestAt host t p
  .ok (manifest, t)

/-! Validation of a release -/

structure ReleaseValidation where
  ok : Bool
  version : String
  message : String
  deriving DecidableEq, Repr

/-- What is wrong with a file of the release. -/
def fileError (t : Tree) (dir : Path) (file : ManifestFile) : Option String :=
  match t.node (dir ++ osPath file.target) with
  | some .link => some ("release file is symlink: " ++ file.target)
  | some (.file content executable) =>
    if content.length ≠ file.size then some ("size mismatch: " ++ file.target)
    else if host.sha256 content ≠ file.sha256 then some ("sha256 mismatch: " ++ file.target)
    else if file.launchable && !executable then some ("launchable mismatch: " ++ file.target)
    else none
  | _ => some ("release file missing: " ++ file.target)

def launcherAssetError (t : Tree) (dir : Path) : Option String :=
  match t.node (launcherTemplatePath dir) with
  | some .link => some ("launcher asset is symlink: " ++ pathText host (launcherTemplatePath dir))
  | some (.file _ executable) =>
    if executable then none
    else some ("launcher asset is not launchable: " ++ pathText host (launcherTemplatePath dir))
  | _ => some ("launcher asset missing: " ++ pathText host (launcherTemplatePath dir))

def releaseError (t : Tree) (dir : Path) (component : String) (manifest : Manifest) :
    Option String :=
  (manifest.files.findSome? (fileError host t dir)).or
    (if component = "installer" then launcherAssetError host t dir else none)

/-- The checks of a release whose manifest is loaded. -/
def validateLoadedRelease (dir : Path) (component : String) (manifest : Manifest) :
    Work ReleaseValidation := do
  if manifest.component ≠ component then
    pure ⟨false, manifest.version, "manifest component mismatch"⟩
  else if manifest.version ≠ filename dir then
    pure ⟨false, manifest.version, "manifest version mismatch"⟩
  else
    match ← query fun t => releaseError host t dir component manifest with
    | some message => pure ⟨false, manifest.version, message⟩
    | none => pure ⟨true, manifest.version, ""⟩

def validateReleaseDirectory (dir : Path) (component : String) : Work ReleaseValidation := do
  if !(← query fun t => t.exists? (manifestPath dir)) then
    pure ⟨false, filename dir, "manifest missing"⟩
  else
    match ← attempt (loadManifest host (manifestPath dir)) with
    | .error message => pure ⟨false, filename dir, message⟩
    | .ok manifest => validateLoadedRelease host dir component manifest

/-! The active release -/

inductive ActiveReleaseState where
  | missing
  | healthy
  | corrupt
  deriving DecidableEq, Repr

structure ActiveReleaseInfo where
  state : ActiveReleaseState
  version : String
  message : String
  deriving DecidableEq, Repr

/-- What the version that the version file names comes to. -/
def inspectVersion (component version : String) : Work ActiveReleaseInfo := do
  if !isSafeVersionString version then pure ⟨.corrupt, "", "active-version is invalid"⟩
  else if !(← query fun t => t.isDirectory (releaseDir component version)) then
    pure ⟨.corrupt, version, "active release missing"⟩
  else do
    let validation ← validateReleaseDirectory host (releaseDir component version) component
    if !validation.ok then pure ⟨.corrupt, validation.version, validation.message⟩
    else pure ⟨.healthy, validation.version, ""⟩

def inspectActiveRelease (component : String) : Work ActiveReleaseInfo := do
  if !(← query fun t => t.exists? (activeVersionPath component)) then pure ⟨.missing, "", ""⟩
  else
    match ← attempt (readFileTrimmed host (activeVersionPath component)) with
    | .error message => pure ⟨.corrupt, "", message⟩
    | .ok version => inspectVersion host component version

structure StatusResult where
  component : String
  state : String
  version : Option String
  message : Option String
  deriving DecidableEq, Repr

def validateComponent (component : String) : Work Unit :=
  if isKnownComponent component then pure ()
  else fail (.error "invalid component: expected agent, server, or installer")

def getStatus (component : String) : Work StatusResult := do
  validateComponent component
  let activeRelease ← inspectActiveRelease host component
  match activeRelease.state with
  | .missing => pure ⟨component, "not_installed", none, none⟩
  | .corrupt =>
    pure ⟨component, "corrupt",
      if activeRelease.version = "" then none else some activeRelease.version,
      some activeRelease.message⟩
  | .healthy => pure ⟨component, "installed", some activeRelease.version, none⟩

/-! What the reads find -/

/-- The directory holds a release of the component with the directory's name as version. -/
structure Release (t : Tree) (component : String) (dir : Path) (manifest : Manifest) : Prop where
  loaded : manifestAt host t (manifestPath dir) = .ok manifest
  component_eq : manifest.component = component
  version_eq : manifest.version = filename dir
  sound : releaseError host t dir component manifest = none

/-- The version file names a release of the component. -/
structure Active (t : Tree) (component version : String) : Prop where
  named : ∃ text, contentAt host t (activeVersionPath component) = .ok text ∧
    trimmed text = version
  safe : isSafeVersionString version = true
  release : ∃ manifest, Release host t component (releaseDir component version) manifest

variable {host}

theorem contentAt_ok {t : Tree} {p : Path} {content : String} :
    contentAt host t p = .ok content ↔ ∃ executable, t.regular p = some (content, executable) := by
  unfold contentAt Tree.regular
  cases found : t.node p with
  | none => simp
  | some v => cases v <;> simp

theorem exists_of_content {t : Tree} {p : Path} {content : String}
    (found : contentAt host t p = .ok content) : t.exists? p = true := by
  obtain ⟨executable, regular⟩ := contentAt_ok.mp found
  rw [Tree.exists?, Tree.regular_iff.mp regular]

theorem contentAt_of_nodes {t t' : Tree} {p : Path} (same : t'.node p = t.node p) :
    contentAt host t' p = contentAt host t p := by
  unfold contentAt
  rw [same]

theorem manifestAt_content {t : Tree} {p : Path} {manifest : Manifest}
    (loaded : manifestAt host t p = .ok manifest) :
    ∃ text, contentAt host t p = .ok text ∧ parsedManifest host text = .ok manifest := by
  unfold manifestAt at loaded
  cases found : contentAt host t p with
  | error e =>
    rw [found] at loaded
    cases loaded
  | ok text =>
    rw [found] at loaded
    exact ⟨text, rfl, loaded⟩

theorem manifestAt_of_content {t : Tree} {p : Path} {text : String}
    (found : contentAt host t p = .ok text) : manifestAt host t p = parsedManifest host text := by
  unfold manifestAt
  rw [found]
  rfl

theorem parsedManifest_checked {text : String} {manifest : Manifest}
    (parsed : parsedManifest host text = .ok manifest) : CheckedManifest manifest := by
  unfold parsedManifest at parsed
  cases result : parseManifestJson host.json.toLibrary text with
  | error message =>
    rw [result] at parsed
    cases parsed
  | ok value =>
    rw [result] at parsed
    cases parsed
    exact parseManifestJson_checked result

/-! Validation, soundly and completely -/

theorem attempt_reads {α : Type} {holds : Tree → α → Prop} {job : Work α}
    (reads : Reads holds job) : Reads (fun t r => ∀ a, r = .ok a → holds t a) (attempt job) := by
  unfold attempt
  apply reads_mono (reads_recover (reads_bind reads fun a => reads_pure (Except.ok a)))
  intro t r found a returned
  rcases found with ⟨b, holds_b, value⟩ | ⟨e, value⟩
  · rw [value] at returned
    cases returned
    exact holds_b
  · rw [value] at returned
    cases returned

theorem attempt_succeeds {α : Type} {job : Work α} {t t' : Tree} {a : α}
    (ran : Succeeds job t a t') : Succeeds (attempt job) t (.ok a) t' :=
  succeeds_recover (succeeds_bind ran (succeeds_pure _ t'))

theorem loadManifest_reads (p : Path) :
    Reads (fun t manifest => manifestAt host t p = .ok manifest) (loadManifest host p) := by
  have unchanged : ∀ t manifest t',
      (do let manifest ← manifestAt host t p; .ok (manifest, t)) = .ok (manifest, t') →
      manifestAt host t p = .ok manifest ∧ t' = t := by
    intro t manifest t' done
    cases found : manifestAt host t p with
    | error e =>
      rw [found] at done
      cases done
    | ok value =>
      rw [found] at done
      cases done
      exact ⟨rfl, rfl⟩
  exact reads_mono (reads_statement fun t manifest t' done => (unchanged t manifest t' done).2)
    fun t manifest done => (unchanged t manifest t done).1

theorem loadManifest_succeeds {t : Tree} {p : Path} {manifest : Manifest}
    (found : manifestAt host t p = .ok manifest) :
    Succeeds (loadManifest host p) t manifest t := by
  apply succeeds_statement
  rw [found]
  rfl

theorem readFileTrimmed_reads (p : Path) :
    Reads (fun t version => ∃ text, contentAt host t p = .ok text ∧ trimmed text = version)
      (readFileTrimmed host p) := by
  have unchanged : ∀ t version t',
      (do let text ← contentAt host t p; .ok (trimmed text, t)) = .ok (version, t') →
      (∃ text, contentAt host t p = .ok text ∧ trimmed text = version) ∧ t' = t := by
    intro t version t' done
    cases found : contentAt host t p with
    | error e =>
      rw [found] at done
      cases done
    | ok text =>
      rw [found] at done
      cases done
      exact ⟨⟨text, rfl, rfl⟩, rfl⟩
  exact reads_mono (reads_statement fun t version t' done => (unchanged t version t' done).2)
    fun t version done => (unchanged t version t done).1

theorem readFileTrimmed_succeeds {t : Tree} {p : Path} {text : String}
    (found : contentAt host t p = .ok text) :
    Succeeds (readFileTrimmed host p) t (trimmed text) t := by
  apply succeeds_statement
  rw [found]
  rfl

theorem validateLoadedRelease_reads (dir : Path) (component : String) (manifest : Manifest) :
    Reads (fun t r => r.ok = true → manifest.component = component ∧
        manifest.version = filename dir ∧ releaseError host t dir component manifest = none ∧
        r.version = filename dir)
      (validateLoadedRelease host dir component manifest) := by
  unfold validateLoadedRelease
  split
  · apply reads_mono (reads_pure _)
    intro t r value ok
    rw [value] at ok
    cases ok
  · rename_i same_component
    split
    · apply reads_mono (reads_pure _)
      intro t r value ok
      rw [value] at ok
      cases ok
    · rename_i same_version
      have outcome : ∀ error : Option String, Reads (fun _ r => r.ok = true → error = none ∧
          r.version = manifest.version) (match error with
            | some message => pure ⟨false, manifest.version, message⟩
            | none => pure ⟨true, manifest.version, ""⟩ : Work ReleaseValidation) := by
        intro error
        cases error with
        | some message =>
          apply reads_mono (reads_pure _)
          intro t r value ok
          rw [value] at ok
          cases ok
        | none =>
          apply reads_mono (reads_pure _)
          intro t r value ok
          rw [value]
          exact ⟨rfl, rfl⟩
      apply reads_mono (reads_bind (reads_query _) outcome)
      intro t r found ok
      obtain ⟨error, looked, sound⟩ := found
      obtain ⟨none_found, version⟩ := sound ok
      exact ⟨not_not.mp same_component, not_not.mp same_version, by rw [← looked, none_found],
        version.trans (not_not.mp same_version)⟩

theorem validateReleaseDirectory_reads (dir : Path) (component : String) :
    Reads (fun t r => r.ok = true →
        (∃ manifest, Release host t component dir manifest) ∧ r.version = filename dir)
      (validateReleaseDirectory host dir component) := by
  have loaded : ∀ outcome : Except String Manifest, Reads (fun t r => r.ok = true →
      ∃ manifest, outcome = .ok manifest ∧ manifest.component = component ∧
        manifest.version = filename dir ∧ releaseError host t dir component manifest = none ∧
        r.version = filename dir) (match outcome with
          | .error message => pure ⟨false, filename dir, message⟩
          | .ok manifest => validateLoadedRelease host dir component manifest) := by
    intro outcome
    cases outcome with
    | error message =>
      apply reads_mono (reads_pure _)
      intro t r value ok
      rw [value] at ok
      cases ok
    | ok manifest =>
      apply reads_mono (validateLoadedRelease_reads dir component manifest)
      intro t r sound ok
      exact ⟨manifest, rfl, sound ok⟩
  apply reads_mono (reads_bind (reads_query _) fun there => ?_) (fun t r found => ?_)
  · exact fun there t r => r.ok = true →
      (∃ manifest, Release host t component dir manifest) ∧ r.version = filename dir
  · cases there with
    | false =>
      apply reads_mono (reads_pure _)
      intro t r value ok
      rw [value] at ok
      cases ok
    | true =>
      apply reads_mono (reads_bind (attempt_reads (loadManifest_reads _)) loaded)
      intro t r found ok
      obtain ⟨outcome, read, sound⟩ := found
      obtain ⟨manifest, outcome_eq, component_eq, version_eq, none_found, version⟩ := sound ok
      exact ⟨⟨manifest, read manifest outcome_eq, component_eq, version_eq, none_found⟩, version⟩
  · exact found.choose_spec.2

theorem validateReleaseDirectory_succeeds {t : Tree} {dir : Path} {component : String}
    {manifest : Manifest} (release : Release host t component dir manifest) :
    Succeeds (validateReleaseDirectory host dir component) t ⟨true, filename dir, ""⟩ t := by
  obtain ⟨loaded, component_eq, version_eq, sound⟩ := release
  obtain ⟨text, found, -⟩ := manifestAt_content loaded
  have checked : Succeeds (validateLoadedRelease host dir component manifest) t
      ⟨true, filename dir, ""⟩ t := by
    unfold validateLoadedRelease
    rw [if_neg (not_not.mpr component_eq), if_neg (not_not.mpr version_eq)]
    apply succeeds_bind (succeeds_query _ t)
    rw [sound, version_eq]
    exact succeeds_pure _ t
  unfold validateReleaseDirectory
  apply succeeds_bind (succeeds_query _ t)
  rw [exists_of_content found]
  exact succeeds_bind (attempt_succeeds (loadManifest_succeeds loaded)) checked

theorem filename_releaseDir (component version : String) :
    filename (releaseDir component version) = version := by
  simp [filename, releaseDir, releasesRoot, List.getLastD_eq_getLast?]

theorem inspectVersion_reads (component version : String) :
    Reads (fun t info => (info.state = .healthy → info.version = version ∧
        isSafeVersionString version = true ∧
        ∃ manifest, Release host t component (releaseDir component version) manifest) ∧
        info.state ≠ .missing)
      (inspectVersion host component version) := by
  unfold inspectVersion
  split
  · apply reads_mono (reads_pure _)
    intro t info value
    rw [value]
    exact ⟨nofun, nofun⟩
  · rename_i safe
    apply reads_mono (reads_bind (reads_query _) fun there => ?_) (fun t info found => ?_)
    · exact fun there t info => (info.state = .healthy → info.version = version ∧
        isSafeVersionString version = true ∧
        ∃ manifest, Release host t component (releaseDir component version) manifest) ∧
        info.state ≠ .missing
    · split
      · apply reads_mono (reads_pure _)
        intro t info value
        rw [value]
        exact ⟨nofun, nofun⟩
      · apply reads_mono (reads_bind (validateReleaseDirectory_reads _ _) fun validation => ?_)
          (fun t info found => ?_)
        · exact fun validation t info => (info.state = .healthy → validation.ok = true ∧
            info.version = validation.version) ∧ info.state ≠ .missing
        · split
          · apply reads_mono (reads_pure _)
            intro t info value
            rw [value]
            exact ⟨nofun, nofun⟩
          · rename_i valid
            apply reads_mono (reads_pure _)
            intro t info value
            rw [value]
            exact ⟨fun _ => ⟨by simpa using valid, rfl⟩, by simp⟩
        · obtain ⟨validation, sound, outcome, not_missing⟩ := found
          refine ⟨?_, not_missing⟩
          intro healthy
          obtain ⟨valid, version_eq⟩ := outcome healthy
          obtain ⟨release, name⟩ := sound valid
          exact ⟨by rw [version_eq, name, filename_releaseDir], by simpa using safe, release⟩
    · exact found.choose_spec.2

theorem inspectActiveRelease_reads (component : String) :
    Reads (fun t info => (info.state = .healthy → Active host t component info.version) ∧
        (info.state = .missing → t.exists? (activeVersionPath component) = false))
      (inspectActiveRelease host component) := by
  have read : ∀ outcome : Except String String, Reads (fun t info => (info.state = .healthy →
      ∃ version, outcome = .ok version ∧ info.version = version ∧
        isSafeVersionString version = true ∧
        ∃ manifest, Release host t component (releaseDir component version) manifest) ∧
      info.state ≠ .missing) (match outcome with
        | .error message => pure ⟨.corrupt, "", message⟩
        | .ok version => inspectVersion host component version) := by
    intro outcome
    cases outcome with
    | error message =>
      apply reads_mono (reads_pure _)
      intro t info value
      rw [value]
      exact ⟨nofun, nofun⟩
    | ok version =>
      apply reads_mono (inspectVersion_reads component version)
      intro t info found
      exact ⟨fun healthy => ⟨version, rfl, found.1 healthy⟩, found.2⟩
  apply reads_mono (reads_bind (reads_query _) fun there => ?_) (fun t info found => ?_)
  · exact fun there t info => (info.state = .healthy → Active host t component info.version) ∧
      (info.state = .missing → there = false)
  · cases there with
    | false =>
      apply reads_mono (reads_pure _)
      intro t info value
      rw [value]
      exact ⟨nofun, fun _ => rfl⟩
    | true =>
      apply reads_mono (reads_bind (attempt_reads (readFileTrimmed_reads _)) read)
      intro t info found
      obtain ⟨outcome, named, sound, not_missing⟩ := found
      refine ⟨?_, fun missing => absurd missing not_missing⟩
      intro healthy
      obtain ⟨version, outcome_eq, version_eq, safe, release⟩ := sound healthy
      rw [version_eq]
      exact ⟨named version outcome_eq, safe, release⟩
  · obtain ⟨there, looked, healthy, missing⟩ := found
    exact ⟨healthy, fun state => by rw [← looked, missing state]⟩

theorem inspectActiveRelease_healthy {t : Tree} {component version : String}
    (active : Active host t component version) :
    Succeeds (inspectActiveRelease host component) t ⟨.healthy, version, ""⟩ t := by
  obtain ⟨⟨text, found, text_version⟩, safe, manifest, release⟩ := active
  have directory : t.isDirectory (releaseDir component version) = true := by
    obtain ⟨content, inside, -⟩ := manifestAt_content release.loaded
    obtain ⟨executable, regular⟩ := contentAt_ok.mp inside
    have there : t.node (releaseDir component version ++ ["META", "manifest.json"]) =
        some (.file content executable) := Tree.regular_iff.mp regular
    have above := t.closed (releaseDir component version) ["META", "manifest.json"] (by simp)
      (by rw [there]; simp)
    simp [Tree.isDirectory, above]
  have inspected : Succeeds (inspectVersion host component version) t
      ⟨.healthy, version, ""⟩ t := by
    unfold inspectVersion
    rw [safe]
    apply succeeds_bind (succeeds_query _ t)
    rw [directory]
    apply succeeds_bind (validateReleaseDirectory_succeeds release)
    rw [filename_releaseDir]
    exact succeeds_pure _ t
  unfold inspectActiveRelease
  apply succeeds_bind (succeeds_query _ t)
  rw [exists_of_content found]
  apply succeeds_bind (attempt_succeeds (readFileTrimmed_succeeds found))
  rw [text_version]
  exact inspected

theorem inspectActiveRelease_missing {t : Tree} {component : String}
    (missing : t.exists? (activeVersionPath component) = false) :
    Succeeds (inspectActiveRelease host component) t ⟨.missing, "", ""⟩ t := by
  unfold inspectActiveRelease
  apply succeeds_bind (succeeds_query _ t)
  rw [missing]
  exact succeeds_pure _ t

theorem getStatus_installed {t : Tree} {component version : String}
    (known : isKnownComponent component = true) (active : Active host t component version) :
    Succeeds (getStatus host component) t ⟨component, "installed", some version, none⟩ t := by
  unfold getStatus validateComponent
  rw [if_pos known]
  apply succeeds_bind (succeeds_pure () t)
  exact succeeds_bind (inspectActiveRelease_healthy active) (succeeds_pure _ t)

/-! Only what is read counts -/

theorem releaseError_of_nodes {t t' : Tree} {dir : Path} {component : String}
    {manifest : Manifest} (same : ∀ q, t'.node (dir ++ q) = t.node (dir ++ q)) :
    releaseError host t' dir component manifest = releaseError host t dir component manifest := by
  have files : fileError host t' dir = fileError host t dir := by
    funext file
    unfold fileError
    rw [same]
  have asset : launcherAssetError host t' dir = launcherAssetError host t dir := by
    have there : t'.node (launcherTemplatePath dir) = t.node (launcherTemplatePath dir) := same _
    unfold launcherAssetError
    rw [there]
  unfold releaseError
  rw [files, asset]

theorem Release.of_nodes {t t' : Tree} {component : String} {dir : Path} {manifest : Manifest}
    (release : Release host t component dir manifest)
    (same : ∀ q, t'.node (dir ++ q) = t.node (dir ++ q)) :
    Release host t' component dir manifest := by
  refine ⟨?_, release.component_eq, release.version_eq, ?_⟩
  · rw [← release.loaded]
    unfold manifestAt
    rw [manifestPath, contentAt_of_nodes (same _)]
  · rw [releaseError_of_nodes same]
    exact release.sound

theorem Active.of_nodes {t t' : Tree} {component version : String}
    (active : Active host t component version)
    (named : t'.node (activeVersionPath component) = t.node (activeVersionPath component))
    (same : ∀ q, t'.node (releaseDir component version ++ q) =
      t.node (releaseDir component version ++ q)) : Active host t' component version := by
  obtain ⟨⟨text, found, text_version⟩, safe, manifest, release⟩ := active
  exact ⟨⟨text, by rw [contentAt_of_nodes named, found], text_version⟩, safe, manifest,
    release.of_nodes same⟩

/-- A version file names one version only. -/
theorem Active.unique {t : Tree} {component version version' : String}
    (active : Active host t component version) (active' : Active host t component version') :
    version = version' := by
  obtain ⟨⟨text, found, text_version⟩, -, -⟩ := active
  obtain ⟨⟨text', found', text_version'⟩, -, -⟩ := active'
  rw [found] at found'
  cases found'
  rw [← text_version, text_version']

end Reading

end Installer
