import ZFleet.Installer.Outcomes

/-!
Which files a successful apply leaves in the release directory. A release that is there
already stays as it is, so its files are those of the package only if its manifest is the
package's.
-/
namespace Installer
open FileTrees Transactions Package

/-- The directory holds every file of the manifest, as stated there, and the manifest. -/
structure Contains (host : Host) (t : Tree) (dir : Path) (text : String) (manifest : Manifest) :
    Prop where
  files : ∀ file ∈ manifest.files, ∃ content executable,
    t.regular (dir ++ osPath file.target) = some (content, executable) ∧
      content.length = file.size ∧ host.sha256 content = file.sha256
  manifest : ∃ executable, t.regular (manifestPath dir) = some (text, executable)

section Contents
variable {host : Host} {package : PackageDirectory} {manifest : Manifest} {t t' : Tree}

theorem Release.contains {component text : String} {dir : Path}
    (release : Release host t component dir manifest)
    (same : contentAt host t (manifestPath dir) = .ok text) : Contains host t dir text manifest := by
  refine ⟨fun file listed => ?_, contentAt_ok.mp same⟩
  obtain ⟨content, executable, found, size, digest, -⟩ :=
    fileError_none.mp ((releaseError_none.mp release.sound).1 file listed)
  exact ⟨content, executable, found, size, digest⟩

/-- A new release is made of the package's files. -/
theorem Applied.fresh_contains {text : String} (applied : Applied host package manifest t t')
    (given : package.manifestText = .ok text)
    (free : ∀ file ∈ manifest.files, NulFree file.target)
    (absent : t.exists? (releaseDir manifest.component manifest.version) = false) :
    Contains host t' (releaseDir manifest.component manifest.version) text manifest := by
  have coherent := coherent_of_nulFree applied.checked.files free
  rcases applied.release with ⟨there, -⟩ | ⟨-, staged, launcher⟩
  · rw [absent] at there
    cases there
  · obtain ⟨staged_text, staged_given, staged_there⟩ := staged.text
    rw [given] at staged_given
    cases staged_given
    refine ⟨fun file listed => ?_, _, staged_there⟩
    obtain ⟨other, last, found⟩ := staged.entry applied.checked.files listed
    obtain ⟨size, digest, -⟩ := coherent file listed other last
    obtain ⟨-, other_size, other_digest⟩ := staged.matching other (lastAt_mem last).1
    exact ⟨_, _, found, other_size.trans size, other_digest.trans digest⟩

theorem Applied.contains_iff {text : String} (applied : Applied host package manifest t t')
    (given : package.manifestText = .ok text)
    (free : ∀ file ∈ manifest.files, NulFree file.target) :
    Contains host t' (releaseDir manifest.component manifest.version) text manifest ↔
      t.exists? (releaseDir manifest.component manifest.version) = false ∨
      contentAt host t (manifestPath (releaseDir manifest.component manifest.version)) =
        .ok text := by
  cases there : t.exists? (releaseDir manifest.component manifest.version) with
  | false => exact ⟨fun _ => .inl rfl, fun _ => applied.fresh_contains given free there⟩
  | true =>
    rcases applied.release with ⟨-, ⟨installed, release⟩, kept⟩ | ⟨absent, -⟩
    · have same_text := @contentAt_of_nodes host _ _ _ (kept ["META", "manifest.json"])
      constructor
      · intro contains
        right
        rw [← contentAt_ok.mpr contains.manifest]
        exact same_text.symm
      · rintro (absent | same)
        · cases absent
        · obtain ⟨given_text, given', parsed⟩ := applied.loaded
          rw [given] at given'
          cases given'
          have loaded := release.loaded
          rw [manifestAt_of_content same, parsed] at loaded
          cases loaded
          exact (release.of_nodes kept).contains (same_text.trans same)
    · rw [absent] at there
      cases there

end Contents

/-- Packages of a sample host. The text of a manifest says which package it is. -/
def sampleObject (component version buildType minInstallerVersion : String) : JsonObject :=
  fun key =>
    if key = "schema_version" then some (.integer 2)
    else if key = "component" then some (.text component)
    else if key = "version" then some (.text version)
    else if key = "platform" then some (.text "linux")
    else if key = "arch" then some (.text "x64")
    else if key = "build_type" then some (.text buildType)
    else if key = "min_installer_version" then some (.text minInstallerVersion)
    else none

def sampleDigest (content : String) : String :=
  if content = "debug" then "dddddddddddddddddddddddddddddddddddddddddddddddddddddddddddddddd"
  else "aaaaaaaaaaaaaaaaaaaaaaaaaaaaaaaaaaaaaaaaaaaaaaaaaaaaaaaaaaaaaaaa"

/-- The entry of a program with the content. -/
def sampleFile (name content : String) : RawFile :=
  ⟨.ok ("payload/bin/" ++ name), .ok ("bin/" ++ name), .ok content.length,
    .ok (sampleDigest content), .ok true⟩

/-- Agents 2.0.0, built for debugging or for release, list their program, the candidate of
    an installer its launcher. -/
def sampleFiles (json : JsonObject) : List RawFile :=
  if json "version" = some (.text "1.1.0-rc1") then [sampleFile "zfleet_launcher" "launcher"]
  else if json "version" ≠ some (.text "2.0.0") then []
  else if json "build_type" = some (.text "debug") then [sampleFile "zfleet_agent" "debug"]
  else [sampleFile "zfleet_agent" "release"]

def sampleObjects : List (String × JsonObject) :=
  [("installer 1.0.0", sampleObject "installer" "1.0.0" "release" "0.0.0"),
   ("installer 1.1.0-rc1", sampleObject "installer" "1.1.0-rc1" "release" "0.0.0"),
   ("agent 2.0.0", sampleObject "agent" "2.0.0" "release" "1.0.0"),
   ("agent 2.0.0 debug", sampleObject "agent" "2.0.0" "debug" "1.0.0"),
   ("agent 2.1.0", sampleObject "agent" "2.1.0" "release" "1.0.0")]

def sampleLibrary : RawLibrary where
  parse text :=
    match sampleObjects.lookup text with
    | some json => .ok (some json)
    | none => .error "parse error"
  filesArray json := some (sampleFiles json)
  oddSignatures _ := false

def sampleHost : Host := ⟨sampleLibrary, sampleDigest, "/srv/zfleet"⟩

def samplePackage (text content : String) : PackageDirectory :=
  ⟨.ok text, false, fun _ => .regular content true⟩

def agentPackage : PackageDirectory := samplePackage "agent 2.0.0" "release"
def debugPackage : PackageDirectory := samplePackage "agent 2.0.0 debug" "debug"

def placed (t : Tree) (entry : Path × String × Bool) : Tree :=
  match t.makeDirectories entry.1.dropLast >>= (·.copyTo entry.1 entry.2.1 entry.2.2) with
  | .ok t' => t'
  | .error _ => t

/-- The root with these files, each a content and whether it is executable. -/
def sampleRoot (files : List (Path × String × Bool)) : Tree :=
  files.foldl placed (Tree.empty fun _ => true)

def installerFiles : List (Path × String × Bool) :=
  [(manifestPath (releaseDir "installer" "1.0.0"), "installer 1.0.0", false),
   (launcherTemplatePath (releaseDir "installer" "1.0.0"), "launcher", true),
   (activeVersionPath "installer", "1.0.0\n", false)]

def agentFiles : List (Path × String × Bool) :=
  [(manifestPath (releaseDir "agent" "2.0.0"), "agent 2.0.0", false),
   (releaseDir "agent" "2.0.0" ++ ["bin", "zfleet_agent"], "release", true),
   (activeVersionPath "agent", "2.0.0\n", false)]

def answersOk (outcome : Except Failure ApplyResult × Session Tree) : Bool :=
  match outcome.1 with
  | .ok result => result.ok
  | .error _ => false

def agentManifest : Manifest :=
  ⟨2, "agent", "2.0.0", "linux", "x64", "release", "1.0.0",
    [⟨"payload/bin/zfleet_agent", "bin/zfleet_agent", 7, sampleDigest "release", true⟩]⟩

def debugManifest : Manifest :=
  ⟨2, "agent", "2.0.0", "linux", "x64", "debug", "1.0.0",
    [⟨"payload/bin/zfleet_agent", "bin/zfleet_agent", 5, sampleDigest "debug", true⟩]⟩

theorem outcome_eq {α : Type} {outcome : Except Failure α × Session Tree} {answer : Except Failure α}
    (same : outcome.1 = answer) : outcome = (answer, outcome.2) := by
  rw [← same]

theorem answersOk_iff {outcome : Except Failure ApplyResult × Session Tree} :
    answersOk outcome = true ↔ ∃ result, outcome = (.ok result, outcome.2) ∧ result.ok = true := by
  obtain ⟨answer, final⟩ := outcome
  cases answer with
  | error e => simp [answersOk]
  | ok result => simp [answersOk]

end Installer
