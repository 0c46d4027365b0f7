import ZFleet.Installer.Effects

/-!
What an apply and a rollback leave behind: where they may have changed the tree, whatever
failed, and what holds after they have answered that all is well.
-/
namespace Installer
open FileTrees Transactions Package Semver

/-! Where things are -/

section Places
variable {component component' version version' : String} {manifest : Manifest} {q : Path}

theorem release_not_staging :
    ¬ Near (stagingRoot component) (releaseDir component' version ++ q) :=
  far (.inr (by decide))

theorem release_not_var : ¬ Near (varRoot component) (releaseDir component' version ++ q) :=
  far (.inr (by decide))

theorem release_not_stub : ¬ NearStub (releaseDir component' version ++ q) := by
  rintro ⟨component, near⟩
  exact far (.inr (by decide)) near

theorem var_not_stub : ¬ NearStub (varRoot component ++ q) := by
  rintro ⟨component', near⟩
  exact far (.inr (by decide)) near

theorem var_not_place : ¬ NearPlace manifest (varRoot component ++ q) := by
  intro near
  rcases near with staging | release
  · exact far (.inr (by decide)) staging
  · exact far (.inr (by decide)) (near_mono (List.prefix_append (releasesRoot _) _) release)

/-- Another release is not on the way to this one. -/
theorem release_not_place
    (other : manifest.component ≠ component ∨ manifest.version ≠ version) :
    ¬ NearPlace manifest (releaseDir component version ++ q) := by
  intro near
  rcases near with staging | release
  · exact release_not_staging staging
  · have same : manifest.component = component ∧ manifest.version = version := by
      rcases release with short | long
      · obtain ⟨first, rest⟩ := List.cons_prefix_cons.mp short
        obtain ⟨-, last⟩ := List.cons_prefix_cons.mp rest
        exact ⟨first.symm, (List.cons_prefix_cons.mp last).1.symm⟩
      · obtain ⟨first, rest⟩ := List.cons_prefix_cons.mp long
        obtain ⟨-, last⟩ := List.cons_prefix_cons.mp rest
        exact ⟨first, (List.cons_prefix_cons.mp last).1⟩
    rcases other with component_other | version_other
    · exact component_other same.1
    · exact version_other same.2

end Places

section Host
variable {host : Host} {package : PackageDirectory} {manifest : Manifest}

/-! Apply -/

/-- What activating may touch. -/
def NearActivate (component : String) (q : Path) : Prop := Near (varRoot component) q ∨ NearStub q

theorem release_not_activate {component component' version : String} {q : Path} :
    ¬ NearActivate component (releaseDir component' version ++ q) := by
  intro near
  rcases near with var | stub
  · exact release_not_var var
  · exact release_not_stub stub

theorem activate_frame (activeRelease : ActiveReleaseInfo) (installerVersion : String) :
    Evolves (AgreeBut (NearActivate manifest.component))
      (activate host manifest activeRelease installerVersion) := by
  apply frame_bind
  · exact frame_mono (switchActiveVersion_frame _ activeRelease manifest.version)
      fun q near => .inl near
  · exact fun _ => frame_mono (ensureLauncherStubs_frame installerVersion _)
      fun q near => .inr near

theorem activate_ok {activeRelease : ActiveReleaseInfo} {installerVersion : String}
    {s s' : Session Tree} {u : Unit}
    (done : activate host manifest activeRelease installerVersion s = (.ok u, s')) :
    ∃ executable, s'.state.regular (activeVersionPath manifest.component) =
      some (manifest.version ++ "\n", executable) := by
  obtain ⟨_, switched, switch, stubs⟩ := bind_ok done
  obtain ⟨executable, there⟩ := switchActiveVersion_ok switch
  refine ⟨executable, ?_⟩
  have frame := ensureLauncherStubs_frame installerVersion _ _ _ _ stubs
  have kept : s'.state.node (activeVersionPath manifest.component) =
      switched.state.node (activeVersionPath manifest.component) := frame.nodes _ var_not_stub
  rw [Tree.regular_of_node_eq kept, there]

theorem placeRelease_ok {s s' : Session Tree} {u : Unit}
    (done : placeRelease host package manifest s = (.ok u, s')) :
    Staged host package manifest s'.state (releaseDir manifest.component manifest.version) ∧
      (manifest.component = "installer" →
        HasLauncher s'.state (releaseDir manifest.component manifest.version)) := by
  obtain ⟨_, staged, stage, rest⟩ := bind_ok done
  obtain ⟨_, looked, look, rest⟩ := bind_ok rest
  obtain ⟨_, made, mkdir, move⟩ := bind_ok rest
  obtain ⟨same, launcher⟩ := checkStagedLauncher_reads manifest _ _ _ look
  have moved : ∀ q, s'.state.regular (releaseDir manifest.component manifest.version ++ q) =
      staged.state.regular (stagingDir manifest ++ q) := by
    intro q
    rw [Tree.regular_of_node_eq (Tree.rename_below (operation_ok move) q),
      Tree.makeDirectories_regular (operation_ok mkdir), same]
  refine ⟨(stageRelease_ok stage).moved moved, ?_⟩
  intro installer
  obtain ⟨content, asset⟩ := launcherAssetError_none.mp (launcher _ rfl installer)
  exact ⟨content, (moved _).trans asset⟩

/-- What a successful apply of the manifest has come to. -/
structure Applied (host : Host) (package : PackageDirectory) (manifest : Manifest)
    (t t' : Tree) : Prop where
  checked : CheckedManifest manifest
  loaded : ∃ text, package.manifestText = .ok text ∧ parsedManifest host text = .ok manifest
  active : ∃ executable, t'.regular (activeVersionPath manifest.component) =
    some (manifest.version ++ "\n", executable)
  release :
    (t.exists? (releaseDir manifest.component manifest.version) = true ∧
      (∃ installed, Release host t manifest.component
        (releaseDir manifest.component manifest.version) installed) ∧
      ∀ q, t'.node (releaseDir manifest.component manifest.version ++ q) =
        t.node (releaseDir manifest.component manifest.version ++ q)) ∨
    (t.exists? (releaseDir manifest.component manifest.version) = false ∧
      Staged host package manifest t' (releaseDir manifest.component manifest.version) ∧
      (manifest.component = "installer" →
        HasLauncher t' (releaseDir manifest.component manifest.version)))

theorem ofExcept_reads {α : Type} (result : Except String α) :
    Reads (fun _ a => result = .ok a) (ofExcept result : Work α) := by
  cases result with
  | error message => exact reads_mono (reads_fail _) fun _ _ impossible => impossible.elim
  | ok value =>
    apply reads_mono (reads_pure value)
    intro t a same
    rw [same]

theorem resolveInstallerVersion_reads (component version minInstallerVersion : String) :
    Reads (fun t resolved => (component = "installer" ∧ resolved = version) ∨
        (component ≠ "installer" ∧ Active host t "installer" resolved ∧
          ∃ actual minimum, parseSemver3 resolved = some actual ∧
            parseSemver3 minInstallerVersion = some minimum ∧ ¬ actual < minimum))
      (resolveInstallerVersionForPackage host component version minInstallerVersion) := by
  unfold resolveInstallerVersionForPackage
  split
  · rename_i installer
    exact reads_mono (reads_pure version) fun _ _ same => .inl ⟨installer, same⟩
  · rename_i other
    apply reads_mono (reads_bind (inspectActiveRelease_reads "installer") fun info => ?_)
      (fun t resolved found => ?_)
    · exact fun info _ resolved => info.state = .healthy ∧ resolved = info.version ∧
        ∃ actual minimum, parseSemver3 resolved = some actual ∧
          parseSemver3 minInstallerVersion = some minimum ∧ ¬ actual < minimum
    · obtain ⟨state, resolved, message⟩ := info
      cases state with
      | missing => exact reads_mono (reads_fail _) fun _ _ impossible => impossible.elim
      | corrupt => exact reads_mono (reads_fail _) fun _ _ impossible => impossible.elim
      | healthy =>
        simp only
        cases actual_eq : parseSemver3 resolved with
        | none => exact reads_mono (reads_fail _) fun _ _ impossible => impossible.elim
        | some actual =>
          cases minimum_eq : parseSemver3 minInstallerVersion with
          | none => exact reads_mono (reads_fail _) fun _ _ impossible => impossible.elim
          | some minimum =>
            simp only
            split
            · exact reads_mono (reads_fail _) fun _ _ impossible => impossible.elim
            · rename_i not_below
              apply reads_mono (reads_pure resolved)
              intro t value same
              rw [same]
              exact ⟨trivial, rfl, actual, minimum, actual_eq, rfl, not_below⟩
    · obtain ⟨info, sound, healthy, resolved_eq, accepted⟩ := found
      rw [resolved_eq] at accepted ⊢
      exact .inr ⟨other, sound.1 healthy, accepted⟩

theorem resolveInstallerVersion_active {t : Tree} {component version minInstallerVersion active : String}
    {actual minimum : Semver3} (other : component ≠ "installer")
    (installed : Active host t "installer" active) (actual_eq : parseSemver3 active = some actual)
    (minimum_eq : parseSemver3 minInstallerVersion = some minimum) (enough : ¬ actual < minimum) :
    Succeeds (resolveInstallerVersionForPackage host component version minInstallerVersion) t
      active t := by
  unfold resolveInstallerVersionForPackage
  rw [if_neg other]
  apply succeeds_bind (inspectActiveRelease_healthy installed)
  simp only [actual_eq, minimum_eq]
  rw [if_neg enough]
  exact succeeds_pure active t

theorem loadPackageManifest_reads (package : PackageDirectory) :
    Reads (fun _ manifest => ∃ text, package.manifestText = .ok text ∧
        parsedManifest host text = .ok manifest) (loadPackageManifest host package) := by
  have unchanged : ∀ (t : Tree) (manifest : Manifest) (t' : Tree), (do
        let text ← package.manifestText.mapError Failure.error
        let manifest ← parsedManifest host text
        .ok (manifest, t)) = Except.ok (manifest, t') →
      (∃ text, package.manifestText = .ok text ∧ parsedManifest host text = .ok manifest) ∧
        t' = t := by
    intro t manifest t' done
    cases given : package.manifestText with
    | error message =>
      rw [given] at done
      cases done
    | ok text =>
      rw [given] at done
      change (parsedManifest host text >>= fun manifest => .ok (manifest, t)) = _ at done
      cases parsed : parsedManifest host text with
      | error e =>
        rw [parsed] at done
        cases done
      | ok value =>
        rw [parsed] at done
        cases done
        exact ⟨⟨text, rfl, parsed⟩, rfl⟩
  exact reads_mono (reads_statement fun t manifest t' done => (unchanged t manifest t' done).2)
    fun t manifest done => (unchanged t manifest t done).1

theorem applyManifest_ok {s s' : Session Tree} {result : ApplyResult}
    (checked : CheckedManifest manifest)
    (loaded : ∃ text, package.manifestText = .ok text ∧ parsedManifest host text = .ok manifest)
    (done : applyManifest host package manifest s = (.ok result, s')) (ok : result.ok = true) :
    result.component = manifest.component ∧ result.version = manifest.version ∧
      Applied host package manifest s.state s'.state := by
  obtain ⟨active, inspected, inspect, rest⟩ := bind_ok done
  have same_inspected := (inspectActiveRelease_reads _ _ _ _ inspect).1
  obtain ⟨installerVersion, resolved, resolve, rest⟩ := bind_ok rest
  have same_resolved := (resolveInstallerVersion_reads _ _ _ _ _ _ resolve).1
  obtain ⟨there, asked, ask, rest⟩ := bind_ok rest
  obtain ⟨there_eq, same_asked⟩ := query_ok ask
  have same : asked.state = s.state := same_asked.trans (same_resolved.trans same_inspected)
  rw [same_resolved.trans same_inspected] at there_eq
  cases there with
  | true =>
    obtain ⟨validation, validated, validate, rest⟩ := bind_ok rest
    obtain ⟨same_validated, sound⟩ := validateReleaseDirectory_reads _ _ _ _ _ validate
    split at rest
    · obtain ⟨rfl, -⟩ := pure_ok rest
      cases ok
    · rename_i valid
      obtain ⟨_, activated, activation, finish⟩ := bind_ok rest
      obtain ⟨rfl, rfl⟩ := pure_ok finish
      obtain ⟨release, -⟩ := sound validation rfl (by simpa using valid)
      have frame := activate_frame active installerVersion _ _ _ activation
      rw [same_validated, same] at frame
      rw [same] at release
      exact ⟨rfl, rfl, checked, loaded, activate_ok activation,
        .inl ⟨there_eq.symm, release, fun q => frame.nodes _ release_not_activate⟩⟩
  | false =>
    obtain ⟨_, installed, install, finish⟩ := bind_ok rest
    obtain ⟨rfl, rfl⟩ := pure_ok finish
    rcases rescue_ok install with direct | ⟨e, failed, -, cleanup⟩
    · obtain ⟨_, placed, place, activation⟩ := bind_ok direct
      obtain ⟨staged, launcher⟩ := placeRelease_ok place
      have frame := activate_frame active installerVersion _ _ _ activation
      have kept : ∀ q,
          s'.state.regular (releaseDir manifest.component manifest.version ++ q) =
          placed.state.regular (releaseDir manifest.component manifest.version ++ q) :=
        fun q => Tree.regular_of_node_eq (frame.nodes _ release_not_activate)
      refine ⟨rfl, rfl, checked, loaded, activate_ok activation,
        .inr ⟨there_eq.symm, staged.moved kept, fun installer => ?_⟩⟩
      obtain ⟨content, asset⟩ := launcher installer
      exact ⟨content, (kept _).trans asset⟩
    · -- the clean-up throws the failure on
      obtain ⟨_, cleaned, -, thrown⟩ := bind_ok cleanup
      cases thrown

theorem applyPackageDirectory_ok {s s' : Session Tree} {result : ApplyResult}
    (done : applyPackageDirectory host (some package) s = (.ok result, s'))
    (ok : result.ok = true) :
    ∃ manifest, result.component = manifest.component ∧ result.version = manifest.version ∧
      Applied host package manifest s.state s'.state := by
  rcases recover_ok done with ran | ⟨e, -, failed⟩
  · obtain ⟨found, asked, ask, rest⟩ := bind_ok ran
    obtain ⟨rfl, same_asked⟩ := query_ok ask
    obtain ⟨manifest, read, load, rest⟩ := bind_ok rest
    obtain ⟨same_read, loaded⟩ := loadPackageManifest_reads package _ _ _ load
    obtain ⟨text, given, parsed⟩ := loaded manifest rfl
    have outcome := applyManifest_ok (parsedManifest_checked parsed) ⟨text, given, parsed⟩ rest ok
    rw [same_read, same_asked] at outcome
    exact ⟨manifest, outcome⟩
  · rw [failed] at ok
    cases ok

theorem applyPackage_ok {path : PackagePath} {s s' : Session Tree} {result : ApplyResult}
    (done : applyPackage host path s = (.ok result, s')) (ok : result.ok = true) :
    ∃ package manifest, path.opened = some package ∧
      result.component = manifest.component ∧ result.version = manifest.version ∧
      Applied host package manifest s.state s'.state := by
  obtain ⟨found, asked, ask, rest⟩ := bind_ok done
  obtain ⟨rfl, same_asked⟩ := query_ok ask
  cases found with
  | directory package =>
    obtain ⟨manifest, outcome⟩ := applyPackageDirectory_ok rest ok
    rw [same_asked] at outcome
    exact ⟨package, manifest, rfl, outcome⟩
  | archive extracted =>
    rcases recover_ok rest with ran | ⟨e, -, failed⟩
    · obtain ⟨package, opened, extract, applied⟩ := bind_ok ran
      obtain ⟨rfl, same_opened⟩ := ofExcept_ok extract
      obtain ⟨manifest, outcome⟩ := applyPackageDirectory_ok applied ok
      rw [same_opened, same_asked] at outcome
      exact ⟨package, manifest, rfl, outcome⟩
    · rw [failed] at ok
      cases ok
  | other =>
    obtain ⟨rfl, -⟩ := pure_ok rest
    cases ok

/-! Whole calls, whatever fails -/

theorem frame_after {α β : Type} {touched : Path → Prop} {holds : Tree → α → Prop} {job : Work α}
    {next : α → Work β} (reads : Reads holds job)
    (rest : ∀ a, (∃ t, holds t a) → Evolves (AgreeBut touched) (next a)) :
    Evolves (AgreeBut touched) (job >>= next) :=
  evolves_after (AgreeBut.refl touched) reads rest

/-- The manifest is that of the package. -/
def Loaded (host : Host) (package : PackageDirectory) (manifest : Manifest) : Prop :=
  ∃ text, package.manifestText = .ok text ∧ parsedManifest host text = .ok manifest

def NearApply (manifest : Manifest) (q : Path) : Prop :=
  NearPlace manifest q ∨ NearActivate manifest.component q

theorem installRelease_frame (activeRelease : ActiveReleaseInfo) (installerVersion : String) :
    Evolves (AgreeBut (NearApply manifest))
      (installRelease host package manifest activeRelease installerVersion) := by
  refine evolves_rescue ?_ (fun e => ?_) fun _ _ _ => AgreeBut.trans
  · apply frame_bind
    · exact frame_mono (placeRelease_frame package manifest) fun _ near => .inl near
    · exact fun _ => frame_mono (activate_frame activeRelease installerVersion)
        fun _ near => .inr near
  · apply frame_bind
    · refine evolves_recover (frame_mono (operation_frame fun _ _ => agree_removeAll) ?_)
      exact fun q below => .inl (staging_near_place (.inr below))
    · exact fun _ => frame_fail e

theorem applyManifest_frame :
    Evolves (AgreeBut (NearApply manifest)) (applyManifest host package manifest) := by
  apply frame_bind (frame_reads (inspectActiveRelease_reads _))
  intro active
  apply frame_bind (frame_reads (resolveInstallerVersion_reads _ _ _))
  intro installerVersion
  apply frame_bind (frame_query _)
  intro there
  split
  · apply frame_bind (frame_reads (validateReleaseDirectory_reads _ _))
    intro validation
    split
    · exact frame_pure _
    · apply frame_bind
      · exact frame_mono (activate_frame active installerVersion) fun _ near => .inr near
      · exact fun _ => frame_pure _
  · exact frame_bind (installRelease_frame active installerVersion) fun _ => frame_pure _

theorem applyPackageDirectory_frame :
    Evolves (AgreeBut fun q => ∃ manifest, Loaded host package manifest ∧ NearApply manifest q)
      (applyPackageDirectory host (some package)) := by
  apply evolves_recover
  apply frame_after (reads_query _)
  rintro found ⟨t, rfl⟩
  apply frame_after (loadPackageManifest_reads package)
  rintro manifest ⟨t, loaded⟩
  exact frame_mono applyManifest_frame fun q near => ⟨manifest, loaded, near⟩

/-- What an apply of the path may touch. -/
def TouchedByApply (host : Host) (path : PackagePath) (q : Path) : Prop :=
  ∃ package manifest, path.opened = some package ∧ Loaded host package manifest ∧
    NearApply manifest q

theorem applyPackage_frame (path : PackagePath) :
    Evolves (AgreeBut (TouchedByApply host path)) (applyPackage host path) := by
  have opened : ∀ package, path.opened = some package →
      Evolves (AgreeBut (TouchedByApply host path)) (applyPackageDirectory host (some package)) := by
    intro package leads
    refine frame_mono applyPackageDirectory_frame ?_
    rintro q ⟨manifest, loaded, near⟩
    exact ⟨package, manifest, leads, loaded, near⟩
  apply frame_after (reads_query _)
  rintro found ⟨t, rfl⟩
  cases found with
  | directory package => exact opened package rfl
  | archive extracted =>
    apply evolves_recover
    cases extracted with
    | error message =>
      change Evolves _ (fail (.error message) : Work ApplyResult)
      exact frame_fail _
    | ok package => exact opened package rfl
  | other => exact frame_pure _

/-- What the checks before a rollback have found: a failure, or a release to go back to. -/
def FoundPrevious (host : Host) (t : Tree) (component activeVersion : String) :
    Except RollbackResult String → Prop
  | .error result => result.ok = false
  | .ok version => version ≠ activeVersion ∧ isSafeVersionString version = true ∧
    (∃ text, contentAt host t (previousVersionPath component) = .ok text ∧
      trimmed text = version) ∧
    ∃ manifest, Release host t component (releaseDir component version) manifest

theorem checkPrevious_reads (component activeVersion candidate : String) :
    Reads (fun t previous =>
        (∃ text, contentAt host t (previousVersionPath component) = .ok text ∧
          trimmed text = candidate) → FoundPrevious host t component activeVersion previous)
      (checkPrevious host component activeVersion candidate) := by
  unfold checkPrevious
  split
  · exact reads_answer fun _ _ => rfl
  · rename_i safe
    split
    · exact reads_answer fun _ _ => rfl
    · rename_i other
      have answered : ∀ validation : ReleaseValidation, Reads
          (fun t previous => (∃ text, contentAt host t (previousVersionPath component) = .ok text ∧
            trimmed text = candidate) → (validation.ok = true →
              ∃ manifest, Release host t component (releaseDir component candidate) manifest) →
            FoundPrevious host t component activeVersion previous)
          (if !validation.ok then
            pure (.error (makeRollbackFailure component activeVersion candidate
              ("previous release is unhealthy: " ++ validation.message)))
            else pure (.ok candidate) : Work (Except RollbackResult String)) := by
        intro validation
        split
        · exact reads_answer fun _ _ _ => rfl
        · rename_i valid
          exact reads_answer fun _ named sound =>
            ⟨other, by simpa using safe, named, sound (by simpa using valid)⟩
      apply reads_mono (reads_bind (reads_query _) fun there => ?_) (fun t previous found => ?_)
      · exact fun _ t previous =>
          (∃ text, contentAt host t (previousVersionPath component) = .ok text ∧
            trimmed text = candidate) → FoundPrevious host t component activeVersion previous
      · split
        · exact reads_answer fun _ _ => rfl
        · apply reads_mono (reads_bind (validateReleaseDirectory_reads _ _) answered)
          intro t previous found named
          obtain ⟨validation, sound, answer⟩ := found
          exact answer named fun valid => (sound valid).1
      · exact found.choose_spec.2

theorem findPrevious_reads (component activeVersion : String) :
    Reads (fun t previous => FoundPrevious host t component activeVersion previous)
      (findPrevious host component activeVersion) := by
  apply reads_mono (reads_bind (reads_query _) fun there => ?_) (fun t previous found => ?_)
  · exact fun _ t previous => FoundPrevious host t component activeVersion previous
  · split
    · exact reads_answer fun _ => rfl
    · apply reads_mono (reads_bind (attempt_reads (readFileTrimmed_reads _)) fun outcome => ?_)
        (fun t previous found => ?_)
      · exact fun outcome t previous => (∀ version, outcome = .ok version →
          ∃ text, contentAt host t (previousVersionPath component) = .ok text ∧
            trimmed text = version) → FoundPrevious host t component activeVersion previous
      · cases outcome with
        | error message => exact reads_answer fun _ _ => rfl
        | ok candidate =>
          exact reads_mono (checkPrevious_reads component activeVersion candidate)
            fun _ _ found named => found (named candidate rfl)
      · obtain ⟨outcome, named, answer⟩ := found
        exact answer named
  · exact found.choose_spec.2

theorem switchBack_frame (component activeVersion previousVersion : String) :
    Evolves (AgreeBut (NearActivate component))
      (switchBack host component activeVersion previousVersion) := by
  apply frame_bind
  · exact frame_mono (writeVersionFile_frame (previousVersionPath component) activeVersion)
      fun q near => .inl near
  · intro _
    apply frame_bind
    · exact frame_mono (writeVersionFile_frame (activeVersionPath component) previousVersion)
        fun q near => .inl near
    · intro _
      apply frame_bind (frame_reads (resolveInstallerVersion_reads _ _ _))
      exact fun _ => frame_mono (ensureLauncherStubs_frame _ _) fun q near => .inr near

theorem attempt_frame {α : Type} {touched : Path → Prop} {job : Work α}
    (frame : Evolves (AgreeBut touched) job) : Evolves (AgreeBut touched) (attempt job) :=
  evolves_recover (frame_bind frame fun _ => frame_pure _)

theorem rollbackActive_frame (component activeVersion : String) :
    Evolves (AgreeBut (NearActivate component)) (rollbackActive host component activeVersion) := by
  apply frame_bind (frame_reads (findPrevious_reads component activeVersion))
  intro previous
  cases previous with
  | error result => exact frame_pure _
  | ok version =>
    apply frame_bind (attempt_frame (switchBack_frame component activeVersion version))
    intro switched
    cases switched <;> exact frame_pure _

theorem rollbackComponent_frame (component : String) :
    Evolves (AgreeBut (NearActivate component)) (rollbackComponent host component) := by
  apply frame_bind
  · unfold validateComponent
    split
    · exact frame_pure ()
    · exact frame_fail _
  · intro _
    apply frame_bind (frame_reads (inspectActiveRelease_reads component))
    intro active
    cases active.state with
    | missing => exact frame_pure _
    | corrupt => exact frame_pure _
    | healthy => exact rollbackActive_frame component active.version

/-! A version that is written is read back -/

theorem safe_char {ch : Char}
    (safe : (ch.isAlphanum || ch = '.' || ch = '_' || ch = '-') = true) :
    isSpace ch = false ∧ ch ≠ '/' ∧ ch ≠ '\\' := by
  have apart : ∀ other : Char, (other.isAlphanum || other = '.' || other = '_' || other = '-') =
      false → ch ≠ other := by
    intro other unsafe_other same
    rw [same, unsafe_other] at safe
    cases safe
  refine ⟨?_, apart '/' (by decide), apart '\\' (by decide)⟩
  by_contra space
  rw [Bool.not_eq_false, isSpace, Bool.or_eq_true, Bool.and_eq_true, decide_eq_true_eq,
    decide_eq_true_eq, decide_eq_true_eq] at space
  rcases space with blank | ⟨low, high⟩
  · exact apart ' ' (by decide) blank
  · have codes : ∀ n < 14, 9 ≤ n → ((Char.ofNat n).isAlphanum || Char.ofNat n = '.' ||
        Char.ofNat n = '_' || Char.ofNat n = '-') = false := by decide
    exact apart (Char.ofNat ch.toNat) (codes _ (by omega) low) (Char.ofNat_toNat ch).symm

theorem safe_segment {version : String} (safe : isSafePathSegment version = true) :
    version ≠ "" ∧ version ≠ "." ∧ version ≠ ".." ∧
      ∀ ch ∈ version.toList, isSpace ch = false ∧ ch ≠ '/' ∧ ch ≠ '\\' := by
  simp only [isSafePathSegment, Bool.and_eq_true, decide_eq_true_eq, List.all_eq_true] at safe
  obtain ⟨⟨⟨nonempty, not_dot⟩, not_dots⟩, chars⟩ := safe
  exact ⟨nonempty, not_dot, not_dots, fun ch inside => safe_char (by simpa using chars ch inside)⟩

theorem isSafeVersionString_of_segment {version : String}
    (safe : isSafePathSegment version = true) : isSafeVersionString version = true := by
  obtain ⟨nonempty, not_dot, not_dots, chars⟩ := safe_segment safe
  simp only [isSafeVersionString, Bool.and_eq_true, decide_eq_true_eq, List.all_eq_true]
  exact ⟨⟨⟨nonempty, not_dot⟩, not_dots⟩, fun ch inside => (chars ch inside).2⟩

theorem dropWhile_of_all_not {p : Char → Bool} {chars : List Char}
    (none_starts : ∀ ch ∈ chars, p ch = false) : chars.dropWhile p = chars := by
  cases chars with
  | nil => rfl
  | cons ch rest => rw [List.dropWhile_cons_of_neg (by simp [none_starts ch List.mem_cons_self])]

theorem trimmed_line {version : String} (safe : isSafePathSegment version = true) :
    trimmed (version ++ "\n") = version := by
  have chars : ∀ ch ∈ version.toList, isSpace ch = false :=
    fun ch inside => ((safe_segment safe).2.2.2 ch inside).1
  have newline : isSpace '\n' = true := by decide
  have reversed : (version ++ "\n").toList.reverse = '\n' :: version.toList.reverse := by
    rw [String.toList_append, List.reverse_append]
    rfl
  unfold trimmed
  rw [reversed, List.dropWhile_cons_of_pos newline,
    dropWhile_of_all_not (fun ch inside => chars ch (List.mem_reverse.mp inside)),
    List.reverse_reverse, dropWhile_of_all_not chars, String.ofList_toList]

/-! The release after an apply -/

theorem Applied.named {t t' : Tree} (applied : Applied host package manifest t t') :
    ∃ text, contentAt host t' (activeVersionPath manifest.component) = .ok text ∧
      trimmed text = manifest.version := by
  obtain ⟨executable, there⟩ := applied.active
  exact ⟨_, contentAt_ok.mpr ⟨executable, there⟩, trimmed_line applied.checked.version⟩

theorem Applied.fresh_release_iff {t t' : Tree} (applied : Applied host package manifest t t')
    (staged : Staged host package manifest t' (releaseDir manifest.component manifest.version))
    (launcher : manifest.component = "installer" →
      HasLauncher t' (releaseDir manifest.component manifest.version)) :
    (∃ installed, Release host t' manifest.component
      (releaseDir manifest.component manifest.version) installed) ↔ Coherent manifest.files := by
  obtain ⟨text, given, parsed⟩ := applied.loaded
  have loaded : manifestAt host t' (manifestPath (releaseDir manifest.component manifest.version)) =
      .ok manifest := by
    obtain ⟨staged_text, staged_given, there⟩ := staged.text
    rw [given] at staged_given
    cases staged_given
    rw [manifestAt_of_content (contentAt_ok.mpr ⟨_, there⟩), parsed]
  rw [← staged.sound_iff applied.checked.files launcher]
  constructor
  · rintro ⟨installed, release⟩
    have same := release.loaded
    rw [loaded] at same
    cases same
    exact release.sound
  · intro sound
    exact ⟨manifest, loaded, rfl, (filename_releaseDir _ _).symm, sound⟩

/-- The release is one, unless entries of a new one got into each other's way. -/
theorem Applied.release_iff {t t' : Tree} (applied : Applied host package manifest t t') :
    (∃ installed, Release host t' manifest.component
      (releaseDir manifest.component manifest.version) installed) ↔
      (t.exists? (releaseDir manifest.component manifest.version) = true ∨
        Coherent manifest.files) := by
  rcases applied.release with ⟨there, ⟨installed, release⟩, kept⟩ | ⟨absent, staged, launcher⟩
  · exact ⟨fun _ => .inl there, fun _ => ⟨installed, release.of_nodes kept⟩⟩
  · rw [applied.fresh_release_iff staged launcher, absent]
    simp

theorem Applied.is_active {t t' : Tree} (applied : Applied host package manifest t t')
    (release : t.exists? (releaseDir manifest.component manifest.version) = true ∨
      Coherent manifest.files) :
    Active host t' manifest.component manifest.version :=
  ⟨applied.named, isSafeVersionString_of_segment applied.checked.version,
    applied.release_iff.mpr release⟩

end Host

end Installer
