import ZFleet.Installer.InstallerRuns

/-!
Calls that fail after they have begun to write version files. A file operation may fail
anywhere, so a call leaves the version files alone in every failure exactly when it cannot
get as far as the first of them.
-/
namespace Installer
open FileTrees Transactions Package Semver

/-- The version files of every component are what they were. -/
def KeepsVersions (t t' : Tree) : Prop :=
  ∀ component, ∀ n ∈ ["active-version", "previous-version"],
    t'.node (varRoot component ++ [n]) = t.node (varRoot component ++ [n])

section Failures
variable {host : Host} {t : Tree} {component : String}

theorem KeepsVersions.refl (t : Tree) : KeepsVersions t t := fun _ _ _ => rfl

theorem KeepsVersions.trans {t t' t'' : Tree} (first : KeepsVersions t t')
    (second : KeepsVersions t' t'') : KeepsVersions t t'' :=
  fun component n listed => (second component n listed).trans (first component n listed)

theorem KeepsVersions.symm {t t' : Tree} (kept : KeepsVersions t t') : KeepsVersions t' t :=
  fun component n listed => (kept component n listed).symm

theorem keepsVersions_of_frame {touched : Path → Prop} {t t' : Tree} (agree : AgreeBut touched t t')
    (elsewhere : ∀ component q, ¬ touched (varRoot component ++ q)) : KeepsVersions t t' :=
  fun component n _ => agree.nodes _ (elsewhere component [n])

/-- A write of one version file touches no other. -/
theorem write_keeps {n version : String} {s s' : Session Tree} {answer : Except Failure Unit}
    (listed : n ∈ ["active-version", "previous-version"])
    (ran : writeVersionFile (varRoot component ++ [n]) version s = (answer, s'))
    (kept : s'.state.node (varRoot component ++ [n]) = s.state.node (varRoot component ++ [n])) :
    KeepsVersions s.state s'.state := by
  intro other m listed'
  by_cases same : varRoot other ++ [m] = varRoot component ++ [n]
  · rw [same, kept]
  · apply (writeVersionFile_touches _ version _ _ _ ran).nodes
    rintro (above | temp | below)
    · rw [List.dropLast_concat] at above
      have sizes := above.length_le
      simp [varRoot] at sizes
    · rw [tempPath_var] at temp
      have paths := temp.eq_of_length (by simp [varRoot])
      have names : n ++ ".tmp" = m := by simpa [varRoot] using (List.append_inj' paths rfl).2
      rcases List.mem_pair.mp listed with rfl | rfl <;>
        rcases List.mem_pair.mp listed' with rfl | rfl <;> exact absurd names (by decide)
    · exact same (below.eq_of_length (by simp [varRoot])).symm

/-- What begins with the write of a file that cannot be changed keeps the version files. -/
theorem blocked_keeps {α : Type} {n version : String} {rest : Unit → Work α} {s s' : Session Tree}
    {answer : Except Failure α} (listed : n ∈ ["active-version", "previous-version"])
    (blocked : ¬ Changeable s.state component n)
    (ran : (writeVersionFile (varRoot component ++ [n]) version >>= rest) s = (answer, s')) :
    KeepsVersions s.state s'.state := by
  rcases bind_cases ran with ⟨e, failed⟩ | ⟨u, middle, began, -⟩
  · exact write_keeps listed failed (writeVersionFile_blocked blocked failed).1
  · obtain ⟨-, e, impossible⟩ := writeVersionFile_blocked blocked began
    cases impossible

/-- The job leaves the version files alone on a root of which the condition does not hold. -/
def KeepsUnless {α : Type} (switches : Tree → Prop) (job : Work α) : Prop :=
  Evolves (fun t t' => ¬ switches t → KeepsVersions t t') job

theorem keepsUnless_pure {α : Type} (switches : Tree → Prop) (a : α) :
    KeepsUnless switches (pure a : Work α) :=
  evolves_pure (fun t _ => KeepsVersions.refl t) a

theorem keepsUnless_fail {α : Type} (switches : Tree → Prop) (e : Failure) :
    KeepsUnless switches (fail e : Work α) :=
  evolves_fail (fun t _ => KeepsVersions.refl t) e

theorem keepsUnless_mono {α : Type} {narrow wide : Tree → Prop} {job : Work α}
    (kept : KeepsUnless narrow job) (included : ∀ t, narrow t → wide t) : KeepsUnless wide job :=
  evolves_mono kept fun t _ keeps stays => keeps fun switches => stays (included t switches)

theorem keepsUnless_after {α β : Type} {switches : Tree → Prop} {holds : Tree → α → Prop}
    {job : Work α} {next : α → Work β} (reads : Reads holds job)
    (rest : ∀ a, (∃ t, holds t a) → KeepsUnless switches (next a)) :
    KeepsUnless switches (job >>= next) :=
  evolves_after (fun t _ => KeepsVersions.refl t) reads rest

/-! Rollback -/

/-- The rollback gets as far as the version files. -/
def RollbackSwitches (host : Host) (t : Tree) (component : String) : Prop :=
  isKnownComponent component = true ∧ ∃ active previous, Active host t component active ∧
    FoundPrevious host t component active (.ok previous) ∧
    Changeable t component "previous-version"

theorem rollbackActive_keeps {active : String} {s s' : Session Tree}
    {answer : Except Failure RollbackResult}
    (stays : ∀ previous, FoundPrevious host s.state component active (.ok previous) →
      ¬ Changeable s.state component "previous-version")
    (ran : rollbackActive host component active s = (answer, s')) :
    KeepsVersions s.state s'.state := by
  rcases bind_cases ran with ⟨e, failed⟩ | ⟨found, looked, look, rest⟩
  · rw [(findPrevious_reads component active s _ s' failed).1]
    exact KeepsVersions.refl s.state
  · obtain ⟨same, checks⟩ := findPrevious_reads component active s _ looked look
    cases found with
    | error result =>
      cases rest
      rw [same]
      exact KeepsVersions.refl s.state
    | ok previous =>
      have switched : s'.state = (switchBack host component active previous looked).2.state := by
        rw [← attempt_state]
        rcases bind_cases rest with ⟨e, failed⟩ | ⟨outcome, final, switch, finish⟩
        · rw [failed]
        · rw [switch]
          cases outcome <;> cases finish <;> rfl
      have kept := blocked_keeps (by simp) (by rw [same]; exact stays previous (checks _ rfl))
        (show switchBack host component active previous looked = (_, _) from rfl)
      rw [switched]
      rw [same] at kept
      exact kept

theorem rollbackComponent_keeps :
    KeepsUnless (RollbackSwitches host · component) (rollbackComponent host component) := by
  intro s answer s' ran stays
  rcases bind_cases ran with ⟨e, failed⟩ | ⟨u, checked, check, rest⟩
  · unfold validateComponent at failed
    split at failed <;> cases failed
    exact KeepsVersions.refl s.state
  · unfold validateComponent at check
    split at check
    · rename_i known
      cases check
      rcases bind_cases rest with ⟨e, failed⟩ | ⟨info, inspected, inspect, rest⟩
      · rw [(inspectActiveRelease_reads component s _ s' failed).1]
        exact KeepsVersions.refl s.state
      · obtain ⟨same, sound⟩ := inspectActiveRelease_reads component s _ inspected inspect
        obtain ⟨state, version, message⟩ := info
        cases state with
        | missing =>
          cases rest
          rw [same]
          exact KeepsVersions.refl s.state
        | corrupt =>
          cases rest
          rw [same]
          exact KeepsVersions.refl s.state
        | healthy =>
          have kept := rollbackActive_keeps (by
            rw [same]
            exact fun previous found changeable => stays ⟨known, version, previous,
              (sound _ rfl).1 rfl, found, changeable⟩) rest
          rw [same] at kept
          exact kept
    · cases check

/-- What a call does that begins with this job and can fail in it. -/
def Breaks {α : Type} (job : Work α) (t : Tree) : Prop :=
  ∃ e t', Possible job t (.error e) t' ∧ ¬ KeepsVersions t t'

theorem breaks_after {α β : Type} {job : Work α} {next : α → Work β} {a : α} {t' : Tree}
    (kept : KeepsVersions t' t) (first : Possible job t (.ok a) t') (rest : Breaks (next a) t') :
    Breaks (job >>= next) t := by
  obtain ⟨e, final, failed, changed⟩ := rest
  exact ⟨e, final, possible_bind first failed, fun same => changed (kept.trans same)⟩

theorem breaks_first {α β : Type} {job : Work α} {next : α → Work β} (first : Breaks job t) :
    Breaks (job >>= next) t := by
  obtain ⟨e, t', failed, changed⟩ := first
  exact ⟨e, t', possible_bind_error failed, changed⟩

theorem changeable_breaks {α : Type} {n version : String} {rest : Unit → Work α}
    (listed : n ∈ ["active-version", "previous-version"])
    (above : t.node [component] = some .directory) (changeable : Changeable t component n)
    (fails : ∀ t', ∃ e, Possible (rest ()) t' (.error e) t') :
    Breaks (writeVersionFile (varRoot component ++ [n]) version >>= rest) t := by
  obtain ⟨e, t', failed, changed⟩ := @write_breaks t component n version _ rest above changeable
    fails
  exact ⟨e, t', failed, fun same => changed (same component n listed)⟩

theorem writeVersionFile_fails (path : Path) (version : String) (t : Tree) :
    ∃ e, Possible (writeVersionFile path version) t (.error e) t :=
  ⟨_, possible_bind_error (possible_fault _ t)⟩

theorem findPrevious_succeeds {active previous : String}
    (found : FoundPrevious host t component active (.ok previous)) :
    Succeeds (findPrevious host component active) t (.ok previous) t := by
  obtain ⟨different, safe, ⟨text, there, text_version⟩, manifest, release⟩ := found
  have checked : Succeeds (checkPrevious host component active previous) t (.ok previous) t := by
    unfold checkPrevious
    rw [safe, if_neg (by simp), if_neg different]
    apply succeeds_bind (succeeds_query _ t)
    rw [Tree.isDirectory, release.directory]
    exact succeeds_bind (validateReleaseDirectory_succeeds release) (succeeds_pure _ t)
  unfold findPrevious
  apply succeeds_bind (succeeds_query _ t)
  rw [exists_of_content there]
  apply succeeds_bind (attempt_succeeds (readFileTrimmed_succeeds there))
  rw [text_version]
  exact checked

theorem validateComponent_succeeds (known : isKnownComponent component = true) :
    Succeeds (validateComponent component) t () t := by
  unfold validateComponent
  rw [if_pos known]
  exact succeeds_pure () t

theorem validateComponent_fair (component : String) : Fair (validateComponent component) := by
  unfold validateComponent
  split
  · exact fair_pure ()
  · exact fair_fail _

theorem rollbackComponent_breaks (switches : RollbackSwitches host t component) :
    ∃ result t', Possible (rollbackComponent host component) t (.ok result) t' ∧
      result.ok = false ∧ ¬ KeepsVersions t t' := by
  obtain ⟨known, active, previous, is_active, found, changeable⟩ := switches
  have above : t.node [component] = some .directory := by
    obtain ⟨-, -, -, manifest, release⟩ := found
    exact release.above
  have switch : Breaks (switchBack host component active previous) t :=
    changeable_breaks (by simp) above changeable fun t' => by
      obtain ⟨e, failed⟩ := writeVersionFile_fails (activeVersionPath component) previous t'
      exact ⟨e, possible_bind_error failed⟩
  obtain ⟨e, t', failed, changed⟩ := switch
  refine ⟨makeRollbackFailure component active previous (what e), t', ?_, rfl, changed⟩
  apply possible_bind ((validateComponent_fair component).possible
    (validateComponent_succeeds known))
  apply possible_bind ((inspectActiveRelease_fair component).possible
    (inspectActiveRelease_healthy is_active))
  apply possible_bind ((findPrevious_fair component active).possible (findPrevious_succeeds found))
  apply possible_bind (possible_recover_error (possible_bind_error failed))
  exact possible_pure _ t'

/-! Apply -/

/-- The stubs that a switch renews are at least one, and its renewal can fail. -/
theorem stubs_fail (installerVersion : String) (t : Tree) :
    ∃ e, Possible (ensureLauncherStubs host installerVersion (stubComponents component)) t
      (.error e) t := by
  have first : ∀ c rest, ∃ e, Possible (ensureLauncherStubs host installerVersion (c :: rest)) t
      (.error e) t :=
    fun _ _ => ⟨_, possible_bind_error (possible_bind_error (possible_fault _ t))⟩
  unfold stubComponents
  split
  · exact first "installer" _
  · exact first component []

section Apply
variable {package : PackageDirectory} {manifest : Manifest} {info : ActiveReleaseInfo}

/-- The version file that the switch begins with can be changed. -/
def FirstChangeable (t : Tree) (component next : String) (info : ActiveReleaseInfo) : Prop :=
  (shouldRecordPreviousVersion info next = false ∧ Changeable t component "active-version") ∨
    (shouldRecordPreviousVersion info next = true ∧ Changeable t component "previous-version")

theorem activate_keeps {installerVersion : String} {s s' : Session Tree}
    {answer : Except Failure Unit}
    (stays : ¬ FirstChangeable s.state manifest.component manifest.version info)
    (ran : activate host manifest info installerVersion s = (answer, s')) :
    KeepsVersions s.state s'.state := by
  have switch_keeps : ∀ {answer middle},
      switchActiveVersion manifest.component info manifest.version s = (answer, middle) →
      KeepsVersions s.state middle.state := by
    intro answer middle switch
    unfold switchActiveVersion recordPreviousVersion at switch
    cases record : shouldRecordPreviousVersion info manifest.version with
    | true =>
      rw [record, if_pos rfl] at switch
      exact blocked_keeps (by simp) (fun changeable => stays (.inr ⟨record, changeable⟩)) switch
    | false =>
      rw [record, if_neg (by simp)] at switch
      have write : writeVersionFile (activeVersionPath manifest.component) manifest.version s =
          (answer, middle) := switch
      exact write_keeps (by simp) write (writeVersionFile_blocked
        (fun changeable => stays (.inl ⟨record, changeable⟩)) write).1
  rcases bind_cases ran with ⟨e, failed⟩ | ⟨u, switched, switch, stubs⟩
  · exact switch_keeps failed
  · exact (switch_keeps switch).trans (keepsVersions_of_frame
      (ensureLauncherStubs_frame installerVersion _ _ _ _ stubs) fun _ _ => var_not_stub)

theorem activate_breaks (installerVersion : String)
    (above : t.node [manifest.component] = some .directory)
    (first : FirstChangeable t manifest.component manifest.version info) :
    Breaks (activate host manifest info installerVersion) t := by
  unfold activate switchActiveVersion
  rw [bind_assoc_run]
  unfold recordPreviousVersion
  rcases first with ⟨record, changeable⟩ | ⟨record, changeable⟩
  · rw [record, if_neg (by simp)]
    apply breaks_after (KeepsVersions.refl t) (possible_pure () t)
    exact changeable_breaks (by simp) above changeable fun t' => stubs_fail installerVersion t'
  · rw [record, if_pos rfl]
    apply changeable_breaks (by simp) above changeable
    intro t'
    obtain ⟨e, failed⟩ := writeVersionFile_fails (activeVersionPath manifest.component)
      manifest.version t'
    exact ⟨e, possible_bind_error failed⟩

/-- An installer is found for the package. -/
def InstallerFound (host : Host) (t : Tree) (component minInstallerVersion : String) : Prop :=
  component = "installer" ∨ ∃ version actual minimum, Active host t "installer" version ∧
    parseSemver3 version = some actual ∧ parseSemver3 minInstallerVersion = some minimum ∧
    ¬ actual < minimum

/-- The apply of the manifest gets as far as the version files: the installer is found, the
    release is there and sound or can be staged and moved into place, and the version file
    that is written first can be changed. -/
structure ApplySwitches (host : Host) (t : Tree) (package : PackageDirectory)
    (manifest : Manifest) : Prop where
  installer : InstallerFound host t manifest.component manifest.minInstallerVersion
  release :
    (t.exists? (releaseDir manifest.component manifest.version) = true ∧
      ∃ installed, Release host t manifest.component
        (releaseDir manifest.component manifest.version) installed) ∨
    (t.exists? (releaseDir manifest.component manifest.version) = false ∧
      ∃ placed, Succeeds (placeRelease host package manifest) t () placed)
  file : Changeable t manifest.component "active-version" ∨
    (∃ active, Active host t manifest.component active ∧ active ≠ manifest.version) ∧
      Changeable t manifest.component "previous-version"

theorem Changeable.of_nodes {t' : Tree} {n : String}
    (changeable : Changeable t component n)
    (same : ∀ q, t'.node (varRoot component ++ q) = t.node (varRoot component ++ q))
    (room : t'.fits = t.fits) : Changeable t' component n := by
  have var := same []
  rw [List.append_nil] at var
  refine ⟨?_, ?_, ?_, ?_⟩
  · rw [var, room]
    exact changeable.var
  · rw [same, room, Tree.regular_of_node_eq (same _)]
    exact changeable.temp
  · rw [filled_of_nodes (t := t) fun q => by rw [List.append_assoc, same, ← List.append_assoc]]
    exact changeable.file
  · rw [same, room]
    exact changeable.room

theorem stageFile_straight (package : PackageDirectory) (dir : Path) (file : ManifestFile) :
    Straight (stageFile host package dir file) := by
  apply straight_bind (straight_query _)
  intro found
  cases found with
  | symlink => exact straight_fail _
  | missing => exact straight_fail _
  | regular content executable =>
    simp only
    split
    · exact straight_fail _
    · split
      · exact straight_fail _
      · apply straight_bind (straight_statement _)
        intro _
        exact straight_bind (straight_statement _) fun _ => straight_statement _

theorem stageFiles_straight (package : PackageDirectory) (dir : Path)
    (files : List ManifestFile) : Straight (stageFiles host package dir files) := by
  induction files with
  | nil => exact straight_pure ()
  | cons file rest ih => exact straight_bind (stageFile_straight package dir file) fun _ => ih

theorem stageRelease_straight (package : PackageDirectory) (dir : Path) (manifest : Manifest) :
    Straight (stageRelease host package dir manifest) := by
  apply straight_bind (straight_statement _)
  intro _
  apply straight_bind (straight_statement _)
  intro _
  apply straight_bind (stageFiles_straight package dir manifest.files)
  intro _
  apply straight_bind (straight_statement _)
  intro _
  exact straight_bind (straight_ofExcept _) fun _ => straight_statement _

theorem checkStagedLauncher_straight (manifest : Manifest) :
    Straight (checkStagedLauncher host manifest) := by
  unfold checkStagedLauncher
  split
  · apply straight_bind (straight_query _)
    intro found
    cases found with
    | some message => exact straight_fail _
    | none => exact straight_pure ()
  · exact straight_pure ()

/-- Nothing is caught on the way to the release's place. -/
theorem placeRelease_straight (package : PackageDirectory) (manifest : Manifest) :
    Straight (placeRelease host package manifest) := by
  apply straight_bind (stageRelease_straight package _ manifest)
  intro _
  apply straight_bind (checkStagedLauncher_straight manifest)
  intro _
  exact straight_bind (straight_statement _) fun _ => straight_statement _

/-- What an inspection has found decides which file is first; both are among those that the
    root allows. -/
theorem stays_inspected (stays : ¬ ApplySwitches host t package manifest)
    (installer : InstallerFound host t manifest.component manifest.minInstallerVersion)
    (release : (t.exists? (releaseDir manifest.component manifest.version) = true ∧
        ∃ installed, Release host t manifest.component
          (releaseDir manifest.component manifest.version) installed) ∨
      (t.exists? (releaseDir manifest.component manifest.version) = false ∧
        ∃ placed, Succeeds (placeRelease host package manifest) t () placed))
    (sound : info.state = .healthy → Active host t manifest.component info.version) :
    ¬ FirstChangeable t manifest.component manifest.version info := by
  rintro (⟨-, changeable⟩ | ⟨record, changeable⟩)
  · exact stays ⟨installer, release, .inl changeable⟩
  · obtain ⟨healthy, other⟩ : info.state = .healthy ∧ info.version ≠ manifest.version := by
      simpa [shouldRecordPreviousVersion] using record
    exact stays ⟨installer, release, .inr ⟨⟨info.version, sound healthy, other⟩, changeable⟩⟩

theorem installRelease_keeps {installerVersion : String} {s s' : Session Tree}
    {answer : Except Failure Unit}
    (stays : (∃ placed, Succeeds (placeRelease host package manifest) s.state () placed) →
      ¬ FirstChangeable s.state manifest.component manifest.version info)
    (ran : installRelease host package manifest info installerVersion s = (answer, s')) :
    KeepsVersions s.state s'.state := by
  have body : ∀ {answer middle}, (placeRelease host package manifest >>= fun _ =>
      activate host manifest info installerVersion) s = (answer, middle) →
      KeepsVersions s.state middle.state := by
    intro answer middle ran
    rcases bind_cases ran with ⟨e, failed⟩ | ⟨u, placed, place, activation⟩
    · exact keepsVersions_of_frame (placeRelease_frame package manifest _ _ _ failed)
        fun _ _ => var_not_place
    · have agree := placeRelease_frame package manifest _ _ _ place
      refine (keepsVersions_of_frame agree fun _ _ => var_not_place).trans
        (activate_keeps ?_ activation)
      have same : ∀ q, s.state.node (varRoot manifest.component ++ q) =
          placed.state.node (varRoot manifest.component ++ q) :=
        fun q => (agree.nodes _ var_not_place).symm
      rintro (⟨record, changeable⟩ | ⟨record, changeable⟩)
      · exact stays ⟨_, placeRelease_straight package manifest _ _ _ place⟩
          (.inl ⟨record, changeable.of_nodes same agree.room.symm⟩)
      · exact stays ⟨_, placeRelease_straight package manifest _ _ _ place⟩
          (.inr ⟨record, changeable.of_nodes same agree.room.symm⟩)
  unfold installRelease at ran
  cases tried : (placeRelease host package manifest >>= fun _ =>
      activate host manifest info installerVersion) s with
  | mk result middle =>
    cases result with
    | ok u =>
      rw [rescue_of_ok tried] at ran
      cases ran
      exact body tried
    | error e =>
      rw [rescue_of_error tried] at ran
      have cleanup : Evolves (AgreeBut (Near (stagingRoot manifest.component)))
          (recover (operation (·.removeAll (stagingDir manifest))) (fun _ => ()) >>= fun _ =>
            (fail e : Work Unit)) := by
        apply frame_bind
        · refine evolves_recover (frame_mono (operation_frame fun _ _ => agree_removeAll) ?_)
          exact fun q below => .inr ((List.prefix_append _ _).trans below)
        · exact fun _ => frame_fail e
      exact (body tried).trans (keepsVersions_of_frame (cleanup _ _ _ ran)
        fun _ _ => far (.inr (by decide)))

theorem applyManifest_keeps : KeepsUnless (ApplySwitches host · package manifest)
    (applyManifest host package manifest) := by
  intro s answer s' ran stays
  rcases bind_cases ran with ⟨e, failed⟩ | ⟨info, inspected, inspect, rest⟩
  · rw [(inspectActiveRelease_reads _ s _ s' failed).1]
    exact KeepsVersions.refl s.state
  obtain ⟨same_inspected, sound⟩ := inspectActiveRelease_reads _ s _ inspected inspect
  rcases bind_cases rest with ⟨e, failed⟩ | ⟨installerVersion, resolved, resolve, rest⟩
  · rw [(resolveInstallerVersion_reads _ _ _ inspected _ s' failed).1, same_inspected]
    exact KeepsVersions.refl s.state
  obtain ⟨same_resolved, installer⟩ := resolveInstallerVersion_reads _ _ _ inspected _ resolved
    resolve
  have found : InstallerFound host s.state manifest.component manifest.minInstallerVersion := by
    rcases installer _ rfl with ⟨is_installer, -⟩ | ⟨-, active, actual, minimum, actual_eq,
      minimum_eq, enough⟩
    · exact .inl is_installer
    · rw [same_inspected] at active
      exact .inr ⟨installerVersion, actual, minimum, active, actual_eq, minimum_eq, enough⟩
  rcases bind_cases rest with ⟨e, failed⟩ | ⟨there, asked, ask, rest⟩
  · rw [(reads_query _ resolved _ s' failed).1, same_resolved, same_inspected]
    exact KeepsVersions.refl s.state
  obtain ⟨there_eq, same_asked⟩ := query_ok ask
  have same : asked.state = s.state := same_asked.trans (same_resolved.trans same_inspected)
  rw [same_resolved.trans same_inspected] at there_eq
  have healthy := (sound info rfl).1
  cases there with
  | true =>
    rcases bind_cases rest with ⟨e, failed⟩ | ⟨validation, validated, validate, rest⟩
    · rw [(validateReleaseDirectory_reads _ _ asked _ s' failed).1, same]
      exact KeepsVersions.refl s.state
    obtain ⟨same_validated, valid⟩ := validateReleaseDirectory_reads _ _ asked _ validated validate
    split at rest
    · cases rest
      rw [same_validated, same]
      exact KeepsVersions.refl s.state
    · rename_i is_valid
      obtain ⟨release, -⟩ := valid validation rfl (by simpa using is_valid)
      rw [same] at release
      have final : s'.state = (activate host manifest info installerVersion validated).2.state := by
        rw [← discard_state _ (⟨true, manifest.component, manifest.version,
          "release already installed"⟩ : ApplyResult), rest]
      rw [final, ← same, ← same_validated]
      refine activate_keeps ?_ (show activate host manifest info installerVersion validated =
        (_, _) from rfl)
      rw [same_validated, same]
      exact stays_inspected stays found (.inl ⟨there_eq.symm, release⟩) healthy
  | false =>
    rw [if_neg (by simp)] at rest
    have final : s'.state = (installRelease host package manifest info installerVersion
        asked).2.state := by
      rw [← discard_state _ (⟨true, manifest.component, manifest.version, "applied"⟩ :
        ApplyResult), rest]
    rw [final, ← same]
    refine installRelease_keeps ?_ (show installRelease host package manifest info
      installerVersion asked = (_, _) from rfl)
    rw [same]
    exact fun placed => stays_inspected stays found (.inr ⟨there_eq.symm, placed⟩) healthy

/-- Some inspection leads to a version file that can be changed: the true one, or one that
    cannot read the active version. -/
theorem inspection_chooses {next : String} (file : Changeable t component "active-version" ∨
      (∃ active, Active host t component active ∧ active ≠ next) ∧
        Changeable t component "previous-version") :
    ∃ info, Possible (inspectActiveRelease host component) t (.ok info) t ∧
      FirstChangeable t component next info := by
  rcases file with changeable | ⟨⟨active, is_active, other⟩, changeable⟩
  · cases there : t.exists? (activeVersionPath component) with
    | false =>
      exact ⟨_, (inspectActiveRelease_fair component).possible (inspectActiveRelease_missing there),
        .inl ⟨rfl, changeable⟩⟩
    | true =>
      refine ⟨⟨.corrupt, "", what Fault.error.failure⟩, ?_, .inl ⟨rfl, changeable⟩⟩
      apply possible_bind ((fair_query _).possible (succeeds_query _ t))
      rw [there]
      apply possible_bind (possible_recover_error (possible_bind_error (possible_fault _ t)))
      exact possible_pure _ t
  · refine ⟨_, (inspectActiveRelease_fair component).possible
      (inspectActiveRelease_healthy is_active), .inr ⟨?_, changeable⟩⟩
    simp [shouldRecordPreviousVersion, other]

theorem resolve_possible {version minInstallerVersion : String}
    (found : InstallerFound host t component minInstallerVersion) :
    ∃ resolved, Possible (resolveInstallerVersionForPackage host component version
      minInstallerVersion) t (.ok resolved) t := by
  by_cases installer : component = "installer"
  · refine ⟨version, ?_⟩
    unfold resolveInstallerVersionForPackage
    rw [if_pos installer]
    exact possible_pure version t
  · rcases found with is_installer | ⟨active, actual, minimum, is_active, actual_eq, minimum_eq,
      enough⟩
    · exact absurd is_installer installer
    · exact ⟨active, (resolveInstallerVersion_fair _ _ _).possible
        (resolveInstallerVersion_active installer is_active actual_eq minimum_eq enough)⟩

theorem installRelease_breaks (installerVersion : String) {placed : Tree}
    (place : Succeeds (placeRelease host package manifest) t () placed)
    (first : FirstChangeable t manifest.component manifest.version info) :
    Breaks (installRelease host package manifest info installerVersion) t := by
  have agree := placeRelease_frame package manifest _ _ _ place
  have same : ∀ q, placed.node (varRoot manifest.component ++ q) =
      t.node (varRoot manifest.component ++ q) := fun q => agree.nodes _ var_not_place
  have above : placed.node [manifest.component] = some .directory := by
    obtain ⟨text, -, there⟩ := (placeRelease_ok place).1.text
    apply placed.closed [manifest.component]
      ["releases", manifest.version, "META", "manifest.json"] (by simp)
    rw [show placed.node ([manifest.component] ++
      ["releases", manifest.version, "META", "manifest.json"]) = _ from Tree.regular_iff.mp there]
    simp
  have first' : FirstChangeable placed manifest.component manifest.version info := by
    rcases first with ⟨record, changeable⟩ | ⟨record, changeable⟩
    · exact .inl ⟨record, changeable.of_nodes same agree.room⟩
    · exact .inr ⟨record, changeable.of_nodes same agree.room⟩
  obtain ⟨e, t', failed, changed⟩ := @activate_breaks host _ _ _ installerVersion above first'
  refine ⟨e, t', possible_rescue (possible_bind ((placeRelease_fair package manifest).possible
    place) failed) ?_, fun kept => changed ?_⟩
  · -- the clean-up fails too, and changes nothing
    exact possible_bind (possible_recover_error (possible_fault _ t')) ⟨[], fun _ => rfl⟩
  · exact (keepsVersions_of_frame agree fun _ _ => var_not_place).symm.trans kept

theorem applyManifest_breaks (switches : ApplySwitches host t package manifest) :
    Breaks (applyManifest host package manifest) t := by
  obtain ⟨installer, release, file⟩ := switches
  obtain ⟨info, inspect, first⟩ := inspection_chooses file
  obtain ⟨installerVersion, resolve⟩ := @resolve_possible host t _ manifest.version _ installer
  apply breaks_after (KeepsVersions.refl t) inspect
  apply breaks_after (KeepsVersions.refl t) resolve
  apply breaks_after (KeepsVersions.refl t) ((fair_query _).possible (succeeds_query _ t))
  rcases release with ⟨there, installed, release⟩ | ⟨absent, placed, place⟩
  · rw [there, if_pos rfl]
    apply breaks_after (KeepsVersions.refl t) ((validateReleaseDirectory_fair _ _).possible
      (validateReleaseDirectory_succeeds release))
    exact breaks_first (activate_breaks installerVersion release.above first)
  · rw [absent, if_neg (by simp)]
    exact breaks_first (installRelease_breaks installerVersion place first)

end Apply

/-! Whole calls -/

/-- The call, and whether it answers that all is well. -/
def Call.perform (host : Host) : Call → Work Bool
  | .apply path => applyPackage host path >>= fun result => pure result.ok
  | .rollback component => rollbackComponent host component >>= fun result => pure result.ok

/-- The call gets as far as the version files. -/
def Call.Switches (host : Host) (t : Tree) : Call → Prop
  | .apply path => ∃ package manifest, path.opened = some package ∧
    Loaded host package manifest ∧ ApplySwitches host t package manifest
  | .rollback component => RollbackSwitches host t component

theorem applyPackageDirectory_keeps {package : PackageDirectory} :
    KeepsUnless (fun t => ∃ manifest, Loaded host package manifest ∧
      ApplySwitches host t package manifest) (applyPackageDirectory host (some package)) := by
  apply evolves_recover
  apply keepsUnless_after (reads_query _)
  rintro found ⟨t, rfl⟩
  apply keepsUnless_after (loadPackageManifest_reads package)
  rintro manifest ⟨t, loaded⟩
  exact keepsUnless_mono applyManifest_keeps fun _ switches => ⟨manifest, loaded, switches⟩

theorem applyPackage_keeps {path : PackagePath} :
    KeepsUnless (fun t => (Call.apply path).Switches host t) (applyPackage host path) := by
  have opened : ∀ package, path.opened = some package →
      KeepsUnless (fun t => (Call.apply path).Switches host t)
        (applyPackageDirectory host (some package)) := fun package leads =>
    keepsUnless_mono applyPackageDirectory_keeps fun _ ⟨manifest, loaded, switches⟩ =>
      ⟨package, manifest, leads, loaded, switches⟩
  apply keepsUnless_after (reads_query _)
  rintro found ⟨t, rfl⟩
  cases found with
  | directory package => exact opened package rfl
  | archive extracted =>
    apply evolves_recover
    cases extracted with
    | error message =>
      change KeepsUnless _ (fail (.error message) : Work ApplyResult)
      exact keepsUnless_fail _ _
    | ok package => exact opened package rfl
  | other => exact keepsUnless_pure _ _

theorem applyPackage_breaks {path : PackagePath} (switches : (Call.apply path).Switches host t) :
    ∃ result t', Possible (applyPackage host path) t (.ok result) t' ∧
      result.ok = false ∧ ¬ KeepsVersions t t' := by
  obtain ⟨package, manifest, opened, loaded, switches⟩ := switches
  obtain ⟨e, t', failed, changed⟩ := applyManifest_breaks switches
  have directory : Possible (applyPackageDirectory host (some package)) t
      (.ok ⟨false, "", "", what e⟩) t' := by
    apply possible_recover_error
    apply possible_bind ((fair_query _).possible (succeeds_query _ t))
    exact possible_bind ((fair_statement _).possible (loadPackageManifest_succeeds loaded)) failed
  refine ⟨⟨false, "", "", what e⟩, t', ?_, rfl, changed⟩
  apply possible_bind ((fair_query _).possible (succeeds_query _ t))
  cases path with
  | directory found =>
    cases opened
    exact directory
  | archive extracted =>
    cases extracted with
    | error message => cases opened
    | ok found =>
      cases opened
      exact possible_recover_ok directory
  | other => cases opened

theorem perform_keeps {call : Call} (stays : ¬ call.Switches host t)
    (faults : List (Option Fault)) :
    KeepsVersions t (call.perform host ⟨t, faults⟩).2.state := by
  cases call with
  | apply path =>
    unfold Call.perform
    rw [answer_state]
    exact applyPackage_keeps ⟨t, faults⟩ _ _ rfl stays
  | rollback component =>
    unfold Call.perform
    rw [answer_state]
    exact rollbackComponent_keeps ⟨t, faults⟩ _ _ rfl stays

end Failures

/-- Two agents and no installer. -/
def agentsRoot : Tree := sampleRoot (agentFiles ++
  [(manifestPath (releaseDir "agent" "2.1.0"), "agent 2.1.0", false),
   (previousVersionPath "agent", "2.1.0\n", false)])

end Installer
