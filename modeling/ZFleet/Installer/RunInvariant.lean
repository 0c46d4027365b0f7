import ZFleet.Foundations.Runs
import ZFleet.Installer.VersionFiles

/-!
Runs of applies and rollbacks from an empty root, in which a file operation fails only for
what it is asked to do. The version files of a component name sound releases all along.
-/
namespace Installer
open FileTrees Transactions Package

/-- The files of a component's `var` directory are no directories and no links. -/
structure Layout (t : Tree) (component : String) : Prop where
  var : t.node (varRoot component) = none ∨ t.node (varRoot component) = some .directory
  files : ∀ n, t.node (varRoot component ++ [n]) = none ∨
    (t.regular (varRoot component ++ [n])).isSome = true

/-- The paths of the installer's own files are not too long. -/
def Room (fits : Path → Bool) : Prop :=
  ∀ component, isKnownComponent component = true → fits (varRoot component) = true ∧
    ∀ n ∈ ["active-version", "active-version.tmp", "previous-version", "previous-version.tmp"],
      fits (varRoot component ++ [n]) = true

/-- The version file has the text of the version. -/
def VersionFile (host : Host) (t : Tree) (path : Path) (version : String) : Prop :=
  contentAt host t path = .ok (version ++ "\n") ∧ isSafePathSegment version = true

/-! The invariant of a component -/

/-- The version files of the component name sound releases, and different ones. -/
structure Sound (host : Host) (t : Tree) (component : String) : Prop where
  layout : Layout t component
  versions :
    (t.node (activeVersionPath component) = none ∧
      t.node (previousVersionPath component) = none) ∨
    ∃ active, VersionFile host t (activeVersionPath component) active ∧
      (∃ manifest, Release host t component (releaseDir component active) manifest) ∧
      (t.node (previousVersionPath component) = none ∨
        ∃ previous, previous ≠ active ∧
          VersionFile host t (previousVersionPath component) previous ∧
          ∃ manifest, Release host t component (releaseDir component previous) manifest)

/-- What an inspection of a sound component has found. -/
def Inspected (host : Host) (t : Tree) (component : String) (info : ActiveReleaseInfo) : Prop :=
  (info.state = .missing ∧ t.node (activeVersionPath component) = none ∧
    t.node (previousVersionPath component) = none) ∨
  (info.state = .healthy ∧ VersionFile host t (activeVersionPath component) info.version ∧
    ∃ manifest, Release host t component (releaseDir component info.version) manifest)

section Sound
variable {host : Host} {t t' : Tree} {component : String}

theorem VersionFile.is_active {version : String}
    (file : VersionFile host t (activeVersionPath component) version)
    (release : ∃ manifest, Release host t component (releaseDir component version) manifest) :
    Active host t component version :=
  ⟨⟨_, file.1, trimmed_line file.2⟩, isSafeVersionString_of_segment file.2, release⟩

theorem VersionFile.of_nodes {path : Path} {version : String} (file : VersionFile host t path version)
    (same : t'.node path = t.node path) : VersionFile host t' path version :=
  ⟨by rw [contentAt_of_nodes same, file.1], file.2⟩

theorem VersionFile.node_ne {path : Path} {version : String} (file : VersionFile host t path version) :
    t.node path ≠ none := by
  obtain ⟨executable, regular⟩ := contentAt_ok.mp file.1
  rw [Tree.regular_iff.mp regular]
  simp

theorem Sound.inspect (sound : Sound host t component) :
    ∃ info, Succeeds (inspectActiveRelease host component) t info t ∧
      Inspected host t component info := by
  rcases sound.versions with ⟨no_active, no_previous⟩ | ⟨active, file, release, -⟩
  · have missing : t.exists? (activeVersionPath component) = false := by
      rw [Tree.exists?, no_active]
    exact ⟨_, inspectActiveRelease_missing missing, .inl ⟨rfl, no_active, no_previous⟩⟩
  · exact ⟨_, inspectActiveRelease_healthy (file.is_active release), .inr ⟨rfl, file, release⟩⟩

theorem Release.directory {dir : Path} {manifest : Manifest}
    (release : Release host t component dir manifest) : t.node dir = some .directory := by
  obtain ⟨text, found, -⟩ := manifestAt_content release.loaded
  obtain ⟨executable, regular⟩ := contentAt_ok.mp found
  have there : t.node (dir ++ ["META", "manifest.json"]) = some (.file text executable) :=
    Tree.regular_iff.mp regular
  exact t.closed dir ["META", "manifest.json"] (by simp) (by rw [there]; simp)

theorem Release.above {version : String} {manifest : Manifest}
    (release : Release host t component (releaseDir component version) manifest) :
    t.node [component] = some .directory := by
  have there : t.node ([component] ++ ["releases", version]) = some .directory := release.directory
  exact t.closed [component] ["releases", version] (by simp) (by rw [there]; simp)

/-- Soundness looks at the `var` directory and at releases that are there. -/
theorem Sound.of_nodes (sound : Sound host t component)
    (var : ∀ q, t'.node (varRoot component ++ q) = t.node (varRoot component ++ q))
    (releases : ∀ version, t.node (releaseDir component version) = some .directory →
      ∀ q, t'.node (releaseDir component version ++ q) =
        t.node (releaseDir component version ++ q)) : Sound host t' component := by
  have var_root : t'.node (varRoot component) = t.node (varRoot component) := by
    have same := var []
    rw [List.append_nil] at same
    exact same
  have kept : ∀ version manifest, Release host t component (releaseDir component version) manifest →
      Release host t' component (releaseDir component version) manifest :=
    fun version manifest release => release.of_nodes (releases version release.directory)
  refine ⟨⟨by rw [var_root]; exact sound.layout.var, fun n => ?_⟩, ?_⟩
  · rw [var [n], Tree.regular_of_node_eq (var [n])]
    exact sound.layout.files n
  · rcases sound.versions with ⟨no_active, no_previous⟩ | ⟨active, file, ⟨manifest, release⟩, rest⟩
    · left
      exact ⟨(var ["active-version"]).trans no_active,
        (var ["previous-version"]).trans no_previous⟩
    · right
      refine ⟨active, file.of_nodes (var ["active-version"]), ⟨manifest, kept _ _ release⟩, ?_⟩
      rcases rest with no_previous | ⟨previous, other, file', manifest', release'⟩
      · exact .inl ((var ["previous-version"]).trans no_previous)
      · exact .inr ⟨previous, other, file'.of_nodes (var ["previous-version"]), manifest',
          kept _ _ release'⟩

/-- A frame that leaves the component's version files and all its releases. -/
theorem Sound.of_frame {touched : Path → Prop} (sound : Sound host t component)
    (agree : AgreeBut touched t t') (no_var : ∀ q, ¬ touched (varRoot component ++ q))
    (no_release : ∀ version q, ¬ touched (releaseDir component version ++ q)) :
    Sound host t' component :=
  sound.of_nodes (fun q => agree.nodes _ (no_var q))
    fun version _ q => agree.nodes _ (no_release version q)

theorem Sound.after_stubs (sound : Sound host t component) (agree : AgreeBut NearStub t t') :
    Sound host t' component :=
  sound.of_frame agree (fun _ => var_not_stub) fun _ _ => release_not_stub

theorem layout_after_write {n : String} {content : String × Bool}
    (layout : Layout t component)
    (file : t'.regular (varRoot component ++ [n]) = some content)
    (temp : t'.node (varRoot component ++ [n ++ ".tmp"]) = none)
    (others : ∀ m, m ≠ n → m ≠ n ++ ".tmp" →
      t'.node (varRoot component ++ [m]) = t.node (varRoot component ++ [m])) :
    Layout t' component := by
  have there : t'.node (varRoot component ++ [n]) ≠ none := by
    rw [Tree.regular_iff.mp (show t'.regular _ = some (content.1, content.2) from file)]
    simp
  refine ⟨.inr (t'.closed (varRoot component) [n] (by simp) there), fun m => ?_⟩
  by_cases is_file : m = n
  · right
    rw [is_file, file]
    rfl
  · by_cases is_temp : m = n ++ ".tmp"
    · left
      rw [is_temp, temp]
    · rw [others m is_file is_temp, Tree.regular_of_node_eq (others m is_file is_temp)]
      exact layout.files m

theorem Layout.no_directory (layout : Layout t component) (n : String) :
    t.isDirectory (varRoot component ++ [n]) = false := by
  rcases layout.files n with absent | regular
  · simp [Tree.isDirectory, absent]
  · obtain ⟨content, there⟩ := Option.isSome_iff_exists.mp regular
    have node : t.node (varRoot component ++ [n]) = some (.file content.1 content.2) :=
      Tree.regular_iff.mp there
    simp [Tree.isDirectory, node]

/-- Where the layout is kept and there is room, a version file can be written. -/
theorem Layout.writable {n : String} (layout : Layout t component)
    (above : t.node [component] = some .directory) (room : t.fits (varRoot component) = true)
    (room_file : t.fits (varRoot component ++ [n]) = true)
    (room_temp : t.fits (varRoot component ++ [n ++ ".tmp"]) = true) :
    Writable t component n := by
  refine ⟨above, ⟨?_, ?_, ?_, .inr room_file⟩, layout.no_directory n, room_file⟩
  · rcases layout.var with absent | directory
    · exact .inr ⟨absent, room⟩
    · exact .inl directory
  · rcases layout.files (n ++ ".tmp") with absent | regular
    · exact .inl ⟨absent, room_temp⟩
    · exact .inr regular
  · rw [layout.no_directory n]
    simp

/-- A write to the version file of a component with room for it. -/
structure Written (host : Host) (t t' : Tree) (component n version : String) : Prop where
  layout : Layout t' component
  file : VersionFile host t' (varRoot component ++ [n]) version
  others : ∀ m, m ≠ n → m ≠ n ++ ".tmp" →
    t'.node (varRoot component ++ [m]) = t.node (varRoot component ++ [m])
  agree : AgreeBut (Near (varRoot component)) t t'
  above : t'.node [component] = some .directory

theorem write_succeeds {n version : String} (above : t.node [component] = some .directory)
    (layout : Layout t component) (known : isKnownComponent component = true) (room : Room t.fits)
    (which : n = "active-version" ∨ n = "previous-version")
    (safe : isSafePathSegment version = true) :
    ∃ t', Succeeds (writeVersionFile (varRoot component ++ [n]) version) t () t' ∧
      Written host t t' component n version := by
  obtain ⟨room_var, room_files⟩ := room component known
  have room_file : t.fits (varRoot component ++ [n]) = true := by
    apply room_files
    rcases which with rfl | rfl <;> simp
  have room_temp : t.fits (varRoot component ++ [n ++ ".tmp"]) = true := by
    apply room_files
    rcases which with rfl | rfl <;> decide
  obtain ⟨t', ran, ⟨executable, file⟩, temp, others, -⟩ := @writeVersionFile_succeeds t component n
    version (layout.writable above room_var room_file room_temp)
  have agree := writeVersionFile_frame (varRoot component ++ [n]) version _ _ _ ran
  rw [List.dropLast_concat] at agree
  have layout' := layout_after_write layout file temp others
  refine ⟨t', ran, layout', ⟨contentAt_ok.mpr ⟨executable, file⟩, safe⟩, others, agree, ?_⟩
  refine t'.closed [component] ["var", n] (by simp) ?_
  rw [show t'.node ([component] ++ ["var", n]) = _ from Tree.regular_iff.mp file]
  simp

theorem Release.after_var {version : String} {manifest : Manifest}
    (release : Release host t component (releaseDir component version) manifest)
    (agree : AgreeBut (Near (varRoot component)) t t') :
    Release host t' component (releaseDir component version) manifest :=
  release.of_nodes fun _ => agree.nodes _ release_not_var

/-- The switch to a sound release goes through. -/
theorem switch_sound {info : ActiveReleaseInfo} {next : String} (sound : Sound host t component)
    (known : isKnownComponent component = true) (room : Room t.fits)
    (inspected : Inspected host t component info) (safe : isSafePathSegment next = true)
    (release : ∃ manifest, Release host t component (releaseDir component next) manifest) :
    ∃ t', Succeeds (switchActiveVersion component info next) t () t' ∧ Sound host t' component := by
  obtain ⟨manifest, release⟩ := release
  have names : "previous-version" ≠ "active-version" ∧
      "previous-version" ≠ "active-version" ++ ".tmp" ∧
      "active-version" ≠ "previous-version" ∧
      "active-version" ≠ "previous-version" ++ ".tmp" := by decide
  by_cases record : shouldRecordPreviousVersion info next = true
  · -- the healthy active version becomes the previous one
    obtain ⟨healthy, other⟩ : info.state = .healthy ∧ info.version ≠ next := by
      simpa [shouldRecordPreviousVersion] using record
    obtain ⟨file, active_manifest, active_release⟩ : VersionFile host t
        (activeVersionPath component) info.version ∧
        ∃ manifest, Release host t component (releaseDir component info.version) manifest := by
      rcases inspected with ⟨missing, -⟩ | ⟨-, found⟩
      · rw [healthy] at missing
        cases missing
      · exact found
    obtain ⟨t₁, ran₁, written₁⟩ := @write_succeeds host _ _ _ _ release.above sound.layout known room (.inr rfl)
      file.2
    have room₁ : Room t₁.fits := by
      rw [written₁.agree.room]
      exact room
    obtain ⟨t₂, ran₂, written₂⟩ := @write_succeeds host _ _ _ _ written₁.above written₁.layout known room₁ (.inl rfl)
      safe
    refine ⟨t₂, ?_, written₂.layout, .inr ⟨next, written₂.file,
      ⟨manifest, (release.after_var written₁.agree).after_var written₂.agree⟩, .inr ?_⟩⟩
    · unfold switchActiveVersion recordPreviousVersion
      rw [if_pos record]
      exact succeeds_bind ran₁ ran₂
    · exact ⟨info.version, other,
        written₁.file.of_nodes (written₂.others _ names.1 names.2.1), active_manifest,
        (active_release.after_var written₁.agree).after_var written₂.agree⟩
  · obtain ⟨t₁, ran₁, written₁⟩ := @write_succeeds host _ _ _ _ release.above sound.layout known room (.inl rfl)
      safe
    have previous_kept := written₁.others _ names.1 names.2.1
    refine ⟨t₁, ?_, written₁.layout, .inr ⟨next, written₁.file,
      ⟨manifest, release.after_var written₁.agree⟩, ?_⟩⟩
    · unfold switchActiveVersion recordPreviousVersion
      rw [if_neg record]
      exact succeeds_bind (succeeds_pure () t) ran₁
    · rcases inspected with ⟨-, -, no_previous⟩ | ⟨healthy, file, -⟩
      · exact .inl (previous_kept.trans no_previous)
      · have same : info.version = next := by
          by_contra other
          exact record (by simp [shouldRecordPreviousVersion, healthy, other])
        rcases sound.versions with ⟨no_active, -⟩ | ⟨active, file', -, rest⟩
        · exact absurd no_active file.node_ne
        · have active_eq : active = next := by
            have texts := file.1
            rw [file'.1] at texts
            rw [← same]
            exact String.append_left_inj "\n" |>.mp (Except.ok.inj texts)
          rw [active_eq] at rest
          rcases rest with no_previous | ⟨previous, other, file'', manifest'', release''⟩
          · exact .inl (previous_kept.trans no_previous)
          · exact .inr ⟨previous, other, file''.of_nodes previous_kept, manifest'',
              release''.after_var written₁.agree⟩

/-! An apply keeps its component sound -/

section Apply
variable {package : PackageDirectory} {manifest : Manifest} {info : ActiveReleaseInfo}

theorem activate_sound {installerVersion : String} (sound : Sound host t manifest.component)
    (checked : CheckedManifest manifest) (room : Room t.fits)
    (inspected : Inspected host t manifest.component info)
    (release : ∃ installed, Release host t manifest.component
      (releaseDir manifest.component manifest.version) installed) :
    Sound host (activate host manifest info installerVersion ⟨t, []⟩).2.state
      manifest.component := by
  obtain ⟨switched, ran, sound'⟩ := switch_sound sound checked.component room inspected
    checked.version release
  unfold activate
  rw [succeeds_then ran]
  exact sound'.after_stubs (ensureLauncherStubs_frame installerVersion _ ⟨switched, []⟩ _ _ rfl)

/-- Placing a release that is not there leaves the sound releases. -/
theorem Sound.after_place (sound : Sound host t manifest.component)
    (absent : t.exists? (releaseDir manifest.component manifest.version) = false)
    (agree : AgreeBut (NearPlace manifest) t t') : Sound host t' manifest.component := by
  refine sound.of_nodes (fun q => agree.nodes _ var_not_place) fun version there q => ?_
  apply agree.nodes
  apply release_not_place
  right
  intro same
  rw [← same] at there
  simp [Tree.exists?, there] at absent

theorem Inspected.after_place (inspected : Inspected host t manifest.component info)
    (absent : t.exists? (releaseDir manifest.component manifest.version) = false)
    (agree : AgreeBut (NearPlace manifest) t t') :
    Inspected host t' manifest.component info := by
  have active : t'.node (activeVersionPath manifest.component) = _ := agree.nodes _ var_not_place
  have previous : t'.node (previousVersionPath manifest.component) = _ :=
    agree.nodes _ var_not_place
  rcases inspected with ⟨missing, no_active, no_previous⟩ | ⟨healthy, file, installed, release⟩
  · exact .inl ⟨missing, active.trans no_active, previous.trans no_previous⟩
  · refine .inr ⟨healthy, file.of_nodes active, installed, release.of_nodes fun q => ?_⟩
    apply agree.nodes
    apply release_not_place
    right
    intro same
    have there := release.directory
    rw [← same] at there
    simp [Tree.exists?, there] at absent

theorem placed_release (loaded : Loaded host package manifest) (checked : CheckedManifest manifest)
    (coherent : Coherent manifest.files)
    (staged : Staged host package manifest t (releaseDir manifest.component manifest.version))
    (launcher : manifest.component = "installer" →
      HasLauncher t (releaseDir manifest.component manifest.version)) :
    Release host t manifest.component (releaseDir manifest.component manifest.version)
      manifest := by
  obtain ⟨text, given, parsed⟩ := loaded
  obtain ⟨staged_text, staged_given, there⟩ := staged.text
  rw [given] at staged_given
  cases staged_given
  refine ⟨?_, rfl, (filename_releaseDir _ _).symm, (staged.sound_iff checked.files launcher).mpr
    coherent⟩
  rw [manifestAt_of_content (contentAt_ok.mpr ⟨_, there⟩), parsed]

theorem installRelease_sound {installerVersion : String} (sound : Sound host t manifest.component)
    (loaded : Loaded host package manifest) (checked : CheckedManifest manifest)
    (coherent : Coherent manifest.files) (room : Room t.fits)
    (inspected : Inspected host t manifest.component info)
    (absent : t.exists? (releaseDir manifest.component manifest.version) = false) :
    Sound host (installRelease host package manifest info installerVersion ⟨t, []⟩).2.state
      manifest.component := by
  have body : Sound host ((placeRelease host package manifest >>= fun _ =>
      activate host manifest info installerVersion) ⟨t, []⟩).2.state manifest.component := by
    obtain ⟨answer, placed, quiet⟩ := (@placeRelease_fair host package manifest).quiet t
    have agree := placeRelease_frame package manifest _ _ _ quiet
    cases answer with
    | error e =>
      rw [bind_of_error quiet]
      exact sound.after_place absent agree
    | ok _ =>
      obtain ⟨staged, launcher⟩ := placeRelease_ok quiet
      rw [bind_of_ok quiet]
      have room' : Room placed.fits := by
        rw [show placed.fits = t.fits from agree.room]
        exact room
      exact activate_sound (sound.after_place absent agree) checked room'
        (inspected.after_place absent agree)
        ⟨manifest, placed_release loaded checked coherent staged launcher⟩
  unfold installRelease
  cases ran : (placeRelease host package manifest >>= fun _ =>
      activate host manifest info installerVersion) ⟨t, []⟩ with
  | mk answer final =>
    rw [ran] at body
    cases answer with
    | ok _ =>
      rw [rescue_of_ok ran]
      exact body
    | error e =>
      -- the clean-up touches the staging directory only
      rw [rescue_of_error ran]
      have cleanup : Evolves (AgreeBut (Near (stagingRoot manifest.component)))
          (recover (operation (·.removeAll (stagingDir manifest))) (fun _ => ()) >>= fun _ =>
            (fail e : Work Unit)) := by
        apply frame_bind
        · refine evolves_recover (frame_mono (operation_frame fun _ _ => agree_removeAll) ?_)
          exact fun q below => .inr ((List.prefix_append _ _).trans below)
        · exact fun _ => frame_fail e
      exact body.of_frame (cleanup _ _ _ rfl) (fun _ => far (.inr (by decide)))
        fun _ _ => release_not_staging

theorem applyManifest_sound (sound : Sound host t manifest.component)
    (loaded : Loaded host package manifest) (checked : CheckedManifest manifest)
    (coherent : Coherent manifest.files) (room : Room t.fits) :
    Sound host (applyManifest host package manifest ⟨t, []⟩).2.state manifest.component := by
  obtain ⟨info, inspect, inspected⟩ := sound.inspect
  unfold applyManifest
  rw [succeeds_then inspect]
  obtain ⟨resolved, after_resolve, resolve⟩ := (@resolveInstallerVersion_fair host
    manifest.component manifest.version manifest.minInstallerVersion).quiet t
  obtain rfl : after_resolve = t :=
    (resolveInstallerVersion_reads manifest.component _ _ _ _ _ resolve).1
  cases resolved with
  | error e =>
    rw [bind_of_error resolve]
    exact sound
  | ok installerVersion =>
    rw [bind_of_ok resolve, succeeds_then (succeeds_query _ after_resolve)]
    split
    · obtain ⟨validated, after_validate, validate⟩ := (@validateReleaseDirectory_fair host
        (releaseDir manifest.component manifest.version) manifest.component).quiet after_resolve
      obtain ⟨same, valid⟩ := validateReleaseDirectory_reads _ _ _ _ _ validate
      obtain rfl : after_validate = after_resolve := same
      cases validated with
      | error e =>
        rw [bind_of_error validate]
        exact sound
      | ok validation =>
        rw [bind_of_ok validate]
        split
        · exact sound
        · rename_i is_valid
          rw [discard_state]
          exact activate_sound sound checked room inspected
            (valid validation rfl (by simpa using is_valid)).1
    · rename_i absent
      rw [discard_state]
      exact installRelease_sound sound loaded checked coherent room inspected
        (by simpa using absent)

end Apply

end Sound

end Installer
