import ZFleet.Installer.RunInvariant
import ZFleet.Installer.InstalledFiles

/-!
Applies and rollbacks after one another, from an empty root. Each keeps every component
sound, a rollback that answers that all is well swaps the version files, and no call
touches the version files or the releases of another component.
-/
namespace Installer
open FileTrees Transactions Package

section Calls
variable {host : Host} {t t' : Tree} {component : String}

/-! Where a call may touch -/

theorem component_not_activate {other kind : String} {q : Path} (different : component ≠ other)
    (no_stub : "bin" ≠ kind) : ¬ NearActivate component (other :: kind :: q) := by
  intro near
  rcases near with var | ⟨stub, bin⟩
  · exact far (.inl different) var
  · exact far (.inr no_stub) bin

theorem component_not_apply {manifest : Manifest} {other kind : String} {q : Path}
    (different : manifest.component ≠ other) (no_stub : "bin" ≠ kind) :
    ¬ NearApply manifest (other :: kind :: q) := by
  intro near
  rcases near with place | activate
  · rcases place with staging | release
    · exact far (.inl different) staging
    · exact far (.inl different) (near_mono (List.prefix_append (releasesRoot _) _) release)
  · exact component_not_activate different no_stub activate

/-! Apply -/

theorem Loaded.unique {package : PackageDirectory} {manifest manifest' : Manifest}
    (loaded : Loaded host package manifest) (loaded' : Loaded host package manifest') :
    manifest = manifest' := by
  obtain ⟨text, given, parsed⟩ := loaded
  obtain ⟨text', given', parsed'⟩ := loaded'
  rw [given] at given'
  cases given'
  rw [parsed] at parsed'
  cases parsed'
  rfl

theorem loadPackageManifest_succeeds {package : PackageDirectory} {manifest : Manifest}
    (loaded : Loaded host package manifest) :
    Succeeds (loadPackageManifest host package) t manifest t := by
  obtain ⟨text, given, parsed⟩ := loaded
  apply succeeds_statement
  rw [given]
  change (parsedManifest host text >>= fun manifest => .ok (manifest, t)) = _
  rw [parsed]
  rfl

theorem applyPackageDirectory_state {package : PackageDirectory} {manifest : Manifest}
    (loaded : Loaded host package manifest) :
    (applyPackageDirectory host (some package) ⟨t, []⟩).2 =
      (applyManifest host package manifest ⟨t, []⟩).2 := by
  unfold applyPackageDirectory
  rw [recover_state, succeeds_then (succeeds_query _ t)]
  exact congrArg Prod.snd (succeeds_then (loadPackageManifest_succeeds loaded))

/-- With a manifest that loads the tree is left as the apply of that manifest leaves it. -/
theorem applyPackage_state {path : PackagePath} {package : PackageDirectory} {manifest : Manifest}
    (opened : path.opened = some package) (loaded : Loaded host package manifest) :
    (applyPackage host path ⟨t, []⟩).2 = (applyManifest host package manifest ⟨t, []⟩).2 := by
  unfold applyPackage
  rw [succeeds_then (succeeds_query _ t)]
  cases path with
  | directory found =>
    cases opened
    exact applyPackageDirectory_state loaded
  | archive extracted =>
    cases extracted with
    | error message => cases opened
    | ok found =>
      cases opened
      simp only
      rw [recover_state]
      exact applyPackageDirectory_state loaded
  | other => cases opened

theorem applyPackage_sound {path : PackagePath} (sound : ∀ c, Sound host t c) (room : Room t.fits)
    (free : ∀ package manifest, path.opened = some package → Loaded host package manifest →
      ∀ file ∈ manifest.files, NulFree file.target) (component : String) :
    Sound host (applyPackage host path ⟨t, []⟩).2.state component := by
  have frame := @applyPackage_frame host path ⟨t, []⟩ _ _ rfl
  by_cases concerned : ∃ package manifest, path.opened = some package ∧
      Loaded host package manifest ∧ manifest.component = component
  · obtain ⟨package, manifest, opened, loaded, rfl⟩ := concerned
    obtain ⟨text, given, parsed⟩ := id loaded
    have checked := parsedManifest_checked parsed
    rw [applyPackage_state opened loaded]
    exact applyManifest_sound (sound _) loaded checked
      (coherent_of_nulFree checked.files (free package manifest opened loaded)) room
  · have elsewhere : ∀ kind q, "bin" ≠ kind →
        ¬ TouchedByApply host path (component :: kind :: q) := by
      rintro kind q no_stub ⟨package, manifest, opened, loaded, near⟩
      exact component_not_apply (fun same => concerned ⟨package, manifest, opened, loaded, same⟩)
        no_stub near
    exact (sound component).of_frame frame (fun q => elsewhere "var" q (by decide))
      fun version q => elsewhere "releases" (version :: q) (by decide)

/-! Rollback -/

/-- The active and the previous version have changed places. -/
structure Swapped (host : Host) (t t' : Tree) (component activeVersion previousVersion : String) :
    Prop where
  active_before : VersionFile host t (activeVersionPath component) activeVersion
  previous_before : VersionFile host t (previousVersionPath component) previousVersion
  active : VersionFile host t' (activeVersionPath component) previousVersion
  previous : VersionFile host t' (previousVersionPath component) activeVersion

theorem VersionFile.unique {path : Path} {version version' : String}
    (file : VersionFile host t path version) (file' : VersionFile host t path version') :
    version = version' := by
  have texts := file.1
  rw [file'.1] at texts
  exact (String.append_left_inj "\n" |>.mp (Except.ok.inj texts)).symm

theorem attempt_state {α : Type} (job : Work α) (s : Session Tree) :
    (attempt job s).2 = (job s).2 := by
  unfold attempt
  rw [recover_state, answer_state]

/-- Both version files are written; what follows touches stubs only. -/
theorem switchBack_sound {active previous : String} {manifest manifest' : Manifest}
    (layout : Layout t component) (known : isKnownComponent component = true) (room : Room t.fits)
    (different : active ≠ previous)
    (active_file : VersionFile host t (activeVersionPath component) active)
    (active_release : Release host t component (releaseDir component active) manifest)
    (previous_file : VersionFile host t (previousVersionPath component) previous)
    (previous_release : Release host t component (releaseDir component previous) manifest') :
    Sound host (switchBack host component active previous ⟨t, []⟩).2.state component ∧
      Swapped host t (switchBack host component active previous ⟨t, []⟩).2.state component
        active previous := by
  obtain ⟨t₁, ran₁, written₁⟩ := @write_succeeds host _ _ _ _ active_release.above layout known
    room (.inr rfl) active_file.2
  have room₁ : Room t₁.fits := by
    rw [written₁.agree.room]
    exact room
  obtain ⟨t₂, ran₂, written₂⟩ := @write_succeeds host _ _ _ _ written₁.above written₁.layout
    known room₁ (.inl rfl) previous_file.2
  have switched : VersionFile host t₂ (previousVersionPath component) active :=
    written₁.file.of_nodes (written₂.others _ (by decide) (by decide))
  have sound₂ : Sound host t₂ component :=
    ⟨written₂.layout, .inr ⟨previous, written₂.file,
      ⟨manifest', (previous_release.after_var written₁.agree).after_var written₂.agree⟩,
      .inr ⟨active, different, switched, manifest,
        (active_release.after_var written₁.agree).after_var written₂.agree⟩⟩⟩
  change Succeeds (writeVersionFile (previousVersionPath component) active) t () t₁ at ran₁
  change Succeeds (writeVersionFile (activeVersionPath component) previous) t₁ () t₂ at ran₂
  unfold switchBack
  rw [succeeds_then ran₁, succeeds_then ran₂]
  have rest : Evolves (AgreeBut NearStub)
      (resolveInstallerVersionForPackage host component previous "0.0.0" >>= fun version =>
        ensureLauncherStubs host version (stubComponents component)) := by
    apply frame_bind (frame_reads (resolveInstallerVersion_reads _ _ _))
    exact fun version => ensureLauncherStubs_frame version _
  have agree := rest ⟨t₂, []⟩ _ _ rfl
  exact ⟨sound₂.after_stubs agree, active_file, previous_file,
    written₂.file.of_nodes (agree.nodes _ var_not_stub),
    switched.of_nodes (agree.nodes _ var_not_stub)⟩

theorem rollbackActive_sound {active : String} (sound : Sound host t component)
    (known : isKnownComponent component = true) (room : Room t.fits)
    (active_file : VersionFile host t (activeVersionPath component) active)
    (active_release : ∃ manifest, Release host t component (releaseDir component active) manifest) :
    Sound host (rollbackActive host component active ⟨t, []⟩).2.state component ∧
      ∀ result, (rollbackActive host component active ⟨t, []⟩).1 = .ok result →
        result.ok = true → ∃ previous, Swapped host t
          (rollbackActive host component active ⟨t, []⟩).2.state component active previous := by
  obtain ⟨manifest, active_release⟩ := active_release
  obtain ⟨found, looked, look⟩ := (@findPrevious_fair host component active).quiet t
  obtain ⟨same, checks⟩ := findPrevious_reads component active _ _ _ look
  obtain rfl : looked = t := same
  cases found with
  | error e =>
    have whole : rollbackActive host component active ⟨looked, []⟩ = (.error e, ⟨looked, []⟩) :=
      bind_of_error look
    rw [whole]
    exact ⟨sound, nofun⟩
  | ok found =>
    cases found with
    | error failure =>
      have whole : rollbackActive host component active ⟨looked, []⟩ =
          (.ok failure, ⟨looked, []⟩) := bind_of_ok look
      rw [whole]
      refine ⟨sound, fun result returned ok => ?_⟩
      have failed : failure.ok = false := checks (.error failure) rfl
      obtain rfl : failure = result := Except.ok.inj returned
      rw [failed] at ok
      cases ok
    | ok previous =>
      obtain ⟨different, -, ⟨text, named, trimmed_text⟩, manifest', previous_release⟩ :=
        checks (.ok previous) rfl
      -- the file has the text that this installer writes
      have previous_file : VersionFile host looked (previousVersionPath component) previous := by
        rcases sound.versions with ⟨no_active, -⟩ | ⟨-, -, -, none_there | ⟨version, -, file, -⟩⟩
        · exact absurd no_active active_file.node_ne
        · obtain ⟨executable, regular⟩ := contentAt_ok.mp named
          rw [Tree.regular_iff.mp regular] at none_there
          cases none_there
        · have same_text := named
          rw [file.1] at same_text
          rw [← trimmed_text, ← Except.ok.inj same_text, trimmed_line file.2]
          exact file
      obtain ⟨sound', swapped⟩ := switchBack_sound sound.layout known room different.symm
        active_file active_release previous_file previous_release
      obtain ⟨outcome, final, switch⟩ := (attempt_fair (@switchBack_fair host component active
        previous)).quiet looked
      have final_eq : (switchBack host component active previous ⟨looked, []⟩).2 = ⟨final, []⟩ := by
        rw [← attempt_state, switch]
      rw [final_eq] at sound' swapped
      have whole : ∃ answer, rollbackActive host component active ⟨looked, []⟩ =
          (answer, ⟨final, []⟩) := by
        cases outcome with
        | error e => exact ⟨.error e, (bind_of_ok look).trans (bind_of_error switch)⟩
        | ok switched =>
          cases switched with
          | error message => exact ⟨_, (bind_of_ok look).trans (bind_of_ok switch)⟩
          | ok u => exact ⟨_, (bind_of_ok look).trans (bind_of_ok switch)⟩
      obtain ⟨answer, whole⟩ := whole
      rw [whole]
      exact ⟨sound', fun result _ _ => ⟨previous, swapped⟩⟩

theorem rollbackComponent_own (sound : Sound host t component) (room : Room t.fits) :
    Sound host (rollbackComponent host component ⟨t, []⟩).2.state component ∧
      ∀ result, (rollbackComponent host component ⟨t, []⟩).1 = .ok result → result.ok = true →
        ∃ active previous, Swapped host t (rollbackComponent host component ⟨t, []⟩).2.state
          component active previous := by
  by_cases known : isKnownComponent component = true
  · have valid : Succeeds (validateComponent component) t () t := by
      unfold validateComponent
      rw [if_pos known]
      exact succeeds_pure () t
    obtain ⟨⟨state, version, message⟩, inspect, inspected⟩ := sound.inspect
    rcases inspected with ⟨missing, -⟩ | ⟨healthy, file, release⟩
    · obtain rfl : state = .missing := missing
      have whole : rollbackComponent host component ⟨t, []⟩ = (.ok (makeRollbackFailure component
          "" "" "active release is not installed"), ⟨t, []⟩) :=
        (succeeds_then valid).trans (succeeds_then inspect)
      rw [whole]
      refine ⟨sound, fun result returned ok => ?_⟩
      cases returned
      cases ok
    · obtain rfl : state = .healthy := healthy
      have whole : rollbackComponent host component ⟨t, []⟩ =
          rollbackActive host component version ⟨t, []⟩ :=
        (succeeds_then valid).trans (succeeds_then inspect)
      rw [whole]
      obtain ⟨sound', swapped⟩ := rollbackActive_sound sound known room file release
      exact ⟨sound', fun result returned ok => ⟨version, swapped result returned ok⟩⟩
  · have whole : rollbackComponent host component ⟨t, []⟩ = (.error (.error
        "invalid component: expected agent, server, or installer"), ⟨t, []⟩) := by
      apply bind_of_error
      unfold validateComponent
      rw [if_neg known]
      rfl
    rw [whole]
    exact ⟨sound, nofun⟩

theorem rollbackComponent_sound (sound : ∀ c, Sound host t c) (room : Room t.fits)
    (component other : String) :
    Sound host (rollbackComponent host component ⟨t, []⟩).2.state other := by
  by_cases same : component = other
  · rw [same]
    exact (rollbackComponent_own (sound other) room).1
  · have frame := @rollbackComponent_frame host component ⟨t, []⟩ _ _ rfl
    exact (sound other).of_frame frame
      (fun _ => component_not_activate same (by decide)) fun _ _ => release_not_activate

/-! Runs -/

/-- What is asked of the installer. -/
inductive Call where
  | apply (path : PackagePath)
  | rollback (component : String)

/-- The tree after the call, with every file operation let through. -/
def Call.run (host : Host) (t : Tree) : Call → Tree
  | .apply path => (applyPackage host path ⟨t, []⟩).2.state
  | .rollback component => (rollbackComponent host component ⟨t, []⟩).2.state

/-- No target of the package's manifest has a NUL byte. -/
def Call.NulFree (host : Host) : Call → Prop
  | .apply path => ∀ package manifest, path.opened = some package → Loaded host package manifest →
    ∀ file ∈ manifest.files, Package.NulFree file.target
  | .rollback _ => True

/-- The call is about the component. -/
def Call.Concerns (host : Host) (component : String) : Call → Prop
  | .apply path => ∃ package manifest, path.opened = some package ∧
    Loaded host package manifest ∧ manifest.component = component
  | .rollback named => named = component

theorem Loaded.nulFree {package : PackageDirectory} {manifest : Manifest}
    (loaded : Loaded host package manifest)
    (free : ∀ file ∈ manifest.files, Package.NulFree file.target) :
    Call.NulFree host (.apply (.directory package)) := by
  intro package' manifest' opened loaded' file listed
  cases opened
  rw [← loaded.unique loaded'] at listed
  exact free file listed

theorem Call.run_frame (call : Call) (elsewhere : ¬ call.Concerns host component) {kind : String}
    (no_stub : "bin" ≠ kind) (q : Path) :
    (call.run host t).node (component :: kind :: q) = t.node (component :: kind :: q) := by
  cases call with
  | apply path =>
    apply (@applyPackage_frame host path ⟨t, []⟩ _ _ rfl).nodes
    rintro ⟨package, manifest, opened, loaded, near⟩
    exact component_not_apply (fun same => elsewhere ⟨package, manifest, opened, loaded, same⟩)
      no_stub near
  | rollback named =>
    apply (@rollbackComponent_frame host named ⟨t, []⟩ _ _ rfl).nodes
    exact component_not_activate elsewhere no_stub

theorem Call.run_room (call : Call) : (call.run host t).fits = t.fits := by
  cases call with
  | apply path => exact (@applyPackage_frame host path ⟨t, []⟩ _ _ rfl).room
  | rollback named => exact (@rollbackComponent_frame host named ⟨t, []⟩ _ _ rfl).room

theorem Call.run_sound (call : Call) (sound : ∀ c, Sound host t c) (room : Room t.fits)
    (free : call.NulFree host) (component : String) : Sound host (call.run host t) component := by
  cases call with
  | apply path => exact applyPackage_sound sound room free component
  | rollback named => exact rollbackComponent_sound sound room named component

theorem empty_node {fits : Path → Bool} {p : Path} (below_root : p ≠ []) :
    (Tree.empty fits).node p = none := if_neg below_root

theorem empty_sound (fits : Path → Bool) (component : String) :
    Sound host (Tree.empty fits) component := by
  refine ⟨⟨.inl (empty_node ?_), fun n => .inl (empty_node ?_)⟩,
    .inl ⟨empty_node ?_, empty_node ?_⟩⟩ <;> simp [activeVersionPath, previousVersionPath, varRoot]

/-- Every component stays sound over a run of calls. -/
theorem run_sound {fits : Path → Bool} (room : Room fits) (calls : List Call)
    (free : ∀ call ∈ calls, call.NulFree host) :
    (∀ component, Sound host (Runs.run (Call.run host) (Tree.empty fits) calls) component) ∧
      Room (Runs.run (Call.run host) (Tree.empty fits) calls).fits := by
  apply Runs.run_invariant (fun t => (∀ component, Sound host t component) ∧ Room t.fits)
    fun _ call => call.NulFree host
  · rintro t call ⟨sound, room⟩ free
    refine ⟨call.run_sound sound room free, ?_⟩
    rw [call.run_room]
    exact room
  · intro before call after split
    exact free call (by rw [split]; simp)
  · exact ⟨empty_sound fits, room⟩

/-! What callers see -/

/-- The active version is installed, the previous one is a release of another version. -/
structure VersionsHold (host : Host) (t : Tree) (component : String) : Prop where
  active : t.node (activeVersionPath component) ≠ none → ∃ version,
    Succeeds (readFileTrimmed host (activeVersionPath component)) t version t ∧
    Succeeds (getStatus host component) t ⟨component, "installed", some version, none⟩ t
  previous : t.node (previousVersionPath component) ≠ none → ∃ previous active,
    Succeeds (readFileTrimmed host (previousVersionPath component)) t previous t ∧
    Succeeds (readFileTrimmed host (activeVersionPath component)) t active t ∧
    Succeeds (validateReleaseDirectory host (releaseDir component previous) component) t
      ⟨true, previous, ""⟩ t ∧
    previous ≠ active

theorem Release.known {dir : Path} {manifest : Manifest}
    (release : Release host t component dir manifest) : isKnownComponent component = true := by
  obtain ⟨text, -, parsed⟩ := manifestAt_content release.loaded
  rw [← release.component_eq]
  exact (parsedManifest_checked parsed).component

theorem VersionFile.read {path : Path} {version : String} (file : VersionFile host t path version) :
    Succeeds (readFileTrimmed host path) t version t := by
  have read := readFileTrimmed_succeeds file.1
  rw [trimmed_line file.2] at read
  exact read

theorem Sound.versionsHold (sound : Sound host t component) : VersionsHold host t component := by
  rcases sound.versions with ⟨no_active, no_previous⟩ | ⟨active, file, ⟨manifest, release⟩, rest⟩
  · exact ⟨fun there => absurd no_active there, fun there => absurd no_previous there⟩
  · constructor
    · intro _
      exact ⟨active, file.read,
        getStatus_installed release.known (file.is_active ⟨manifest, release⟩)⟩
    · intro there
      rcases rest with no_previous | ⟨previous, different, file', manifest', release'⟩
      · exact absurd no_previous there
      · refine ⟨previous, active, file'.read, file.read, ?_, different⟩
        have valid := validateReleaseDirectory_succeeds release'
        rw [filename_releaseDir] at valid
        exact valid

/-- What holds of one call. -/
structure CallKeeps (host : Host) (t : Tree) (call : Call) : Prop where
  applied : ∀ path result, call = .apply path →
    (applyPackage host path ⟨t, []⟩).1 = .ok result → result.ok = true →
    ∃ package manifest, path.opened = some package ∧ Loaded host package manifest ∧
      Succeeds (readFileTrimmed host (activeVersionPath manifest.component)) (call.run host t)
        manifest.version (call.run host t)
  swapped : ∀ component result, call = .rollback component →
    (rollbackComponent host component ⟨t, []⟩).1 = .ok result → result.ok = true →
    (t.node (previousVersionPath component) ≠ none ∧ t.node (activeVersionPath component) ≠ none) ∧
    contentAt host (call.run host t) (activeVersionPath component) =
      contentAt host t (previousVersionPath component) ∧
    contentAt host (call.run host t) (previousVersionPath component) =
      contentAt host t (activeVersionPath component)
  apart : ∀ component, ¬ call.Concerns host component →
    (call.run host t).node (activeVersionPath component) = t.node (activeVersionPath component) ∧
    (call.run host t).node (previousVersionPath component) =
      t.node (previousVersionPath component) ∧
    ∀ q, (call.run host t).node (releasesRoot component ++ q) = t.node (releasesRoot component ++ q)

theorem Call.keeps (call : Call) (sound : ∀ c, Sound host t c) (room : Room t.fits) :
    CallKeeps host t call := by
  constructor
  · rintro path result rfl returned ok
    obtain ⟨package, manifest, opened, -, -, applied⟩ :=
      applyPackage_ok (Prod.ext returned rfl :
        applyPackage host path ⟨t, []⟩ = (.ok result, (applyPackage host path ⟨t, []⟩).2)) ok
    obtain ⟨executable, there⟩ := applied.active
    exact ⟨package, manifest, opened, applied.loaded,
      VersionFile.read ⟨contentAt_ok.mpr ⟨executable, there⟩, applied.checked.version⟩⟩
  · rintro component result rfl returned ok
    obtain ⟨active, previous, swapped⟩ :=
      (rollbackComponent_own (sound component) room).2 result returned ok
    refine ⟨⟨swapped.previous_before.node_ne, swapped.active_before.node_ne⟩, ?_, ?_⟩
    · rw [swapped.previous_before.1]
      exact swapped.active.1
    · rw [swapped.active_before.1]
      exact swapped.previous.1
  · intro component elsewhere
    exact ⟨call.run_frame elsewhere (by decide) ["active-version"],
      call.run_frame elsewhere (by decide) ["previous-version"],
      fun q => call.run_frame elsewhere (by decide) q⟩

/-- After every run of applies and rollbacks from an empty root the version files of every
    component hold, and so does what is promised of the next call; two rollbacks in a row
    that answer that all is well give the version files back. -/
theorem installer_runs_sound {fits : Path → Bool} (room : Room fits) (calls : List Call)
    (free : ∀ call ∈ calls, call.NulFree host) :
    (∀ component, VersionsHold host (Runs.run (Call.run host) (Tree.empty fits) calls)
      component) ∧
    (∀ call, CallKeeps host (Runs.run (Call.run host) (Tree.empty fits) calls) call) ∧
    ∀ component once twice,
      (rollbackComponent host component
        ⟨Runs.run (Call.run host) (Tree.empty fits) calls, []⟩).1 = .ok once → once.ok = true →
      (rollbackComponent host component
        ⟨Runs.run (Call.run host) (Tree.empty fits) (calls ++ [.rollback component]), []⟩).1 =
          .ok twice → twice.ok = true →
      ∀ path ∈ [activeVersionPath component, previousVersionPath component],
        contentAt host (Runs.run (Call.run host) (Tree.empty fits)
          (calls ++ [.rollback component, .rollback component])) path =
        contentAt host (Runs.run (Call.run host) (Tree.empty fits) calls) path := by
  obtain ⟨sound, room_left⟩ := run_sound room calls free
  refine ⟨fun component => (sound component).versionsHold,
    fun call => call.keeps sound room_left, ?_⟩
  intro component once twice first first_ok second second_ok path listed
  obtain ⟨sound', room'⟩ := run_sound room (calls ++ [.rollback component]) (by
    intro call member
    rcases List.mem_append.mp member with earlier | last
    · exact free call earlier
    · rw [List.mem_singleton.mp last]
      trivial)
  obtain ⟨-, active, previous⟩ :=
    (Call.keeps (.rollback component) sound room_left).swapped component once rfl first first_ok
  obtain ⟨-, active', previous'⟩ :=
    (Call.keeps (.rollback component) sound' room').swapped component twice rfl second second_ok
  rw [Runs.run_snoc] at active' previous'
  have split : calls ++ [Call.rollback component, .rollback component] =
      calls ++ [.rollback component] ++ [.rollback component] := by simp
  rw [split, Runs.run_snoc, Runs.run_snoc]
  rcases List.mem_pair.mp listed with rfl | rfl
  · rw [active', previous]
  · rw [previous', active]

end Calls

/-- A host where every package lists the launcher. -/
def launcherHost : Host :=
  ⟨{ sampleLibrary with filesArray := fun _ => some [sampleFile "zfleet_launcher" "launcher"] },
    sampleDigest, "/srv/zfleet"⟩

def launcherManifest (version : String) : Manifest :=
  ⟨2, "installer", version, "linux", "x64", "release", "0.0.0",
    [⟨"payload/bin/zfleet_launcher", "bin/zfleet_launcher", 8, sampleDigest "launcher", true⟩]⟩

def installerCalls : List Call :=
  [.apply (.directory (samplePackage "installer 1.0.0" "launcher")),
   .apply (.directory (samplePackage "installer 1.1.0-rc1" "launcher"))]

def rolledBack (outcome : Except Failure RollbackResult × Session Tree) : Bool :=
  match outcome.1 with
  | .ok result => result.ok
  | .error _ => false

theorem two_installers_swapped :
    rolledBack (rollbackComponent launcherHost "installer"
      ⟨Runs.run (Call.run launcherHost) (Tree.empty fun _ => true) installerCalls, []⟩) = true ∧
    VersionsHold launcherHost
      (Runs.run (Call.run launcherHost) (Tree.empty fun _ => true) installerCalls) "installer" ∧
    CallKeeps launcherHost
      (Runs.run (Call.run launcherHost) (Tree.empty fun _ => true) installerCalls)
      (.rollback "installer") := by
  have room : Room fun _ => true := fun _ _ => ⟨rfl, fun _ _ => rfl⟩
  have free : ∀ call ∈ installerCalls, call.NulFree launcherHost := by
    have listed : ∀ manifest ∈ [launcherManifest "1.0.0", launcherManifest "1.1.0-rc1"],
        ∀ file ∈ manifest.files, NulFree file.target := by decide +kernel
    have loaded : Loaded launcherHost (samplePackage "installer 1.0.0" "launcher")
        (launcherManifest "1.0.0") := ⟨_, rfl, by decide +kernel⟩
    have loaded' : Loaded launcherHost (samplePackage "installer 1.1.0-rc1" "launcher")
        (launcherManifest "1.1.0-rc1") := ⟨_, rfl, by decide +kernel⟩
    intro call member
    rcases List.mem_pair.mp member with rfl | rfl
    · exact loaded.nulFree (listed _ (by simp))
    · exact loaded'.nulFree (listed _ (by simp))
  obtain ⟨versions, calls, -⟩ := installer_runs_sound room installerCalls free
  exact ⟨by decide +kernel, versions "installer", calls (.rollback "installer")⟩

end Installer
