import ZFleet.Installer.Operations

/-!
What the parts of apply and rollback change: a frame for each of them, whatever fails, and
what is there when they succeed.
-/
namespace Installer
open FileTrees Transactions Package

/-! Frames -/

section Frames
variable {α : Type} {touched wider : Path → Prop}

theorem operation_ok {change : Tree → Except String Tree} {s s' : Session Tree} {u : Unit}
    (done : operation change s = (.ok u, s')) : change s.state = .ok s'.state := by
  have ran := statement_ok done
  cases changed : change s.state with
  | error message =>
    rw [changed] at ran
    cases ran
  | ok t =>
    rw [changed] at ran
    cases ran
    rfl

theorem operation_atomic (change : Tree → Except String Tree) : Atomic (operation change) :=
  statement_atomic _

theorem operation_succeeds {change : Tree → Except String Tree} {t t' : Tree}
    (changed : change t = .ok t') : Succeeds (operation change) t () t' := by
  apply succeeds_statement
  rw [changed]

theorem operation_frame {change : Tree → Except String Tree}
    (frame : ∀ t t', change t = .ok t' → AgreeBut touched t t') :
    Evolves (AgreeBut touched) (operation change) :=
  evolves_of_atomic (operation_atomic change) (AgreeBut.refl touched) fun s _ s' done =>
    frame s.state s'.state (operation_ok done)

theorem frame_mono {job : Work α} (frame : Evolves (AgreeBut touched) job)
    (included : ∀ q, touched q → wider q) : Evolves (AgreeBut wider) job :=
  evolves_mono frame fun _ _ agree => agree.mono included

theorem frame_bind {β : Type} {job : Work α} {next : α → Work β}
    (first : Evolves (AgreeBut touched) job) (rest : ∀ a, Evolves (AgreeBut touched) (next a)) :
    Evolves (AgreeBut touched) (job >>= next) :=
  evolves_trans first rest fun _ _ _ => AgreeBut.trans

theorem frame_pure (a : α) : Evolves (AgreeBut touched) (pure a : Work α) :=
  evolves_pure (AgreeBut.refl touched) a

theorem frame_fail (e : Failure) : Evolves (AgreeBut touched) (fail e : Work α) :=
  evolves_fail (AgreeBut.refl touched) e

theorem frame_reads {holds : Tree → α → Prop} {job : Work α} (reads : Reads holds job) :
    Evolves (AgreeBut touched) job := by
  intro s result s' ran
  rw [(reads s result s' ran).1]
  exact AgreeBut.refl touched s.state

theorem frame_query (read : Tree → α) : Evolves (AgreeBut touched) (query read : Work α) :=
  frame_reads (reads_query read)

end Frames

theorem near_mono {p p' q : Path} (shorter : p <+: p') (near : Near p' q) : Near p q := by
  rcases near with short | long
  · exact (List.prefix_or_prefix_of_prefix shorter short).symm
  · exact .inr (shorter.trans long)

theorem near_self (p : Path) : Near p p := .inl (List.prefix_refl p)

/-- Paths of which the first two names differ are not on one way. -/
theorem far {component component' kind kind' : String} {q : Path}
    (different : component ≠ component' ∨ kind ≠ kind') :
    ¬ Near [component, kind] (component' :: kind' :: q) := by
  intro near
  have same : component = component' ∧ kind = kind' := by
    rcases near with short | long
    · obtain ⟨first, rest⟩ := List.cons_prefix_cons.mp short
      exact ⟨first.symm, (List.cons_prefix_cons.mp rest).1.symm⟩
    · obtain ⟨first, rest⟩ := List.cons_prefix_cons.mp long
      exact ⟨first, (List.cons_prefix_cons.mp rest).1⟩
  rcases different with other | other
  · exact other same.1
  · exact other same.2

theorem tempPath_below (path : Path) : path.dropLast <+: tempPath path := List.prefix_append _ _

/-- The directories above the file and the file itself. -/
theorem writeTextFile_frame (path : Path) (content : String) :
    Evolves (AgreeBut fun q => q <+: path.dropLast ∨ q = path) (writeTextFile path content) := by
  apply frame_bind
  · exact frame_mono (operation_frame fun _ _ => agree_makeDirectories) fun q within => .inl within
  · intro _
    exact frame_mono (operation_frame fun _ _ => agree_writeFile) fun q here => .inr here

theorem dropLast_tempPath (path : Path) : (tempPath path).dropLast = path.dropLast :=
  List.dropLast_concat

/-- What a write of a version file may touch. -/
def NearVersionFile (path q : Path) : Prop :=
  q <+: path.dropLast ∨ tempPath path <+: q ∨ path <+: q

theorem writeVersionFile_touches (path : Path) (version : String) :
    Evolves (AgreeBut (NearVersionFile path)) (writeVersionFile path version) := by
  have rename : Evolves (AgreeBut (NearVersionFile path))
      (operation (·.rename (tempPath path) path)) :=
    frame_mono (operation_frame fun _ _ => agree_rename) fun q below => .inr below
  have remove : Evolves (AgreeBut (NearVersionFile path)) (operation (·.remove path)) :=
    frame_mono (operation_frame fun _ _ => agree_remove) fun q below => .inr (.inr below)
  apply frame_bind
  · exact frame_mono (operation_frame fun _ _ => agree_makeDirectories) fun q within => .inl within
  · intro _
    apply frame_bind
    · refine frame_mono (writeTextFile_frame (tempPath path) (version ++ "\n")) ?_
      intro q near
      rcases near with above | here
      · rw [dropLast_tempPath] at above
        exact .inl above
      · rw [here]
        exact .inr (.inl (List.prefix_refl _))
    · intro _
      refine evolves_rescue rename (fun _ => ?_) fun _ _ _ => AgreeBut.trans
      exact frame_bind (evolves_recover remove) fun _ => rename

theorem writeVersionFile_frame (path : Path) (version : String) :
    Evolves (AgreeBut (Near path.dropLast)) (writeVersionFile path version) := by
  refine frame_mono (writeVersionFile_touches path version) ?_
  intro q near
  rcases near with above | temp | below
  · exact .inl above
  · exact .inr ((tempPath_below path).trans temp)
  · exact .inr ((List.dropLast_prefix path).trans below)

theorem switchActiveVersion_frame (component : String) (activeRelease : ActiveReleaseInfo)
    (nextVersion : String) : Evolves (AgreeBut (Near (varRoot component)))
      (switchActiveVersion component activeRelease nextVersion) := by
  apply frame_bind
  · unfold recordPreviousVersion
    split
    · exact writeVersionFile_frame (previousVersionPath component) _
    · exact frame_pure ()
  · intro _
    exact writeVersionFile_frame (activeVersionPath component) nextVersion

theorem copyFile_frame (source destination : Path) :
    Evolves (AgreeBut (· = destination)) (copyFile source destination) := by
  apply operation_frame
  intro t t' done
  cases found : t.regular source with
  | none =>
    rw [found] at done
    cases done
  | some pair =>
    rw [found] at done
    exact agree_copyTo done

theorem copyFiles_frame (sourceDir destinationDir : Path) (names : List String) :
    Evolves (AgreeBut (Near destinationDir)) (copyFiles sourceDir destinationDir names) := by
  induction names with
  | nil => exact frame_pure ()
  | cons name rest ih =>
    apply frame_bind
    · refine frame_mono (copyFile_frame _ _) ?_
      intro q here
      rw [here]
      exact .inr (List.prefix_append _ _)
    · exact fun _ => ih

theorem copyLauncherRuntimeDependencies_frame (installerReleaseDir stubDir : Path) :
    Evolves (AgreeBut (Near stubDir))
      (copyLauncherRuntimeDependencies installerReleaseDir stubDir) := by
  apply frame_bind (frame_query _)
  intro there
  split
  · exact frame_pure ()
  · apply frame_bind
    · exact frame_mono (operation_frame fun _ _ => agree_makeDirectories)
        fun q within => .inl within
    · intro _
      exact frame_bind (frame_query _) fun names => copyFiles_frame _ _ names

theorem copyStub_frame (asset : Path) (component : String) :
    Evolves (AgreeBut (Near (binRoot component))) (copyStub asset component) := by
  have stub_below : ∀ q, q = launcherStubPath component → Near (binRoot component) q := by
    intro q here
    rw [here]
    exact .inr (List.prefix_append _ _)
  apply frame_bind
  · exact frame_mono (operation_frame fun _ _ => agree_makeDirectories) fun q within => .inl within
  · intro _
    apply frame_bind
    · exact frame_mono (copyFile_frame _ _) stub_below
    · exact fun _ => frame_mono (operation_frame fun _ _ => agree_setExecutable) stub_below

section Host
variable {host : Host}

theorem ensureLauncherStub_frame (installerVersion component : String) :
    Evolves (AgreeBut (Near (binRoot component)))
      (ensureLauncherStub host installerVersion component) := by
  apply frame_bind (frame_query _)
  intro asset
  split
  · exact frame_fail _
  · exact frame_bind (copyStub_frame _ component) fun _ =>
      copyLauncherRuntimeDependencies_frame _ _

/-- The path is on the way to the launcher of some component, or under it. -/
def NearStub (q : Path) : Prop := ∃ component, Near (binRoot component) q

theorem ensureLauncherStubs_frame (installerVersion : String) (components : List String) :
    Evolves (AgreeBut NearStub) (ensureLauncherStubs host installerVersion components) := by
  induction components with
  | nil => exact frame_pure ()
  | cons component rest ih =>
    apply frame_bind
    · exact frame_mono (ensureLauncherStub_frame installerVersion component)
        fun q near => ⟨component, near⟩
    · exact fun _ => ih

theorem stageFile_frame (package : PackageDirectory) (dir : Path) (file : ManifestFile) :
    Evolves (AgreeBut (Near dir)) (stageFile host package dir file) := by
  have below : ∀ q, q = dir ++ osPath file.target → Near dir q := by
    intro q here
    rw [here]
    exact .inr (List.prefix_append _ _)
  apply frame_bind (frame_query _)
  intro found
  cases found with
  | symlink => exact frame_fail _
  | missing => exact frame_fail _
  | regular content executable =>
    simp only
    split
    · exact frame_fail _
    · split
      · exact frame_fail _
      · apply frame_bind
        · refine frame_mono (operation_frame fun _ _ => agree_makeDirectories) ?_
          exact fun q within => near_mono (List.prefix_append _ _) (.inl within)
        · intro _
          apply frame_bind
          · exact frame_mono (operation_frame fun _ _ => agree_copyTo) below
          · exact fun _ => frame_mono (operation_frame fun _ _ => agree_setExecutable) below

theorem stageFiles_frame (package : PackageDirectory) (dir : Path) (files : List ManifestFile) :
    Evolves (AgreeBut (Near dir)) (stageFiles host package dir files) := by
  induction files with
  | nil => exact frame_pure ()
  | cons file rest ih => exact frame_bind (stageFile_frame package dir file) fun _ => ih

theorem stageRelease_frame (package : PackageDirectory) (dir : Path) (manifest : Manifest) :
    Evolves (AgreeBut (Near dir)) (stageRelease host package dir manifest) := by
  apply frame_bind
  · exact frame_mono (operation_frame fun _ _ => agree_removeAll) fun q below => .inr below
  · intro _
    apply frame_bind
    · exact frame_mono (operation_frame fun _ _ => agree_makeDirectories)
        fun q within => .inl within
    · intro _
      apply frame_bind (stageFiles_frame package dir manifest.files)
      intro _
      apply frame_bind
      · refine frame_mono (operation_frame fun _ _ => agree_makeDirectories) ?_
        exact fun q within => near_mono (List.prefix_append _ _) (.inl within)
      · intro _
        apply frame_bind (evolves_ofExcept (AgreeBut.refl _) _)
        intro text
        refine frame_mono (operation_frame fun _ _ => agree_copyTo) ?_
        intro q here
        rw [here]
        exact .inr (List.prefix_append _ _)

/-- What placing the manifest's release may touch. -/
def NearPlace (manifest : Manifest) (q : Path) : Prop :=
  Near (stagingRoot manifest.component) q ∨
    Near (releaseDir manifest.component manifest.version) q

theorem staging_near_place {manifest : Manifest} {q : Path}
    (near : Near (stagingDir manifest) q) : NearPlace manifest q :=
  .inl (near_mono (List.prefix_append _ _) near)

theorem checkStagedLauncher_reads (manifest : Manifest) :
    Reads (fun t _ => manifest.component = "installer" →
        launcherAssetError host t (stagingDir manifest) = none)
      (checkStagedLauncher host manifest) := by
  unfold checkStagedLauncher
  split
  · apply reads_mono (reads_bind (reads_query _) fun found => ?_) (fun t u checked => ?_)
    · exact fun found _ _ => found = none
    · cases found with
      | none => exact reads_mono (reads_pure ()) fun _ _ _ => rfl
      | some message => exact reads_mono (reads_fail _) fun _ _ impossible => impossible.elim
    · intro installer
      obtain ⟨found, looked, nothing⟩ := checked
      rw [← looked, nothing]
  · rename_i other
    exact reads_mono (reads_pure ()) fun _ _ _ installer => absurd installer other

theorem placeRelease_frame (package : PackageDirectory) (manifest : Manifest) :
    Evolves (AgreeBut (NearPlace manifest)) (placeRelease host package manifest) := by
  apply frame_bind
  · exact frame_mono (stageRelease_frame package _ manifest) fun _ => staging_near_place
  · intro _
    apply frame_bind (frame_reads (checkStagedLauncher_reads manifest))
    intro _
    apply frame_bind
    · refine frame_mono (operation_frame fun _ _ => agree_makeDirectories) ?_
      exact fun q within => .inr (.inl (within.trans (List.prefix_append _ _)))
    · intro _
      refine frame_mono (operation_frame fun _ _ => agree_rename) ?_
      intro q either
      rcases either with below | below
      · exact staging_near_place (.inr below)
      · exact .inr (.inr below)

end Host

/-! What is there afterwards -/

theorem writeTextFile_ok {path : Path} {content : String} {s s' : Session Tree} {u : Unit}
    (done : writeTextFile path content s = (.ok u, s')) :
    ∃ executable, s'.state.regular path = some (content, executable) := by
  obtain ⟨_, middle, -, written⟩ := bind_ok done
  have put := Tree.put_regular (operation_ok written) path
  rw [if_pos rfl] at put
  exact ⟨_, put⟩

theorem tempPath_ne {path : Path} (nonempty : path ≠ []) : ¬ path <+: tempPath path := by
  intro inside
  have length : path.length = (tempPath path).length := by
    have positive := List.length_pos_iff.mpr nonempty
    simp only [tempPath, List.length_append, List.length_dropLast, List.length_singleton]
    omega
  have same := inside.eq_of_length length
  have last : path.getLastD "" = path.getLastD "" ++ ".tmp" := by
    conv_lhs => rw [same, tempPath]
    simp [List.getLastD_eq_getLast?]
  have sizes := congrArg String.length last
  rw [String.length_append] at sizes
  have four : ".tmp".length = 4 := rfl
  omega

theorem rename_regular {old new : Path} {s s' : Session Tree} {u : Unit}
    (done : operation (·.rename old new) s = (.ok u, s')) :
    s'.state.regular new = s.state.regular old := by
  have moved := Tree.rename_below (operation_ok done) []
  rw [List.append_nil, List.append_nil] at moved
  exact Tree.regular_of_node_eq moved

theorem writeVersionFile_ok {path : Path} {version : String} {s s' : Session Tree} {u : Unit}
    (nonempty : path ≠ []) (done : writeVersionFile path version s = (.ok u, s')) :
    ∃ executable, s'.state.regular path = some (version ++ "\n", executable) := by
  obtain ⟨_, made, -, rest⟩ := bind_ok done
  obtain ⟨_, written, wrote, moved⟩ := bind_ok rest
  obtain ⟨executable, temp⟩ := writeTextFile_ok wrote
  refine ⟨executable, ?_⟩
  rw [← temp]
  rcases rescue_ok moved with direct | ⟨e, failed, refused, again⟩
  · exact rename_regular direct
  · -- the rename failed once: the target is removed, the temporary file stays
    have kept : failed.state = written.state := operation_atomic _ _ _ _ refused
    obtain ⟨_, removed, cleared, second⟩ := bind_ok again
    have frame : AgreeBut (path <+: ·) failed.state removed.state :=
      evolves_recover (operation_frame fun _ _ => agree_remove) _ _ _ cleared
    have temp_kept := frame.nodes (tempPath path) (tempPath_ne nonempty)
    rw [rename_regular second, Tree.regular_of_node_eq temp_kept, kept]

theorem switchActiveVersion_ok {component : String} {activeRelease : ActiveReleaseInfo}
    {nextVersion : String} {s s' : Session Tree} {u : Unit}
    (done : switchActiveVersion component activeRelease nextVersion s = (.ok u, s')) :
    ∃ executable, s'.state.regular (activeVersionPath component) =
      some (nextVersion ++ "\n", executable) := by
  obtain ⟨_, recorded, -, written⟩ := bind_ok done
  exact writeVersionFile_ok (by simp [activeVersionPath]) written

/-! Staging -/

/-- The entry that is staged last to a path. -/
def lastAt : List ManifestFile → Path → Option ManifestFile
  | [], _ => none
  | file :: rest, p => (lastAt rest p).or (if osPath file.target = p then some file else none)

theorem lastAt_mem {files : List ManifestFile} {p : Path} {file : ManifestFile}
    (last : lastAt files p = some file) : file ∈ files ∧ osPath file.target = p := by
  induction files with
  | nil => cases last
  | cons first rest ih =>
    rw [lastAt] at last
    cases later : lastAt rest p with
    | some other =>
      rw [later] at last
      cases last
      exact ⟨List.mem_cons_of_mem _ (ih later).1, (ih later).2⟩
    | none =>
      rw [later, Option.none_or] at last
      split at last
      · rename_i here
        cases last
        exact ⟨List.mem_cons_self, here⟩
      · cases last

theorem lastAt_isSome {files : List ManifestFile} {file : ManifestFile} (listed : file ∈ files) :
    ∃ other, lastAt files (osPath file.target) = some other := by
  induction files with
  | nil => cases listed
  | cons first rest ih =>
    rw [lastAt]
    cases later : lastAt rest (osPath file.target) with
    | some other => exact ⟨other, rfl⟩
    | none =>
      rcases List.mem_cons.mp listed with rfl | inside
      · exact ⟨file, by simp⟩
      · obtain ⟨other, found⟩ := ih inside
        rw [later] at found
        cases found

/-- What the package gives for an entry: content of the size and digest that are stated. -/
def SourceMatches (host : Host) (package : PackageDirectory) (file : ManifestFile)
    (content : String) : Prop :=
  (∃ executable, package.source file.source = .regular content executable) ∧
    content.length = file.size ∧ host.sha256 content = file.sha256

/-- The content of the entry's source. -/
def sourceContent (package : PackageDirectory) (file : ManifestFile) : String :=
  match package.source file.source with
  | .regular content _ => content
  | _ => ""

theorem SourceMatches.content_eq {host : Host} {package : PackageDirectory} {file : ManifestFile}
    {content : String} (matching : SourceMatches host package file content) :
    sourceContent package file = content := by
  obtain ⟨⟨executable, found⟩, -⟩ := matching
  rw [sourceContent, found]

section Host
variable {host : Host} {package : PackageDirectory}

theorem stageFile_ok {dir : Path} {file : ManifestFile} {s s' : Session Tree} {u : Unit}
    (done : stageFile host package dir file s = (.ok u, s')) :
    SourceMatches host package file (sourceContent package file) ∧
      ∀ q, s'.state.regular q = if q = dir ++ osPath file.target
        then some (sourceContent package file, file.launchable) else s.state.regular q := by
  obtain ⟨found, looked, asked, rest⟩ := bind_ok done
  obtain ⟨found_eq, unchanged⟩ := query_ok asked
  cases found with
  | symlink => cases rest
  | missing => cases rest
  | regular content executable =>
    simp only at rest
    split at rest
    · cases rest
    · rename_i size
      split at rest
      · cases rest
      · rename_i digest
        have matching : SourceMatches host package file content :=
          ⟨⟨executable, found_eq.symm⟩, not_not.mp size, not_not.mp digest⟩
        rw [matching.content_eq]
        refine ⟨matching, ?_⟩
        obtain ⟨_, made, mkdir, rest⟩ := bind_ok rest
        obtain ⟨_, copied, copy, chmod⟩ := bind_ok rest
        have after_mkdir := Tree.makeDirectories_regular (operation_ok mkdir)
        have after_copy := Tree.put_regular (operation_ok copy)
        obtain ⟨content', before, was, after_chmod⟩ :=
          Tree.setExecutable_regular (operation_ok chmod)
        rw [after_copy, if_pos rfl] at was
        cases was
        intro q
        rw [after_chmod q]
        split
        · rfl
        · rename_i elsewhere
          rw [after_copy q, if_neg elsewhere, after_mkdir q, unchanged]

theorem stageFiles_ok {dir : Path} {files : List ManifestFile} {s s' : Session Tree} {u : Unit}
    (done : stageFiles host package dir files s = (.ok u, s')) :
    (∀ file ∈ files, SourceMatches host package file (sourceContent package file)) ∧
      ∀ p, s'.state.regular (dir ++ p) = match lastAt files p with
        | some file => some (sourceContent package file, file.launchable)
        | none => s.state.regular (dir ++ p) := by
  induction files generalizing s with
  | nil =>
    cases done
    exact ⟨by simp, fun p => rfl⟩
  | cons file rest ih =>
    obtain ⟨_, middle, first, later⟩ := bind_ok done
    obtain ⟨matching, staged⟩ := stageFile_ok first
    obtain ⟨all_match, all_staged⟩ := ih later
    refine ⟨?_, ?_⟩
    · intro other listed
      rcases List.mem_cons.mp listed with rfl | inside
      · exact matching
      · exact all_match other inside
    · intro p
      rw [all_staged p, lastAt]
      cases last : lastAt rest p with
      | some other => rfl
      | none =>
        simp only [Option.none_or]
        rw [staged (dir ++ p)]
        by_cases here : osPath file.target = p
        · rw [if_pos (by rw [here]), if_pos here]
        · rw [if_neg (fun same => here (List.append_cancel_left same).symm), if_neg here]

/-- The directory holds what the package gives for the manifest's entries, and the text of
    its manifest. -/
structure Staged (host : Host) (package : PackageDirectory) (manifest : Manifest) (t : Tree)
    (dir : Path) : Prop where
  matching : ∀ file ∈ manifest.files, SourceMatches host package file (sourceContent package file)
  files : ∀ p, p ≠ ["META", "manifest.json"] → t.regular (dir ++ p) =
    (lastAt manifest.files p).map fun file => (sourceContent package file, file.launchable)
  text : ∃ text, package.manifestText = .ok text ∧
    t.regular (manifestPath dir) = some (text, package.manifestExecutable)

theorem Staged.moved {manifest : Manifest} {t t' : Tree} {dir dir' : Path}
    (staged : Staged host package manifest t dir)
    (same : ∀ q, t'.regular (dir' ++ q) = t.regular (dir ++ q)) :
    Staged host package manifest t' dir' := by
  obtain ⟨matching, files, text, given, there⟩ := staged
  refine ⟨matching, fun p other => ?_, text, given, ?_⟩
  · rw [same, files p other]
  · exact (same _).trans there

theorem stageRelease_ok {dir : Path} {manifest : Manifest} {s s' : Session Tree} {u : Unit}
    (done : stageRelease host package dir manifest s = (.ok u, s')) :
    Staged host package manifest s'.state dir := by
  obtain ⟨_, cleared, clear, rest⟩ := bind_ok done
  obtain ⟨_, made, mkdir, rest⟩ := bind_ok rest
  obtain ⟨_, filled, fill, rest⟩ := bind_ok rest
  obtain ⟨_, headed, mkmeta, rest⟩ := bind_ok rest
  obtain ⟨text, given, read, copy⟩ := bind_ok rest
  obtain ⟨text_ok, rfl⟩ := ofExcept_ok read
  obtain ⟨matching, staged⟩ := stageFiles_ok fill
  have empty : ∀ p, made.state.regular (dir ++ p) = none := by
    intro p
    have gone := (Tree.removeAll_ok (operation_ok clear)).1 (dir ++ p)
    rw [if_pos (List.prefix_append _ _)] at gone
    rw [Tree.makeDirectories_regular (operation_ok mkdir), Tree.regular, gone]
  have after_meta := Tree.makeDirectories_regular (operation_ok mkmeta)
  have after_copy := Tree.put_regular (operation_ok copy)
  refine ⟨matching, fun p other => ?_, text, text_ok, ?_⟩
  · have elsewhere : dir ++ p ≠ manifestPath dir := fun same => other (List.append_cancel_left same)
    rw [after_copy, if_neg elsewhere, after_meta, staged p]
    cases lastAt manifest.files p with
    | some file => rfl
    | none => exact empty p
  · rw [after_copy, if_pos rfl]

/-! When a staged directory is a release -/

theorem fileError_none {t : Tree} {dir : Path} {file : ManifestFile} :
    fileError host t dir file = none ↔ ∃ content executable,
      t.regular (dir ++ osPath file.target) = some (content, executable) ∧
      content.length = file.size ∧ host.sha256 content = file.sha256 ∧
      (file.launchable = true → executable = true) := by
  unfold fileError Tree.regular
  cases found : t.node (dir ++ osPath file.target) with
  | none => simp
  | some v =>
    cases v with
    | directory => simp
    | link => simp
    | file content executable =>
      simp only [Option.some.injEq, Prod.mk.injEq, ← and_assoc]
      by_cases size : content.length = file.size
      · by_cases digest : host.sha256 content = file.sha256
        · cases launchable : file.launchable <;> cases executable <;> simp [size, digest]
        · simp [size, digest]
      · simp [size]

/-- The directory has an executable launcher to copy. -/
def HasLauncher (t : Tree) (dir : Path) : Prop :=
  ∃ content, t.regular (launcherTemplatePath dir) = some (content, true)

theorem launcherAssetError_none {t : Tree} {dir : Path} :
    launcherAssetError host t dir = none ↔ HasLauncher t dir := by
  unfold launcherAssetError HasLauncher Tree.regular
  cases found : t.node (launcherTemplatePath dir) with
  | none => simp
  | some v =>
    cases v with
    | directory => simp
    | link => simp
    | file content executable => cases executable <;> simp

theorem releaseError_none {t : Tree} {dir : Path} {component : String} {manifest : Manifest} :
    releaseError host t dir component manifest = none ↔
      (∀ file ∈ manifest.files, fileError host t dir file = none) ∧
      (component = "installer" → HasLauncher t dir) := by
  unfold releaseError
  rw [Option.or_eq_none_iff, List.findSome?_eq_none_iff, ← @launcherAssetError_none host]
  by_cases installer : component = "installer"
  · simp [installer]
  · simp [installer]

/-- Entries that go to one path do not contradict each other. -/
def Coherent (files : List ManifestFile) : Prop :=
  ∀ file ∈ files, ∀ other, lastAt files (osPath file.target) = some other →
    other.size = file.size ∧ other.sha256 = file.sha256 ∧
      (file.launchable = true → other.launchable = true)

theorem coherent_of_nulFree {files : List ManifestFile} (checked : CheckedFiles files)
    (free : ∀ file ∈ files, NulFree file.target) : Coherent files := by
  intro file listed other last
  obtain ⟨other_listed, same_path⟩ := lastAt_mem last
  have same_target := osPath_inj (free other other_listed) (free file listed)
    (checked.each other other_listed).target (checked.each file listed).target same_path
  have same := List.inj_on_of_nodup_map checked.distinct other_listed listed same_target
  rw [same]
  exact ⟨rfl, rfl, id⟩

theorem Staged.entry {manifest : Manifest} {t : Tree} {dir : Path}
    (staged : Staged host package manifest t dir) (checked : CheckedFiles manifest.files)
    {file : ManifestFile} (listed : file ∈ manifest.files) :
    ∃ other, lastAt manifest.files (osPath file.target) = some other ∧
      t.regular (dir ++ osPath file.target) =
        some (sourceContent package other, other.launchable) := by
  obtain ⟨other, last⟩ := lastAt_isSome listed
  refine ⟨other, last, ?_⟩
  rw [staged.files _ (checked.each file listed).not_manifest, last, Option.map_some]

theorem Staged.sound_iff {manifest : Manifest} {t : Tree} {dir : Path}
    (staged : Staged host package manifest t dir) (checked : CheckedFiles manifest.files)
    (launcher : manifest.component = "installer" → HasLauncher t dir) :
    releaseError host t dir manifest.component manifest = none ↔ Coherent manifest.files := by
  rw [releaseError_none]
  constructor
  · intro sound file listed other last
    obtain ⟨content, executable, found, size, digest, launchable⟩ :=
      fileError_none.mp (sound.1 file listed)
    obtain ⟨staged_last, last', staged_there⟩ := staged.entry checked listed
    rw [last] at last'
    cases last'
    rw [staged_there] at found
    cases found
    obtain ⟨-, other_size, other_digest⟩ := staged.matching other (lastAt_mem last).1
    exact ⟨other_size.symm.trans size, other_digest.symm.trans digest, launchable⟩
  · intro coherent
    refine ⟨fun file listed => fileError_none.mpr ?_, launcher⟩
    obtain ⟨other, last, there⟩ := staged.entry checked listed
    obtain ⟨size, digest, launchable⟩ := coherent file listed other last
    obtain ⟨-, other_size, other_digest⟩ := staged.matching other (lastAt_mem last).1
    exact ⟨_, _, there, other_size.trans size, other_digest.trans digest, launchable⟩

end Host

end Installer
