import ZFleet.Foundations.FileTrees
import ZFleet.Server.PublicationLifecycle

/-!
The upload of a package with the files it leaves. A management session streams the body
into a staging file, the commit renames that file into the repository and validates it
there, and the end of the session removes the staging file. What the commit renamed before
it failed is under another name by then.
-/
namespace PackageUploads
open FileTrees Package KeyedTables Transactions Schema AgentStore PackageStore PackageApi
open InstallApi (ErrorResponse)

/-- The package repository with the database that knows of it. -/
structure Repository where
  files : Tree
  depot : Depot

/-- The server and where its repository is. -/
structure Place where
  env : Environment
  packageRepository : Path
  /-- The archive library and the digest of a whole file. -/
  readArchive : String → Except String Archive

/-- How the session stops reading the body. -/
inductive BodyEnd where
  | done
  | bodyLimit
  | invalid (message : String)
  | aborted
  deriving DecidableEq, Repr

structure Request where
  /-- The id that the session generates. -/
  packageId : Uuid
  filename : String
  /-- The body as it was read, one piece after another. -/
  chunks : List String
  bodyEnd : BodyEnd
  /-- The stored archive cannot be read. -/
  unreadable : Option String

def onFiles (change : Tree → Except String Tree) : Job Repository Unit := fun s =>
  match change s.state.files with
  | .ok files => (.ok (), { s with state := { s.state with files := files } })
  | .error message => (.error (.error message), s)

def onDepot {α : Type} (job : Job Depot α) : Job Repository α := fun s =>
  ((job ⟨s.state.depot, s.faults⟩).1,
    ⟨{ s.state with depot := (job ⟨s.state.depot, s.faults⟩).2.state },
      (job ⟨s.state.depot, s.faults⟩).2.faults⟩)

/-- Go on with the files as they are now. -/
def lookAt {α : Type} (next : Tree → Job Repository α) : Job Repository α := fun s =>
  next s.state.files s

section Session
variable (place : Place) (origin : Origin) (request : Request)

def zipName : String := request.packageId.text ++ ".zip"

def stagingDirectory : Path := place.packageRepository ++ [".staging"]

def stagingPath : Path := stagingDirectory place ++ [zipName request]

def storagePath : Path := place.packageRepository ++ [zipName request]

/-- Append to the file that the session holds open. -/
def appendFile (path : Path) (chunk : String) (files : Tree) : Except String Tree :=
  match files.regular path with
  | some (content, executable) => files.put path (.file (content ++ chunk) executable)
  | none => .error "failed to write package staging file"

def openStagingFile : Job Repository Unit := do
  onFiles fun files => files.makeDirectories (stagingDirectory place)
  onFiles fun files => (files.writeFile (stagingPath place request) "").mapError fun _ =>
    "failed to open package staging file"

/-- Write the pieces behind each other and count their bytes. -/
def writeBody : List String → Nat → Job Repository Nat
  | [], uploadedBytes => pure uploadedBytes
  | chunk :: rest, uploadedBytes => do
    onFiles (appendFile (stagingPath place request) chunk)
    writeBody rest (uploadedBytes + chunk.length)

/-- The staging file with the body, or the answer that there is none. -/
def stageBody : Job Repository (Answer Nat) :=
  recover (do
    openStagingFile place request
    let uploadedBytes ← writeBody place request request.chunks 0
    pure (.ok uploadedBytes)) fun e => .error ⟨500, "package_staging_failed", what e⟩

/-- What the validation finds at the storage path. -/
def storedArchive (storage : String) (files : Tree) : Except String Archive :=
  match files.node (storagePath place request) with
  | some (.file content _) =>
    match request.unreadable with
    | some message => .error message
    | none => place.readArchive content
  | some .directory => .error ("package archive is not a file: " ++ storage)
  | _ => .error ("package archive does not exist: " ++ storage)

/-- Remove the staging file and ignore what comes of it. -/
def discardStaging : Job Repository Unit :=
  recover (onFiles fun files => files.remove (stagingPath place request)) fun _ => ()

def storePackage (uploadedBytes : Nat) : Job Repository (Answer AgentPackageRow) := do
  onFiles fun files => files.makeDirectories place.packageRepository
  let storage ← ofExcept <|
    safePackageStoragePath place.env.packageRepository request.packageId.text
  onFiles fun files => files.rename (stagingPath place request) (storagePath place request)
  lookAt fun files => onDepot <| storeUpload place.env origin
    ⟨request.packageId, request.filename, uploadedBytes, storedArchive place request storage files⟩

def commitAgentPackageUpload (uploadedBytes : Nat) : Job Repository (Answer AgentPackageRow) :=
  if uploadedBytes = 0 then do
    discardStaging place request
    pure (.error ⟨400, "package_body_empty", "package upload body is empty"⟩)
  else rescue (storePackage place origin request uploadedBytes) fun e => do
    discardStaging place request
    pure (.error ⟨400, "package_validation_failed", what e⟩)

/-- What the client is told; nobody is left to be told when the connection was given up. -/
def dispatch (uploadedBytes : Nat) : Job Repository (Option (Answer AgentPackageRow)) :=
  match request.bodyEnd with
  | .done => do
    let answer ← commitAgentPackageUpload place origin request uploadedBytes
    pure (some answer)
  | .bodyLimit => pure (some (.error ⟨413, "body_too_large", "request body exceeds size limit"⟩))
  | .invalid message => pure (some (.error ⟨400, "invalid_request", message⟩))
  | .aborted => pure none

def answerUpload : Job Repository (Option (Answer AgentPackageRow)) := do
  match ← stageBody place request with
  | .error refusal => pure (some (.error refusal))
  | .ok uploadedBytes => dispatch place origin request uploadedBytes

/-- The session from the header to its close, which removes the staging file once more. -/
def serveUpload : Job Repository (Option (Answer AgentPackageRow)) := do
  let answer ← answerUpload place origin request
  discardStaging place request
  pure answer

end Session

/-! What an upload leaves -/

/-- The files of a tree, and the links. -/
def fileAt (files : Tree) (path : Path) : Option Node :=
  match files.node path with
  | some .directory => none
  | other => other

def Request.body (request : Request) : String := request.chunks.foldl (· ++ ·) ""

structure Unchanged (before after : Repository) : Prop where
  files : ∀ path, fileAt after.files path = fileAt before.files path
  packages : after.depot.packages = before.depot.packages

/-- One file more, which holds the body, and one row more, which is validated. -/
structure Gained (place : Place) (request : Request) (row : AgentPackageRow)
    (before after : Repository) : Prop where
  new_file : fileAt before.files (storagePath place request) = none
  files : ∀ path, fileAt after.files path =
    if path = storagePath place request then some (.file request.body false)
    else fileAt before.files path
  status : row.status = .validated
  new_row : before.depot.packages.find request.packageId.text = none
  rows : ∀ packageId, after.depot.packages.find packageId =
    if packageId = request.packageId.text then some row else before.depot.packages.find packageId

/-- An upload answered with success gains what it should; one that is answered with an
    error, or not at all, leaves the repository. -/
structure Kept (place : Place) (origin : Origin) (request : Request) (before : Repository)
    (faults : List (Option Fault)) : Prop where
  created : ∀ row s, serveUpload place origin request ⟨before, faults⟩ =
    (.ok (some (.ok row)), s) → Gained place request row before s.state
  failed : ∀ answer s, serveUpload place origin request ⟨before, faults⟩ = (answer, s) →
    (∀ row, answer ≠ .ok (some (.ok row))) → Unchanged before s.state

/-- What was generated for the upload is in no use yet. -/
structure Fresh (place : Place) (origin : Origin) (request : Request)
    (before : Repository) : Prop where
  generated : request.packageId.text ≠ ""
  staging : before.files.node (stagingPath place request) = none
  storage : before.files.node (storagePath place request) = none
  row : before.depot.packages.find request.packageId.text = none
  audit : before.depot.store.auditEvents.find (origin.auditId 0) = none

/-- The staging file can be made, and it can be moved to its place. -/
structure Room (place : Place) (request : Request) (files : Tree) : Prop where
  way : ∀ path, path <+: stagingDirectory place →
    (files.node path = none ∧ files.fits path = true) ∨ files.node path = some .directory
  staging : files.fits (stagingPath place request) = true
  storage : files.fits (storagePath place request) = true

/-- The engine lets the two writes of the package and the audit event through. -/
def Passes (faults : List (Option Fault)) : Prop :=
  ∃ first second third, letThrough busyRetryAttempts faults = some first ∧
    letThrough busyRetryAttempts first = some second ∧
    letThrough busyRetryAttempts second = some third

/-- The archive in the body, when the stored file can be read. -/
def uploadedArchive (place : Place) (request : Request) : Except String Archive :=
  match request.unreadable with
  | some message => .error message
  | none => place.readArchive request.body

/-- Nothing fails behind the move of the staging file. -/
structure Accepted (place : Place) (request : Request) (faults : List (Option Fault)) :
    Prop where
  metadata : ∃ metadata, validateAgentPackageUpload place.env.json
    (uploadedArchive place request) request.filename = .ok metadata
  database : Passes faults

/-- The upload fails before the staging file is moved, or not at all. -/
def Clean (place : Place) (request : Request) (before : Repository)
    (faults : List (Option Fault)) : Prop :=
  request.bodyEnd ≠ .done ∨ request.body = "" ∨ ¬ Room place request before.files ∨
    Accepted place request faults

/-! The paths of an upload -/

section Paths
variable {place : Place} {request : Request}

theorem zipName_plain : zipName request ≠ ".staging" := by
  intro same
  have texts := congrArg String.toList same
  have last := congrArg List.getLast? texts
  simp [zipName] at last

theorem staging_ne_storage : stagingPath place request ≠ storagePath place request := by
  intro same
  have lengths := congrArg List.length same
  simp [stagingPath, stagingDirectory, storagePath] at lengths

theorem storage_off_staging : ¬ storagePath place request <+: stagingPath place request := by
  rintro ⟨rest, split⟩
  unfold storagePath stagingPath stagingDirectory at split
  rw [List.append_assoc, List.append_assoc] at split
  have names := List.append_cancel_left split
  simp only [List.singleton_append, List.cons.injEq] at names
  exact zipName_plain names.1

theorem storage_off_way : ¬ storagePath place request <+: stagingDirectory place :=
  fun within => storage_off_staging (within.trans (List.prefix_append _ _))

theorem staging_off_storage : ¬ stagingPath place request <+: storagePath place request := by
  intro within
  have shorter := within.length_le
  simp [stagingPath, stagingDirectory, storagePath] at shorter

theorem staging_off_way : ¬ stagingPath place request <+: stagingDirectory place := by
  intro within
  have shorter := within.length_le
  simp [stagingPath] at shorter

theorem safePackageStoragePath_uuid {repository : String} {packageId : Uuid}
    (generated : packageId.text ≠ "") :
    ∃ path, safePackageStoragePath repository packageId.text = .ok path := by
  have plain := List.all_eq_true.mp packageId.plain
  unfold safePackageStoragePath
  rw [if_neg]
  · exact ⟨_, rfl⟩
  · rintro (empty | slash | backslash | dots)
    · exact generated empty
    · exact absurd (plain '/' slash) (by decide)
    · exact absurd (plain (Char.ofNat 92) backslash) (by decide)
    · exact absurd (plain '.' (dots.subset List.mem_cons_self)) (by decide)

end Paths

/-! What the steps of a session do -/

section Steps
variable {place : Place} {origin : Origin} {request : Request} {files files' : Tree}
  {depot : Depot} {faults : List (Option Fault)}

theorem onFiles_run {change : Tree → Except String Tree} (done : change files = .ok files') :
    onFiles change ⟨⟨files, depot⟩, faults⟩ = (.ok (), ⟨⟨files', depot⟩, faults⟩) := by
  unfold onFiles
  rw [done]

theorem onFiles_failed {change : Tree → Except String Tree} {message : String}
    (failed : change files = .error message) :
    onFiles change ⟨⟨files, depot⟩, faults⟩ =
      (.error (.error message), ⟨⟨files, depot⟩, faults⟩) := by
  unfold onFiles
  rw [failed]

theorem fileAt_of_node {path : Path} (same : files'.node path = files.node path) :
    fileAt files' path = fileAt files path := by
  unfold fileAt
  rw [same]

/-- The tree of the session while its staging file has the content. -/
structure Staged (place : Place) (request : Request) (files : Tree) (content : String)
    (files' : Tree) : Prop where
  nodes : ∀ path, files'.node path =
    if path = stagingPath place request then some (.file content false)
    else if path <+: stagingDirectory place then some .directory else files.node path
  room : files'.fits = files.fits

theorem makeDirectories_files {path : Path} (done : files.makeDirectories path = .ok files')
    (other : Path) : fileAt files' other = fileAt files other := by
  have changed := (Tree.makeDirectories_ok done).1 other
  by_cases within : other <+: path
  · rw [if_pos within] at changed
    unfold fileAt
    rcases Tree.makeDirectories_free done other within with absent | directory
    · rw [changed, absent]
    · rw [changed, directory]
  · rw [if_neg within] at changed
    exact fileAt_of_node changed

/-- The staging file is there and empty, or there was no room and no file was touched. -/
theorem openStagingFile_cases (place : Place) (request : Request) (files : Tree) (depot : Depot)
    (faults : List (Option Fault)) (fresh : files.node (stagingPath place request) = none) :
    (∃ e files', openStagingFile place request ⟨⟨files, depot⟩, faults⟩ =
        (.error e, ⟨⟨files', depot⟩, faults⟩) ∧
      (∀ path, fileAt files' path = fileAt files path) ∧
      files'.node (stagingPath place request) = none ∧ ¬ Room place request files) ∨
    ∃ files', openStagingFile place request ⟨⟨files, depot⟩, faults⟩ =
        (.ok (), ⟨⟨files', depot⟩, faults⟩) ∧ Staged place request files "" files' ∧
      (∀ path, path <+: stagingDirectory place →
        files.node path = none ∨ files.node path = some .directory) ∧
      (files.fits (storagePath place request) = true → Room place request files) := by
  unfold openStagingFile
  cases made : files.makeDirectories (stagingDirectory place) with
  | error message =>
    left
    refine ⟨_, files, bind_of_error (onFiles_failed made), fun _ => rfl, fresh, ?_⟩
    intro room
    have free : ∀ path, path <+: stagingDirectory place →
        files.node path = none ∨ files.node path = some .directory := by
      intro path within
      rcases room.way path within with absent | directory
      · exact .inl absent.1
      · exact .inr directory
    have fits : ∀ path, path <+: stagingDirectory place → files.node path = none →
        files.fits path = true := by
      intro path within absent
      rcases room.way path within with fitting | directory
      · exact fitting.2
      · rw [absent] at directory
        cases directory
    obtain ⟨_, succeeded⟩ := Tree.makeDirectories_succeeds free fits
    rw [made] at succeeded
    cases succeeded
  | ok middle =>
    rw [bind_of_ok (onFiles_run made)]
    obtain ⟨nodes, same_room⟩ := Tree.makeDirectories_ok made
    have absent : middle.node (stagingPath place request) = none := by
      rw [nodes, if_neg staging_off_way, fresh]
    have writes : middle.writeFile (stagingPath place request) "" =
        middle.put (stagingPath place request) (.file "" false) := by
      simp [Tree.writeFile, Tree.regular, absent]
    cases put : middle.put (stagingPath place request) (.file "" false) with
    | error message =>
      left
      have failed : (middle.writeFile (stagingPath place request) "").mapError
          (fun _ => "failed to open package staging file") =
          .error "failed to open package staging file" := by
        rw [writes, put]
        rfl
      refine ⟨_, middle, onFiles_failed failed, makeDirectories_files made, absent, ?_⟩
      intro room
      have parent : (stagingPath place request).dropLast = stagingDirectory place :=
        List.dropLast_concat
      have writable : middle.Writable (stagingPath place request) := by
        refine ⟨by simp [stagingPath], ?_, .inl ⟨absent, ?_⟩⟩
        · rw [parent, nodes, if_pos (List.prefix_refl _)]
        · rw [same_room, room.staging]
      obtain ⟨_, written⟩ := Tree.put_writable writable (.file "" false)
      rw [put] at written
      cases written
    | ok opened =>
      right
      obtain ⟨writable, changed, still_room⟩ := Tree.put_ok put
      refine ⟨opened, onFiles_run ?_, ⟨?_, still_room.trans same_room⟩,
        Tree.makeDirectories_free made, ?_⟩
      · rw [writes, put]
        rfl
      · intro path
        rw [changed]
        by_cases here : path = stagingPath place request
        · rw [if_pos here, here, Function.update_self]
        · rw [if_neg here, Function.update_of_ne here, nodes]
      · intro fits
        refine ⟨?_, ?_, fits⟩
        · intro path within
          rcases Tree.makeDirectories_free made path within with missing | directory
          · exact .inl ⟨missing, Tree.makeDirectories_room made path within missing⟩
          · exact .inr directory
        · rw [← same_room]
          rcases writable.2.2 with ⟨-, fitting⟩ | regular
          · exact fitting
          · simp [Tree.regular, absent] at regular

theorem Staged.file {content : String} (staged : Staged place request files content files') :
    files'.node (stagingPath place request) = some (.file content false) := by
  rw [staged.nodes, if_pos rfl]

/-- Every piece is written behind the ones before it. -/
theorem writeBody_run {content : String} (chunks : List String) (uploadedBytes : Nat)
    (staged : Staged place request files content files') :
    ∃ files'', writeBody place request chunks uploadedBytes ⟨⟨files', depot⟩, faults⟩ =
        (.ok (uploadedBytes + (chunks.map String.length).sum), ⟨⟨files'', depot⟩, faults⟩) ∧
      Staged place request files (chunks.foldl (· ++ ·) content) files'' := by
  induction chunks generalizing content uploadedBytes files' with
  | nil => exact ⟨files', rfl, staged⟩
  | cons chunk rest ih =>
    have regular := Tree.regular_iff.mpr staged.file
    have parent : (stagingPath place request).dropLast = stagingDirectory place :=
      List.dropLast_concat
    have writable : files'.Writable (stagingPath place request) := by
      refine ⟨by simp [stagingPath], ?_, .inr (by rw [regular]; rfl)⟩
      have other : stagingDirectory place ≠ stagingPath place request := by
        intro same
        exact staging_off_way ⟨[], by rw [← same, List.append_nil]⟩
      rw [parent, staged.nodes, if_neg other, if_pos (List.prefix_refl _)]
    obtain ⟨longer, put⟩ := Tree.put_writable writable (.file (content ++ chunk) false)
    have appended : appendFile (stagingPath place request) chunk files' = .ok longer := by
      simp only [appendFile, regular, put]
    obtain ⟨-, changed, room⟩ := Tree.put_ok put
    have staged' : Staged place request files (content ++ chunk) longer := by
      refine ⟨?_, room.trans staged.room⟩
      intro path
      rw [changed]
      by_cases here : path = stagingPath place request
      · rw [if_pos here, here, Function.update_self]
      · rw [if_neg here, Function.update_of_ne here, staged.nodes, if_neg here]
    obtain ⟨final, ran, done⟩ := ih (uploadedBytes + chunk.length) staged'
    refine ⟨final, ?_, done⟩
    unfold writeBody
    rw [bind_of_ok (onFiles_run appended), ran, List.map_cons, List.sum_cons, Nat.add_assoc]

theorem discardStaging_run (depot : Depot) (faults : List (Option Fault))
    (no_directory : files.node (stagingPath place request) ≠ some .directory) :
    ∃ files', discardStaging place request ⟨⟨files, depot⟩, faults⟩ =
        (.ok (), ⟨⟨files', depot⟩, faults⟩) ∧
      ∀ path, files'.node path =
        if path = stagingPath place request then none else files.node path := by
  have below : stagingPath place request ≠ [] := by simp [stagingPath]
  have removes : files.remove (stagingPath place request) =
      .ok (files.prune (stagingPath place request) below) := by
    simp [Tree.remove, below, Tree.isDirectory, no_directory]
  refine ⟨_, recover_of_ok (onFiles_run removes), ?_⟩
  intro path
  change files.prunedNode _ _ = _
  by_cases here : path = stagingPath place request
  · rw [if_pos here, here, Tree.prunedNode_inside (List.prefix_refl _)]
  rw [if_neg here]
  by_cases inside : stagingPath place request <+: path
  · -- nothing is below what is no directory
    obtain ⟨rest, rfl⟩ := inside
    rw [Tree.prunedNode_inside (List.prefix_append _ _)]
    by_contra there
    have nonempty : rest ≠ [] := by
      rintro rfl
      exact here (List.append_nil _)
    exact no_directory (files.closed _ rest nonempty (Ne.symm there))
  · exact Tree.prunedNode_outside inside

end Steps

/-! What the commit does -/

section Commit
variable {place : Place} {origin : Origin} {request : Request} {files files' : Tree}
  {depot : Depot} {faults : List (Option Fault)}

/-- The tree once the staging file has become the stored one. -/
def Stored (place : Place) (request : Request) (files files' : Tree) : Prop :=
  ∀ path, files'.node path =
    if path = storagePath place request then some (.file request.body false)
    else if path <+: stagingDirectory place then some .directory else files.node path

theorem Staged.below {content : String} (staged : Staged place request files content files')
    {path : Path} (within : path <+: stagingDirectory place) :
    files'.node path = some .directory := by
  have other : path ≠ stagingPath place request := by
    rintro rfl
    exact staging_off_way within
  rw [staged.nodes, if_neg other, if_pos within]

theorem Staged.storage_free {content : String}
    (staged : Staged place request files content files')
    (absent : files.node (storagePath place request) = none) :
    files'.node (storagePath place request) = none := by
  rw [staged.nodes, if_neg (Ne.symm staging_ne_storage), if_neg storage_off_way, absent]

theorem Staged.movable {content : String} (staged : Staged place request files content files')
    (absent : files.node (storagePath place request) = none)
    (fits : files.fits (storagePath place request) = true) :
    files'.Movable (stagingPath place request) (storagePath place request) := by
  refine ⟨?_, ?_, staging_off_storage, storage_off_staging, ?_, ?_, ?_⟩
  · rw [staged.file]
    simp
  · simp [storagePath]
  · have parent : (storagePath place request).dropLast = place.packageRepository :=
      List.dropLast_concat
    rw [parent]
    exact staged.below (List.prefix_append _ _)
  · rw [staged.room, fits]
  · simp [Tree.Replaceable, Tree.isDirectory, staged.file, staged.storage_free absent]

/-- What the move leaves: the body under its own name. -/
theorem Staged.moved (staged : Staged place request files request.body files')
    (staging : files.node (stagingPath place request) = none)
    (storage : files.node (storagePath place request) = none) {final : Tree}
    (moved : files'.rename (stagingPath place request) (storagePath place request) = .ok final) :
    Stored place request files final := by
  intro path
  rw [(Tree.rename_ok moved).2.1]
  by_cases inside : storagePath place request <+: path
  · obtain ⟨rest, rfl⟩ := inside
    rw [Tree.movedNode_below]
    by_cases here : rest = []
    · rw [here, List.append_nil, List.append_nil, if_pos rfl, staged.file]
    · have other : storagePath place request ++ rest ≠ storagePath place request := by
        simp [here]
      have off_way : ¬ storagePath place request ++ rest <+: stagingDirectory place :=
        fun within => storage_off_way ((List.prefix_append _ _).trans within)
      rw [if_neg other, if_neg off_way, Tree.none_below storage,
        Tree.none_below_file staged.file here]
  · have other : path ≠ storagePath place request := by
      rintro rfl
      exact inside (List.prefix_refl _)
    rw [if_neg other]
    by_cases gone : stagingPath place request <+: path
    · rw [Tree.movedNode, if_neg inside, if_pos gone, if_neg fun within =>
        staging_off_way (gone.trans within)]
      obtain ⟨rest, rfl⟩ := gone
      exact (Tree.none_below staging).symm
    · have elsewhere : path ≠ stagingPath place request := by
        rintro rfl
        exact gone (List.prefix_refl _)
      rw [Tree.movedNode_outside inside gone, staged.nodes, if_neg elsewhere]

theorem Stored.file (stored : Stored place request files files') :
    files'.node (storagePath place request) = some (.file request.body false) := by
  rw [stored, if_pos rfl]

theorem Stored.archive (stored : Stored place request files files') (storage : String) :
    storedArchive place request storage files' = uploadedArchive place request := by
  unfold storedArchive uploadedArchive
  rw [stored.file]

/-- The repository is there already when the commit asks for it. -/
theorem Staged.made {content : String} (staged : Staged place request files content files') :
    ∃ same, files'.makeDirectories place.packageRepository = .ok same ∧
      Staged place request files content same := by
  have there : ∀ path, path <+: place.packageRepository →
      files'.node path = some .directory :=
    fun path within => staged.below (within.trans (List.prefix_append _ _))
  obtain ⟨same, made⟩ := Tree.makeDirectories_succeeds
    (fun path within => .inr (there path within)) fun path within absent => by
      rw [there path within] at absent
      cases absent
  obtain ⟨nodes, room⟩ := Tree.makeDirectories_ok made
  refine ⟨same, made, ?_, room.trans staged.room⟩
  intro path
  rw [nodes, ← staged.nodes]
  split
  · rename_i within
    exact (there path within).symm
  · rfl

/-- The commit gets as far as the database, whatever comes of it there. -/
theorem storePackage_run (fresh : Fresh place origin request ⟨files, depot⟩)
    (staged : Staged place request files request.body files')
    (fits : files.fits (storagePath place request) = true) (uploadedBytes : Nat) :
    ∃ final, Stored place request files final ∧
      storePackage place origin request uploadedBytes ⟨⟨files', depot⟩, faults⟩ =
        onDepot (storeUpload place.env origin ⟨request.packageId, request.filename, uploadedBytes,
          uploadedArchive place request⟩) ⟨⟨final, depot⟩, faults⟩ := by
  obtain ⟨same, made, staged'⟩ := staged.made
  obtain ⟨storage, safe⟩ := @safePackageStoragePath_uuid place.env.packageRepository
    request.packageId fresh.generated
  obtain ⟨final, moved⟩ := Tree.rename_movable (staged'.movable fresh.storage fits)
  have stored := staged'.moved fresh.staging fresh.storage moved
  refine ⟨final, stored, ?_⟩
  unfold storePackage
  rw [bind_of_ok (onFiles_run made), safe, ofExcept_bind, bind_of_ok (onFiles_run moved)]
  change onDepot (storeUpload _ _ ⟨_, _, _, storedArchive place request storage final⟩) _ = _
  rw [stored.archive]

/-- Without room at the storage path the staging file stays where it is. -/
theorem storePackage_no_room (generated : request.packageId.text ≠ "")
    (staged : Staged place request files request.body files')
    (full : files.fits (storagePath place request) ≠ true) (uploadedBytes : Nat) :
    ∃ e final, Staged place request files request.body final ∧
      storePackage place origin request uploadedBytes ⟨⟨files', depot⟩, faults⟩ =
        (.error e, ⟨⟨final, depot⟩, faults⟩) := by
  obtain ⟨same, made, staged'⟩ := staged.made
  obtain ⟨storage, safe⟩ := @safePackageStoragePath_uuid place.env.packageRepository
    request.packageId generated
  have immovable : ¬ same.Movable (stagingPath place request) (storagePath place request) := by
    intro movable
    obtain ⟨-, -, -, -, -, fits, -⟩ := movable
    rw [staged'.room] at fits
    exact full fits
  have failed : same.rename (stagingPath place request) (storagePath place request) =
      .error "Invalid cross-device link" := dif_neg immovable
  refine ⟨.error "Invalid cross-device link", same, staged', ?_⟩
  unfold storePackage
  rw [bind_of_ok (onFiles_run made), safe, ofExcept_bind, bind_of_error (onFiles_failed failed)]

/-! The two writes and the audit event -/

theorem upsertAgentPackage_run {rest : List (Option Fault)} (package : AgentPackageRow)
    (passes : letThrough busyRetryAttempts faults = some rest) :
    upsertAgentPackage package ⟨depot, faults⟩ =
      (.ok (), ⟨{ depot with packages := depot.packages.put package }, rest⟩) :=
  retry_let_through passes rfl

theorem upsertAgentPackage_stopped (package : AgentPackageRow)
    (stopped : letThrough busyRetryAttempts faults = none) :
    ∃ e s, upsertAgentPackage package ⟨depot, faults⟩ = (.error e, s) := by
  obtain ⟨e, rest, ran⟩ := retry_stopped stopped
  exact ⟨e, _, ran⟩

theorem audit_run {rest : List (Option Fault)} {n : Nat} (eventType : Message.AuditEventType)
    (requestId result : String) (payload : List (String × String))
    (free : depot.store.auditEvents.find (origin.auditId n) = none)
    (passes : letThrough busyRetryAttempts faults = some rest) :
    ∃ store, audit origin n eventType requestId result payload ⟨depot, faults⟩ =
      (.ok (), ⟨{ depot with store := store }, rest⟩) := by
  let event : AuditEventRow :=
    { auditId := origin.auditId n
      occurredAt := origin.auditTime n
      agentId := none
      eventType := eventType
      requestId := requestId
      result := result
      payload := payload }
  obtain ⟨table, inserted⟩ := Option.isSome_iff_exists.mp
    ((depot.store.auditEvents.insert_isSome_iff event).mpr free)
  have ran : InstallApi.recordAdminAudit (origin.auditId n) (origin.auditTime n) eventType
      requestId result payload ⟨depot.store, faults⟩ =
      (.ok (), ⟨{ depot.store with auditEvents := table }, rest⟩) := by
    unfold InstallApi.recordAdminAudit recordAuditEvent submitWrite executeWithBusyRetry
      insertAuditEvent insertRow
    apply retry_let_through passes
    simp only [event] at inserted
    rw [inserted]
  refine ⟨{ depot.store with auditEvents := table }, ?_⟩
  unfold audit onStore
  rw [ran]

theorem audit_stopped {n : Nat} (eventType : Message.AuditEventType)
    (requestId result : String) (payload : List (String × String))
    (stopped : letThrough busyRetryAttempts faults = none) :
    ∃ e s, audit origin n eventType requestId result payload ⟨depot, faults⟩ = (.error e, s) := by
  have ran : ∃ e rest, InstallApi.recordAdminAudit (origin.auditId n) (origin.auditTime n)
      eventType requestId result payload ⟨depot.store, faults⟩ =
      (.error e, ⟨depot.store, rest⟩) := by
    unfold InstallApi.recordAdminAudit recordAuditEvent submitWrite executeWithBusyRetry
      insertAuditEvent insertRow
    exact retry_stopped stopped
  obtain ⟨e, rest, ran⟩ := ran
  refine ⟨e, ⟨depot, rest⟩, ?_⟩
  unfold audit onStore
  rw [ran]

/-- An accepted upload has its validated row in the table, and nothing else. -/
theorem storeUpload_accepted (fresh : Fresh place origin request ⟨files, depot⟩)
    (accepted : Accepted place request faults) (uploadedBytes : Nat) :
    ∃ row final rest, storeUpload place.env origin ⟨request.packageId, request.filename,
        uploadedBytes, uploadedArchive place request⟩ ⟨depot, faults⟩ =
        (.ok (.ok row), ⟨final, rest⟩) ∧ row.status = .validated ∧
      ∀ packageId, final.packages.find packageId =
        if packageId = request.packageId.text then some row
        else depot.packages.find packageId := by
  obtain ⟨metadata, checked⟩ := accepted.metadata
  obtain ⟨first, second, third, passes, passes', passes''⟩ := accepted.database
  obtain ⟨storage, safe⟩ := @safePackageStoragePath_uuid place.env.packageRepository
    request.packageId fresh.generated
  let uploaded := uploadedRow request.packageId.text request.filename storage origin.now metadata
  let validated := { uploaded with status := .validated, validatedAt := some origin.now }
  have free : ({ depot with packages := (depot.packages.put uploaded).put validated } :
      Depot).store.auditEvents.find (origin.auditId 0) = none := fresh.audit
  obtain ⟨store, audited⟩ := audit_run .packageValidated request.packageId.text "success"
    (metadataPayload request.packageId.text metadata) free passes''
  refine ⟨validated, { depot with
    packages := (depot.packages.put uploaded).put validated, store := store }, third, ?_, rfl, ?_⟩
  · unfold storeUpload
    rw [safe, ofExcept_bind, checked, ofExcept_bind,
      bind_of_ok (upsertAgentPackage_run uploaded passes),
      bind_of_ok (upsertAgentPackage_run validated passes'), bind_of_ok audited]
    rfl
  · intro packageId
    have key : validated.packageId = request.packageId.text := rfl
    have key' : uploaded.packageId = request.packageId.text := rfl
    simp only [Table.find_put, key, key', eq_comm (a := request.packageId.text)]
    split <;> rfl

/-- What is not accepted ends in an exception. -/
theorem storeUpload_refused (fresh : Fresh place origin request ⟨files, depot⟩)
    (refused : ¬ Accepted place request faults) (uploadedBytes : Nat) :
    ∃ e s, storeUpload place.env origin ⟨request.packageId, request.filename,
      uploadedBytes, uploadedArchive place request⟩ ⟨depot, faults⟩ = (.error e, s) := by
  obtain ⟨storage, safe⟩ := @safePackageStoragePath_uuid place.env.packageRepository
    request.packageId fresh.generated
  unfold storeUpload
  rw [safe, ofExcept_bind]
  cases checked : validateAgentPackageUpload place.env.json (uploadedArchive place request)
      request.filename with
  | error message => exact ⟨_, _, rfl⟩
  | ok metadata =>
    rw [ofExcept_bind]
    let uploaded := uploadedRow request.packageId.text request.filename storage origin.now metadata
    let validated := { uploaded with status := .validated, validatedAt := some origin.now }
    cases passes : letThrough busyRetryAttempts faults with
    | none =>
      obtain ⟨e, s, ran⟩ := upsertAgentPackage_stopped uploaded passes
      exact ⟨e, s, bind_of_error ran⟩
    | some first =>
      rw [bind_of_ok (upsertAgentPackage_run uploaded passes)]
      cases passes' : letThrough busyRetryAttempts first with
      | none =>
        obtain ⟨e, s, ran⟩ := upsertAgentPackage_stopped validated passes'
        exact ⟨e, s, bind_of_error ran⟩
      | some second =>
        rw [bind_of_ok (upsertAgentPackage_run validated passes')]
        cases passes'' : letThrough busyRetryAttempts second with
        | none =>
          obtain ⟨e, s, ran⟩ := audit_stopped .packageValidated request.packageId.text "success"
            (metadataPayload request.packageId.text metadata) passes''
          exact ⟨e, s, bind_of_error ran⟩
        | some third =>
          exact absurd ⟨⟨metadata, checked⟩, first, second, third, passes, passes', passes''⟩
            refused

end Commit

/-! The whole session -/

section Whole
variable {place : Place} {origin : Origin} {request : Request} {before : Repository}
  {faults : List (Option Fault)}

/-- The files but the staging file are those of the beginning. -/
structure Loose (place : Place) (request : Request) (files files' : Tree) : Prop where
  staging : files'.node (stagingPath place request) ≠ some .directory
  files : ∀ path, path ≠ stagingPath place request → fileAt files' path = fileAt files path

/-- How the answer goes with what is left when the session is about to close. -/
inductive Outcome (place : Place) (request : Request) (before : Repository)
    (faults : List (Option Fault)) : Option (Answer AgentPackageRow) → Repository → Prop
  | turnedAway (answer : Option (Answer AgentPackageRow)) (after : Repository) :
      (request.bodyEnd ≠ .done ∨ request.body = "" ∨ ¬ Room place request before.files) →
      (∀ row, answer ≠ some (.ok row)) → after.depot = before.depot →
      Loose place request before.files after.files →
      Outcome place request before faults answer after
  | created (row : AgentPackageRow) (after : Repository) : Accepted place request faults →
      Stored place request before.files after.files →
      (∀ path, path <+: stagingDirectory place →
        before.files.node path = none ∨ before.files.node path = some .directory) →
      row.status = .validated →
      (∀ packageId, after.depot.packages.find packageId =
        if packageId = request.packageId.text then some row
        else before.depot.packages.find packageId) →
      Outcome place request before faults (some (.ok row)) after
  | orphaned (refusal : ErrorResponse) (after : Repository) :
      ¬ (request.bodyEnd ≠ .done ∨ request.body = "" ∨ ¬ Room place request before.files) →
      ¬ Accepted place request faults → Stored place request before.files after.files →
      Outcome place request before faults (some (.error refusal)) after

theorem Staged.loose {files files' : Tree} {content : String}
    (staged : Staged place request files content files')
    (way : ∀ path, path <+: stagingDirectory place →
      files.node path = none ∨ files.node path = some .directory) :
    Loose place request files files' := by
  refine ⟨by simp [staged.file], ?_⟩
  intro path other
  have now := staged.nodes path
  rw [if_neg other] at now
  by_cases within : path <+: stagingDirectory place
  · rw [if_pos within] at now
    unfold fileAt
    rcases way path within with absent | directory
    · rw [now, absent]
    · rw [now, directory]
  · rw [if_neg within] at now
    exact fileAt_of_node now

theorem Loose.discarded {files files' final : Tree} (loose : Loose place request files files')
    (nodes : ∀ path, final.node path =
      if path = stagingPath place request then none else files'.node path) :
    Loose place request files final := by
  refine ⟨by simp [nodes], ?_⟩
  intro path other
  rw [← loose.files path other]
  exact fileAt_of_node (by rw [nodes, if_neg other])

theorem body_length (chunks : List String) (content : String) :
    (chunks.foldl (· ++ ·) content).length = content.length + (chunks.map String.length).sum := by
  induction chunks generalizing content with
  | nil => simp
  | cons chunk rest ih => simp [ih, String.length_append, Nat.add_assoc]

theorem no_bytes_iff : (request.chunks.map String.length).sum = 0 ↔ request.body = "" := by
  have length := body_length request.chunks ""
  rw [String.length_empty, Nat.zero_add] at length
  rw [← length, ← Request.body, String.length_eq_zero_iff]

theorem commit_outcome {files : Tree} (fresh : Fresh place origin request before)
    (staged : Staged place request before.files request.body files)
    (way : ∀ path, path <+: stagingDirectory place →
      before.files.node path = none ∨ before.files.node path = some .directory)
    (room : before.files.fits (storagePath place request) = true →
      Room place request before.files) (done : request.bodyEnd = .done) :
    ∃ answer s, commitAgentPackageUpload place origin request
        (request.chunks.map String.length).sum ⟨⟨files, before.depot⟩, faults⟩ = (.ok answer, s) ∧
      Outcome place request before faults (some answer) s.state := by
  have no_directory : files.node (stagingPath place request) ≠ some .directory := by
    simp [staged.file]
  unfold commitAgentPackageUpload
  by_cases empty : (request.chunks.map String.length).sum = 0
  · rw [if_pos empty]
    obtain ⟨final, ran, nodes⟩ := discardStaging_run before.depot faults no_directory
    refine ⟨_, _, bind_of_ok ran, .turnedAway _ _ (.inr (.inl (no_bytes_iff.mp empty))) nofun rfl ?_⟩
    exact (staged.loose way).discarded nodes
  rw [if_neg empty]
  by_cases fits : before.files.fits (storagePath place request) = true
  · obtain ⟨final, stored, ran⟩ := @storePackage_run _ _ _ _ _ _ faults fresh staged fits
      (request.chunks.map String.length).sum
    have inside : ¬ (request.bodyEnd ≠ .done ∨ request.body = "" ∨
        ¬ Room place request before.files) := by
      rintro (unfinished | nothing | cramped)
      · exact unfinished done
      · exact empty (no_bytes_iff.mpr nothing)
      · exact cramped (room fits)
    by_cases accepted : Accepted place request faults
    · obtain ⟨row, depot, rest, uploaded, status, rows⟩ :=
        storeUpload_accepted fresh accepted (request.chunks.map String.length).sum
      refine ⟨.ok row, ⟨⟨final, depot⟩, rest⟩, rescue_of_ok ?_, .created row _ accepted stored way status rows⟩
      rw [ran]
      unfold onDepot
      rw [uploaded]
    · obtain ⟨e, s, thrown⟩ :=
        storeUpload_refused fresh accepted (request.chunks.map String.length).sum
      have failed : storePackage place origin request (request.chunks.map String.length).sum
          ⟨⟨files, before.depot⟩, faults⟩ = (.error e, ⟨⟨final, s.state⟩, s.faults⟩) := by
        rw [ran]
        unfold onDepot
        rw [thrown]
      -- the staging file is not there any more, so nothing is discarded
      have moved : final.node (stagingPath place request) = none := by
        rw [stored, if_neg staging_ne_storage, if_neg staging_off_way, fresh.staging]
      obtain ⟨last, discarded, nodes⟩ := @discardStaging_run place request final s.state s.faults
        (by simp [moved])
      refine ⟨.error ⟨400, "package_validation_failed", what e⟩, _,
        (rescue_of_error failed).trans (bind_of_ok discarded),
        .orphaned _ _ inside accepted ?_⟩
      intro path
      rw [nodes]
      by_cases here : path = stagingPath place request
      · rw [if_pos here, ← stored, here, moved]
      · rw [if_neg here, stored]
  · obtain ⟨e, final, staged', failed⟩ := @storePackage_no_room _ origin _ _ _ before.depot faults
      fresh.generated staged fits (request.chunks.map String.length).sum
    obtain ⟨last, discarded, nodes⟩ := @discardStaging_run place request final before.depot faults
      (by simp [staged'.file])
    refine ⟨.error ⟨400, "package_validation_failed", what e⟩, _,
      (rescue_of_error failed).trans (bind_of_ok discarded),
      .turnedAway _ _ (.inr (.inr fun cramped => fits cramped.storage)) nofun rfl ?_⟩
    exact (staged'.loose way).discarded nodes

theorem answerUpload_outcome (fresh : Fresh place origin request before) :
    ∃ answer s, answerUpload place origin request ⟨before, faults⟩ = (.ok answer, s) ∧
      Outcome place request before faults answer s.state := by
  unfold answerUpload
  rcases openStagingFile_cases place request before.files before.depot faults fresh.staging with
    ⟨e, files, failed, same, absent, cramped⟩ | ⟨files, opened, staged, way, room⟩
  · have unstaged : stageBody place request ⟨before, faults⟩ =
        (.ok (.error ⟨500, "package_staging_failed", what e⟩),
          ⟨⟨files, before.depot⟩, faults⟩) := recover_of_error (bind_of_error failed)
    refine ⟨_, _, bind_of_ok unstaged, .turnedAway _ _ (.inr (.inr cramped)) nofun rfl ?_⟩
    exact ⟨by simp [absent], fun path _ => same path⟩
  · obtain ⟨written, wrote, staged'⟩ :=
      @writeBody_run place request _ _ before.depot faults _ request.chunks 0 staged
    rw [Nat.zero_add] at wrote
    have staged_body : stageBody place request ⟨before, faults⟩ =
        (.ok (.ok (request.chunks.map String.length).sum),
          ⟨⟨written, before.depot⟩, faults⟩) := by
      refine recover_of_ok ?_
      rw [bind_of_ok opened, bind_of_ok wrote]
      rfl
    rw [bind_of_ok staged_body]
    change ∃ answer s, dispatch place origin request _ _ = _ ∧ _
    unfold dispatch
    cases ending : request.bodyEnd with
    | done =>
      obtain ⟨answer, s, committed, outcome⟩ := commit_outcome fresh staged' way room ending
      exact ⟨some answer, s, bind_of_ok committed, outcome⟩
    | bodyLimit =>
      exact ⟨_, _, rfl, .turnedAway _ _ (.inl (by simp [ending])) nofun rfl (staged'.loose way)⟩
    | invalid message =>
      exact ⟨_, _, rfl, .turnedAway _ _ (.inl (by simp [ending])) nofun rfl (staged'.loose way)⟩
    | aborted =>
      exact ⟨_, _, rfl, .turnedAway _ _ (.inl (by simp [ending])) nofun rfl (staged'.loose way)⟩

/-- The stored file is the one file more. -/
theorem Stored.fileAt {files files' : Tree} (stored : Stored place request files files')
    (way : ∀ path, path <+: stagingDirectory place →
      files.node path = none ∨ files.node path = some .directory) (path : Path) :
    fileAt files' path = if path = storagePath place request then some (.file request.body false)
      else PackageUploads.fileAt files path := by
  by_cases here : path = storagePath place request
  · rw [if_pos here, here]
    unfold PackageUploads.fileAt
    rw [stored.file]
  · rw [if_neg here]
    have now := stored path
    rw [if_neg here] at now
    by_cases within : path <+: stagingDirectory place
    · rw [if_pos within] at now
      unfold PackageUploads.fileAt
      rcases way path within with absent | directory
      · rw [now, absent]
      · rw [now, directory]
    · rw [if_neg within] at now
      exact fileAt_of_node now

/-- The close of the session answers nothing else and leaves no staging file. -/
theorem serveUpload_run {answer : Option (Answer AgentPackageRow)} {s : Session Repository}
    (answered : answerUpload place origin request ⟨before, faults⟩ = (.ok answer, s))
    (no_directory : s.state.files.node (stagingPath place request) ≠ some .directory) :
    ∃ files, serveUpload place origin request ⟨before, faults⟩ =
        (.ok answer, ⟨⟨files, s.state.depot⟩, s.faults⟩) ∧
      ∀ path, files.node path =
        if path = stagingPath place request then none else s.state.files.node path := by
  obtain ⟨files, discarded, nodes⟩ :=
    discardStaging_run s.state.depot s.faults no_directory
  refine ⟨files, ?_, nodes⟩
  unfold serveUpload
  rw [bind_of_ok answered, bind_of_ok discarded]
  rfl

theorem Stored.closed {files' final : Tree} (fresh : Fresh place origin request before)
    (stored : Stored place request before.files files')
    (nodes : ∀ path, final.node path =
      if path = stagingPath place request then none else files'.node path) :
    Stored place request before.files final := by
  intro path
  rw [nodes]
  by_cases here : path = stagingPath place request
  · rw [if_pos here, here, if_neg staging_ne_storage, if_neg staging_off_way, fresh.staging]
  · rw [if_neg here, stored]

theorem Stored.no_directory {files : Tree} (fresh : Fresh place origin request before)
    (stored : Stored place request before.files files) :
    files.node (stagingPath place request) ≠ some .directory := by
  rw [stored, if_neg staging_ne_storage, if_neg staging_off_way, fresh.staging]
  simp

/-- What the commit had renamed when it failed is in the repository for good. -/
theorem orphan_stays {refusal : ErrorResponse} {s : Session Repository}
    (fresh : Fresh place origin request before)
    (answered : answerUpload place origin request ⟨before, faults⟩ = (.ok (some (.error refusal)), s))
    (stored : Stored place request before.files s.state.files) :
    ¬ Kept place origin request before faults := by
  intro kept
  obtain ⟨files, served, nodes⟩ := serveUpload_run answered (stored.no_directory fresh)
  have same := (kept.failed _ _ served nofun).files (storagePath place request)
  change PackageUploads.fileAt files _ = _ at same
  have final := (stored.closed fresh nodes).file
  unfold PackageUploads.fileAt at same
  rw [final, fresh.storage] at same
  cases same

/-- A failed upload leaves the repository unchanged if and only if it fails before the
    staging file is moved; one that is answered with success always adds one file and one
    validated row. -/
theorem failed_upload_kept_iff (place : Place) (origin : Origin) (request : Request)
    (before : Repository) (faults : List (Option Fault))
    (fresh : Fresh place origin request before) :
    Kept place origin request before faults ↔ Clean place request before faults := by
  obtain ⟨answer, s, answered, outcome⟩ := @answerUpload_outcome _ _ _ _ faults fresh
  cases outcome with
  | turnedAway _ _ early refused depot loose =>
    obtain ⟨files, served, nodes⟩ := serveUpload_run answered loose.staging
    have clean : Clean place request before faults := by
      rcases early with unfinished | empty | cramped
      · exact .inl unfinished
      · exact .inr (.inl empty)
      · exact .inr (.inr (.inl cramped))
    have same : Unchanged before ⟨files, s.state.depot⟩ := by
      refine ⟨?_, by rw [depot]⟩
      intro path
      by_cases here : path = stagingPath place request
      · refine fileAt_of_node ?_
        rw [nodes, if_pos here, here, fresh.staging]
      · exact (loose.discarded nodes).files path here
    refine ⟨fun _ => clean, fun _ => ⟨?_, ?_⟩⟩
    · intro row s' gained
      rw [served] at gained
      cases gained
      exact absurd rfl (refused row)
    · intro other s' failed _
      rw [served] at failed
      cases failed
      exact same
  | created row _ accepted stored way status rows =>
    obtain ⟨files, served, nodes⟩ := serveUpload_run answered (stored.no_directory fresh)
    refine ⟨fun _ => .inr (.inr (.inr accepted)), fun _ => ⟨?_, ?_⟩⟩
    · intro row' s' gained
      rw [served] at gained
      cases gained
      have absent : PackageUploads.fileAt before.files (storagePath place request) = none := by
        unfold PackageUploads.fileAt
        rw [fresh.storage]
      exact ⟨absent, (stored.closed fresh nodes).fileAt way, status, fresh.row, rows⟩
    · intro other s' failed no_row
      rw [served] at failed
      cases failed
      exact absurd rfl (no_row row)
  | orphaned refusal _ late refused stored =>
    have broken := orphan_stays fresh answered stored
    refine ⟨fun kept => absurd kept broken, fun clean => ?_⟩
    rcases clean with unfinished | empty | cramped | accepted
    · exact (late (.inl unfinished)).elim
    · exact (late (.inr (.inl empty))).elim
    · exact (late (.inr (.inr cramped))).elim
    · exact (refused accepted).elim

end Whole

/-! A release and a body that is no archive -/

def releasePlace : Place where
  env := PublicationLifecycle.plainEnvironment
  packageRepository := ["packages"]
  readArchive content :=
    if content = "\x7b\x7d" then .ok PublicationLifecycle.releaseArchive
    else .error "failed to list archive entries: packages/a1.zip"

def releaseRequest (chunks : List String) : Request where
  packageId := PublicationLifecycle.releaseId
  filename := "zfleet_agent-v1.1.0-linux-x86_64-release.zip"
  chunks := chunks
  bodyEnd := .done
  unreadable := none

def emptyRepository : Repository := ⟨Tree.empty fun _ => true, Depot.empty⟩

theorem empty_fresh (chunks : List String) :
    Fresh releasePlace PublicationLifecycle.plainOrigin (releaseRequest chunks)
      emptyRepository := by
  constructor
  · simp [releaseRequest, PublicationLifecycle.releaseId]
  · simp [emptyRepository, Tree.empty, stagingPath]
  · simp [emptyRepository, Tree.empty, storagePath]
  · rfl
  · rfl

/-- A release that the engine lets through after it was busy once is kept as it should be. -/
theorem failed_upload_kept_iff_release :
    Fresh releasePlace PublicationLifecycle.plainOrigin (releaseRequest ["\x7b", "\x7d"])
        emptyRepository ∧
      Kept releasePlace PublicationLifecycle.plainOrigin (releaseRequest ["\x7b", "\x7d"])
        emptyRepository [some .busy] := by
  have fresh := empty_fresh ["\x7b", "\x7d"]
  have checked : validateAgentPackageUpload releasePlace.env.json
      (uploadedArchive releasePlace (releaseRequest ["\x7b", "\x7d"]))
      (releaseRequest ["\x7b", "\x7d"]).filename =
      .ok ⟨"agent", "1.1.0", "linux", "x86_64", "release", "1.0.0", 2, "", "\x7b\x7d"⟩ := by
    decide +kernel
  have passes : Passes [some .busy] := ⟨[], [], [], by decide, by decide, by decide⟩
  have clean : Clean releasePlace (releaseRequest ["\x7b", "\x7d"]) emptyRepository
      [some .busy] := Or.inr (Or.inr (Or.inr ⟨⟨_, checked⟩, passes⟩))
  exact ⟨fresh, (failed_upload_kept_iff releasePlace PublicationLifecycle.plainOrigin
    (releaseRequest ["\x7b", "\x7d"]) emptyRepository [some .busy] fresh).mpr clean⟩

/-- An upload that is no archive is refused, and its body stays in the repository. -/
theorem refused_upload_stays :
    ¬ Kept releasePlace PublicationLifecycle.plainOrigin (releaseRequest ["PK"])
      emptyRepository [] := by
  intro kept
  have refused : (serveUpload releasePlace PublicationLifecycle.plainOrigin
      (releaseRequest ["PK"]) ⟨emptyRepository, []⟩).1 =
      .ok (some (.error ⟨400, "package_validation_failed",
        "failed to list archive entries: packages/a1.zip"⟩)) := by decide +kernel
  have left : fileAt (serveUpload releasePlace PublicationLifecycle.plainOrigin
      (releaseRequest ["PK"]) ⟨emptyRepository, []⟩).2.state.files ["packages", "a1.zip"] =
      some (.file "PK" false) := by decide +kernel
  cases ran : serveUpload releasePlace PublicationLifecycle.plainOrigin
      (releaseRequest ["PK"]) ⟨emptyRepository, []⟩ with
  | mk answer s =>
    rw [ran] at refused left
    have no_row : ∀ row, answer ≠ .ok (some (.ok row)) := by
      rw [show answer = _ from refused]
      simp
    have same := (kept.failed answer s ran no_row).files ["packages", "a1.zip"]
    rw [left] at same
    cases same

end PackageUploads
