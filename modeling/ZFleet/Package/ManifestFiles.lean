import Mathlib.Data.List.Nodup
import ZFleet.Package.Manifest

/-!
The files of a manifest: relative paths and the checks of the `files` array. Texts are
sequences of bytes, one character each. What the JSON library gives for a member of an
entry is a value or the message of its exception.
-/
namespace Package

/-! Relative paths -/

/-- The parts of a path between its slashes; empty ones do not count. -/
def pieces (path : List Char) : List (List Char) := (path.splitOn '/').filter (· ≠ [])

def joinPieces (parts : List (List Char)) : List Char := ['/'].intercalate parts

def normalizePathSeparators (value : String) : List Char :=
  value.toList.map fun ch => if ch = '\\' then '/' else ch

def hasWindowsDrivePrefix : List Char → Bool
  | letter :: ':' :: _ => letter.isAlpha
  | _ => false

def isDots (piece : List Char) : Bool := piece = ['.'] || piece = ['.', '.']

def validateRelativePath (value : String) : Except String String :=
  let normalized := normalizePathSeparators value
  if normalized = [] then .error "must not be empty"
  else if isDots normalized then .error "must not be '.' or '..'"
  else if normalized.head? = some '/' then .error "must be a relative path"
  else if hasWindowsDrivePrefix normalized then .error "must not use a Windows drive path"
  else if (pieces normalized).any isDots then .error "must not contain '.' or '..'"
  else if pieces normalized = [] then .error "must not be empty"
  else .ok (String.ofList (joinPieces (pieces normalized)))

theorem of_mem_split {path part : List Char} (split : part ∈ path.splitOn '/') :
    ∀ ch ∈ part, ch ∈ path ∧ ch ≠ '/' := by
  induction path generalizing part with
  | nil =>
    simp only [List.splitOn_nil, List.mem_singleton] at split
    simp [split]
  | cons first rest ih =>
    have later : ∀ other ∈ rest.splitOn '/', ∀ ch ∈ other, ch ∈ first :: rest ∧ ch ≠ '/' :=
      fun other inside ch there =>
        ⟨List.mem_cons_of_mem _ (ih inside ch there).1, (ih inside ch there).2⟩
    rw [List.splitOn_cons_eq_if_modifyHead] at split
    by_cases slash : (first == '/') = true
    · rw [if_pos slash, List.mem_cons] at split
      rcases split with rfl | inside
      · simp
      · exact later part inside
    · rw [if_neg slash] at split
      cases parts : rest.splitOn '/' with
      | nil => exact absurd parts (List.splitOn_ne_nil '/' rest)
      | cons head others =>
        rw [parts] at later
        rw [parts, List.modifyHead_cons, List.mem_cons] at split
        rcases split with rfl | inside
        · intro ch there
          rcases List.mem_cons.mp there with rfl | within
          · exact ⟨List.mem_cons_self, fun same => slash (beq_iff_eq.mpr same)⟩
          · exact later head List.mem_cons_self ch within
        · exact later part (List.mem_cons_of_mem _ inside)

theorem of_mem_pieces {path part : List Char} (piece : part ∈ pieces path) :
    part ≠ [] ∧ ∀ ch ∈ part, ch ∈ path ∧ ch ≠ '/' := by
  obtain ⟨split, nonempty⟩ := List.mem_filter.mp piece
  exact ⟨of_decide_eq_true nonempty, of_mem_split split⟩

theorem pieces_join {parts : List (List Char)} (nonempty : parts ≠ [])
    (proper : ∀ part ∈ parts, part ≠ [] ∧ '/' ∉ part) : pieces (joinPieces parts) = parts := by
  unfold pieces joinPieces
  rw [List.splitOn_intercalate '/' (fun part inside => (proper part inside).2) nonempty,
    List.filter_eq_self]
  intro part inside
  exact decide_eq_true (proper part inside).1

/-- A path in the form in which a manifest keeps it. -/
structure NormalPath (path : String) : Prop where
  nonempty : pieces path.toList ≠ []
  joined : joinPieces (pieces path.toList) = path.toList
  proper : ∀ part ∈ pieces path.toList, isDots part = false

theorem validateRelativePath_normal {value path : String}
    (valid : validateRelativePath value = .ok path) : NormalPath path := by
  unfold validateRelativePath at valid
  simp only at valid
  repeat' split at valid
  all_goals try cases valid
  rename_i no_dots some_piece
  have parts_eq : pieces (joinPieces (pieces (normalizePathSeparators value))) =
      pieces (normalizePathSeparators value) :=
    pieces_join some_piece fun part inside =>
      ⟨(of_mem_pieces inside).1, fun slash => ((of_mem_pieces inside).2 '/' slash).2 rfl⟩
  constructor
  · rw [String.toList_ofList, parts_eq]
    exact some_piece
  · rw [String.toList_ofList, parts_eq]
  · intro part inside
    rw [String.toList_ofList, parts_eq] at inside
    by_contra dots
    exact no_dots (List.any_eq_true.mpr ⟨part, inside, by simpa using dots⟩)

/-- Normal paths are told apart by their pieces. -/
theorem NormalPath.ext {path path' : String} (normal : NormalPath path)
    (normal' : NormalPath path') (same : pieces path.toList = pieces path'.toList) :
    path = path' := by
  rw [← String.toList_inj, ← normal.joined, ← normal'.joined, same]

/-! Paths as the system reads them -/

def nul : Char := Char.ofNat 0

/-- The system takes a path to end at its first NUL. -/
def cutAtNul : List (List Char) → List (List Char)
  | [] => []
  | piece :: rest =>
    if nul ∈ piece then [piece.takeWhile (· ≠ nul)].filter (· ≠ [])
    else piece :: cutAtNul rest

def osPath (path : String) : List String := (cutAtNul (pieces path.toList)).map String.ofList

/-- The directory that a path names before its last piece. -/
def osParent (path : String) : List String :=
  (cutAtNul (pieces path.toList).dropLast).map String.ofList

theorem cutAtNul_free {parts : List (List Char)} (free : ∀ part ∈ parts, nul ∉ part) :
    cutAtNul parts = parts := by
  induction parts with
  | nil => rfl
  | cons part rest ih =>
    rw [cutAtNul, if_neg (free part List.mem_cons_self),
      ih fun other inside => free other (List.mem_cons_of_mem _ inside)]

/-- A cut path of two names starts with the first piece as it is. -/
theorem cutAtNul_two {parts : List (List Char)} {first second : List Char}
    {rest : List (List Char)} (cut : cutAtNul parts = first :: second :: rest) :
    parts.head? = some first := by
  cases parts with
  | nil => cases cut
  | cons part others =>
    rw [cutAtNul] at cut
    split at cut
    · have short := congrArg List.length cut
      have filtered := List.length_filter_le (fun x => decide (x ≠ []))
        [part.takeWhile fun ch => decide (ch ≠ nul)]
      simp only [List.length_cons, List.length_nil] at short filtered
      omega
    · rw [List.head?_cons, (List.cons.inj cut).1]

def NulFree (path : String) : Prop := nul ∉ path.toList

instance (path : String) : Decidable (NulFree path) := by
  unfold NulFree
  infer_instance

theorem nulFree_pieces {path : String} (free : NulFree path) :
    ∀ part ∈ pieces path.toList, nul ∉ part :=
  fun _ inside there => free ((of_mem_pieces inside).2 nul there).1

theorem osPath_free {path : String} (free : NulFree path) :
    osPath path = (pieces path.toList).map String.ofList := by
  rw [osPath, cutAtNul_free (nulFree_pieces free)]

/-- Without a NUL in them, normal paths are different files for the system. -/
theorem osPath_inj {path path' : String} (free : NulFree path) (free' : NulFree path')
    (normal : NormalPath path) (normal' : NormalPath path') (same : osPath path = osPath path') :
    path = path' := by
  rw [osPath_free free, osPath_free free'] at same
  have injective : Function.Injective String.ofList := by
    intro chars chars' texts
    rw [← String.toList_ofList (l := chars), texts, String.toList_ofList]
  exact normal.ext normal' (List.map_injective_iff.mpr injective same)

/-! The entries of a manifest -/

/-- A member `signatures` that is there is an array; and what the members of one entry
    of `files` give. -/
structure RawFile where
  source : Except String String
  target : Except String String
  size : Except String Int
  sha256 : Except String String
  launchable : Except String Bool

structure RawLibrary where
  parse : String → Except String (Option JsonObject)
  /-- The `files` array, if there is one. -/
  filesArray : JsonObject → Option (List RawFile)
  /-- There is a member `signatures` that is no array. -/
  oddSignatures : JsonObject → Bool

def isLowerHexSha256 (value : String) : Bool :=
  value.length = 64 && value.toList.all fun ch => ch.isDigit || ('a' ≤ ch && ch ≤ 'f')

/-- The message of a failed check starts with the field's name. -/
def relativePathIn (field : String) (raw : Except String String) : Except String String := do
  match validateRelativePath (← raw) with
  | .ok path => .ok path
  | .error message => .error (field ++ " " ++ message)

def requiredSize (raw : Except String Int) : Except String Nat := do
  let parsed ← raw
  if parsed < 0 then .error "size must be non-negative" else .ok parsed.toNat

def underMeta (target : String) : Bool :=
  target = "META" || "META/".toList.isPrefixOf target.toList

def checkFile (targets : List String) (raw : RawFile) : Except String ManifestFile := do
  let source ← relativePathIn "source" raw.source
  let target ← relativePathIn "target" raw.target
  let size ← requiredSize raw.size
  let sha256 ← raw.sha256
  let launchable ← raw.launchable
  if !"payload/".toList.isPrefixOf source.toList then .error "source must start with payload/"
  else if underMeta target then .error "target must not write under META/"
  else if !isLowerHexSha256 sha256 then .error "sha256 must be 64 lowercase hex chars"
  else if target ∈ targets then .error ("duplicate target: " ++ target)
  else .ok ⟨source, target, size, sha256, launchable⟩

/-- The targets are those of the entries before. -/
def checkFiles (targets : List String) : List RawFile → Except String (List ManifestFile)
  | [] => .ok []
  | raw :: rest => do
    let file ← checkFile targets raw
    let files ← checkFiles (file.target :: targets) rest
    .ok (file :: files)

def RawLibrary.files (library : RawLibrary) (json : JsonObject) :
    Except String (List ManifestFile) :=
  match library.filesArray json with
  | none => .error "files must be an array"
  | some raws =>
    if library.oddSignatures json then .error "signatures must be an array"
    else checkFiles [] raws

def RawLibrary.toLibrary (library : RawLibrary) : JsonLibrary where
  parse := library.parse
  files := library.files

structure CheckedFile (file : ManifestFile) : Prop where
  source : NormalPath file.source
  target : NormalPath file.target
  outside_meta : underMeta file.target = false
  digest : isLowerHexSha256 file.sha256 = true

structure CheckedFiles (files : List ManifestFile) : Prop where
  each : ∀ file ∈ files, CheckedFile file
  distinct : (files.map ManifestFile.target).Nodup

/-- A first piece `META` does not get past the check. -/
theorem underMeta_of_head {path : String} (normal : NormalPath path)
    (head : (pieces path.toList).head? = some "META".toList) : underMeta path = true := by
  have joined := normal.joined
  cases parts : pieces path.toList with
  | nil => exact absurd parts normal.nonempty
  | cons first rest =>
    rw [parts, List.head?_cons, Option.some.injEq] at head
    rw [parts, head, joinPieces] at joined
    unfold underMeta
    cases rest with
    | nil =>
      rw [List.intercalate_singleton, String.toList_inj] at joined
      rw [← joined]
      rfl
    | cons second rest =>
      rw [List.intercalate_cons_cons] at joined
      have inside : "META/".toList <+: path.toList := by
        rw [← joined]
        exact List.prefix_append ("META".toList ++ ['/']) _
      rw [List.isPrefixOf_iff_prefix.mpr inside, Bool.or_true]

theorem CheckedFile.not_manifest {file : ManifestFile} (checked : CheckedFile file) :
    osPath file.target ≠ ["META", "manifest.json"] := by
  intro same
  have cut : cutAtNul (pieces file.target.toList) =
      ["META".toList, "manifest.json".toList] := by
    have texts := congrArg (List.map String.toList) same
    rw [osPath, List.map_map] at texts
    have undone : (String.toList ∘ String.ofList) = id := by
      funext chars
      exact String.toList_ofList
    rw [undone, List.map_id] at texts
    exact texts
  have under := underMeta_of_head checked.target (cutAtNul_two cut)
  rw [checked.outside_meta] at under
  cases under

theorem except_bind_ok {α β : Type} {first : Except String α} {next : α → Except String β} {b : β}
    (done : (first >>= next) = .ok b) : ∃ a, first = .ok a ∧ next a = .ok b := by
  cases first with
  | error message => cases done
  | ok a => exact ⟨a, rfl, done⟩

theorem relativePathIn_normal {field path : String} {raw : Except String String}
    (valid : relativePathIn field raw = .ok path) : NormalPath path := by
  obtain ⟨text, -, checked⟩ := except_bind_ok valid
  cases result : validateRelativePath text with
  | error message =>
    rw [result] at checked
    cases checked
  | ok normal =>
    rw [result] at checked
    cases checked
    exact validateRelativePath_normal result

theorem checkFile_ok {targets : List String} {raw : RawFile} {file : ManifestFile}
    (done : checkFile targets raw = .ok file) : CheckedFile file ∧ file.target ∉ targets := by
  obtain ⟨source, source_ok, after_source⟩ := except_bind_ok done
  obtain ⟨target, target_ok, after_target⟩ := except_bind_ok after_source
  obtain ⟨size, -, after_size⟩ := except_bind_ok after_target
  obtain ⟨sha256, -, after_sha256⟩ := except_bind_ok after_size
  obtain ⟨launchable, -, checks⟩ := except_bind_ok after_sha256
  clear done after_source after_target after_size after_sha256
  split at checks
  · cases checks
  · split at checks
    · cases checks
    · rename_i outside
      split at checks
      · cases checks
      · rename_i hex
        split at checks
        · cases checks
        · rename_i new
          cases checks
          refine ⟨⟨relativePathIn_normal source_ok, relativePathIn_normal target_ok, ?_, ?_⟩, new⟩
          · exact Bool.eq_false_iff.mpr outside
          · simpa only [Bool.not_eq_true', Bool.not_eq_false] using hex

theorem checkFiles_ok {targets : List String} {raws : List RawFile} {files : List ManifestFile}
    (done : checkFiles targets raws = .ok files) :
    CheckedFiles files ∧ ∀ file ∈ files, file.target ∉ targets := by
  induction raws generalizing targets files with
  | nil =>
    cases done
    exact ⟨⟨by simp, by simp⟩, by simp⟩
  | cons raw rest ih =>
    obtain ⟨file, first, done⟩ := except_bind_ok done
    obtain ⟨others, later, done⟩ := except_bind_ok done
    cases done
    obtain ⟨checked, new⟩ := checkFile_ok first
    obtain ⟨⟨each, distinct⟩, apart⟩ := ih later
    have file_new : file.target ∉ others.map ManifestFile.target := by
      intro listed
      obtain ⟨other, inside, same⟩ := List.mem_map.mp listed
      exact apart other inside (by rw [same]; exact List.mem_cons_self)
    refine ⟨⟨?_, ?_⟩, ?_⟩
    · intro other inside
      rcases List.mem_cons.mp inside with rfl | inside
      · exact checked
      · exact each other inside
    · rw [List.map_cons, List.nodup_cons]
      exact ⟨file_new, distinct⟩
    · intro other inside
      rcases List.mem_cons.mp inside with rfl | inside
      · exact new
      · exact fun listed => apart other inside (List.mem_cons_of_mem _ listed)

/-- What the checks say of a manifest that they let through. -/
structure CheckedManifest (manifest : Manifest) : Prop where
  component : isKnownComponent manifest.component = true
  version : isSafePathSegment manifest.version = true
  files : CheckedFiles manifest.files

theorem validatePathSegment_ok {field value result : String}
    (valid : validatePathSegment field value = .ok result) :
    result = value ∧ isSafePathSegment value = true := by
  unfold validatePathSegment at valid
  repeat' split at valid
  all_goals try cases valid
  rename_i safe
  exact ⟨rfl, by simpa using safe⟩

theorem parseManifestJson_checked {library : RawLibrary} {text : String} {manifest : Manifest}
    (parsed : parseManifestJson library.toLibrary text = .ok manifest) :
    CheckedManifest manifest := by
  obtain ⟨value, -, parsed⟩ := except_bind_ok parsed
  cases value with
  | none => cases parsed
  | some json =>
    obtain ⟨schemaVersion, -, parsed⟩ := except_bind_ok parsed
    obtain ⟨component, -, parsed⟩ := except_bind_ok parsed
    obtain ⟨version, -, parsed⟩ := except_bind_ok parsed
    obtain ⟨platform, -, parsed⟩ := except_bind_ok parsed
    obtain ⟨arch, -, parsed⟩ := except_bind_ok parsed
    obtain ⟨buildType, -, parsed⟩ := except_bind_ok parsed
    obtain ⟨minInstallerVersion, -, parsed⟩ := except_bind_ok parsed
    split at parsed
    · cases parsed
    · split at parsed
      · cases parsed
      · obtain ⟨checkedVersion, version_ok, parsed⟩ := except_bind_ok parsed
        obtain ⟨checkedPlatform, -, parsed⟩ := except_bind_ok parsed
        obtain ⟨checkedArch, -, parsed⟩ := except_bind_ok parsed
        obtain ⟨checkedBuildType, -, parsed⟩ := except_bind_ok parsed
        split at parsed
        · cases parsed
        · rename_i known
          obtain ⟨files, files_ok, parsed⟩ := except_bind_ok parsed
          cases parsed
          obtain ⟨rfl, safe⟩ := validatePathSegment_ok version_ok
          refine ⟨by simpa using known, safe, ?_⟩
          change library.files json = .ok files at files_ok
          unfold RawLibrary.files at files_ok
          split at files_ok
          · cases files_ok
          · split at files_ok
            · cases files_ok
            · exact (checkFiles_ok files_ok).1

end Package
