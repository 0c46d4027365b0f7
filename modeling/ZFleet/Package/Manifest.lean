import Mathlib.Algebra.Group.Nat.Defs

/-!
Package manifests and the validation of an uploaded archive. JSON texts, archives and
digests come from libraries, so they are given as what these return; every failure is an
exception with a message.
-/
namespace Package

/-- A member of a JSON object, as far as the callers tell them apart. -/
inductive JsonValue where
  | text (value : String)
  | integer (value : Int)
  | other
  deriving DecidableEq, Repr

abbrev JsonObject := String → Option JsonValue

structure ManifestFile where
  source : String
  target : String
  size : Nat
  sha256 : String
  launchable : Bool
  deriving DecidableEq, Repr

/-- The JSON library: a text is an object, another value (`none`) or no JSON; and the
    entries of the `files` array, which has its own checks. -/
structure JsonLibrary where
  parse : String → Except String (Option JsonObject)
  files : JsonObject → Except String (List ManifestFile)

structure Manifest where
  schemaVersion : Int
  component : String
  version : String
  platform : String
  arch : String
  buildType : String
  minInstallerVersion : String
  files : List ManifestFile
  deriving DecidableEq, Repr

/-- A text member that must be there. -/
def required (json : JsonObject) (key : String) : Except String String :=
  match json key with
  | some (.text value) => .ok value
  | some _ => .error "type must be string"
  | none => .error ("key '" ++ key ++ "' not found")

/-- The library gives an integer as an `int` by its low 32 bits. -/
def toInt (value : Int) : Int := value.bmod (2 ^ 32)

def requiredInt (json : JsonObject) (key : String) : Except String Int :=
  match json key with
  | some (.integer value) => .ok (toInt value)
  | some _ => .error (key ++ " must be an integer")
  | none => .error ("key '" ++ key ++ "' not found")

/-- A text member with a default. -/
def valueOr (json : JsonObject) (key fallback : String) : Except String String :=
  match json key with
  | some (.text value) => .ok value
  | some _ => .error "type must be string"
  | none => .ok fallback

def optionalText (json : JsonObject) (key : String) : Except String (Option String) :=
  match json key with
  | some (.text value) => .ok (some value)
  | some _ => .error "type must be string"
  | none => .ok none

def isSafePathSegment (value : String) : Bool :=
  value ≠ "" && value ≠ "." && value ≠ ".." &&
    value.toList.all fun ch => ch.isAlphanum || ch = '.' || ch = '_' || ch = '-'

/-- A value that names a directory; the message starts with the field's name. -/
def validatePathSegment (field value : String) : Except String String :=
  if value = "" then .error (field ++ " must not be empty")
  else if value = "." ∨ value = ".." then .error (field ++ " must not be '.' or '..'")
  else if !isSafePathSegment value then
    .error (field ++ " expected non-empty single segment using only letters, digits, '.', '_', or '-'")
  else .ok value

def validateBuildType (buildType : String) : Except String String :=
  if buildType ≠ "debug" ∧ buildType ≠ "release" then
    .error "build_type must be debug or release"
  else .ok buildType

def isKnownComponent (component : String) : Bool :=
  component = "agent" || component = "server" || component = "installer"

def isSupportedPackageComponent (component : String) : Bool :=
  component = "agent" || component = "installer"

def parseManifestJson (library : JsonLibrary) (text : String) : Except String Manifest := do
  match ← library.parse text with
  | none => .error "manifest must be a JSON object"
  | some json =>
    let schemaVersion ← requiredInt json "schema_version"
    let component ← required json "component"
    let version ← required json "version"
    let platform ← required json "platform"
    let arch ← required json "arch"
    let buildType ← required json "build_type"
    let minInstallerVersion ← required json "min_installer_version"
    if schemaVersion ≠ 2 then .error "schema_version must be 2"
    else if minInstallerVersion = "" then .error "min_installer_version must not be empty"
    else do
      let version ← validatePathSegment "version" version
      let platform ← validatePathSegment "platform" platform
      let arch ← validatePathSegment "arch" arch
      let buildType ← validateBuildType buildType
      if !isKnownComponent component then .error "component expected agent, server, or installer"
      else do
        let files ← library.files json
        .ok ⟨schemaVersion, component, version, platform, arch, buildType, minInstallerVersion,
          files⟩

/-! Archives -/

/-- The bytes of an entry, as far as they are compared. -/
structure EntryContent where
  size : Nat
  sha256 : String
  deriving DecidableEq, Repr

structure ArchiveEntry where
  path : String
  content : Except String EntryContent

/-- What reading a package archive gives; reading an entry may fail. -/
structure Archive where
  entries : List ArchiveEntry
  manifestJson : Except String String
  sizeBytes : Nat
  sha256 : String

def manifestPath : String := "META/manifest.json"

def Archive.entry (archive : Archive) (path : String) : Option ArchiveEntry :=
  archive.entries.find? fun entry => entry.path = path

structure AgentPackageMetadata where
  component : String
  version : String
  platform : String
  arch : String
  buildType : String
  minInstallerVersion : String
  sizeBytes : Nat
  sha256 : String
  manifestJson : String
  deriving DecidableEq, Repr

def validateManifestFile (archive : Archive) (file : ManifestFile) : Except String Unit := do
  match archive.entry file.source with
  | none => .error ("manifest file missing from archive: " ++ file.source)
  | some entry =>
    let content ← entry.content
    if content.size ≠ file.size then .error ("manifest file size mismatch: " ++ file.source)
    else if content.sha256 ≠ file.sha256 then
      .error ("manifest file sha256 mismatch: " ++ file.source)
    else .ok ()

def expectedFilename (manifest : Manifest) : String :=
  "zfleet_" ++ manifest.component ++ "-v" ++ manifest.version ++ "-" ++ manifest.platform ++
    "-" ++ manifest.arch ++ "-" ++ manifest.buildType ++ ".zip"

/-- `stored` is what is found at the storage path: an archive or a message why not. -/
def validateAgentPackageUpload (library : JsonLibrary) (stored : Except String Archive)
    (filename : String) : Except String AgentPackageMetadata := do
  let archive ← stored
  if (archive.entry manifestPath).isNone then
    .error "package archive missing META/manifest.json"
  else do
    let manifestJson ← archive.manifestJson
    let manifest ← parseManifestJson library manifestJson
    if !isSupportedPackageComponent manifest.component then
      .error "manifest component must be agent or installer"
    else if filename ≠ expectedFilename manifest then
      .error ("package filename metadata does not match manifest: expected " ++
        expectedFilename manifest)
    else do
      let _ ← manifest.files.mapM (validateManifestFile archive)
      .ok ⟨manifest.component, manifest.version, manifest.platform, manifest.arch,
        manifest.buildType, manifest.minInstallerVersion, archive.sizeBytes, archive.sha256,
        manifestJson⟩

end Package
