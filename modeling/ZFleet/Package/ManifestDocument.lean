import Mathlib.Data.List.Forall2
import ZFleet.Package.ManifestFiles
import ZFleet.Package.RelativePaths

/-!
Manifests as JSON documents: what the parser reads out of a document, the grammar of
manifests, and the document that is written for a manifest. The JSON library turns texts
into documents and back; a member that is asked for as a C++ integer is cut to its width.
-/
namespace Package

/-- The integers that the library keeps; larger ones become floating-point numbers. -/
abbrev StoredInteger := { value : Int // -2 ^ 63 ≤ value ∧ value < 2 ^ 64 }

/-- A JSON value. An object has at most one value for a key, and no order. -/
inductive JsonDocument where
  | object (members : String → Option JsonDocument)
  | array (items : List JsonDocument)
  | text (value : String)
  | integer (value : StoredInteger)
  | boolean (value : Bool)
  /-- Null and the floating-point numbers. -/
  | other

def JsonDocument.find (json : JsonDocument) (key : String) : Option JsonDocument :=
  match json with
  | .object members => members key
  | _ => none

def JsonDocument.member (json : JsonDocument) (key : String) : Except String JsonDocument :=
  match json.find key with
  | some value => .ok value
  | none => .error ("key '" ++ key ++ "' not found")

def JsonDocument.view : JsonDocument → JsonValue
  | .text value => .text value
  | .integer value => .integer value
  | _ => .other

/-- The library gives an integer as a `long long` by its low 64 bits. -/
def toLongLong (value : Int) : Int := value.bmod (2 ^ 64)

def rawText (json : JsonDocument) (key : String) : Except String String := do
  match ← json.member key with
  | .text value => .ok value
  | _ => .error "type must be string"

def rawSize (json : JsonDocument) : Except String Int := do
  match ← json.member "size" with
  | .integer value => .ok (toLongLong value)
  | _ => .error "size must be an integer"

def rawBoolean (json : JsonDocument) (key : String) : Except String Bool := do
  match ← json.member key with
  | .boolean value => .ok value
  | _ => .error "type must be boolean"

def rawFile (json : JsonDocument) : RawFile :=
  ⟨rawText json "source", rawText json "target", rawSize json, rawText json "sha256",
    rawBoolean json "launchable"⟩

/-- What the library gives for the members of one document. -/
def documentLibrary (json : JsonDocument) : RawLibrary where
  parse _ := .ok <|
    match json with
    | .object members => some fun key => (members key).map JsonDocument.view
    | _ => none
  filesArray _ :=
    match json.find "files" with
    | some (.array items) => some (items.map rawFile)
    | _ => none
  oddSignatures _ :=
    match json.find "signatures" with
    | none | some (.array _) => false
    | _ => true

/-- `ParseManifestJson` with the library's parser of texts. -/
def parseManifestText (parse : String → Except String JsonDocument) (text : String) :
    Except String Manifest := do
  let json ← parse text
  parseManifestJson (documentLibrary json).toLibrary text

/-! The grammar -/

structure FileEntry (json : JsonDocument) (file : ManifestFile) : Prop where
  source : ∃ raw, json.find "source" = some (.text raw) ∧ SafeRelative raw file.source
  under_payload : "payload/".toList <+: file.source.toList
  target : ∃ raw, json.find "target" = some (.text raw) ∧ SafeRelative raw file.target
  outside_meta : file.target ≠ "META" ∧ ¬ "META/".toList <+: file.target.toList
  size : ∃ stored : StoredInteger, json.find "size" = some (.integer stored) ∧
    stored.val = file.size ∧ file.size < 2 ^ 63
  sha256 : json.find "sha256" = some (.text file.sha256)
  digest : isLowerHexSha256 file.sha256 = true
  launchable : json.find "launchable" = some (.boolean file.launchable)

/-- The document of a manifest, given which integers are taken for the schema version. -/
structure ManifestGrammar (schema : Int → Prop) (json : JsonDocument) (manifest : Manifest) :
    Prop where
  schema_version : ∃ stored : StoredInteger, json.find "schema_version" = some (.integer stored) ∧
    schema stored.val
  schemaVersion : manifest.schemaVersion = 2
  component : json.find "component" = some (.text manifest.component)
  known : manifest.component ∈ ["agent", "server", "installer"]
  version : json.find "version" = some (.text manifest.version)
  safe_version : isSafePathSegment manifest.version = true
  platform : json.find "platform" = some (.text manifest.platform)
  safe_platform : isSafePathSegment manifest.platform = true
  arch : json.find "arch" = some (.text manifest.arch)
  safe_arch : isSafePathSegment manifest.arch = true
  buildType : json.find "build_type" = some (.text manifest.buildType)
  known_buildType : manifest.buildType = "debug" ∨ manifest.buildType = "release"
  minInstallerVersion : json.find "min_installer_version" = some (.text manifest.minInstallerVersion)
  some_minInstallerVersion : manifest.minInstallerVersion ≠ ""
  signatures : ∀ value, json.find "signatures" = some value → ∃ items, value = .array items
  files : ∃ items, json.find "files" = some (.array items) ∧
    List.Forall₂ FileEntry items manifest.files
  distinct : (manifest.files.map ManifestFile.target).Nodup

/-! What the getters give -/

theorem except_bind_ok_iff {α β : Type} {first : Except String α} {next : α → Except String β}
    {b : β} : (first >>= next) = .ok b ↔ ∃ a, first = .ok a ∧ next a = .ok b := by
  constructor
  · exact except_bind_ok
  · rintro ⟨a, found, done⟩
    rw [found]
    exact done

theorem member_ok {json value : JsonDocument} {key : String} :
    json.member key = .ok value ↔ json.find key = some value := by
  unfold JsonDocument.member
  cases json.find key <;> simp

theorem rawText_ok {json : JsonDocument} {key value : String} :
    rawText json key = .ok value ↔ json.find key = some (.text value) := by
  unfold rawText
  rw [except_bind_ok_iff]
  constructor
  · rintro ⟨found, member, done⟩
    rw [member_ok] at member
    split at done
    · cases done
      exact member
    · cases done
  · intro member
    exact ⟨.text value, member_ok.mpr member, rfl⟩

theorem rawBoolean_ok {json : JsonDocument} {key : String} {value : Bool} :
    rawBoolean json key = .ok value ↔ json.find key = some (.boolean value) := by
  unfold rawBoolean
  rw [except_bind_ok_iff]
  constructor
  · rintro ⟨found, member, done⟩
    rw [member_ok] at member
    split at done
    · cases done
      exact member
    · cases done
  · intro member
    exact ⟨.boolean value, member_ok.mpr member, rfl⟩

/-- As a `long long` an integer beyond 2^63 is negative. -/
theorem toLongLong_nonneg (stored : StoredInteger) (size : Nat) :
    (0 ≤ toLongLong stored.val ∧ (toLongLong stored.val).toNat = size) ↔
      stored.val = size ∧ size < 2 ^ 63 := by
  obtain ⟨value, least, most⟩ := stored
  unfold toLongLong
  rw [Int.bmod_def]
  simp only [Nat.cast_pow, Nat.cast_ofNat]
  split <;> omega

theorem size_ok {json : JsonDocument} {size : Nat} :
    requiredSize (rawSize json) = .ok size ↔
      ∃ stored : StoredInteger, json.find "size" = some (.integer stored) ∧
        stored.val = size ∧ size < 2 ^ 63 := by
  unfold requiredSize rawSize
  rw [except_bind_ok_iff]
  constructor
  · rintro ⟨value, read, done⟩
    obtain ⟨found, member, given⟩ := except_bind_ok read
    rw [member_ok] at member
    split at given
    · rename_i stored
      cases given
      split at done
      · cases done
      · rename_i nonneg
        refine ⟨stored, member, ?_⟩
        exact (toLongLong_nonneg stored size).mp ⟨by omega, Except.ok.inj done⟩
    · cases given
  · rintro ⟨stored, member, value⟩
    obtain ⟨nonneg, read⟩ := (toLongLong_nonneg stored size).mpr value
    refine ⟨toLongLong stored.val, ?_, ?_⟩
    · exact except_bind_ok_iff.mpr ⟨.integer stored, member_ok.mpr member, rfl⟩
    · rw [if_neg (by omega), read]

theorem relativePathIn_ok {json : JsonDocument} {key path : String} :
    relativePathIn key (rawText json key) = .ok path ↔
      ∃ raw, json.find key = some (.text raw) ∧ SafeRelative raw path := by
  unfold relativePathIn
  rw [except_bind_ok_iff]
  constructor
  · rintro ⟨raw, read, done⟩
    refine ⟨raw, rawText_ok.mp read, ?_⟩
    rw [← validateRelativePath_iff]
    split at done
    · rename_i valid
      rw [valid]
      exact done
    · cases done
  · rintro ⟨raw, member, safe⟩
    refine ⟨raw, rawText_ok.mpr member, ?_⟩
    rw [safe.validated]

theorem underMeta_iff {target : String} :
    underMeta target = true ↔ target = "META" ∨ "META/".toList <+: target.toList := by
  simp [underMeta, List.isPrefixOf_iff_prefix]

theorem checkFile_iff {targets : List String} {json : JsonDocument} {file : ManifestFile} :
    checkFile targets (rawFile json) = .ok file ↔ FileEntry json file ∧ file.target ∉ targets := by
  unfold checkFile rawFile
  constructor
  · intro done
    obtain ⟨source, source_ok, done⟩ := except_bind_ok done
    obtain ⟨target, target_ok, done⟩ := except_bind_ok done
    obtain ⟨size, sized, done⟩ := except_bind_ok done
    obtain ⟨sha256, sha256_ok, done⟩ := except_bind_ok done
    obtain ⟨launchable, launchable_ok, done⟩ := except_bind_ok done
    split at done
    · cases done
    · rename_i payload
      split at done
      · cases done
      · rename_i outside
        split at done
        · cases done
        · rename_i hex
          split at done
          · cases done
          · rename_i new
            cases done
            rw [underMeta_iff, not_or] at outside
            refine ⟨⟨relativePathIn_ok.mp source_ok, ?_, relativePathIn_ok.mp target_ok, outside,
              size_ok.mp sized, rawText_ok.mp sha256_ok, by simpa using hex,
              rawBoolean_ok.mp launchable_ok⟩, new⟩
            exact List.isPrefixOf_iff_prefix.mp (by simpa using payload)
  · rintro ⟨entry, new⟩
    have payload := List.isPrefixOf_iff_prefix.mpr entry.under_payload
    have outside : underMeta file.target = false := by
      rw [← Bool.not_eq_true, underMeta_iff, not_or]
      exact entry.outside_meta
    simp only [except_bind_ok_iff]
    refine ⟨_, relativePathIn_ok.mpr entry.source, _, relativePathIn_ok.mpr entry.target, _,
      size_ok.mpr entry.size, _, rawText_ok.mpr entry.sha256, _,
      rawBoolean_ok.mpr entry.launchable, ?_⟩
    simp only [payload, outside, entry.digest, new, Bool.not_true, Bool.false_eq_true, if_false]

theorem checkFiles_iff {targets : List String} {items : List JsonDocument}
    {files : List ManifestFile} :
    checkFiles targets (items.map rawFile) = .ok files ↔
      List.Forall₂ FileEntry items files ∧ (files.map ManifestFile.target).Nodup ∧
        ∀ file ∈ files, file.target ∉ targets := by
  induction items generalizing targets files with
  | nil =>
    constructor
    · intro done
      cases done
      exact ⟨.nil, by simp, by simp⟩
    · rintro ⟨entries, _⟩
      cases entries
      rfl
  | cons item items ih =>
    rw [List.map_cons, checkFiles, except_bind_ok_iff]
    constructor
    · rintro ⟨file, first, done⟩
      obtain ⟨others, later, done⟩ := except_bind_ok done
      cases done
      obtain ⟨entry, new⟩ := checkFile_iff.mp first
      obtain ⟨entries, distinct, apart⟩ := ih.mp later
      refine ⟨.cons entry entries, ?_, ?_⟩
      · rw [List.map_cons, List.nodup_cons]
        refine ⟨?_, distinct⟩
        intro listed
        obtain ⟨other, inside, same⟩ := List.mem_map.mp listed
        exact apart other inside (by simp [same])
      · intro other inside
        rcases List.mem_cons.mp inside with rfl | inside
        · exact new
        · intro listed
          exact apart other inside (List.mem_cons_of_mem _ listed)
    · rintro ⟨entries, distinct, apart⟩
      cases entries with
      | cons entry entries =>
        rename_i file others
        rw [List.map_cons, List.nodup_cons] at distinct
        refine ⟨file, checkFile_iff.mpr ⟨entry, apart file (by simp)⟩, ?_⟩
        refine except_bind_ok_iff.mpr ⟨others, ih.mpr ⟨entries, distinct.2, ?_⟩, rfl⟩
        intro other inside
        rw [List.mem_cons, not_or]
        refine ⟨?_, apart other (List.mem_cons_of_mem _ inside)⟩
        intro same
        exact distinct.1 (List.mem_map.mpr ⟨other, inside, same⟩)

/-! The whole manifest -/

/-- The members of the document as the parser sees them. -/
def JsonDocument.members (json : JsonDocument) : JsonObject :=
  fun key => (json.find key).map JsonDocument.view

theorem required_ok {json : JsonDocument} {key value : String} :
    required json.members key = .ok value ↔ json.find key = some (.text value) := by
  unfold required JsonDocument.members
  cases json.find key with
  | none => simp
  | some found => cases found <;> simp [JsonDocument.view]

theorem requiredInt_ok {json : JsonDocument} {key : String} {value : Int} :
    requiredInt json.members key = .ok value ↔
      ∃ stored : StoredInteger, json.find key = some (.integer stored) ∧ toInt stored = value := by
  unfold requiredInt JsonDocument.members
  cases json.find key with
  | none => simp
  | some found => cases found <;> simp [JsonDocument.view]

theorem validatePathSegment_iff {field value result : String} :
    validatePathSegment field value = .ok result ↔
      result = value ∧ isSafePathSegment value = true := by
  constructor
  · exact validatePathSegment_ok
  · rintro ⟨rfl, safe⟩
    have named := safe
    simp only [isSafePathSegment, Bool.and_eq_true, decide_eq_true_eq] at named
    simp [validatePathSegment, safe, named.1]

theorem validateBuildType_iff {value result : String} :
    validateBuildType value = .ok result ↔
      result = value ∧ (value = "debug" ∨ value = "release") := by
  unfold validateBuildType
  by_cases debug : value = "debug"
  · simp [debug, eq_comm]
  · by_cases release : value = "release"
    · simp [release, eq_comm]
    · simp [debug, release]

theorem isKnownComponent_iff {component : String} :
    isKnownComponent component = true ↔ component ∈ ["agent", "server", "installer"] := by
  simp [isKnownComponent, or_assoc]

theorem files_iff {json : JsonDocument} {files : List ManifestFile} :
    (documentLibrary json).files json.members = .ok files ↔
      (∀ value, json.find "signatures" = some value → ∃ items, value = .array items) ∧
      (∃ items, json.find "files" = some (.array items) ∧ List.Forall₂ FileEntry items files) ∧
      (files.map ManifestFile.target).Nodup := by
  have signed : (documentLibrary json).oddSignatures json.members = false ↔
      ∀ value, json.find "signatures" = some value → ∃ items, value = .array items := by
    simp only [documentLibrary]
    cases json.find "signatures" with
    | none => simp
    | some value => cases value <;> simp
  have listed : ∀ raws, (documentLibrary json).filesArray json.members = some raws ↔
      ∃ items, json.find "files" = some (.array items) ∧ raws = items.map rawFile := by
    intro raws
    simp only [documentLibrary]
    cases json.find "files" with
    | none => simp
    | some value => cases value <;> simp [eq_comm]
  unfold RawLibrary.files
  cases array : (documentLibrary json).filesArray json.members with
  | none =>
    constructor
    · intro done
      cases done
    · rintro ⟨_, ⟨items, found, _⟩, _⟩
      have given := (listed (items.map rawFile)).mpr ⟨items, found, rfl⟩
      rw [array] at given
      cases given
  | some raws =>
    obtain ⟨items, found, rfl⟩ := (listed raws).mp array
    have same_items : ∀ items', json.find "files" = some (.array items') → items' = items := by
      intro items' found'
      rw [found] at found'
      cases found'
      rfl
    cases odd : (documentLibrary json).oddSignatures json.members with
    | true =>
      constructor
      · intro done
        cases done
      · rintro ⟨arrays, _⟩
        rw [← signed, odd] at arrays
        cases arrays
    | false =>
      simp only [Bool.false_eq_true, if_false, checkFiles_iff, List.not_mem_nil, not_false_eq_true,
        implies_true, and_true]
      constructor
      · rintro ⟨entries, distinct⟩
        exact ⟨signed.mp odd, ⟨items, found, entries⟩, distinct⟩
      · rintro ⟨_, ⟨items', found', entries⟩, distinct⟩
        rw [same_items items' found'] at entries
        exact ⟨entries, distinct⟩

def JsonDocument.isObject : JsonDocument → Bool
  | .object _ => true
  | _ => false

theorem parse_document (json : JsonDocument) (text : String) :
    (documentLibrary json).toLibrary.parse text =
      .ok (if json.isObject then some json.members else none) := by
  cases json <;> rfl

theorem isObject_of_find {json value : JsonDocument} {key : String}
    (found : json.find key = some value) : json.isObject = true := by
  cases json with
  | object members => rfl
  | array items => cases found
  | text text => cases found
  | integer stored => cases found
  | boolean truth => cases found
  | other => cases found

/-- The parser accepts its grammar with the schema version read as an `int`. -/
theorem parseManifestJson_iff {json : JsonDocument} {text : String} {manifest : Manifest} :
    parseManifestJson (documentLibrary json).toLibrary text = .ok manifest ↔
      ManifestGrammar (fun value => toInt value = 2) json manifest := by
  unfold parseManifestJson
  rw [parse_document]
  constructor
  · intro parsed
    obtain ⟨value, given, parsed⟩ := except_bind_ok parsed
    cases object : json.isObject with
    | false =>
      rw [object] at given
      cases given
      cases parsed
    | true =>
      rw [object] at given
      cases given
      obtain ⟨schemaVersion, schema_ok, parsed⟩ := except_bind_ok parsed
      obtain ⟨component, component_ok, parsed⟩ := except_bind_ok parsed
      obtain ⟨version, version_ok, parsed⟩ := except_bind_ok parsed
      obtain ⟨platform, platform_ok, parsed⟩ := except_bind_ok parsed
      obtain ⟨arch, arch_ok, parsed⟩ := except_bind_ok parsed
      obtain ⟨buildType, buildType_ok, parsed⟩ := except_bind_ok parsed
      obtain ⟨minInstallerVersion, minimum_ok, parsed⟩ := except_bind_ok parsed
      split at parsed
      · cases parsed
      · rename_i schema
        split at parsed
        · cases parsed
        · rename_i minimum
          obtain ⟨version', safe_version, parsed⟩ := except_bind_ok parsed
          obtain ⟨platform', safe_platform, parsed⟩ := except_bind_ok parsed
          obtain ⟨arch', safe_arch, parsed⟩ := except_bind_ok parsed
          obtain ⟨buildType', known_buildType, parsed⟩ := except_bind_ok parsed
          split at parsed
          · cases parsed
          · rename_i known
            obtain ⟨files, files_ok, parsed⟩ := except_bind_ok parsed
            cases parsed
            obtain ⟨rfl, safe_version⟩ := validatePathSegment_ok safe_version
            obtain ⟨rfl, safe_platform⟩ := validatePathSegment_ok safe_platform
            obtain ⟨rfl, safe_arch⟩ := validatePathSegment_ok safe_arch
            obtain ⟨rfl, known_buildType⟩ := validateBuildType_iff.mp known_buildType
            obtain ⟨stored, found, narrowed⟩ := requiredInt_ok.mp schema_ok
            obtain ⟨signatures, entries, distinct⟩ := files_iff.mp files_ok
            have two : schemaVersion = 2 := by simpa using schema
            exact
              { schema_version := ⟨stored, found, narrowed.trans two⟩
                schemaVersion := two
                component := required_ok.mp component_ok
                known := isKnownComponent_iff.mp (by simpa using known)
                version := required_ok.mp version_ok
                safe_version := safe_version
                platform := required_ok.mp platform_ok
                safe_platform := safe_platform
                arch := required_ok.mp arch_ok
                safe_arch := safe_arch
                buildType := required_ok.mp buildType_ok
                known_buildType := known_buildType
                minInstallerVersion := required_ok.mp minimum_ok
                some_minInstallerVersion := minimum
                signatures := signatures
                files := entries
                distinct := distinct }
  · intro grammar
    obtain ⟨stored, found, narrowed⟩ := grammar.schema_version
    have known := isKnownComponent_iff.mpr grammar.known
    have files := files_iff.mpr ⟨grammar.signatures, grammar.files, grammar.distinct⟩
    rw [isObject_of_find found]
    refine except_bind_ok_iff.mpr ⟨some json.members, rfl, ?_⟩
    simp only [except_bind_ok_iff]
    refine ⟨2, requiredInt_ok.mpr ⟨stored, found, narrowed⟩, _,
      required_ok.mpr grammar.component, _, required_ok.mpr grammar.version, _,
      required_ok.mpr grammar.platform, _, required_ok.mpr grammar.arch, _,
      required_ok.mpr grammar.buildType, _, required_ok.mpr grammar.minInstallerVersion, ?_⟩
    rw [if_neg (by simp), if_neg grammar.some_minInstallerVersion]
    simp only [except_bind_ok_iff]
    refine ⟨_, validatePathSegment_iff.mpr ⟨rfl, grammar.safe_version⟩, _,
      validatePathSegment_iff.mpr ⟨rfl, grammar.safe_platform⟩, _,
      validatePathSegment_iff.mpr ⟨rfl, grammar.safe_arch⟩, _,
      validateBuildType_iff.mpr ⟨rfl, grammar.known_buildType⟩, ?_⟩
    rw [known]
    refine except_bind_ok_iff.mpr ⟨manifest.files, files, ?_⟩
    rw [← grammar.schemaVersion]

theorem parseManifestText_iff {parse : String → Except String JsonDocument} {text : String}
    {manifest : Manifest} :
    parseManifestText parse text = .ok manifest ↔
      ∃ json, parse text = .ok json ∧ ManifestGrammar (fun value => toInt value = 2) json manifest := by
  unfold parseManifestText
  rw [except_bind_ok_iff]
  constructor
  · rintro ⟨json, found, parsed⟩
    exact ⟨json, found, parseManifestJson_iff.mp parsed⟩
  · rintro ⟨json, found, grammar⟩
    exact ⟨json, found, parseManifestJson_iff.mpr grammar⟩

theorem ManifestGrammar.mono {schema schema' : Int → Prop} {json : JsonDocument}
    {manifest : Manifest} (grammar : ManifestGrammar schema json manifest)
    (weaker : ∀ stored : StoredInteger, json.find "schema_version" = some (.integer stored) →
      schema stored.val → schema' stored.val) : ManifestGrammar schema' json manifest := by
  obtain ⟨stored, found, holds⟩ := grammar.schema_version
  exact { grammar with schema_version := ⟨stored, found, weaker stored found holds⟩ }

theorem ManifestGrammar.schema_of {schema : Int → Prop} {json : JsonDocument}
    {manifest : Manifest} (grammar : ManifestGrammar schema json manifest) {stored : StoredInteger}
    (found : json.find "schema_version" = some (.integer stored)) : schema stored.val := by
  obtain ⟨stored', found', holds⟩ := grammar.schema_version
  rw [found] at found'
  cases found'
  exact holds

theorem toInt_two_iff (value : Int) : toInt value = 2 ↔ value % 2 ^ 32 = 2 := by
  unfold toInt
  rw [Int.bmod_def]
  simp only [Nat.cast_pow, Nat.cast_ofNat]
  split <;> omega

/-- The parser accepts exactly the grammar, but for documents whose schema version is an
    integer that is 2 only in its low 32 bits. -/
theorem parser_exact_iff (parse : String → Except String JsonDocument) (text : String) :
    (∀ manifest, parseManifestText parse text = .ok manifest ↔
      ∃ json, parse text = .ok json ∧ ManifestGrammar (fun value => value = 2) json manifest) ↔
    ¬ ∃ json manifest, parse text = .ok json ∧
      ManifestGrammar (fun value => value ≠ 2 ∧ value % 2 ^ 32 = 2) json manifest := by
  constructor
  · rintro exact_here ⟨json, manifest, found, wrapped⟩
    have accepted : parseManifestText parse text = .ok manifest := by
      refine parseManifestText_iff.mpr ⟨json, found, wrapped.mono ?_⟩
      intro stored _ cut
      exact (toInt_two_iff stored.val).mpr cut.2
    obtain ⟨json', found', grammar⟩ := (exact_here manifest).mp accepted
    rw [found] at found'
    cases found'
    obtain ⟨stored, schema, cut⟩ := wrapped.schema_version
    exact cut.1 (grammar.schema_of schema)
  · intro no_wrap manifest
    rw [parseManifestText_iff]
    constructor
    · rintro ⟨json, found, grammar⟩
      refine ⟨json, found, grammar.mono ?_⟩
      intro stored schema cut
      by_contra other
      apply no_wrap
      refine ⟨json, manifest, found, grammar.mono ?_⟩
      intro stored' schema' cut'
      rw [schema] at schema'
      cases schema'
      exact ⟨other, (toInt_two_iff stored.val).mp cut⟩
    · rintro ⟨json, found, grammar⟩
      refine ⟨json, found, grammar.mono ?_⟩
      intro stored _ two
      rw [two]
      decide

/-- 4294967298 is 2 in its low 32 bits. -/
def wrappedText : String :=
  "\x7b\"schema_version\":4294967298,\"component\":\"agent\",\"version\":\"1.0.0\"," ++
  "\"platform\":\"linux\",\"arch\":\"x86_64\",\"build_type\":\"release\"," ++
  "\"min_installer_version\":\"1.0.0\",\"files\":[]\x7d"

def wrappedDocument : JsonDocument := .object fun key =>
  if key = "schema_version" then some (.integer ⟨4294967298, by decide⟩)
  else if key = "component" then some (.text "agent")
  else if key = "version" then some (.text "1.0.0")
  else if key = "platform" then some (.text "linux")
  else if key = "arch" then some (.text "x86_64")
  else if key = "build_type" then some (.text "release")
  else if key = "min_installer_version" then some (.text "1.0.0")
  else if key = "files" then some (.array [])
  else none

def wrappedParse (text : String) : Except String JsonDocument :=
  if text = wrappedText then .ok wrappedDocument else .error "parse error"

theorem wrapped_schema_accepted :
    ¬ ∀ manifest, parseManifestText wrappedParse wrappedText = .ok manifest ↔
      ∃ json, wrappedParse wrappedText = .ok json ∧
        ManifestGrammar (fun value => value = 2) json manifest := by
  intro exact_here
  have found : wrappedParse wrappedText = .ok wrappedDocument := if_pos rfl
  have accepted : parseManifestText wrappedParse wrappedText =
      .ok ⟨2, "agent", "1.0.0", "linux", "x86_64", "release", "1.0.0", []⟩ := by decide +kernel
  obtain ⟨json, found', grammar⟩ := (exact_here _).mp accepted
  rw [found] at found'
  cases found'
  have schema := @ManifestGrammar.schema_of _ _ _ grammar ⟨4294967298, by decide⟩ rfl
  exact absurd schema (by decide)

/-! Writing a manifest -/

/-- An unsigned 64-bit field. -/
def storedSize (size : Nat) : StoredInteger :=
  ⟨(size % 2 ^ 64 : Nat), by omega⟩

/-- An `int` field. -/
def storedInt (value : Int) : StoredInteger :=
  ⟨toInt value, by
    unfold toInt
    rw [Int.bmod_def]
    simp only [Nat.cast_pow, Nat.cast_ofNat]
    split <;> omega⟩

def fileDocument (file : ManifestFile) : JsonDocument := .object fun key =>
  if key = "source" then some (.text file.source)
  else if key = "target" then some (.text file.target)
  else if key = "size" then some (.integer (storedSize file.size))
  else if key = "sha256" then some (.text file.sha256)
  else if key = "launchable" then some (.boolean file.launchable)
  else none

def manifestDocument (manifest : Manifest) : JsonDocument := .object fun key =>
  if key = "schema_version" then some (.integer (storedInt manifest.schemaVersion))
  else if key = "component" then some (.text manifest.component)
  else if key = "version" then some (.text manifest.version)
  else if key = "platform" then some (.text manifest.platform)
  else if key = "arch" then some (.text manifest.arch)
  else if key = "build_type" then some (.text manifest.buildType)
  else if key = "min_installer_version" then some (.text manifest.minInstallerVersion)
  else if key = "files" then some (.array (manifest.files.map fileDocument))
  else if key = "signatures" then some (.array [])
  else none

/-- The library may refuse to write a document. -/
def serializeManifestJson (dump : JsonDocument → Except String String) (manifest : Manifest) :
    Except String String := do
  let buildType ← validateBuildType manifest.buildType
  let payload ← dump (manifestDocument { manifest with buildType })
  .ok (payload ++ "\n")

theorem FileEntry.written {json : JsonDocument} {file : ManifestFile}
    (entry : FileEntry json file) : FileEntry (fileDocument file) file := by
  obtain ⟨_, _, source⟩ := entry.source
  obtain ⟨_, _, target⟩ := entry.target
  obtain ⟨_, _, _, bounded⟩ := entry.size
  refine
    { source := ⟨file.source, rfl, source.again⟩
      under_payload := entry.under_payload
      target := ⟨file.target, rfl, target.again⟩
      outside_meta := entry.outside_meta
      size := ⟨storedSize file.size, rfl, ?_, bounded⟩
      sha256 := rfl
      digest := entry.digest
      launchable := rfl }
  simp only [storedSize]
  omega

/-- The document of an accepted manifest is in the grammar. -/
theorem ManifestGrammar.written {schema : Int → Prop} {json : JsonDocument} {manifest : Manifest}
    (grammar : ManifestGrammar schema json manifest) :
    ManifestGrammar (fun value => toInt value = 2) (manifestDocument manifest) manifest := by
  obtain ⟨items, _, entries⟩ := grammar.files
  have files : List.Forall₂ FileEntry (manifest.files.map fileDocument) manifest.files := by
    rw [List.forall₂_map_left_iff]
    apply List.forall₂_same.mpr
    intro file inside
    obtain ⟨index, bound, rfl⟩ := List.getElem_of_mem inside
    have same_length := entries.length_eq
    exact (entries.get (i := index) (by omega) bound).written
  exact
    { grammar with
      schema_version := ⟨storedInt manifest.schemaVersion, rfl, by rw [grammar.schemaVersion]; rfl⟩
      component := rfl
      version := rfl
      platform := rfl
      arch := rfl
      buildType := rfl
      minInstallerVersion := rfl
      signatures := by
        intro value found
        exact ⟨[], (Option.some.inj found).symm⟩
      files := ⟨_, rfl, files⟩ }

/-- A manifest that was read is read again from the text written for it. -/
theorem manifest_round_trip (parse : String → Except String JsonDocument)
    (dump : JsonDocument → Except String String) (text : String) (manifest : Manifest)
    (accepted : parseManifestText parse text = .ok manifest)
    (inverse : ∃ written, dump (manifestDocument manifest) = .ok written ∧
      parse (written ++ "\n") = .ok (manifestDocument manifest)) :
    ∃ again, serializeManifestJson dump manifest = .ok again ∧
      parseManifestText parse again = .ok manifest := by
  obtain ⟨written, dumped, parsed⟩ := inverse
  obtain ⟨json, _, grammar⟩ := parseManifestText_iff.mp accepted
  refine ⟨written ++ "\n", ?_, parseManifestText_iff.mpr ⟨_, parsed, grammar.written⟩⟩
  have buildType := validateBuildType_iff.mpr ⟨rfl, grammar.known_buildType⟩
  refine except_bind_ok_iff.mpr ⟨_, buildType, ?_⟩
  exact except_bind_ok_iff.mpr ⟨written, dumped, rfl⟩

def emptySha256 : String := "e3b0c44298fc1c149afbf4c8996fb92427ae41e4649b934ca495991b7852b855"

/-- A manifest whose one source is written with a backslash and a doubled slash. -/
def uploadedText : String :=
  "\x7b\"schema_version\":2,\"component\":\"agent\",\"version\":\"1.0.0\"," ++
  "\"platform\":\"linux\",\"arch\":\"x86_64\",\"build_type\":\"release\"," ++
  "\"min_installer_version\":\"1.0.0\",\"files\":[\x7b\"source\":\"payload\\\\bin//zfleet_agent\"," ++
  "\"target\":\"bin/zfleet_agent\",\"size\":9223372036854775807," ++
  "\"sha256\":\"e3b0c44298fc1c149afbf4c8996fb92427ae41e4649b934ca495991b7852b855\"," ++
  "\"launchable\":true\x7d]\x7d"

def uploadedDocument : JsonDocument := .object fun key =>
  if key = "files" then some <| .array [.object fun key =>
    if key = "source" then some (.text "payload\\bin//zfleet_agent")
    else if key = "target" then some (.text "bin/zfleet_agent")
    else if key = "size" then some (.integer ⟨9223372036854775807, by decide⟩)
    else if key = "sha256" then some (.text emptySha256)
    else if key = "launchable" then some (.boolean true)
    else none]
  else if key = "schema_version" then some (.integer ⟨2, by decide⟩)
  else if key = "component" then some (.text "agent")
  else if key = "version" then some (.text "1.0.0")
  else if key = "platform" then some (.text "linux")
  else if key = "arch" then some (.text "x86_64")
  else if key = "build_type" then some (.text "release")
  else if key = "min_installer_version" then some (.text "1.0.0")
  else none

def uploadedManifest : Manifest :=
  ⟨2, "agent", "1.0.0", "linux", "x86_64", "release", "1.0.0",
    [⟨"payload/bin/zfleet_agent", "bin/zfleet_agent", 9223372036854775807, emptySha256, true⟩]⟩

def writtenText : String :=
  "\x7b\n  \"schema_version\": 2,\n  \"component\": \"agent\",\n  \"version\": \"1.0.0\",\n" ++
  "  \"platform\": \"linux\",\n  \"arch\": \"x86_64\",\n  \"build_type\": \"release\",\n" ++
  "  \"min_installer_version\": \"1.0.0\",\n  \"files\": [\n    \x7b\n" ++
  "      \"source\": \"payload/bin/zfleet_agent\",\n      \"target\": \"bin/zfleet_agent\",\n" ++
  "      \"size\": 9223372036854775807,\n" ++
  "      \"sha256\": \"e3b0c44298fc1c149afbf4c8996fb92427ae41e4649b934ca495991b7852b855\",\n" ++
  "      \"launchable\": true\n    \x7d\n  ],\n  \"signatures\": []\n\x7d"

def uploadedParse (text : String) : Except String JsonDocument :=
  if text = uploadedText then .ok uploadedDocument
  else if text = writtenText ++ "\n" then .ok (manifestDocument uploadedManifest)
  else .error "parse error"

theorem manifest_round_trip_backslash :
    ∃ again, serializeManifestJson (fun _ => .ok writtenText) uploadedManifest = .ok again ∧
      parseManifestText uploadedParse again = .ok uploadedManifest := by
  have accepted : parseManifestText uploadedParse uploadedText = .ok uploadedManifest := by
    decide +kernel
  have other : writtenText ++ "\n" ≠ uploadedText := by decide
  have parsed : uploadedParse (writtenText ++ "\n") = .ok (manifestDocument uploadedManifest) := by
    rw [uploadedParse, if_neg other, if_pos rfl]
  exact manifest_round_trip uploadedParse (fun _ => .ok writtenText) uploadedText uploadedManifest
    accepted ⟨writtenText, rfl, parsed⟩

end Package
