import ZFleet.Package.SystemPaths
import ZFleet.Server.AdminRequests

/-!
The static files of the web pages (static_file_service.cpp). The checks are made on the text
of a path and on the file system, and the system reads a path only up to its first NUL.
-/
namespace StaticFiles
open LinkedFiles Package AdminRequests

structure StaticFileResponse where
  status : Nat
  contentType : String
  body : List Char
  deriving DecidableEq, Repr

def notFound : StaticFileResponse := ⟨404, "text/plain; charset=utf-8", []⟩

/-- root_ leads to the place `root`; ValidateRequiredFiles found a directory there. -/
structure StaticFileService where
  tree : LinkedFiles.Tree (List Char)
  root : Place
  links : Nat
  root_directory : tree.look root = .ok .directory

/-! Names and extensions -/

def filename (path : List Char) : List Char := ((path.splitOn '/').getLast?).getD []

/-- std::filesystem::path::extension of a file name. -/
def extension (name : List Char) : List Char :=
  if name = ['.', '.'] then []
  else
    match name.reverse.dropWhile (· ≠ '.') with
    | [] => []
    | [_] => []
    | _ => '.' :: (name.reverse.takeWhile (· ≠ '.')).reverse

def permittedExtensions : List (List Char) :=
  [".css".toList, ".js".toList, ".svg".toList, ".png".toList, ".ico".toList, ".woff2".toList]

def isPermittedAssetExtension (path : List Char) : Bool :=
  permittedExtensions.contains (extension (filename path))

def contentTypes : List (List Char × String) :=
  [(".html".toList, "text/html; charset=utf-8"),
   (".css".toList, "text/css; charset=utf-8"),
   (".js".toList, "text/javascript; charset=utf-8"),
   (".svg".toList, "image/svg+xml"),
   (".png".toList, "image/png"),
   (".ico".toList, "image/x-icon"),
   (".woff2".toList, "font/woff2"),
   (".sh".toList, "text/plain; charset=utf-8"),
   (".ps1".toList, "text/plain; charset=utf-8")]

def contentTypeForPath (path : List Char) : String :=
  (contentTypes.lookup (extension (filename path))).getD "application/octet-stream"

/-! The checks on the file system -/

namespace StaticFileService

variable (service : StaticFileService)

def symlinkStatus (path : List Char) : Except Fault (Entry (List Char)) :=
  LinkedFiles.status service.tree false service.links service.root (systemNames path)

def fileStatus (path : List Char) : Except Fault (Entry (List Char)) :=
  LinkedFiles.status service.tree true service.links service.root (systemNames path)

/-- The loop of IsRegularFileWithoutSymlinks over the components behind `before`. -/
def noSymlinks (before : List Name) : List Name → Except Fault Bool
  | [] => .ok true
  | component :: rest =>
    match service.symlinkStatus (joinPieces (before ++ [component])) with
    | .error .missing => .ok false
    | .error .failed => .error .failed
    | .ok entry =>
      if entry.isLink then .ok false else noSymlinks (before ++ [component]) rest

def isRegularFileWithoutSymlinks (relativePath : String) : Except Fault Bool := do
  if ← service.noSymlinks [] (pieces relativePath.toList) then
    match service.fileStatus (joinPieces (pieces relativePath.toList)) with
    | .ok (.file _ _) => .ok true
    | .ok _ => .ok false
    | .error .missing => .ok false
    | .error .failed => .error .failed
  else .ok false

/-- The file that the stream opens. -/
def openedFile (relativePath : String) : Except Fault Place :=
  walk service.tree true service.links service.root (systemNames relativePath.toList)

def readFile (relativePath : String) : Except Fault StaticFileResponse := do
  if ← service.isRegularFileWithoutSymlinks relativePath then
    match service.openedFile relativePath with
    | .error _ => .ok notFound
    | .ok place =>
      match service.tree.look place with
      | .ok (.file body true) => .ok ⟨200, contentTypeForPath relativePath.toList, body⟩
      | _ => .ok notFound
  else .ok notFound

end StaticFileService

def relativeFile (requestPath : List Char) : Option String :=
  if requestPath = "/".toList then some "index.html"
  else if requestPath = "/install".toList then some "install.html"
  else if requestPath = "/agents".toList ∨ "/agents/".toList <+: requestPath then
    some "agents.html"
  else if requestPath = "/admin/packages".toList then some "admin/packages.html"
  else if "/assets/".toList <+: requestPath then
    match validateRelativePath (String.ofList (requestPath.drop 1)) with
    | .error _ => none
    | .ok value => if isPermittedAssetExtension value.toList then some value else none
  else none

def StaticFileService.read (service : StaticFileService) (requestPath : List Char) :
    Except Fault StaticFileResponse :=
  match relativeFile requestPath with
  | none => .ok notFound
  | some relative => service.readFile relative

/-! What is read -/

section Reads

variable {service : StaticFileService}

theorem noSymlinks_true {before rest : List Name} :
    service.noSymlinks before rest = .ok true ↔ ∀ front, front <+: rest → front ≠ [] →
      ∃ entry, service.symlinkStatus (joinPieces (before ++ front)) = .ok entry ∧
        entry.isLink = false := by
  induction rest generalizing before with
  | nil =>
    constructor
    · intro _ front short nonempty
      exact absurd (List.prefix_nil.mp short) nonempty
    · intro _
      rfl
  | cons component rest ih =>
    constructor
    · intro passed front short nonempty
      rw [StaticFileService.noSymlinks] at passed
      split at passed
      · cases passed
      · cases passed
      · rename_i entry found
        split at passed
        · cases passed
        · rename_i no_link
          obtain ⟨first, behind, rfl⟩ := List.exists_cons_of_ne_nil nonempty
          obtain ⟨rfl, shorter⟩ := List.cons_prefix_cons.mp short
          by_cases empty : behind = []
          · rw [empty]
            exact ⟨entry, found, by simpa using no_link⟩
          · have later := ih.mp passed behind shorter empty
            rwa [List.append_assoc] at later
    · intro each
      obtain ⟨entry, found, no_link⟩ := each [component] (by simp) (by simp)
      rw [StaticFileService.noSymlinks, found]
      simp only [no_link, Bool.false_eq_true, if_false]
      apply ih.mpr
      intro front short nonempty
      rw [List.append_assoc]
      exact each (component :: front) (by simpa using short) (by simp)

section Normal

variable {relative : String} (normal : NormalPath relative)
include normal

/-- The loop looks at every prefix of what the system will open. -/
theorem noSymlinks_checked : service.noSymlinks [] (pieces relative.toList) = .ok true ↔
    Checked service.tree service.links service.root (systemNames relative.toList) := by
  rw [noSymlinks_true]
  constructor
  · intro each way short nonempty
    have front : (pieces relative.toList).take way.length ≠ [] := by
      have positive : way.length ≠ 0 := by simpa using nonempty
      simp [normal.nonempty, positive]
    obtain ⟨entry, found, no_link⟩ := each _ (List.take_prefix way.length _) front
    refine ⟨entry, ?_, no_link⟩
    rw [List.nil_append, StaticFileService.symlinkStatus,
      systemNames_joined front fun part inside =>
        proper_pieces _ part (List.mem_of_mem_take inside),
      cutNames_take, ← normal_names normal, ← List.prefix_iff_eq_take.mp short] at found
    exact found
  · intro checked front short nonempty
    rw [List.nil_append, StaticFileService.symlinkStatus, front_names normal short nonempty]
    apply checked _ (List.take_prefix _ _)
    have positive : front.length ≠ 0 := by simpa using nonempty
    have some_name := cutNames_nonempty normal.nonempty
    rw [← normal_names normal] at some_name
    simp [positive, some_name]

theorem regular_iff : service.isRegularFileWithoutSymlinks relative = .ok true ↔
    ∃ content readable,
      service.tree.look (service.root ++ systemNames relative.toList) =
        .ok (.file content readable) := by
  unfold StaticFileService.isRegularFileWithoutSymlinks StaticFileService.fileStatus
  rw [normal.joined]
  constructor
  · intro regular
    cases loop : service.noSymlinks [] (pieces relative.toList) with
    | error fault => rw [loop] at regular; cases regular
    | ok passed =>
      rw [loop] at regular
      cases passed with
      | false => cases regular
      | true =>
        have checked := (noSymlinks_checked normal).mp loop
        cases opened : LinkedFiles.status service.tree true service.links service.root
            (systemNames relative.toList) with
        | error fault => rw [opened] at regular; cases fault <;> cases regular
        | ok entry =>
          rw [opened] at regular
          cases entry with
          | file content readable =>
            have nonempty := cutNames_nonempty normal.nonempty
            rw [← normal_names normal] at nonempty
            obtain ⟨way, last, shape⟩ := (List.eq_nil_or_concat' _).resolve_left nonempty
            have plain : ∀ name ∈ way, name ≠ dot ∧ name ≠ dotDot := by
              intro name inside
              rw [normal_names normal] at shape
              have proper := normal.proper name (cutNames_front shape name inside)
              simpa [isDots, dot, dotDot] using proper
            rw [shape] at checked opened ⊢
            exact ⟨content, readable, checked_file service.root_directory plain checked opened⟩
          | directory => cases regular
          | link absolute target => cases regular
          | special => cases regular
  · rintro ⟨content, readable, there⟩
    have loop := (noSymlinks_checked normal).mpr (checked_down service.links there rfl)
    rw [loop]
    have found : LinkedFiles.status service.tree true service.links service.root
      (systemNames relative.toList) = .ok (.file content readable) :=
        status_down service.links there rfl
    rw [found]
    rfl

omit normal in
theorem opened_down {entry : Entry (List Char)}
    (there : service.tree.look (service.root ++ systemNames relative.toList) = .ok entry)
    (no_link : entry.isLink = false) : service.openedFile relative =
      .ok (service.root ++ systemNames relative.toList) :=
  walk_down service.links there no_link

theorem readFile_ok {answer : StaticFileResponse} :
    service.readFile relative = .ok answer ∧ answer.status = 200 ↔ ∃ content,
      service.tree.look (service.root ++ systemNames relative.toList) =
          .ok (.file content true) ∧
        answer = ⟨200, contentTypeForPath relative.toList, content⟩ := by
  unfold StaticFileService.readFile
  constructor
  · rintro ⟨answered, ok⟩
    cases regular : service.isRegularFileWithoutSymlinks relative with
    | error fault => rw [regular] at answered; cases answered
    | ok found =>
      rw [regular] at answered
      cases found with
      | false => cases answered; cases ok
      | true =>
        obtain ⟨content, readable, there⟩ := (regular_iff normal).mp regular
        rw [opened_down there rfl] at answered
        cases readable with
        | false =>
          simp only [there] at answered
          cases answered
          cases ok
        | true =>
          simp only [there] at answered
          exact ⟨content, there, (Except.ok.inj answered).symm⟩
  · rintro ⟨content, there, rfl⟩
    have regular := (regular_iff normal).mpr ⟨content, true, there⟩
    rw [regular, opened_down there rfl]
    simp only [there]
    exact ⟨rfl, trivial⟩

theorem filename_last {way : List Name} {name : Name}
    (parts : pieces relative.toList = way ++ [name]) : filename relative.toList = name := by
  have split := List.splitOn_intercalate '/'
    (fun part inside => (proper_pieces relative.toList part inside).2) normal.nonempty
  rw [show ['/'].intercalate (pieces relative.toList) = relative.toList from normal.joined] at split
  rw [filename, split, parts]
  simp

end Normal

/-! The files that can be asked for -/

def fixedPages : List Place :=
  [["index.html".toList], ["install.html".toList], ["agents.html".toList],
   ["admin".toList, "packages.html".toList]]

def assets : Name := "assets".toList

/-- A path under /assets/ with a valid text and a permitted extension in it. -/
structure AssetPath (requestPath : List Char) (relative : String) : Prop where
  under : "/assets/".toList <+: requestPath
  valid : validateRelativePath (String.ofList (requestPath.drop 1)) = .ok relative
  permitted : isPermittedAssetExtension relative.toList = true

theorem fixed_normal {relative : String}
    (fixed : relative ∈ ["index.html", "install.html", "agents.html", "admin/packages.html"]) :
    NormalPath relative ∧ systemNames relative.toList ∈ fixedPages := by
  simp only [List.mem_cons, List.not_mem_nil, or_false] at fixed
  rcases fixed with rfl | rfl | rfl | rfl
  all_goals exact ⟨⟨by decide, by decide, by decide⟩, by decide⟩

theorem relativeFile_cases {requestPath : List Char} {relative : String}
    (chosen : relativeFile requestPath = some relative) :
    relative ∈ ["index.html", "install.html", "agents.html", "admin/packages.html"] ∨
      AssetPath requestPath relative := by
  unfold relativeFile at chosen
  split at chosen
  · cases chosen; simp
  · split at chosen
    · cases chosen; simp
    · split at chosen
      · cases chosen; simp
      · split at chosen
        · cases chosen; simp
        · split at chosen
          · rename_i under
            split at chosen
            · cases chosen
            · rename_i value valid
              split at chosen
              · rename_i permitted
                cases chosen
                exact Or.inr ⟨under, valid, permitted⟩
              · cases chosen
          · cases chosen

theorem AssetPath.chosen {requestPath : List Char} {relative : String}
    (asset : AssetPath requestPath relative) : relativeFile requestPath = some relative := by
  obtain ⟨rest, shape⟩ := asset.under
  have others : requestPath ≠ "/".toList ∧ requestPath ≠ "/install".toList ∧
      ¬ (requestPath = "/agents".toList ∨ "/agents/".toList <+: requestPath) ∧
      requestPath ≠ "/admin/packages".toList := by
    rw [← shape]
    simp
  rw [relativeFile, if_neg others.1, if_neg others.2.1, if_neg others.2.2.1, if_neg others.2.2.2,
    if_pos asset.under, asset.valid]
  simp only [asset.permitted, if_true]

theorem AssetPath.normal {requestPath : List Char} {relative : String}
    (asset : AssetPath requestPath relative) : NormalPath relative :=
  validateRelativePath_normal asset.valid

theorem AssetPath.parts {requestPath : List Char} {relative : String}
    (asset : AssetPath requestPath relative) :
    ∃ others, pieces relative.toList = assets :: others := by
  obtain ⟨rest, shape⟩ := asset.under
  have safe := validateRelativePath_ok asset.valid
  have dropped : requestPath.drop 1 = "assets/".toList ++ rest := by
    rw [← shape]
    rfl
  have normalized : normalizePathSeparators (String.ofList (requestPath.drop 1)) =
      assets ++ '/' :: normalizePathSeparators (String.ofList rest) := by
    unfold normalizePathSeparators
    simp only [dropped, String.toList_ofList, List.map_append]
    rfl
  have joined := safe.joined
  rw [normalized, pieces_cons (by decide) (by decide)] at joined
  rw [joined, pieces_join (by simp)]
  · exact ⟨_, rfl⟩
  · intro part inside
    rcases List.mem_cons.mp inside with rfl | later
    · decide
    · exact proper_pieces _ part later

/-- What an asset's path names lies under assets. -/
theorem AssetPath.names {requestPath : List Char} {relative : String}
    (asset : AssetPath requestPath relative) :
    ∃ way name, systemNames relative.toList = assets :: (way ++ [name]) := by
  obtain ⟨others, parts⟩ := asset.parts
  have names : systemNames relative.toList = assets :: cutNames others := by
    rw [normal_names asset.normal, parts, cutNames, if_neg (by decide)]
  by_cases empty : others = []
  · have whole := asset.normal.joined
    rw [parts, empty] at whole
    have permitted := asset.permitted
    rw [← whole] at permitted
    exact absurd permitted (by decide)
  · obtain ⟨way, name, shape⟩ := (List.eq_nil_or_concat' _).resolve_left (cutNames_nonempty empty)
    exact ⟨way, name, by rw [names, shape]⟩

/-- Without a NUL the name that was checked is the one that is opened. -/
theorem AssetPath.extension_opened {requestPath : List Char} {relative : String}
    (asset : AssetPath requestPath relative) (free : nul ∉ relative.toList) {way : List Name}
    {name : Name} (names : systemNames relative.toList = way ++ [name]) :
    extension name ∈ permittedExtensions := by
  have whole : cutNames (pieces relative.toList) = pieces relative.toList :=
    cutNames_free fun part inside here => free ((of_mem_pieces inside).2 _ here).1
  rw [normal_names asset.normal, whole] at names
  have permitted := asset.permitted
  rw [isPermittedAssetExtension, filename_last asset.normal names] at permitted
  exact List.contains_iff_mem.mp permitted

end Reads

/-! Confinement -/

/-- The answer is the content of a file that the stream opened below the root, with no link on
    the way to it. -/
structure ServedFile (service : StaticFileService) (requestPath : List Char)
    (answer : StaticFileResponse) (names : Place) : Prop where
  opened : ∃ relative, relativeFile requestPath = some relative ∧
    service.openedFile relative = .ok (service.root ++ names)
  file : service.tree.look (service.root ++ names) = .ok (.file answer.body true)
  no_link : ∀ way, way <+: names → way ≠ names →
    service.tree.look (service.root ++ way) = .ok .directory

def UnderAssets (names : Place) (permitted : Name → Prop) : Prop :=
  ∃ way name, names = assets :: (way ++ [name]) ∧ permitted name

def Confined (service : StaticFileService) (requestPath : List Char) : Prop :=
  ∀ answer, service.read requestPath = .ok answer → answer.status = 200 →
    ∃ names, ServedFile service requestPath answer names ∧
      (names ∈ fixedPages ∨ UnderAssets names fun name => extension name ∈ permittedExtensions)

/-- The valid path of an asset has a NUL in it, and what stands in front of the NUL names a
    readable file whose own name has no permitted extension. -/
def CutBeforeExtension (service : StaticFileService) (requestPath : List Char) : Prop :=
  ∃ relative way name content, AssetPath requestPath relative ∧ nul ∈ relative.toList ∧
    systemNames relative.toList = way ++ [name] ∧
    service.tree.look (service.root ++ (way ++ [name])) = .ok (.file content true) ∧
    extension name ∉ permittedExtensions

theorem read_ok {service : StaticFileService} {requestPath : List Char}
    {answer : StaticFileResponse} (answered : service.read requestPath = .ok answer)
    (ok : answer.status = 200) : ∃ relative, relativeFile requestPath = some relative ∧
      service.readFile relative = .ok answer := by
  unfold StaticFileService.read at answered
  split at answered
  · cases answered; cases ok
  · rename_i relative chosen
    exact ⟨relative, chosen, answered⟩

theorem served_down {service : StaticFileService} {requestPath : List Char}
    {answer : StaticFileResponse} {relative : String}
    (chosen : relativeFile requestPath = some relative) (normal : NormalPath relative)
    (served : service.readFile relative = .ok answer) (ok : answer.status = 200) :
    ServedFile service requestPath answer (systemNames relative.toList) := by
  obtain ⟨content, there, rfl⟩ := (readFile_ok normal).mp ⟨served, ok⟩
  refine ⟨⟨relative, chosen, opened_down there rfl⟩, there, ?_⟩
  intro way short other
  obtain ⟨behind, shape⟩ := short
  have some_name : behind ≠ [] := by
    rintro rfl
    exact other (by rw [← shape, List.append_nil])
  rw [← shape, ← List.append_assoc] at there
  exact LinkedFiles.Tree.above some_name there

/-- Every answer is a file from inside the root, a fixed page or an asset. -/
theorem served_inside {service : StaticFileService} {requestPath : List Char}
    {answer : StaticFileResponse} (answered : service.read requestPath = .ok answer)
    (ok : answer.status = 200) : ∃ names, ServedFile service requestPath answer names ∧
      (names ∈ fixedPages ∨ UnderAssets names fun name =>
        extension name ∈ permittedExtensions ∨ CutBeforeExtension service requestPath) := by
  obtain ⟨relative, chosen, served⟩ := read_ok answered ok
  rcases relativeFile_cases chosen with fixed | asset
  · obtain ⟨normal, page⟩ := fixed_normal fixed
    exact ⟨_, served_down chosen normal served ok, Or.inl page⟩
  · obtain ⟨way, name, names⟩ := asset.names
    have file := served_down chosen asset.normal served ok
    refine ⟨_, file, Or.inr ⟨way, name, names, ?_⟩⟩
    by_cases permitted : extension name ∈ permittedExtensions
    · exact Or.inl permitted
    · have cut : nul ∈ relative.toList := by
        by_contra free
        exact permitted (@AssetPath.extension_opened _ _ asset free (assets :: way) name names)
      have there := file.file
      rw [names] at there
      exact Or.inr ⟨relative, assets :: way, name, answer.body, asset, cut, names, there, permitted⟩

/-- A file behind a cut is served. -/
theorem cut_served {service : StaticFileService} {requestPath : List Char}
    (cut : CutBeforeExtension service requestPath) : ¬ Confined service requestPath := by
  intro confined
  obtain ⟨relative, way, name, content, asset, _, names, there, other⟩ := cut
  rw [← names] at there
  have served := (readFile_ok asset.normal).mpr ⟨content, there, rfl⟩
  have answered : service.read requestPath =
      .ok ⟨200, contentTypeForPath relative.toList, content⟩ := by
    rw [StaticFileService.read, asset.chosen]
    exact served.1
  obtain ⟨names', file, allowed⟩ := confined _ answered rfl
  obtain ⟨relative', chosen, opened⟩ := file.opened
  have same : relative = relative' := Option.some.inj (asset.chosen.symm.trans chosen)
  rw [← same, opened_down there rfl] at opened
  have same_names := List.append_cancel_left (Except.ok.inj opened)
  obtain ⟨way', name', under⟩ := asset.names
  rcases allowed with page | ⟨way'', name'', shape, permitted⟩
  · rw [← same_names, under] at page
    have apart : ∀ names ∈ fixedPages, names.head? ≠ some assets := by decide
    exact apart _ page rfl
  · rw [← same_names, names] at shape
    have last := congrArg List.getLast? shape
    rw [List.getLast?_concat, ← List.cons_append, List.getLast?_concat] at last
    rw [← Option.some.inj last] at permitted
    exact other permitted

/-- Every answer 200 is a file from inside the root, reached without a link, a fixed page or
    below assets; its own name has a permitted extension unless the path was cut in front of the
    extension that was checked. -/
theorem confined_iff (service : StaticFileService) (method : String) (target : List Char) :
    (∀ answer, service.read (toApplicationRequest method target).path = .ok answer →
      answer.status = 200 →
        ∃ names, ServedFile service (toApplicationRequest method target).path answer names ∧
          (names ∈ fixedPages ∨ UnderAssets names fun _ => True)) ∧
    (Confined service (toApplicationRequest method target).path ↔
      ¬ CutBeforeExtension service (toApplicationRequest method target).path) := by
  constructor
  · intro answer answered ok
    obtain ⟨names, file, page | ⟨way, name, shape, _⟩⟩ := served_inside answered ok
    · exact ⟨names, file, Or.inl page⟩
    · exact ⟨names, file, Or.inr ⟨way, name, shape, trivial⟩⟩
  · constructor
    · intro confined cut
      exact cut_served cut confined
    · intro not_cut answer answered ok
      obtain ⟨names, file, page | ⟨way, name, shape, permitted | cut⟩⟩ := served_inside answered ok
      · exact ⟨names, file, Or.inl page⟩
      · exact ⟨names, file, Or.inr ⟨way, name, shape, permitted⟩⟩
      · contradiction

/-- A static root with one file that is no asset. -/
def siteLook (place : Place) : Except Fault (Entry (List Char)) :=
  if place ∈ [[], ["srv".toList], ["srv".toList, assets]] then .ok .directory
  else if place = ["srv".toList, assets, "secret.txt".toList] then
    .ok (.file "hidden".toList true)
  else .error .missing

def site : StaticFileService where
  tree :=
    { look := siteLook
      closed := by
        intro place entry there nonempty
        unfold siteLook at there
        split at there
        · rename_i inside
          simp only [List.mem_cons, List.not_mem_nil, or_false] at inside
          rcases inside with rfl | rfl | rfl
          · contradiction
          · rfl
          · decide
        · split at there
          · rename_i file
            rw [file]
            decide
          · cases there
      proper := by
        intro place entry there
        unfold siteLook at there
        split at there
        · rename_i inside
          simp only [List.mem_cons, List.not_mem_nil, or_false] at inside
          rcases inside with rfl | rfl | rfl
          · decide
          · decide
          · decide
        · split at there
          · rename_i file
            rw [file]
            decide
          · cases there }
  root := ["srv".toList]
  links := 40
  root_directory := by decide

theorem secret_served :
    ¬ Confined site (toApplicationRequest "GET" "/assets/secret.txt%00.css".toList).path := by
  apply cut_served
  refine ⟨String.ofList ("assets/secret.txt".toList ++ nul :: ".css".toList), [assets],
    "secret.txt".toList, "hidden".toList, ⟨?_, ?_, ?_⟩, ?_, ?_, ?_, ?_⟩
  all_goals decide +kernel

end StaticFiles
