import ZFleet.Package.ArchiveRoundTrip

/-!
Packing and unpacking. What extraction leaves of an archive that was created of a directory
are the files of this directory.
-/
namespace PackageArchive
open ByteReader Package
open FileTrees (Path)

/-- A name that a file can have. -/
structure FileName (name : String) : Prop where
  nonempty : name.toList ≠ []
  no_slash : '/' ∉ name.toList
  free : nul ∉ name.toList
  bytes : OfBytes name

/-- The files of a system have names of this kind. -/
def Named (tree : FileTrees.Tree) (packageDir : Path) : Prop :=
  ∀ relative, tree.node (packageDir ++ relative) ≠ none → ∀ name ∈ relative, FileName name

theorem joinPieces_bytes {parts : List (List Char)}
    (bytes : ∀ part ∈ parts, ∀ ch ∈ part, ch.toNat < 256) :
    ∀ ch ∈ joinPieces parts, ch.toNat < 256 := by
  induction parts with
  | nil => simp [joinPieces]
  | cons part rest ih =>
    have later := ih fun other inside => bytes other (List.mem_cons_of_mem _ inside)
    cases rest with
    | nil =>
      intro ch inside
      exact bytes part (by simp) ch (by simpa [joinPieces] using inside)
    | cons other others =>
      have joined := @joinPieces_append [part] (other :: others) (by simp) (by simp)
      rw [List.singleton_append] at joined
      rw [joined]
      intro ch inside
      rcases List.mem_append.mp inside with first | second
      · exact bytes part (by simp) ch (by simpa [joinPieces] using first)
      · rcases List.mem_cons.mp second with rfl | behind
        · decide
        · exact later ch behind

section Names
variable {relative : Path} (named : ∀ name ∈ relative, FileName name)
include named

theorem relativeText_bytes : OfBytes (relativeText relative) := by
  unfold OfBytes relativeText
  rw [String.toList_ofList]
  apply joinPieces_bytes
  intro part inside
  obtain ⟨name, member, rfl⟩ := List.mem_map.mp inside
  exact (named name member).bytes

/-- The file of a path is at its place below the output directory. -/
theorem place_relative (output : Path) (below : relative ≠ []) :
    place output (systemNames (relativeText relative).toList) = output ++ relative := by
  have proper : ∀ part ∈ relative.map String.toList, part ≠ [] ∧ '/' ∉ part := by
    intro part inside
    obtain ⟨name, member, rfl⟩ := List.mem_map.mp inside
    exact ⟨(named name member).nonempty, (named name member).no_slash⟩
  have free : ∀ part ∈ relative.map String.toList, nul ∉ part := by
    intro part inside
    obtain ⟨name, member, rfl⟩ := List.mem_map.mp inside
    exact (named name member).free
  unfold relativeText place
  rw [String.toList_ofList, systemNames_joined (by simpa using below) proper, cutNames_free free,
    List.map_map]
  simp

end Names

section Unpacked

variable {packageDir archivePath : Path} {tree tree' : FileTrees.Tree} {zlib : Zlib}

theorem names_apart {files : List PackedFile} (named : Named tree packageDir)
    (here : FilesOf tree packageDir files) {a b : PackedFile} (first : a ∈ files)
    (second : b ∈ files)
    (same : systemNames a.path.toList = systemNames b.path.toList) : a.path = b.path := by
  obtain ⟨relative, content, below, there, path, _⟩ := here.there a first
  obtain ⟨relative', content', below', there', path', _⟩ := here.there b second
  have node : ∀ {place : Path} {file : String × Bool}, tree.regular place = some file →
      tree.node place ≠ none := by
    intro place file found
    rw [FileTrees.Tree.regular_iff.mp found]
    simp
  have left := place_relative (named relative (node there)) [] below
  have right := place_relative (named relative' (node there')) [] below'
  rw [← path] at left
  rw [← path', ← same, left] at right
  rw [path, path']
  exact congrArg relativeText right

/-- No two records of a created archive name one file. -/
theorem created_plain {inflate : Bytes → Bytes × Except String Unit} {archiveName : String}
    {source output : Path} {force : Bool} {machine : FileTrees.Tree} {files : List PackedFile}
    {archive : ArchiveFile} (named : Named tree packageDir)
    (here : FilesOf tree packageDir files) (archived : ArchiveOf zlib files archive)
    (opened : openArchive archiveName source machine = some archive) :
    ¬ Aliased inflate archiveName source output force machine := by
  rintro ⟨front, record, made, ⟨⟨archive', rest, accepted⟩, _⟩, _, earlier, inside, same⟩
  obtain rfl : archive' = archive := Option.some.inj (accepted.opened.symm.trans opened)
  obtain ⟨_, split⟩ := (archived.parsed_iff _).mp accepted.parsed
  have files_of : ∀ other ∈ front ++ record :: rest, ∃ file ∈ files, other.path = file.path := by
    intro other member
    rw [split] at member
    obtain ⟨before, file, behind, files_split, rfl⟩ := mem_recordsFrom member
    exact ⟨file, by rw [files_split]; simp, rfl⟩
  obtain ⟨a, first, a_path⟩ := files_of earlier (List.mem_append_left _ inside)
  obtain ⟨b, second, b_path⟩ := files_of record (by simp)
  have paths : earlier.path = record.path := by
    unfold targetNames at same
    rw [a_path, b_path] at same
    rw [a_path, b_path]
    exact names_apart named here first second same
  have distinct := (congrArg (List.map ArchiveRecord.path) split).trans
    (recordsFrom_paths zlib 0 files) ▸ archived.distinct
  rw [List.map_append, List.map_cons] at distinct
  exact (List.nodup_append.mp distinct).2.2 _ (List.mem_map_of_mem inside) _ (by simp) paths

end Unpacked

theorem packageTree_named : Named packageTree ["pkg"] := by
  have each : ∀ name ∈ ["META", "manifest.json"], FileName name := by
    intro name inside
    constructor
    · revert name
      decide
    · revert name
      decide
    · revert name
      decide
    · apply ofBytes_of_all
      revert name
      decide
  have names : ∀ place ∈ [] :: packageWalk, ∀ name ∈ place, name ∈ ["META", "manifest.json"] := by
    decide
  intro relative there name inside
  exact each name (names relative (List.mem_cons.mpr (packageWalk_below there)) name inside)

end PackageArchive
