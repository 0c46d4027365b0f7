import ZFleet.Package.ArchiveWriter

/-!
What an archive that was written consists of, and that the writer writes it: the parts of the
files one behind the other, the directory with an entry for each of them, and the end record.
-/
namespace PackageArchive
open ByteReader Package OutputStreams
open FileTrees (Path)

/-- A file as it is packed. -/
structure PackedFile where
  path : String
  executable : Bool
  contents : Bytes
  deriving DecidableEq, Repr

def localHeader (path : String) (stats : FileWriteStats) : Bytes :=
  writeU32 kLocalFileHeaderSignature ++ (writeU16 kZipVersion ++
    (writeU16 kGeneralPurposeUtf8 ++ (writeU16 kDeflatedCompressionMethod ++ (writeU16 0 ++
    (writeU16 0 ++ (writeU32 stats.crc32 ++ (writeU32 stats.compressedSize.toUInt32 ++
    (writeU32 stats.uncompressedSize.toUInt32 ++
    (writeU16 path.length.toUInt16 ++ (writeU16 0 ++ bytesOf path))))))))))

section Layout

variable (zlib : Zlib)

def PackedFile.stream (file : PackedFile) : Bytes := (zlib.compressed file.contents).stream

def PackedFile.stats (file : PackedFile) : FileWriteStats :=
  ⟨crc32 file.contents, (file.stream zlib).length, file.contents.length⟩

def PackedFile.part (file : PackedFile) : Bytes :=
  localHeader file.path (file.stats zlib) ++ file.stream zlib

/-- The record of a file whose local header is at the offset. -/
def PackedFile.recordAt (offset : Nat) (file : PackedFile) : ArchiveRecord where
  path := file.path
  executable := file.executable
  compressedSize := (file.stream zlib).length
  uncompressedSize := file.contents.length
  localHeaderOffset := offset
  crc32 := crc32 file.contents
  compressionMethod := kDeflatedCompressionMethod
  generalPurposeBitFlag := kGeneralPurposeUtf8
  versionMadeBy := kUnixOsCode <<< 8 ||| kZipVersion

def recordsFrom : Nat → List PackedFile → List ArchiveRecord
  | _, [] => []
  | offset, file :: rest =>
    file.recordAt zlib offset :: recordsFrom (offset + (file.part zlib).length) rest

def localParts (files : List PackedFile) : Bytes := files.flatMap (PackedFile.part zlib)

def centralDirectory (records : List ArchiveRecord) : Bytes := records.flatMap centralDirectoryEntry

def directoryOf (files : List PackedFile) : Bytes := centralDirectory (recordsFrom zlib 0 files)

def endOf (files : List PackedFile) : EndRecord where
  diskNumber := 0
  centralDirectoryDisk := 0
  entriesOnDisk := files.length.toUInt16
  totalEntries := files.length.toUInt16
  centralDirectorySize := (directoryOf zlib files).length.toUInt32
  centralDirectoryOffset := (localParts zlib files).length.toUInt32
  commentLength := 0

def archiveBytes (files : List PackedFile) : Bytes :=
  localParts zlib files ++ (directoryOf zlib files ++
    (writeU32 kEndOfCentralDirectorySignature ++ (endOf zlib files).bytes))

/-- What the writer lets through. -/
structure Packable (file : PackedFile) : Prop where
  safe : isSafeRelativeArchivePath file.path = true
  short : file.path.length ≤ 0xffff
  small : file.contents.length ≤ maxSize
  fits : (file.stream zlib).length ≤ maxSize

structure Bounded (files : List PackedFile) : Prop where
  offset : (localParts zlib files).length ≤ maxSize
  size : (directoryOf zlib files).length ≤ maxSize
  count : files.length ≤ 0xffff

end Layout

/-! The data -/

section Deflate

variable {content : Bytes} (z : Compressed content) (sourcePath : String) {n : Nat}

/-- A loop that gets through has written the whole stream. -/
theorem deflateLoop_written {zlib : Deflater z} {fuel : Nat} {r : Bytes × FileWriteStats}
    (some_left : n ≤ content.length) (before : n ≤ maxSize)
    (fits : (z.emitted n).length ≤ maxSize)
    (done : deflateLoop sourcePath content zlib fuel (boundary z n) = some (.ok r)) :
    r = (z.stream, ⟨crc32 content, z.stream.length, content.length⟩) ∧
    content.length ≤ maxSize ∧ z.stream.length ≤ maxSize := by
  induction fuel generalizing n with
  | zero => cases done
  | succ fuel ih =>
    by_cases whole : n + kBufferSize ≤ content.length
    · have refilled := refillInput_full z sourcePath whole
      by_cases small : n + kBufferSize ≤ maxSize
      · rw [if_pos small] at refilled
        rw [deflateLoop_refilled z sourcePath refilled] at done
        split at done
        · cases done
        · cases done
        · rename_i w code drained
          obtain ⟨same, all, _, goes_on⟩ :=
            drainDeflate_ends (output_grows z false) (fullChunk_ready z) drained
          have not_ended : code ≠ .streamEnd := by
            rcases goes_on rfl with fine | ⟨stuck, _⟩
            · rw [fine]
              nofun
            · rw [stuck]
              nofun
          rw [fullChunk_drained] at same
          rw [if_neg not_ended, if_neg (by rw [same]; simp [boundary])] at done
          have plain : z.output false (n + kBufferSize) = z.emitted (n + kBufferSize) :=
            if_neg (by simp)
          have fits' := all fits
          change (z.output false (n + kBufferSize)).length ≤ maxSize at fits'
          rw [plain] at fits'
          split at done
          · cases done
          · rw [same] at done
            exact ih whole small fits' done
      · rw [if_neg small] at refilled
        rw [deflateLoop, refilled] at done
        cases done
    · have rest : content.length < n + kBufferSize := Nat.not_le.mp whole
      obtain ⟨small, bound⟩ := deflateLoop_last z sourcePath some_left rest before fits done
      refine ⟨?_, small, bound⟩
      have refilled := refillInput_last z sourcePath some_left rest before
      rw [if_pos small] at refilled
      rw [deflateLoop_refilled z sourcePath refilled] at done
      split at done
      · cases done
      · cases done
      · rename_i w code drained
        obtain ⟨same, _, ended, _⟩ :=
          drainDeflate_ends (output_grows z true) (lastChunk_ready z some_left) drained
        have all : z.output true (lastChunk z n).limit = z.stream := output_end z
        rw [if_pos (ended rfl), same] at done
        cases done
        simp only [Writing.drained, all]
        rfl

theorem writeDeflatedFileData_written {zlib : Deflater z} {fuel : Nat} {r : Bytes × FileWriteStats}
    (done : writeDeflatedFileData sourcePath content zlib fuel = some (.ok r)) :
    r = (z.stream, ⟨crc32 content, z.stream.length, content.length⟩) ∧
    content.length ≤ maxSize ∧ z.stream.length ≤ maxSize := by
  have start : (⟨⟨0, 0⟩, 0, false, ⟨0, 0, 0⟩, []⟩ : Writing) = boundary z 0 := by
    unfold boundary
    rw [z.nothing, List.take_zero, show crc32 [] = 0 by decide]
    rfl
  unfold writeDeflatedFileData at done
  rw [start] at done
  exact deflateLoop_written z sourcePath (Nat.zero_le _) (Nat.zero_le _)
    (by rw [z.nothing]; exact Nat.zero_le _) done

end Deflate

/-! The files of a directory -/

/-- The iterator comes to everything below the directory once, in some order. -/
structure Walk (tree : FileTrees.Tree) (packageDir : Path) (walk : List Path) : Prop where
  distinct : walk.Nodup
  all : ∀ relative, relative ∈ walk ↔ relative ≠ [] ∧ tree.node (packageDir ++ relative) ≠ none

/-- The files below the directory, in ascending order of their paths. -/
structure FilesOf (tree : FileTrees.Tree) (packageDir : Path) (files : List PackedFile) :
    Prop where
  ordered : files.Pairwise fun a b => a.path < b.path
  there : ∀ file ∈ files, ∃ relative content, relative ≠ [] ∧
    tree.regular (packageDir ++ relative) = some (content, file.executable) ∧
    file.path = relativeText relative ∧ file.contents = bytesOf content
  all : ∀ relative content executable, relative ≠ [] →
    tree.regular (packageDir ++ relative) = some (content, executable) →
    ⟨relativeText relative, executable, bytesOf content⟩ ∈ files

/-! Collecting -/

theorem ok_of_throw {α : Type} {fails : Prop} [Decidable fails] {message : String}
    {rest : Except Fault α} {a : α} (passed : (if fails then throw message else rest) = .ok a) :
    ¬ fails ∧ rest = .ok a := by
  split at passed
  · cases passed
  · rename_i holds
    exact ⟨holds, passed⟩

section Collect

variable {tree : FileTrees.Tree} {packageDir : Path}

/-- An entry of a file that was come to. -/
structure Source (tree : FileTrees.Tree) (packageDir : Path) (entry : SourceEntry)
    (relative : Path) : Prop where
  file : ∃ content, tree.node (packageDir ++ relative) = some (.file content entry.executable)
  place : entry.sourcePath = packageDir ++ relative
  path : entry.path = relativeText relative
  safe : isSafeRelativeArchivePath entry.path = true
  short : entry.path.length ≤ 0xffff

structure Collected (tree : FileTrees.Tree) (packageDir : Path) (passed : List Path)
    (entries : List SourceEntry) : Prop where
  distinct : (entries.map SourceEntry.path).Nodup
  from_walk : ∀ entry ∈ entries, ∃ relative ∈ passed, Source tree packageDir entry relative
  all : ∀ relative ∈ passed, ∀ content executable,
    tree.node (packageDir ++ relative) = some (.file content executable) →
    ∃ entry ∈ entries, entry.executable = executable ∧ Source tree packageDir entry relative

theorem collected_nil (tree : FileTrees.Tree) (packageDir : Path) :
    Collected tree packageDir [] [] :=
  ⟨by simp, by simp, by simp⟩

theorem collectSourceEntry_collected {passed : List Path} {entries entries' : List SourceEntry}
    {relative : Path} (before : Collected tree packageDir passed entries)
    (took : collectSourceEntry tree packageDir entries relative = .ok entries') :
    Collected tree packageDir (passed ++ [relative]) entries' := by
  have earlier : ∀ entry ∈ entries, ∃ place ∈ passed ++ [relative],
      Source tree packageDir entry place := by
    intro entry inside
    obtain ⟨place, member, source⟩ := before.from_walk entry inside
    exact ⟨place, List.mem_append_left _ member, source⟩
  unfold collectSourceEntry at took
  dsimp only at took
  split at took
  · cases took
  · rename_i directory
    cases took
    refine ⟨before.distinct, earlier, ?_⟩
    intro place member content executable file
    rcases List.mem_append.mp member with old | new
    · exact before.all place old content executable file
    · rw [List.mem_singleton.mp new, directory] at file
      cases file
  · cases took
  · rename_i content executable file
    obtain ⟨safe, took⟩ := ok_of_throw took
    obtain ⟨new, took⟩ := ok_of_throw took
    obtain ⟨short, took⟩ := ok_of_throw took
    obtain ⟨small, took⟩ := ok_of_throw took
    cases took
    have source : Source tree packageDir
        ⟨relativeText relative, packageDir ++ relative, executable, (bytesOf content).length⟩
        relative :=
      ⟨⟨content, file⟩, rfl, rfl, by simpa using safe, Nat.not_lt.mp short⟩
    constructor
    · rw [List.map_append, List.map_singleton]
      exact before.distinct.append (List.nodup_singleton _) (by simpa using new)
    · intro entry inside
      rcases List.mem_append.mp inside with old | last
      · exact earlier entry old
      · rw [List.mem_singleton.mp last]
        exact ⟨relative, by simp, source⟩
    · intro place member content' executable' file'
      rcases List.mem_append.mp member with old | here
      · obtain ⟨entry, inside, same, source'⟩ := before.all place old content' executable' file'
        exact ⟨entry, List.mem_append_left _ inside, same, source'⟩
      · obtain rfl := List.mem_singleton.mp here
        rw [file] at file'
        cases file'
        exact ⟨_, List.mem_append_right _ (List.mem_singleton.mpr rfl), rfl, source⟩

theorem collectEach_collected {walk passed : List Path} {entries entries' : List SourceEntry}
    (before : Collected tree packageDir passed entries)
    (took : walk.foldlM (collectSourceEntry tree packageDir) entries = .ok entries') :
    Collected tree packageDir (passed ++ walk) entries' := by
  induction walk generalizing passed entries with
  | nil =>
    cases took
    rw [List.append_nil]
    exact before
  | cons relative rest ih =>
    rw [List.foldlM_cons] at took
    cases first : collectSourceEntry tree packageDir entries relative with
    | error fault =>
      rw [first] at took
      cases took
    | ok middle =>
      rw [first] at took
      have after := ih (collectSourceEntry_collected before first) took
      rwa [List.append_assoc, List.singleton_append] at after

theorem collectSourceEntries_collected {walk : List Path} {entries : List SourceEntry}
    (took : collectSourceEntries tree packageDir walk = .ok entries) :
    Collected tree packageDir walk entries ∧
      entries.Pairwise fun a b => a.path < b.path := by
  unfold collectSourceEntries at took
  cases collected : walk.foldlM (collectSourceEntry tree packageDir) [] with
  | error fault =>
    rw [collected] at took
    cases took
  | ok unsorted =>
    rw [collected] at took
    cases took
    have all := collectEach_collected (collected_nil tree packageDir) collected
    have permuted := List.mergeSort_perm unsorted fun a b => decide (a.path ≤ b.path)
    have sorted := @List.pairwise_mergeSort SourceEntry (fun a b => decide (a.path ≤ b.path))
      (fun a b c first second => by
        simp only [decide_eq_true_eq] at *
        exact le_trans first second)
      (fun a b => by
        simp only [Bool.or_eq_true, decide_eq_true_eq]
        exact le_total a.path b.path) unsorted
    have distinct := (permuted.map SourceEntry.path).nodup_iff.mpr all.distinct
    refine ⟨⟨distinct, ?_, ?_⟩, ?_⟩
    · intro entry inside
      exact all.from_walk entry (permuted.mem_iff.mp inside)
    · intro relative member content executable file
      obtain ⟨entry, inside, rest⟩ := all.all relative member content executable file
      exact ⟨entry, permuted.mem_iff.mpr inside, rest⟩
    · have different := List.pairwise_map.mp distinct
      refine (sorted.and different).imp ?_
      rintro a b ⟨ordered, other⟩
      exact lt_of_le_of_ne (of_decide_eq_true ordered) other

end Collect

/-! Writing -/

def headerFront : Bytes :=
  writeU32 kLocalFileHeaderSignature ++ (writeU16 kZipVersion ++
    (writeU16 kGeneralPurposeUtf8 ++ (writeU16 kDeflatedCompressionMethod ++ (writeU16 0 ++
    writeU16 0))))

def FileWriteStats.bytes (stats : FileWriteStats) : Bytes :=
  writeU32 stats.crc32 ++ (writeU32 stats.compressedSize.toUInt32 ++
    writeU32 stats.uncompressedSize.toUInt32)

def headerBack (path : String) : Bytes :=
  writeU16 path.length.toUInt16 ++ (writeU16 0 ++ bytesOf path)

theorem localHeader_parts (path : String) (stats : FileWriteStats) :
    localHeader path stats = headerFront ++ (stats.bytes ++ headerBack path) := by
  simp only [localHeader, headerFront, FileWriteStats.bytes, headerBack, List.append_assoc]

theorem localHeader_length (path : String) (stats : FileWriteStats) :
    (localHeader path stats).length = 30 + (bytesOf path).length := by
  simp only [localHeader, List.length_append, writeU16_length, writeU32_length]
  omega

theorem patchLocalFileHeader_part (front data : Bytes) (path : String)
    (before stats : FileWriteStats) :
    patchLocalFileHeader front.length stats (atEnd (front ++ (localHeader path before ++ data))) =
      atEnd (front ++ (localHeader path stats ++ data)) := by
  have parts : ∀ description : FileWriteStats,
      front ++ (localHeader path description ++ data) =
        (front ++ headerFront) ++ description.bytes ++ (headerBack path ++ data) := by
    intro description
    rw [localHeader_parts]
    simp only [List.append_assoc]
  have patched := write_over (front ++ headerFront) before.bytes stats.bytes
    (headerBack path ++ data) rfl
  rw [List.length_append, ← parts, ← parts] at patched
  exact patched

/-- The file of an entry. -/
def packed (tree : FileTrees.Tree) (entry : SourceEntry) : PackedFile where
  path := entry.path
  executable := entry.executable
  contents := bytesOf (((tree.regular entry.sourcePath).map Prod.fst).getD "")

/-- The writer leaves this field of its records open. -/
def ArchiveRecord.unmarked (record : ArchiveRecord) : ArchiveRecord :=
  { record with versionMadeBy := 0 }

section Write

variable {zlib : Zlib} {fuel : Nat} {tree : FileTrees.Tree} {front : Bytes}
  {stream : ArchiveStream}

theorem writeSourceEntry_written {entry : SourceEntry} {record : ArchiveRecord}
    (done : writeSourceEntry zlib fuel tree entry (atEnd front) = some (.ok (stream, record))) :
    stream = atEnd (front ++ (packed tree entry).part zlib) ∧
    record = ((packed tree entry).recordAt zlib front.length).unmarked ∧
    (packed tree entry).contents.length ≤ maxSize ∧
    ((packed tree entry).stream zlib).length ≤ maxSize := by
  unfold writeSourceEntry at done
  dsimp only at done
  split at done
  · cases done
  · rename_i content executable there
    have contents : (packed tree entry).contents = bytesOf content := by
      unfold packed
      rw [there]
      rfl
    split at done
    · cases done
    · cases done
    · rename_i data stats wrote
      obtain ⟨same, small, fits⟩ := writeDeflatedFileData_written _ _ wrote
      obtain ⟨rfl, rfl⟩ := Prod.mk.inj same
      have data_eq : (zlib.compressed (bytesOf content)).stream =
          (packed tree entry).stream zlib := by
        rw [PackedFile.stream, contents]
      have header : writeLocalFileHeader entry (atEnd front) =
          atEnd (front ++ localHeader entry.path ⟨0, 0, 0⟩) := write_atEnd _ _
      rw [header, write_atEnd, List.append_assoc, atEnd_position,
        patchLocalFileHeader_part] at done
      obtain ⟨stream_eq, record_eq⟩ := Prod.mk.inj (Except.ok.inj (Option.some.inj done))
      rw [contents, ← data_eq]
      refine ⟨?_, ?_, small, fits⟩
      · rw [← stream_eq, PackedFile.part, PackedFile.stats, ← data_eq, contents]
        apply seekp_end
        simp [localHeader_length]
      · rw [← record_eq]
        simp only [ArchiveRecord.unmarked, PackedFile.recordAt, ← data_eq, contents]
        rfl

theorem writeSourceEntries_written {entries : List SourceEntry} {records : List ArchiveRecord}
    (done : writeSourceEntries zlib fuel tree entries (atEnd front) =
      some (.ok (stream, records))) :
    stream = atEnd (front ++ localParts zlib (entries.map (packed tree))) ∧
    records = (recordsFrom zlib front.length (entries.map (packed tree))).map
      ArchiveRecord.unmarked ∧
    ∀ entry ∈ entries, (packed tree entry).contents.length ≤ maxSize ∧
      ((packed tree entry).stream zlib).length ≤ maxSize := by
  induction entries generalizing front records with
  | nil =>
    obtain ⟨rfl, rfl⟩ := Prod.mk.inj (Except.ok.inj (Option.some.inj done))
    refine ⟨?_, rfl, nofun⟩
    rw [List.map_nil, localParts, List.flatMap_nil, List.append_nil]
  | cons entry rest ih =>
    rw [writeSourceEntries] at done
    split at done
    · cases done
    · cases done
    · rename_i middle record first
      obtain ⟨rfl, rfl, sizes⟩ := writeSourceEntry_written first
      split at done
      · cases done
      · cases done
      · rename_i last others later
        obtain ⟨rfl, rfl⟩ := Prod.mk.inj (Except.ok.inj (Option.some.inj done))
        obtain ⟨written, described, bounds⟩ := ih later
        refine ⟨?_, ?_, ?_⟩
        · rw [written, List.append_assoc]
          rfl
        · rw [described, List.length_append]
          rfl
        · intro other inside
          rcases List.mem_cons.mp inside with rfl | inside
          · exact sizes
          · exact bounds other inside

theorem recordsFrom_length (zlib : Zlib) (offset : Nat) (files : List PackedFile) :
    (recordsFrom zlib offset files).length = files.length := by
  induction files generalizing offset with
  | nil => rfl
  | cons file rest ih => rw [recordsFrom, List.length_cons, List.length_cons, ih]

theorem writeEntries_directory (records : List ArchiveRecord) (front : Bytes) :
    (records.map ArchiveRecord.unmarked).foldl writeCentralDirectoryEntry (atEnd front) =
      atEnd (front ++ centralDirectory records) := by
  induction records generalizing front with
  | nil =>
    rw [centralDirectory, List.flatMap_nil, List.append_nil]
    rfl
  | cons record rest ih =>
    have first : writeCentralDirectoryEntry (atEnd front) record.unmarked =
        atEnd (front ++ centralDirectoryEntry record) := write_atEnd _ _
    rw [List.map_cons, List.foldl_cons, first, ih, List.append_assoc]
    rfl

theorem writeArchive_written {entries : List SourceEntry}
    (done : writeArchive zlib fuel tree entries = some (.ok stream)) :
    stream.written = archiveBytes zlib (entries.map (packed tree)) ∧
    Bounded zlib (entries.map (packed tree)) ∧
    ∀ entry ∈ entries, (packed tree entry).contents.length ≤ maxSize ∧
      ((packed tree entry).stream zlib).length ≤ maxSize := by
  unfold writeArchive at done
  split at done
  · cases done
  · cases done
  · rename_i middle records wrote
    obtain ⟨rfl, rfl, sizes⟩ := writeSourceEntries_written wrote
    have finished := Option.some.inj done
    have behind : ∀ front directory : Bytes, front.length ≤ (front ++ directory).length := by
      intro front directory
      rw [List.length_append]
      exact Nat.le_add_right _ _
    unfold writeDirectory at finished
    dsimp only at finished
    rw [writeEntries_directory, List.nil_append] at finished
    simp only [atEnd_position, List.length_map, recordsFrom_length] at finished
    split at finished
    · cases finished
    · rename_i offset
      split at finished
      · cases finished
      · split at finished
        · cases finished
        · rename_i rest
          simp only [List.length_append, Nat.add_sub_cancel_left, not_or] at rest
          cases finished
          refine ⟨?_, ⟨Nat.not_lt.mp offset, Nat.not_lt.mp rest.1, ?_⟩, sizes⟩
          · rw [write_atEnd, atEnd_written, archiveBytes, endOf, EndRecord.bytes, directoryOf]
            simp only [List.append_assoc, List.length_append, Nat.add_sub_cancel_left,
              List.length_map]
            rfl
          · rw [List.length_map]
            exact Nat.not_lt.mp rest.2

end Write

/-! Creating -/

theorem joinPieces_append {front behind : List (List Char)} (nonempty : front ≠ [])
    (nonempty' : behind ≠ []) :
    joinPieces (front ++ behind) = joinPieces front ++ '/' :: joinPieces behind := by
  induction front with
  | nil => exact absurd rfl nonempty
  | cons first rest ih =>
    cases rest with
    | nil =>
      obtain ⟨other, others, rfl⟩ := List.exists_cons_of_ne_nil nonempty'
      simp [joinPieces]
    | cons second others =>
      have later := ih (by simp)
      simp only [joinPieces, List.cons_append, List.intercalate_cons_cons] at later ⊢
      rw [later]
      simp

/-- A place below a directory has its text behind the text of the directory. -/
theorem within_below {base place : Path} (below : base <+: place) :
    isWithinBase (outputText base) (outputText place) = true := by
  obtain ⟨rest, rfl⟩ := below
  by_cases here : rest = []
  · rw [here, List.append_nil, isWithinBase, if_pos rfl]
  · by_cases root : base = []
    · unfold isWithinBase
      split
      · rfl
      · rename_i other
        have text : outputText ([] ++ rest) = '/' :: joinPieces (rest.map String.toList) := rfl
        have start : outputText [] = ['/'] := rfl
        rw [root, text, start] at other
        rw [root, text, start, if_neg, if_neg]
        · rfl
        · simp
        · intro short
          apply other
          have none_left :=
            List.length_eq_zero_iff.mp (Nat.le_zero.mp (Nat.le_of_succ_le_succ short))
          rw [none_left]
    · have text : outputText (base ++ rest) =
          outputText base ++ '/' :: joinPieces (rest.map String.toList) := by
        unfold outputText
        rw [List.map_append, joinPieces_append (by simpa using root) (by simpa using here),
          List.cons_append]
      rw [text]
      unfold isWithinBase
      rw [if_neg (by simp), if_neg (by simp), if_neg (by simp)]
      split
      · rfl
      · rw [List.drop_left]
        rfl

section Create

variable {packageDir archivePath : Path} {force : Bool} {tree tree' : FileTrees.Tree}

theorem checkedEntries_ok {walk : List Path} {entries : List SourceEntry}
    (checked : checkedEntries packageDir archivePath walk tree = .ok entries) :
    checkArchivePath (pathText archivePath) = .ok () ∧
    tree.node packageDir = some .directory ∧ ¬ packageDir <+: archivePath ∧
    collectSourceEntries tree packageDir walk = .ok entries := by
  unfold checkedEntries at checked
  rcases checkArchivePath_cases (pathText archivePath) with passed | ⟨message, failed⟩
  · rw [passed] at checked
    have goes_on : ∀ next : Unit → Except Fault (List SourceEntry),
        (Except.ok () >>= next) = next () := fun _ => rfl
    rw [goes_on] at checked
    obtain ⟨_, checked⟩ := ok_of_throw checked
    obtain ⟨directory, checked⟩ := ok_of_throw checked
    obtain ⟨_, checked⟩ := ok_of_throw checked
    obtain ⟨outside, checked⟩ := ok_of_throw checked
    cases collected : collectSourceEntries tree packageDir walk with
    | error fault =>
      rw [collected] at checked
      cases checked
    | ok found =>
      rw [collected] at checked
      have rest : ∀ next : List SourceEntry → Except Fault (List SourceEntry),
          (Except.ok found >>= next) = next found := fun _ => rfl
      rw [rest] at checked
      obtain ⟨_, checked⟩ := ok_of_throw checked
      cases checked
      refine ⟨passed, by simpa [FileTrees.Tree.isDirectory] using directory, ?_, rfl⟩
      intro below
      exact outside (within_below below)
  · rw [failed] at checked
    cases checked

/-- Opening the archive leaves the directory as it is. -/
theorem openForWrite_ok (directory : tree.node packageDir = some .directory)
    (apart : ¬ packageDir <+: archivePath)
    (opened : openForWrite archivePath force tree = (tree', .ok ())) (relative : Path) :
    tree'.node (packageDir ++ relative) = tree.node (packageDir ++ relative) := by
  have elsewhere : ∀ place, place <+: archivePath → packageDir ++ relative ≠ place := by
    rintro place short rfl
    exact apart ((List.prefix_append _ _).trans short)
  unfold openForWrite at opened
  split at opened
  · cases opened
  · rename_i cleared clear
    have cleared_same : cleared.node (packageDir ++ relative) =
        tree.node (packageDir ++ relative) := by
      unfold clearArchive at clear
      split at clear
      · obtain ⟨file, clear⟩ := ok_of_throw clear
        obtain ⟨_, clear⟩ := ok_of_throw clear
        split at clear
        · rename_i removed_tree removed
          cases clear
          rw [(FileTrees.Tree.remove_ok removed).1, if_neg]
          intro below
          rcases List.prefix_or_prefix_of_prefix below (List.prefix_append packageDir relative)
            with above | under
          · -- the archive is no directory above the package directory
            obtain ⟨rest, joined⟩ := above
            by_cases same : rest = []
            · rw [same, List.append_nil] at joined
              exact apart (joined ▸ List.prefix_refl _)
            · have parent := tree.closed archivePath rest same (by rw [joined, directory]; simp)
              simp [FileTrees.Tree.regular, parent] at file
          · exact apart under
        · cases clear
      · cases clear
        rfl
    split at opened
    · cases opened
    · rename_i made makes
      split at opened
      · cases opened
      · rename_i written writes
        cases opened
        rw [(FileTrees.agree_writeFile writes).nodes _ (elsewhere _ (List.prefix_refl _)),
          (FileTrees.agree_makeDirectories makes).nodes _ ?_, cleared_same]
        intro above
        exact elsewhere _ (above.trans (List.dropLast_prefix _)) rfl

/-- An archive that was created is the one of the files of the directory. -/
theorem createArchive_written {zlib : Zlib} {fuel : Nat} {walk : List Path}
    (walks : Walk tree packageDir walk)
    (created : createArchive packageDir archivePath zlib fuel walk force tree =
      some (tree', .ok ())) :
    ∃ files, FilesOf tree packageDir files ∧ (∀ file ∈ files, Packable zlib file) ∧
      Bounded zlib files ∧ checkArchivePath (pathText archivePath) = .ok () ∧
      (∃ executable, tree'.regular archivePath =
        some (textOf (archiveBytes zlib files), executable)) ∧
      ∀ relative, tree'.node (packageDir ++ relative) = tree.node (packageDir ++ relative) := by
  unfold createArchive at created
  split at created
  · cases created
  · rename_i entries checked
    obtain ⟨named, directory, apart, collects⟩ := checkedEntries_ok checked
    obtain ⟨collected, sorted⟩ := collectSourceEntries_collected collects
    split at created
    · cases created
    · rename_i opened opens
      have kept := openForWrite_ok directory apart opens
      split at created
      · cases created
      · cases created
      · rename_i stream wrote
        obtain ⟨bytes, bounded, sizes⟩ := writeArchive_written wrote
        split at created
        · cases created
        · rename_i written writes
          cases created
          have packed_source : ∀ entry relative content executable,
              Source tree packageDir entry relative →
              tree.node (packageDir ++ relative) = some (.file content executable) →
              packed opened entry = ⟨relativeText relative, entry.executable, bytesOf content⟩ := by
            intro entry relative content executable source file
            have there : opened.regular entry.sourcePath = some (content, executable) := by
              rw [source.place]
              exact FileTrees.Tree.regular_iff.mpr ((kept relative).trans file)
            unfold packed
            rw [there, source.path]
            rfl
          refine ⟨entries.map (packed opened), ⟨?_, ?_, ?_⟩, ?_, bounded, named, ?_, ?_⟩
          · exact List.pairwise_map.mpr sorted
          · intro file inside
            obtain ⟨entry, member, rfl⟩ := List.mem_map.mp inside
            obtain ⟨relative, passed, source⟩ := collected.from_walk entry member
            obtain ⟨content, there⟩ := source.file
            have same := packed_source entry relative content _ source there
            refine ⟨relative, content, ((walks.all relative).mp passed).1, ?_, ?_, ?_⟩
            · exact FileTrees.Tree.regular_iff.mpr there
            · rw [same]
            · rw [same]
          · intro relative content executable nonempty there
            have node := FileTrees.Tree.regular_iff.mp there
            obtain ⟨entry, member, same, source⟩ := collected.all relative
              ((walks.all relative).mpr ⟨nonempty, by rw [node]; simp⟩) content executable node
            refine List.mem_map.mpr ⟨entry, member, ?_⟩
            rw [packed_source entry relative content executable source node, same]
          · intro file inside
            obtain ⟨entry, member, rfl⟩ := List.mem_map.mp inside
            obtain ⟨relative, _, source⟩ := collected.from_walk entry member
            exact ⟨source.safe, source.short, (sizes entry member).1, (sizes entry member).2⟩
          · rw [← bytes]
            exact ⟨_, by
              rw [FileTrees.Tree.put_regular writes, if_pos rfl]⟩
          · intro relative
            rw [(FileTrees.agree_writeFile writes).nodes, kept]
            rintro same
            exact apart (same ▸ List.prefix_append _ _)

end Create

end PackageArchive
