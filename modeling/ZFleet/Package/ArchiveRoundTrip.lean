import ZFleet.Package.ArchiveLayout
import ZFleet.Package.ExtractedFiles

/-!
The archive that was written is read back. Writer and reader differ at the greatest value of
a field of four bytes: the writer lets it through, the reader takes it for a mark of the
64-bit format.
-/
namespace PackageArchive
open ByteReader Package
open FileTrees (Path)

/-- A text that is a sequence of bytes. -/
def OfBytes (text : String) : Prop := ∀ ch ∈ text.toList, ch.toNat < 256

theorem ofBytes_of_all {text : String}
    (all : (text.toList.all fun ch => Nat.blt ch.toNat 256) = true) : OfBytes text := by
  intro ch inside
  have small := List.all_eq_true.mp all ch inside
  exact Nat.blt_eq.mp small

theorem textOf_bytesOf {text : String} (bytes : OfBytes text) : textOf (bytesOf text) = text := by
  unfold textOf bytesOf
  rw [List.map_map]
  have same : text.toList.map ((fun b : UInt8 => Char.ofNat b.toNat) ∘
      fun ch => ch.toNat.toUInt8) = text.toList := by
    conv_rhs => rw [← List.map_id text.toList]
    apply List.map_congr_left
    intro ch inside
    have small := bytes ch inside
    have number : ch.toNat.toUInt8.toNat = ch.toNat := by
      simp only [Nat.toUInt8, UInt8.toNat_ofNat']
      omega
    simp only [Function.comp, number, Char.ofNat_toNat, id]
  rw [same, String.ofList_toList]

theorem bytesOf_length (text : String) : (bytesOf text).length = text.length := by
  unfold bytesOf
  rw [List.length_map, String.length_toList]

theorem toUInt32_toNat {n : Nat} (small : n ≤ maxSize) : n.toUInt32.toNat = n := by
  unfold maxSize at small
  simp only [Nat.toUInt32, UInt32.toNat_ofNat']
  omega

theorem toUInt32_marks {n : Nat} (small : n ≤ maxSize) : n.toUInt32 ≠ maxU32 ↔ n < maxSize := by
  have number := toUInt32_toNat small
  have mark : maxU32.toNat = maxSize := by decide
  constructor
  · intro other
    rcases Nat.lt_or_eq_of_le small with below | same
    · exact below
    · exact absurd (UInt32.toNat_inj.mp (by rw [number, mark, same])) other
  · intro below same
    rw [same, mark] at number
    omega

theorem toUInt16_toNat {n : Nat} (small : n ≤ 0xffff) : n.toUInt16.toNat = n := by
  simp only [Nat.toUInt16, UInt16.toNat_ofNat']
  omega

/-! Reading is unambiguous -/

/-- What a reader takes from the front of bytes is settled by the bytes. -/
theorem exact_unambiguous {α : Type} {reader : Reader α} {grammar : Grammar α}
    (exact_reader : Exact reader grammar) {a b : α} {u v x y : Bytes}
    (sized : (u ++ x).length < 2 ^ 64) (first : grammar a u) (second : grammar b v)
    (same : u ++ x = v ++ y) : a = b ∧ u = v := by
  let buffer : Buffer := ⟨u ++ x, sized⟩
  have here : buffer.bytes.drop 0 = u ++ x := rfl
  have read := exact_reader.complete buffer 0 a u x (Nat.zero_le _) first here
  have read' := exact_reader.complete buffer 0 b v y (Nat.zero_le _) second (here.trans same)
  rw [read] at read'
  obtain ⟨rfl, lengths⟩ := Prod.mk.inj (Except.ok.inj read')
  exact ⟨rfl, (List.append_inj same (by omega)).1⟩

/-! Headers -/

/-- The header that the writer makes of a record. -/
def ArchiveRecord.header (record : ArchiveRecord) : CentralHeader where
  versionMadeBy := kUnixOsCode <<< 8 ||| kZipVersion
  versionNeeded := kZipVersion
  flags := record.generalPurposeBitFlag
  compressionMethod := record.compressionMethod
  crc32 := record.crc32
  compressedSize := record.compressedSize.toUInt32
  uncompressedSize := record.uncompressedSize.toUInt32
  nameLength := record.path.length.toUInt16
  extraLength := 0
  commentLength := 0
  externalAttributes := fileModeForEntry record.executable <<< 16
  localHeaderOffset := record.localHeaderOffset.toUInt32
  path := record.path

theorem header_written {record : ArchiveRecord} (bytes : OfBytes record.path)
    (short : record.path.length ≤ 0xffff) :
    record.header.Written (centralDirectoryEntry record) := by
  refine ⟨writeU16 0 ++ writeU16 0, writeU16 0 ++ writeU16 0, bytesOf record.path, [], [], rfl, rfl,
    ?_, rfl, rfl, (textOf_bytesOf bytes).symm, ?_⟩
  · rw [bytesOf_length]
    exact (toUInt16_toNat short).symm
  · simp only [centralDirectoryEntry, ArchiveRecord.header, List.append_assoc, List.append_nil]

theorem executable_mode (executable : Bool) :
    decide ((fileModeForEntry executable <<< 16) >>> 16 &&& 0x49 ≠ 0) = executable := by
  cases executable <;> decide

theorem regular_mode (executable : Bool) :
    (fileModeForEntry executable <<< 16) >>> 16 &&& kUnixFileTypeMask = kUnixRegularFileType := by
  cases executable <;> decide

section Files

variable {zlib : Zlib} {files : List PackedFile} {file : PackedFile} {offset size : Nat}

theorem header_record (packable : Packable zlib file) (inside : offset ≤ maxSize) :
    (file.recordAt zlib offset).header.record = file.recordAt zlib offset := by
  have unix : decide ((kUnixOsCode <<< 8 ||| kZipVersion) >>> 8 = kUnixOsCode) = true := by decide
  have mode : (file.recordAt zlib offset).header.record.executable = file.executable := by
    change (decide _ && decide ((fileModeForEntry file.executable <<< 16) >>> 16 &&& 0x49 ≠ 0)) = _
    rw [executable_mode]
    exact congrArg (· && file.executable) unix
  have compressed : ((file.stream zlib).length).toUInt32.toNat = (file.stream zlib).length :=
    toUInt32_toNat packable.fits
  have uncompressed : file.contents.length.toUInt32.toNat = file.contents.length :=
    toUInt32_toNat packable.small
  have start : offset.toUInt32.toNat = offset := toUInt32_toNat inside
  unfold CentralHeader.record at mode ⊢
  dsimp only at mode
  rw [mode]
  simp only [ArchiveRecord.header, PackedFile.recordAt, compressed, uncompressed, start]

/-- The reader takes the header of a file whose sizes are below the mark. -/
theorem header_sound (packable : Packable zlib file) (below : offset < maxSize)
    (inside : offset < size) : SoundHeader size (file.recordAt zlib offset).header ↔
      file.contents.length < maxSize ∧ (file.stream zlib).length < maxSize := by
  have compressed := toUInt32_marks packable.fits
  have uncompressed := toUInt32_marks packable.small
  have start := toUInt32_marks (Nat.le_of_lt below)
  constructor
  · intro sound
    exact ⟨uncompressed.mp sound.zip32.2.1, compressed.mp sound.zip32.1⟩
  · intro small
    constructor
    · exact ⟨(by decide : kGeneralPurposeUtf8 &&& 0x0001 = 0),
        (by decide : kGeneralPurposeUtf8 &&& 0x0040 = 0)⟩
    · exact (by decide : kGeneralPurposeUtf8 &&& 0x0008 = 0)
    · exact Or.inr rfl
    · exact ⟨compressed.mpr small.2, uncompressed.mpr small.1, start.mpr below⟩
    · exact packable.safe
    · change offset.toUInt32.toNat < size
      rw [toUInt32_toNat (Nat.le_of_lt below)]
      exact inside
    · intro stored
      exact absurd stored (by decide : kDeflatedCompressionMethod ≠ kStoredCompressionMethod)
    · intro _
      exact .inr (regular_mode file.executable)

/-- Every record is the one of a file behind the parts of the files in front of it. -/
theorem mem_recordsFrom {record : ArchiveRecord} (inside : record ∈ recordsFrom zlib offset files) :
    ∃ front file behind, files = front ++ file :: behind ∧
      record = file.recordAt zlib (offset + (localParts zlib front).length) := by
  induction files generalizing offset with
  | nil => cases inside
  | cons file rest ih =>
    rw [recordsFrom] at inside
    rcases List.mem_cons.mp inside with first | later
    · exact ⟨[], file, rest, rfl, by simpa [localParts] using first⟩
    · obtain ⟨front, other, behind, rfl, same⟩ := ih later
      refine ⟨file :: front, other, behind, rfl, ?_⟩
      rw [same, localParts, localParts, List.flatMap_cons, List.length_append, Nat.add_assoc]

theorem recordsFrom_mem {front behind : List PackedFile} (file : PackedFile) :
    file.recordAt zlib (offset + (localParts zlib front).length) ∈
      recordsFrom zlib offset (front ++ file :: behind) := by
  induction front generalizing offset with
  | nil => simp [recordsFrom, localParts]
  | cons first front ih =>
    rw [List.cons_append, recordsFrom]
    apply List.mem_cons_of_mem
    rw [localParts, List.flatMap_cons, List.length_append, ← Nat.add_assoc]
    exact ih

theorem recordsFrom_paths (zlib : Zlib) (offset : Nat) (files : List PackedFile) :
    (recordsFrom zlib offset files).map ArchiveRecord.path = files.map PackedFile.path := by
  induction files generalizing offset with
  | nil => rfl
  | cons file rest ih =>
    rw [recordsFrom, List.map_cons, List.map_cons, ih]
    rfl

/-- The part of a file is longer than its data. -/
theorem part_length (file : PackedFile) : (file.part zlib).length =
    30 + file.path.length + (file.stream zlib).length := by
  rw [PackedFile.part, List.length_append, localHeader_length, bytesOf_length]

/-! The directory -/

/-- The directory of headers that the reader takes. -/
theorem directory_sequence {seenPaths : List String}
    (packable : ∀ file ∈ files, Packable zlib file) (bytes : ∀ file ∈ files, OfBytes file.path)
    (distinct : (files.map PackedFile.path).Nodup)
    (new : ∀ file ∈ files, file.path ∉ seenPaths)
    (bound : offset + (localParts zlib files).length ≤ maxSize)
    (sound : ∀ record ∈ recordsFrom zlib offset files, SoundHeader size record.header) :
    Sequence (entryGrammar size) seenPaths (recordsFrom zlib offset files)
      (centralDirectory (recordsFrom zlib offset files)) := by
  induction files generalizing offset seenPaths with
  | nil => exact .nil _
  | cons file rest ih =>
    have first := packable file (by simp)
    rw [List.map_cons, List.nodup_cons] at distinct
    rw [localParts, List.flatMap_cons, List.length_append] at bound
    rw [recordsFrom] at sound ⊢
    have here : (file.recordAt zlib offset).header.record = file.recordAt zlib offset :=
      header_record first (by omega)
    apply Sequence.cons
    · exact ⟨(file.recordAt zlib offset).header,
        header_written (bytes file (by simp)) first.short, new file (by simp),
        sound _ (by simp), by rw [here]⟩
    · apply ih (fun other inside => packable other (List.mem_cons_of_mem _ inside))
        (fun other inside => bytes other (List.mem_cons_of_mem _ inside)) distinct.2
      · intro other inside
        rw [List.mem_cons, not_or]
        refine ⟨?_, new other (List.mem_cons_of_mem _ inside)⟩
        intro same
        exact distinct.1 (List.mem_map.mpr ⟨other, inside, same⟩)
      · change offset + (file.part zlib).length + (rest.flatMap (PackedFile.part zlib)).length ≤ _
        omega
      · exact fun record inside => sound record (List.mem_cons_of_mem _ inside)

/-- A directory that the reader takes has only sound headers. -/
theorem sequence_sound {records ours : List ArchiveRecord} {seenPaths : List String}
    {written : Bytes} (read : Sequence (entryGrammar size) seenPaths records written)
    (same : written = centralDirectory ours) (count : records.length = ours.length)
    (wrote : ∀ record ∈ ours, record.header.Written (centralDirectoryEntry record))
    (sized : written.length < 2 ^ 64) : ∀ record ∈ ours, SoundHeader size record.header := by
  induction read generalizing ours with
  | nil seenPaths =>
    have none_here := List.length_eq_zero_iff.mp count.symm
    rw [none_here]
    simp
  | @cons seenPaths state a rest u v first later ih =>
    obtain ⟨record, others, rfl⟩ : ∃ record others, ours = record :: others :=
      List.exists_cons_of_length_eq_add_one (by rw [← count, List.length_cons])
    obtain ⟨header, wrote_header, _, sound, _⟩ := first
    obtain ⟨rfl, own⟩ := exact_unambiguous (exact_readCentralHeader "") sized wrote_header
      (wrote record (by simp)) (same.trans (by rw [centralDirectory, List.flatMap_cons]))
    have behind : v = centralDirectory others := by
      rw [own, centralDirectory, List.flatMap_cons] at same
      exact List.append_cancel_left same
    have shorter : v.length < 2 ^ 64 := by
      rw [List.length_append] at sized
      omega
    have rest_sound := ih behind (by simpa using count)
      (fun other inside => wrote other (List.mem_cons_of_mem _ inside)) shorter
    intro other inside
    rcases List.mem_cons.mp inside with rfl | later
    · exact sound
    · exact rest_sound other later

end Files

/-! The end record -/

/-- The search starts at the last place. -/
theorem searchEndRecord_last {archivePath : String} {front : Bytes} {record : EndRecord}
    (no_comment : record.commentLength = 0) :
    searchEndRecord archivePath
      (front ++ (writeU32 kEndOfCentralDirectorySignature ++ record.bytes)) (front.length + 1) =
        checkEndRecord archivePath record := by
  generalize whole : front ++ (writeU32 kEndOfCentralDirectorySignature ++ record.bytes) = tail
  have there : tail.drop front.length =
      writeU32 kEndOfCentralDirectorySignature ++ record.bytes := by
    rw [← whole, List.drop_left]
  have behind : tail.drop (front.length + 4) = record.bytes ++ [] := by
    have rest := drop_written there
    rwa [writeU32_length, ← List.append_nil record.bytes] at rest
  have length : front.length + 22 + record.commentLength.toNat = tail.length := by
    rw [no_comment, ← whole]
    simp [EndRecord.bytes, writeU16_length, writeU32_length]
  have runs : searchEndRecord archivePath tail (front.length + 1) =
      if front.length + 22 + record.commentLength.toNat ≠ tail.length then
        searchEndRecord archivePath tail front.length
      else checkEndRecord archivePath record := by
    rw [searchEndRecord, u32At_written there]
    simp only [bind, Except.bind]
    rw [if_neg (not_not.mpr rfl), readEndRecord_written behind]
  rw [runs, if_neg (not_not.mpr length)]

theorem readFileRange_inside {archive : ArchiveFile} {offset size : Nat}
    (inside : offset + size ≤ archive.size) :
    readFileRange archive offset size = .ok (archive.contents.range offset size) ∧
      (archive.contents.range offset size).bytes.length = size := by
  have length : (archive.contents.range offset size).bytes.length = size := by
    change ((archive.contents.bytes.drop offset).take size).length = size
    unfold ArchiveFile.size at inside
    rw [List.length_take, List.length_drop]
    omega
  unfold readFileRange
  simp only
  rw [if_neg (not_not.mpr length)]
  exact ⟨rfl, length⟩

/-- An end record without a comment, at the end of the file, is found. -/
theorem locate_last {archive : ArchiveFile} {front : Bytes} {record : EndRecord}
    (written : archive.contents.bytes =
      front ++ (writeU32 kEndOfCentralDirectorySignature ++ record.bytes))
    (no_comment : record.commentLength = 0) :
    locateEndOfCentralDirectory archive = checkEndRecord archive.path record := by
  have size : archive.size = front.length + 22 := by
    unfold ArchiveFile.size
    rw [written]
    simp [EndRecord.bytes, writeU16_length, writeU32_length]
  unfold locateEndOfCentralDirectory
  rw [if_neg (by omega)]
  simp only
  generalize tail_size : min archive.size (22 + 0xffff) = tailSize
  have ordered : tailSize ≤ archive.size := by omega
  obtain ⟨read, length⟩ := @readFileRange_inside archive (archive.size - tailSize) tailSize
    (by omega)
  rw [sub64_of_le ordered archive.contents.sized, read]
  change (if _ < 22 then _ else _) = _
  rw [if_neg (by omega)]
  have tail : (archive.contents.range (archive.size - tailSize) tailSize).bytes =
      front.drop (archive.size - tailSize) ++
        (writeU32 kEndOfCentralDirectorySignature ++ record.bytes) := by
    change (archive.contents.bytes.drop _).take _ = _
    rw [List.take_of_length_le, written, List.drop_append_of_le_length (by omega)]
    rw [List.length_drop]
    unfold ArchiveFile.size at *
    omega
  have bound : tailSize - 22 + 1 = (front.drop (archive.size - tailSize)).length + 1 := by
    rw [List.length_drop]
    omega
  rw [length, tail, bound]
  exact searchEndRecord_last no_comment

/-! The archive of files -/

/-- The archive is the one that was written of the files. -/
structure ArchiveOf (zlib : Zlib) (files : List PackedFile) (archive : ArchiveFile) : Prop where
  packable : ∀ file ∈ files, Packable zlib file
  bounded : Bounded zlib files
  distinct : (files.map PackedFile.path).Nodup
  bytes : ∀ file ∈ files, OfBytes file.path
  contents : archive.contents.bytes = archiveBytes zlib files

/-- No field of four bytes has the greatest value. -/
structure Readable (zlib : Zlib) (files : List PackedFile) : Prop where
  offset : (localParts zlib files).length < maxSize
  size : (directoryOf zlib files).length < maxSize
  contents : ∀ file ∈ files, file.contents.length < maxSize

theorem archiveBytes_length (zlib : Zlib) (files : List PackedFile) :
    (archiveBytes zlib files).length =
      (localParts zlib files).length + (directoryOf zlib files).length + 22 := by
  simp [archiveBytes, EndRecord.bytes, writeU16_length, writeU32_length, Nat.add_assoc]

theorem archiveBytes_small {zlib : Zlib} {files : List PackedFile} (bounded : Bounded zlib files) :
    (archiveBytes zlib files).length < 2 ^ 64 := by
  have offset := bounded.offset
  have size := bounded.size
  unfold maxSize at offset size
  rw [archiveBytes_length]
  omega

section Archive

variable {zlib : Zlib} {files : List PackedFile} {archive : ArchiveFile}
  (archived : ArchiveOf zlib files archive)
include archived

theorem ArchiveOf.size : archive.size =
    (localParts zlib files).length + (directoryOf zlib files).length + 22 := by
  unfold ArchiveFile.size
  rw [archived.contents, archiveBytes_length]

theorem ArchiveOf.located : locateEndOfCentralDirectory archive =
    checkEndRecord archive.path (endOf zlib files) := by
  apply @locate_last archive (localParts zlib files ++ directoryOf zlib files)
  · rw [archived.contents, archiveBytes, List.append_assoc]
  · rfl

theorem ArchiveOf.located_small (offset : (localParts zlib files).length < maxSize)
    (size : (directoryOf zlib files).length < maxSize) :
    locateEndOfCentralDirectory archive = .ok ⟨(localParts zlib files).length,
      (directoryOf zlib files).length, files.length⟩ := by
  have no_marks : ¬ ((endOf zlib files).centralDirectorySize = maxU32 ∨
      (endOf zlib files).centralDirectoryOffset = maxU32) := by
    rw [not_or]
    exact ⟨(toUInt32_marks archived.bounded.size).mpr size,
      (toUInt32_marks archived.bounded.offset).mpr offset⟩
  rw [archived.located, checkEndRecord, if_neg (by simp [endOf]), if_neg no_marks]
  simp only [endOf, toUInt32_toNat archived.bounded.size, toUInt32_toNat archived.bounded.offset,
    toUInt16_toNat archived.bounded.count]

theorem ArchiveOf.small_of_located {eocd : EndOfCentralDirectory}
    (located : locateEndOfCentralDirectory archive = .ok eocd) :
    (localParts zlib files).length < maxSize ∧ (directoryOf zlib files).length < maxSize := by
  rw [archived.located] at located
  obtain ⟨_, _, size, offset⟩ := checkEndRecord_ok located
  exact ⟨(toUInt32_marks archived.bounded.offset).mp offset,
    (toUInt32_marks archived.bounded.size).mp size⟩

theorem ArchiveOf.directory : (archive.contents.range (localParts zlib files).length
    (directoryOf zlib files).length).bytes = directoryOf zlib files := by
  change (archive.contents.bytes.drop _).take _ = _
  rw [archived.contents, archiveBytes, List.drop_left, List.take_left]

omit archived in
theorem localParts_split (front behind : List PackedFile) (file : PackedFile) :
    localParts zlib (front ++ file :: behind) =
      localParts zlib front ++ (file.part zlib ++ localParts zlib behind) := by
  rw [localParts, List.flatMap_append, List.flatMap_cons]
  rfl

/-- The headers are sound if no content has the size of the mark. -/
theorem ArchiveOf.sound_iff (offset : (localParts zlib files).length < maxSize) :
    (∀ record ∈ recordsFrom zlib 0 files, SoundHeader archive.size record.header) ↔
      ∀ file ∈ files, file.contents.length < maxSize := by
  have size := archived.size
  have bounds : ∀ front file behind, files = front ++ file :: behind →
      0 + (localParts zlib front).length < maxSize ∧
      0 + (localParts zlib front).length < archive.size ∧
      (file.stream zlib).length < maxSize := by
    rintro front file behind rfl
    rw [localParts_split, List.length_append, List.length_append, part_length] at offset size
    omega
  constructor
  · intro sound file inside
    obtain ⟨front, behind, split⟩ := List.append_of_mem inside
    obtain ⟨below, within, _⟩ := bounds front file behind split
    have member : file.recordAt zlib (0 + (localParts zlib front).length) ∈
        recordsFrom zlib 0 files := by
      rw [split]
      exact recordsFrom_mem file
    exact ((header_sound (archived.packable file inside) below within).mp (sound _ member)).1
  · intro small record inside
    obtain ⟨front, file, behind, split, rfl⟩ := mem_recordsFrom inside
    obtain ⟨below, within, stream⟩ := bounds front file behind split
    have member : file ∈ files := by
      rw [split]
      simp
    exact (header_sound (archived.packable file member) below within).mpr
      ⟨small file member, stream⟩

theorem ArchiveOf.entries_read
    (sound : ∀ record ∈ recordsFrom zlib 0 files, SoundHeader archive.size record.header) :
    readEntries archive files.length (archive.contents.range (localParts zlib files).length
      (directoryOf zlib files).length) 0 =
        .ok (recordsFrom zlib 0 files, (directoryOf zlib files).length) := by
  have sequence : Sequence (entryGrammar archive.size) [] (recordsFrom zlib 0 files)
      (directoryOf zlib files) :=
    directory_sequence archived.packable archived.bytes archived.distinct (by simp)
      (by rw [Nat.zero_add]; exact archived.bounded.offset) sound
  have read := (exact_readEntries archive files.length).complete
    (archive.contents.range (localParts zlib files).length (directoryOf zlib files).length) 0
    (recordsFrom zlib 0 files) (directoryOf zlib files) [] (Nat.zero_le _)
    ⟨recordsFrom_length zlib 0 files, sequence⟩
    (by rw [List.drop_zero, archived.directory, List.append_nil])
  rw [read, Nat.zero_add]

/-- The archive is listed exactly if no field of four bytes has the greatest value. -/
theorem ArchiveOf.parsed_iff (records : List ArchiveRecord) :
    parseCentralDirectory archive = .ok records ↔
      Readable zlib files ∧ records = recordsFrom zlib 0 files := by
  have size := archived.size
  by_cases small : (localParts zlib files).length < maxSize ∧
      (directoryOf zlib files).length < maxSize
  · obtain ⟨offset, directory⟩ := small
    have fits : add64 (localParts zlib files).length (directoryOf zlib files).length =
        (localParts zlib files).length + (directoryOf zlib files).length := by
      unfold maxSize at offset directory
      exact add64_of_lt (by omega)
    obtain ⟨range, length⟩ := @readFileRange_inside archive (localParts zlib files).length
      (directoryOf zlib files).length (by omega)
    rw [parse_behind (archived.located_small offset directory)]
    simp only
    rw [fits, if_neg (by omega), range]
    simp only
    constructor
    · intro parsed
      split at parsed
      · cases parsed
      · rename_i records' end_offset entries
        split at parsed
        · cases parsed
        · rename_i no_trail
          cases parsed
          obtain ⟨count, wrote⟩ := entries_listed entries no_trail
          have sized := (archive.contents.range (localParts zlib files).length
            (directoryOf zlib files).length).sized
          have sound := sequence_sound wrote archived.directory
            (by rw [count, recordsFrom_length]) (by
              intro record inside
              obtain ⟨front, file, behind, split, rfl⟩ := mem_recordsFrom inside
              have member : file ∈ files := by
                rw [split]
                simp
              exact header_written (archived.bytes file member)
                (archived.packable file member).short) sized
          have read := archived.entries_read sound
          rw [entries] at read
          exact ⟨⟨offset, directory, (archived.sound_iff offset).mp sound⟩,
            (Prod.mk.inj (Except.ok.inj read)).1⟩
    · rintro ⟨readable, rfl⟩
      rw [archived.entries_read ((archived.sound_iff offset).mpr readable.contents)]
      simp only
      rw [length, sub64_of_le (Nat.le_refl _) (by unfold maxSize at directory; omega), if_neg]
      simp
  · constructor
    · intro parsed
      cases located : locateEndOfCentralDirectory archive with
      | error fault =>
        unfold parseCentralDirectory at parsed
        rw [located] at parsed
        cases parsed
      | ok eocd => exact absurd (archived.small_of_located located) small
    · rintro ⟨readable, _⟩
      exact absurd ⟨readable.offset, readable.size⟩ small

/-! The data -/

omit archived in
theorem range_at {buffer : Buffer} {front mid behind : Bytes} {offset size : Nat}
    (whole : buffer.bytes = front ++ (mid ++ behind)) (start : offset = front.length)
    (length : size = mid.length) : (buffer.range offset size).bytes = mid := by
  change (buffer.bytes.drop offset).take size = mid
  rw [whole, start, length, List.drop_left, List.take_left]

/-- The local header without the name. -/
def PackedFile.info (zlib : Zlib) (file : PackedFile) : LocalFileInfo where
  compressionMethod := kDeflatedCompressionMethod
  flags := kGeneralPurposeUtf8
  crc32 := crc32 file.contents
  compressedSize := (file.stream zlib).length.toUInt32
  uncompressedSize := file.contents.length.toUInt32
  nameLength := file.path.length.toUInt16
  extraLength := 0

omit archived in
theorem localHeader_info (zlib : Zlib) (file : PackedFile) : ∃ fixed,
    (file.info zlib).Written fixed ∧
    localHeader file.path (file.stats zlib) = fixed ++ bytesOf file.path := by
  refine ⟨_, ⟨writeU16 kZipVersion, writeU16 0 ++ writeU16 0, rfl, rfl, rfl⟩, ?_⟩
  simp only [localHeader, PackedFile.info, PackedFile.stats, List.append_assoc]

theorem ArchiveOf.data_at {front behind : List PackedFile} {file : PackedFile}
    (split : files = front ++ file :: behind) :
    DataAt archive (file.recordAt zlib (0 + (localParts zlib front).length)) (file.info zlib)
      ((localParts zlib front).length + 30 + file.path.length) ∧
    (archive.contents.range ((localParts zlib front).length + 30 + file.path.length)
      (file.stream zlib).length).bytes = file.stream zlib := by
  have member : file ∈ files := by
    rw [split]
    simp
  have packable := archived.packable file member
  have size := archived.size
  rw [split, localParts_split, List.length_append, List.length_append, part_length] at size
  obtain ⟨fixed, wrote, header⟩ := localHeader_info zlib file
  have fixed_length := wrote.length
  obtain ⟨rest, whole⟩ : ∃ rest, archive.contents.bytes = localParts zlib front ++
      (fixed ++ (bytesOf file.path ++ (file.stream zlib ++ rest))) := by
    have parts : localParts zlib files = localParts zlib front ++
        (fixed ++ (bytesOf file.path ++ (file.stream zlib ++ localParts zlib behind))) := by
      rw [split, localParts_split, PackedFile.part, header]
      simp only [List.append_assoc]
    rw [archived.contents, archiveBytes, parts]
    simp only [List.append_assoc]
    exact ⟨_, rfl⟩
  have name_length : (file.info zlib).nameLength.toNat = file.path.length :=
    toUInt16_toNat packable.short
  have name := @range_at archive.contents (localParts zlib front ++ fixed) (bytesOf file.path)
    (file.stream zlib ++ rest) (0 + (localParts zlib front).length + 30) file.path.length
    (by rw [whole, List.append_assoc]) (by rw [List.length_append, fixed_length, Nat.zero_add])
    (bytesOf_length _).symm
  constructor
  · constructor
    · exact ⟨(by decide : kGeneralPurposeUtf8 &&& 0x0001 = 0),
        (by decide : kGeneralPurposeUtf8 &&& 0x0008 = 0), rfl, rfl,
        toUInt32_toNat packable.fits, toUInt32_toNat packable.small⟩
    · rw [name_length]
      change _ = 0 + (localParts zlib front).length + 30 + file.path.length + 0
      omega
    · change (file.info zlib).Written
        (archive.contents.range (0 + (localParts zlib front).length) 30).bytes
      rw [range_at whole (Nat.zero_add _) fixed_length.symm]
      exact wrote
    · rw [name_length]
      exact ((congrArg textOf name).trans (textOf_bytesOf (archived.bytes file member))).symm
    · rw [name_length]
      exact (congrArg List.length name).trans (bytesOf_length _)
    · change _ + (file.stream zlib).length ≤ _
      omega
  · apply @range_at archive.contents (localParts zlib front ++ (fixed ++ bytesOf file.path))
      (file.stream zlib) rest
    · rw [whole]
      simp only [List.append_assoc]
    · rw [List.length_append, List.length_append, fixed_length, bytesOf_length]
      omega
    · rfl

/-- What the record of a file stands for is what its stream decompresses to. -/
theorem ArchiveOf.recorded_iff (inflate : Bytes → Bytes × Except String Unit)
    {front behind : List PackedFile} {file : PackedFile}
    (split : files = front ++ file :: behind) (contents : Bytes) :
    Recorded inflate archive (file.recordAt zlib (0 + (localParts zlib front).length)) contents ↔
      inflate (file.stream zlib) = (contents, .ok ()) ∧
        contents.length = file.contents.length := by
  have member : file ∈ files := by
    rw [split]
    simp
  have bound := archived.bounded.offset
  have fits := (archived.packable file member).fits
  rw [split, localParts_split, List.length_append] at bound
  obtain ⟨data, stream⟩ := archived.data_at split
  constructor
  · rintro ⟨length, info, dataOffset, there, either⟩
    refine ⟨?_, length⟩
    have start : (file.recordAt zlib (0 + (localParts zlib front).length)).localHeaderOffset <
        2 ^ 32 := by
      change 0 + (localParts zlib front).length < 2 ^ 32
      unfold maxSize at bound
      omega
    have size : (file.recordAt zlib (0 + (localParts zlib front).length)).compressedSize <
        2 ^ 32 := by
      change (file.stream zlib).length < 2 ^ 32
      unfold maxSize at fits
      omega
    have found := dataAt_found start size data
    rw [dataAt_found start size there] at found
    rw [Except.ok.inj found] at either
    rcases either with ⟨stored, _⟩ | ⟨_, inflated⟩
    · exact absurd stored (by decide : kDeflatedCompressionMethod ≠ kStoredCompressionMethod)
    · rw [← inflated]
      exact congrArg inflate stream.symm
  · rintro ⟨inflated, length⟩
    refine ⟨length, _, _, data, .inr ⟨rfl, ?_⟩⟩
    rw [← inflated]
    exact congrArg inflate stream

/-- A path is read as what the stream of the file decompresses to, if the archive is listed. -/
theorem ArchiveOf.read_iff (inflate : Bytes → Bytes × Except String Unit)
    (named : checkArchivePath archive.path = .ok ()) (path : String) (contents : Bytes) :
    readArchiveFile inflate archive path = .ok contents ↔ Readable zlib files ∧
      ∃ file ∈ files, file.path = path ∧ inflate (file.stream zlib) = (contents, .ok ()) ∧
        contents.length = file.contents.length := by
  rw [readArchiveFile_recorded]
  constructor
  · rintro ⟨_, _, records, record, parsed, found, recorded⟩
    obtain ⟨readable, rfl⟩ := (archived.parsed_iff records).mp parsed
    rcases findArchiveRecord_cases (recordsFrom zlib 0 files) path with
      ⟨message, failed⟩ | ⟨record', inside, same, found'⟩
    · rw [failed] at found
      cases found
    · rw [found'] at found
      cases found
      obtain ⟨front, file, behind, split, rfl⟩ := mem_recordsFrom inside
      have member : file ∈ files := by
        rw [split]
        simp
      exact ⟨readable, file, member, same, (archived.recorded_iff inflate split contents).mp
        recorded⟩
  · rintro ⟨readable, file, member, rfl, inflated⟩
    obtain ⟨front, behind, split⟩ := List.append_of_mem member
    have inside : file.recordAt zlib (0 + (localParts zlib front).length) ∈
        recordsFrom zlib 0 files := by
      rw [split]
      exact recordsFrom_mem file
    have distinct : ((recordsFrom zlib 0 files).map ArchiveRecord.path).Nodup := by
      rw [recordsFrom_paths]
      exact archived.distinct
    exact ⟨named, (archived.packable file member).safe, _, _,
      (archived.parsed_iff _).mpr ⟨readable, rfl⟩, findArchiveRecord_distinct distinct inside,
      (archived.recorded_iff inflate split contents).mpr inflated⟩

/-- What the archive lists of a file. -/
def PackedFile.entry (zlib : Zlib) (file : PackedFile) : ArchiveEntry where
  path := file.path
  executable := file.executable
  compressedSize := (file.stream zlib).length
  uncompressedSize := file.contents.length

omit archived in
theorem recordsFrom_entries (zlib : Zlib) (offset : Nat) (files : List PackedFile) :
    (recordsFrom zlib offset files).map ArchiveRecord.entry =
      files.map (PackedFile.entry zlib) := by
  induction files generalizing offset with
  | nil => rfl
  | cons file rest ih =>
    rw [recordsFrom, List.map_cons, List.map_cons, ih]
    rfl

theorem ArchiveOf.listed_iff (named : checkArchivePath archive.path = .ok ())
    (entries : List ArchiveEntry) : listArchiveEntries archive = .ok entries ↔
      Readable zlib files ∧ entries = files.map (PackedFile.entry zlib) := by
  unfold listArchiveEntries
  rw [named]
  simp only [bind, Except.bind]
  constructor
  · intro listed
    cases parsed : parseCentralDirectory archive with
    | error fault =>
      rw [parsed] at listed
      cases listed
    | ok records =>
      rw [parsed] at listed
      cases listed
      obtain ⟨readable, rfl⟩ := (archived.parsed_iff records).mp parsed
      exact ⟨readable, recordsFrom_entries zlib 0 files⟩
  · rintro ⟨readable, rfl⟩
    rw [(archived.parsed_iff _).mpr ⟨readable, rfl⟩]
    simp only [pure, Except.pure, recordsFrom_entries]

end Archive

/-! Creating and reading -/

section Created

variable {packageDir archivePath : Path} {tree tree' : FileTrees.Tree} {zlib : Zlib}

theorem FilesOf.archived {files : List PackedFile} (here : FilesOf tree packageDir files)
    (packable : ∀ file ∈ files, Packable zlib file) (bounded : Bounded zlib files)
    (bytes : ∀ file ∈ files, OfBytes file.path) (name : String) :
    ArchiveOf zlib files ⟨name, archiveBytes zlib files, archiveBytes_small bounded⟩ :=
  ⟨packable, bounded, List.pairwise_map.mpr (here.ordered.imp ne_of_lt), bytes, rfl⟩

end Created

/-! A package of one file -/

def packageNodes : List (Path × FileTrees.Node) :=
  [([], .directory), (["pkg"], .directory), (["pkg", "META"], .directory),
    (["pkg", "META", "manifest.json"], .file "a" false)]

theorem packageNodes_mem {place : Path} (there : packageNodes.lookup place ≠ none) :
    place ∈ packageNodes.map Prod.fst := by
  by_contra absent
  apply there
  rw [List.lookup_eq_none_iff]
  intro entry inside
  have other : place ≠ entry.1 := fun same => absent (same ▸ List.mem_map_of_mem inside)
  simpa using other

def packageTree : FileTrees.Tree where
  node place := packageNodes.lookup place
  names := ["pkg", "META", "manifest.json"]
  fits _ := true
  root := by decide
  closed place rest below there := by
    have above : ∀ whole ∈ packageNodes.map Prod.fst, ∀ n < whole.length,
        packageNodes.lookup (whole.take n) = some .directory := by decide
    have short : place.length < (place ++ rest).length := by
      have longer := List.length_pos_of_ne_nil below
      rw [List.length_append]
      omega
    have found := above _ (packageNodes_mem there) _ short
    rwa [List.take_left] at found
  named place name there := by
    have each : ∀ whole ∈ packageNodes.map Prod.fst, ∀ other ∈ whole,
        other ∈ ["pkg", "META", "manifest.json"] := by decide
    exact each _ (packageNodes_mem there) name (by simp)

def packageWalk : List Path := [["META"], ["META", "manifest.json"]]

theorem packageWalk_below {relative : Path}
    (there : packageTree.node (["pkg"] ++ relative) ≠ none) :
    relative = [] ∨ relative ∈ packageWalk := by
  have member := @packageNodes_mem (["pkg"] ++ relative) there
  simpa [packageNodes, packageWalk] using member

theorem packageWalk_walks : Walk packageTree ["pkg"] packageWalk := by
  constructor
  · decide
  · intro relative
    constructor
    · have each : ∀ place ∈ packageWalk,
          place ≠ [] ∧ packageTree.node (["pkg"] ++ place) ≠ none := by
        decide
      exact each relative
    · rintro ⟨below, there⟩
      exact (packageWalk_below there).resolve_left below

/-- The stream of one letter is what zlib makes of it. -/
def letterZlib : Zlib where
  compressed content :=
    { emitted := fun _ => []
      stream := if content = [97] then [75, 4, 0] else content
      nothing := rfl
      grows := fun _ _ _ => List.prefix_refl _
      whole := fun _ => List.nil_prefix }
  deflater _ _ := StreamCalls.Calls.eager kBufferSize _

def letterInflate (bytes : Bytes) : Bytes × Except String Unit :=
  if bytes = [75, 4, 0] then ([97], .ok ()) else ([], .error "failed to inflate ZIP entry: ")

/-- The package has one file, of one letter. -/
theorem packageTree_file {relative : Path} {content : String} {executable : Bool}
    (there : packageTree.regular (["pkg"] ++ relative) = some (content, executable)) :
    relativeText relative = "META/manifest.json" ∧ content = "a" := by
  have one : ∀ place ∈ [] :: packageWalk, packageTree.regular (["pkg"] ++ place) ≠ none →
      relativeText place = "META/manifest.json" ∧
        packageTree.regular (["pkg"] ++ place) = some ("a", false) := by
    decide
  have node : packageTree.node (["pkg"] ++ relative) ≠ none := by
    rw [FileTrees.Tree.regular_iff.mp there]
    simp
  obtain ⟨path, letter⟩ :=
    one relative (List.mem_cons.mpr (packageWalk_below node)) (by rw [there]; simp)
  rw [there] at letter
  exact ⟨path, congrArg Prod.fst (Option.some.inj letter)⟩

end PackageArchive
