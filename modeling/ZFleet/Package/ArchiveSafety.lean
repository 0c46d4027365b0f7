import ZFleet.Package.ArchiveReader

/-!
The reader stays inside its buffers for every file, and what it accepts is well formed: the
directory is the sequence of its entries and nothing else, and each of them passed the
checks.
-/
namespace PackageArchive
open ByteReader Package

/-! The end record -/

def EndRecord.bytes (record : EndRecord) : Bytes :=
  writeU16 record.diskNumber ++ (writeU16 record.centralDirectoryDisk ++
    (writeU16 record.entriesOnDisk ++ (writeU16 record.totalEntries ++
      (writeU32 record.centralDirectorySize ++ (writeU32 record.centralDirectoryOffset ++
        writeU16 record.commentLength)))))

@[simp] theorem EndRecord.bytes_length (record : EndRecord) : record.bytes.length = 18 := rfl

theorem readEndRecord_written {tail rest : Bytes} {offset : Nat} {record : EndRecord}
    (there : tail.drop offset = record.bytes ++ rest) :
    readEndRecord tail offset = .ok record := by
  simp only [EndRecord.bytes, List.append_assoc] at there
  have disk := drop_written there
  have entries := drop_written disk
  have total := drop_written entries
  have size := drop_written total
  have start := drop_written size
  have comment := drop_written start
  simp only [writeU16_length, writeU32_length, Nat.add_assoc, Nat.reduceAdd] at *
  unfold readEndRecord
  rw [u16At_written there, u16At_written disk, u16At_written entries, u16At_written total,
    u32At_written size, u32At_written start, u16At_written comment]
  rfl

theorem readEndRecord_total {tail : Bytes} {offset : Nat} (fits : offset + 18 ≤ tail.length) :
    ∃ record, readEndRecord tail offset = .ok record ∧
      tail.drop offset = record.bytes ++ tail.drop (offset + 18) := by
  obtain ⟨diskNumber, read_disk, there⟩ := @u16At_total tail offset (by omega)
  obtain ⟨centralDirectoryDisk, read_directory, there'⟩ := @u16At_total tail (offset + 2) (by omega)
  obtain ⟨entriesOnDisk, read_entries, there''⟩ := @u16At_total tail (offset + 4) (by omega)
  obtain ⟨totalEntries, read_total, total⟩ := @u16At_total tail (offset + 6) (by omega)
  obtain ⟨centralDirectorySize, read_size, size⟩ := @u32At_total tail (offset + 8) (by omega)
  obtain ⟨centralDirectoryOffset, read_offset, start⟩ := @u32At_total tail (offset + 12) (by omega)
  obtain ⟨commentLength, read_comment, comment⟩ := @u16At_total tail (offset + 16) (by omega)
  refine ⟨⟨diskNumber, centralDirectoryDisk, entriesOnDisk, totalEntries, centralDirectorySize,
    centralDirectoryOffset, commentLength⟩, ?_, ?_⟩
  · unfold readEndRecord
    rw [read_disk, read_directory, read_entries, read_total, read_size, read_offset, read_comment]
    rfl
  · simp only [EndRecord.bytes, List.append_assoc]
    rw [there, there', there'', total, size, start, comment]

/-- The end record stands at the index of the tail, and its comment ends the file. -/
structure EndsAt (tail : Bytes) (index : Nat) (record : EndRecord) : Prop where
  there : tail.drop index =
    writeU32 kEndOfCentralDirectorySignature ++ (record.bytes ++ tail.drop (index + 22))
  comment : index + 22 + record.commentLength.toNat = tail.length

theorem searchEndRecord_found {archivePath : String} {tail : Bytes} {bound : Nat}
    (inside : bound + 21 ≤ tail.length) :
    searchEndRecord archivePath tail bound ≠ .error .outOfBounds ∧
      ∀ eocd, searchEndRecord archivePath tail bound = .ok eocd → ∃ index record,
        EndsAt tail index record ∧ checkEndRecord archivePath record = .ok eocd := by
  induction bound with
  | zero => exact ⟨nofun, nofun⟩
  | succ index ih =>
    obtain ⟨signature, read, there⟩ := @u32At_total tail index (by omega)
    obtain ⟨record, read_record, there'⟩ := @readEndRecord_total tail (index + 4) (by omega)
    have runs : searchEndRecord archivePath tail (index + 1) =
        if signature ≠ kEndOfCentralDirectorySignature then searchEndRecord archivePath tail index
        else if index + 22 + record.commentLength.toNat ≠ tail.length then
          searchEndRecord archivePath tail index
        else checkEndRecord archivePath record := by
      rw [searchEndRecord, read]
      change (if signature ≠ kEndOfCentralDirectorySignature then _ else _) = _
      rw [read_record]
      rfl
    rw [runs]
    split
    · exact ih (by omega)
    · rename_i signed
      split
      · exact ih (by omega)
      · rename_i commented
        refine ⟨?_, fun eocd checked => ⟨index, record, ⟨?_, not_not.mp commented⟩, checked⟩⟩
        · unfold checkEndRecord
          split
          · nofun
          · split <;> nofun
        · rw [there, ← not_not.mp signed, there']

theorem readFileRange_cases (archive : ArchiveFile) (offset size : Nat) :
    (∃ message, readFileRange archive offset size = throw message) ∨
      (readFileRange archive offset size = .ok (archive.contents.range offset size) ∧
        (archive.contents.range offset size).bytes.length = size) := by
  unfold readFileRange
  simp only
  split
  · exact .inl ⟨_, rfl⟩
  · rename_i whole
    exact .inr ⟨rfl, not_not.mp whole⟩

/-- The end record of an archive, with the place where it stands in the file. -/
structure EndRecordAt (archive : ArchiveFile) (start : Nat) (record : EndRecord) : Prop where
  there : archive.contents.bytes.drop start = writeU32 kEndOfCentralDirectorySignature ++
    (record.bytes ++ archive.contents.bytes.drop (start + 22))
  comment : start + 22 + record.commentLength.toNat = archive.size

theorem locate_found (archive : ArchiveFile) :
    locateEndOfCentralDirectory archive ≠ .error .outOfBounds ∧
      ∀ eocd, locateEndOfCentralDirectory archive = .ok eocd → ∃ start record,
        EndRecordAt archive start record ∧ checkEndRecord archive.path record = .ok eocd := by
  unfold locateEndOfCentralDirectory
  split
  · exact ⟨nofun, nofun⟩
  · rename_i large
    simp only
    generalize size : min archive.size (22 + 0xffff) = tailSize
    have ordered : tailSize ≤ archive.size := by omega
    have back := sub64_of_le ordered archive.contents.sized
    rcases readFileRange_cases archive (sub64 archive.size tailSize) tailSize with
      ⟨message, failed⟩ | ⟨read, length⟩
    · rw [failed]
      exact ⟨nofun, nofun⟩
    · rw [read]
      change (if _ < 22 then _ else _) ≠ _ ∧ ∀ eocd, (if _ < 22 then _ else _) = _ → _
      have enough : ¬ (archive.contents.range (sub64 archive.size tailSize) tailSize).bytes.length
          < 22 := by omega
      rw [if_neg enough]
      obtain ⟨inside, found⟩ := @searchEndRecord_found archive.path
        (archive.contents.range (sub64 archive.size tailSize) tailSize).bytes _
        (show tailSize - 22 + 1 + 21 ≤ _ by omega)
      rw [length]
      refine ⟨inside, ?_⟩
      intro eocd done
      obtain ⟨index, record, ends, checked⟩ := found eocd done
      -- the tail reaches to the end of the file
      have whole : (archive.contents.range (sub64 archive.size tailSize) tailSize).bytes =
          archive.contents.bytes.drop (archive.size - tailSize) := by
        rw [back]
        change (archive.contents.bytes.drop _).take _ = _
        apply List.take_of_length_le
        rw [List.length_drop]
        unfold ArchiveFile.size at *
        omega
      have comment := ends.comment
      have there := ends.there
      rw [length] at comment
      rw [whole, List.drop_drop, List.drop_drop] at there
      refine ⟨archive.size - tailSize + index, record, ⟨?_, by omega⟩, checked⟩
      rw [there, Nat.add_assoc]

/-! An entry of the directory -/

/-- What is written for a header: the times and the disk are not read. -/
def CentralHeader.Written (header : CentralHeader) (written : Bytes) : Prop :=
  ∃ times disk name extra comment : Bytes,
    times.length = 4 ∧ disk.length = 4 ∧ name.length = header.nameLength.toNat ∧
    extra.length = header.extraLength.toNat ∧ comment.length = header.commentLength.toNat ∧
    header.path = textOf name ∧
    written = writeU32 kCentralDirectorySignature ++ (writeU16 header.versionMadeBy ++
      (writeU16 header.versionNeeded ++ (writeU16 header.flags ++
      (writeU16 header.compressionMethod ++ (times ++ (writeU32 header.crc32 ++
      (writeU32 header.compressedSize ++ (writeU32 header.uncompressedSize ++
      (writeU16 header.nameLength ++ (writeU16 header.extraLength ++
      (writeU16 header.commentLength ++ (disk ++ (writeU32 header.externalAttributes ++
      (writeU32 header.localHeaderOffset ++ (name ++ (extra ++ comment))))))))))))))))

theorem CentralHeader.Written.length {header : CentralHeader} {written : Bytes}
    (wrote : header.Written written) : 46 ≤ written.length := by
  obtain ⟨times, disk, name, extra, comment, times_length, disk_length, -, -, -, -, rfl⟩ := wrote
  simp only [List.length_append, writeU16_length, writeU32_length, times_length, disk_length]
  omega

theorem exact_readCentralHeader (archivePath : String) :
    Exact (readCentralHeader archivePath) CentralHeader.Written := by
  unfold readCentralHeader
  apply exact_ensure
  · refine Exact.congr (exact_bind exact_readU32 fun signature =>
      exact_bind (exact_check _ _) fun _ => exact_bind exact_readU16 fun versionMadeBy =>
      exact_bind exact_readU16 fun versionNeeded => exact_bind exact_readU16 fun flags =>
      exact_bind exact_readU16 fun compressionMethod => exact_bind (exact_skip 4) fun _ =>
      exact_bind exact_readU32 fun crc32 => exact_bind exact_readU32 fun compressedSize =>
      exact_bind exact_readU32 fun uncompressedSize => exact_bind exact_readU16 fun nameLength =>
      exact_bind exact_readU16 fun extraLength => exact_bind exact_readU16 fun commentLength =>
      exact_bind (exact_skip 4) fun _ => exact_bind exact_readU32 fun externalAttributes =>
      exact_bind exact_readU32 fun localHeaderOffset =>
      exact_bind (exact_readString nameLength.toNat) fun path =>
      exact_bind (exact_skip extraLength.toNat) fun _ =>
      exact_bind (exact_skip commentLength.toNat) fun _ => exact_pure _) ?_
    intro header written
    constructor
    · intro wrote
      obtain ⟨_, _, _, e₁, wrote, w₁⟩ := wrote
      obtain ⟨_, _, _, ⟨signed, e₂⟩, wrote, w₂⟩ := wrote
      obtain ⟨_, _, _, e₃, wrote, w₃⟩ := wrote
      obtain ⟨_, _, _, e₄, wrote, w₄⟩ := wrote
      obtain ⟨_, _, _, e₅, wrote, w₅⟩ := wrote
      obtain ⟨_, _, _, e₆, wrote, w₆⟩ := wrote
      obtain ⟨_, times, _, times_length, wrote, w₇⟩ := wrote
      obtain ⟨_, _, _, e₇, wrote, w₈⟩ := wrote
      obtain ⟨_, _, _, e₈, wrote, w₉⟩ := wrote
      obtain ⟨_, _, _, e₉, wrote, w₁₀⟩ := wrote
      obtain ⟨_, _, _, e₁₀, wrote, w₁₁⟩ := wrote
      obtain ⟨_, _, _, e₁₁, wrote, w₁₂⟩ := wrote
      obtain ⟨_, _, _, e₁₂, wrote, w₁₃⟩ := wrote
      obtain ⟨_, disk, _, disk_length, wrote, w₁₄⟩ := wrote
      obtain ⟨_, _, _, e₁₃, wrote, w₁₅⟩ := wrote
      obtain ⟨_, _, _, e₁₄, wrote, w₁₆⟩ := wrote
      obtain ⟨_, name, _, ⟨name_length, path⟩, wrote, w₁₇⟩ := wrote
      obtain ⟨_, extra, _, extra_length, wrote, w₁₈⟩ := wrote
      obtain ⟨_, comment, _, comment_length, ⟨whole, e₁₅⟩, w₁₉⟩ := wrote
      rw [whole]
      refine ⟨times, disk, name, extra, comment, times_length, disk_length, name_length,
        extra_length, comment_length, path, ?_⟩
      rw [w₁, e₁, signed, w₂, e₂, w₃, e₃, w₄, e₄, w₅, e₅, w₆, e₆, w₇, w₈, e₇, w₉, e₈, w₁₀, e₉,
        w₁₁, e₁₀, w₁₂, e₁₁, w₁₃, e₁₂, w₁₄, w₁₅, e₁₃, w₁₆, e₁₄, w₁₇, w₁₈, w₁₉, e₁₅, List.append_nil,
        List.nil_append]
    · rintro ⟨times, disk, name, extra, comment, times_length, disk_length, name_length,
        extra_length, comment_length, path, rfl⟩
      exact ⟨_, _, _, rfl, ⟨(), [], _, ⟨rfl, rfl⟩, ⟨_, _, _, rfl, ⟨_, _, _, rfl, ⟨_, _, _, rfl,
        ⟨_, _, _, rfl, ⟨(), times, _, times_length, ⟨_, _, _, rfl, ⟨_, _, _, rfl, ⟨_, _, _, rfl,
        ⟨_, _, _, rfl, ⟨_, _, _, rfl, ⟨_, _, _, rfl, ⟨(), disk, _, disk_length, ⟨_, _, _, rfl,
        ⟨_, _, _, rfl, ⟨header.path, name, _, ⟨name_length, path⟩, ⟨(), extra, _, extra_length,
        ⟨(), comment, [], comment_length, ⟨rfl, rfl⟩, (List.append_nil _).symm⟩, rfl⟩, rfl⟩, rfl⟩,
        rfl⟩, rfl⟩, rfl⟩, rfl⟩, rfl⟩, rfl⟩, rfl⟩, rfl⟩, rfl⟩, rfl⟩, rfl⟩, rfl⟩, rfl⟩, rfl⟩, rfl⟩
  · intro header written wrote
    exact wrote.length

/-! The directory -/

/-- A header that passed its checks. -/
structure SoundHeader (archiveSize : Nat) (header : CentralHeader) : Prop where
  unencrypted : header.flags &&& 0x0001 = 0 ∧ header.flags &&& 0x0040 = 0
  no_descriptor : header.flags &&& 0x0008 = 0
  method : header.compressionMethod = kStoredCompressionMethod ∨
    header.compressionMethod = kDeflatedCompressionMethod
  zip32 : header.compressedSize ≠ maxU32 ∧ header.uncompressedSize ≠ maxU32 ∧
    header.localHeaderOffset ≠ maxU32
  safe : isSafeRelativeArchivePath header.path = true
  offset : header.localHeaderOffset.toNat < archiveSize
  stored : header.compressionMethod = kStoredCompressionMethod →
    header.compressedSize = header.uncompressedSize
  file : header.madeOnUnix = true → header.unixMode &&& kUnixFileTypeMask = 0 ∨
    header.unixMode &&& kUnixFileTypeMask = kUnixRegularFileType

theorem ok_of_check {α : Type} {fails : Prop} [Decidable fails] {message : String}
    {rest : Except String α} {a : α}
    (passed : (if fails then .error message else rest) = .ok a) : ¬ fails ∧ rest = .ok a := by
  by_cases bad : fails
  · rw [if_pos bad] at passed
    cases passed
  · rw [if_neg bad] at passed
    exact ⟨bad, passed⟩

theorem checkCentralHeader_ok {archiveSize : Nat} {seenPaths : List String}
    {header : CentralHeader} {record : ArchiveRecord}
    (passed : checkCentralHeader archiveSize seenPaths header = .ok record) :
    record = header.record ∧ header.path ∉ seenPaths ∧ SoundHeader archiveSize header := by
  unfold checkCentralHeader at passed
  obtain ⟨encrypted, passed⟩ := ok_of_check passed
  obtain ⟨descriptor, passed⟩ := ok_of_check passed
  obtain ⟨strongly, passed⟩ := ok_of_check passed
  obtain ⟨method, passed⟩ := ok_of_check passed
  obtain ⟨large, passed⟩ := ok_of_check passed
  obtain ⟨safe, passed⟩ := ok_of_check passed
  obtain ⟨new, passed⟩ := ok_of_check passed
  obtain ⟨offset, passed⟩ := ok_of_check passed
  obtain ⟨stored, passed⟩ := ok_of_check passed
  obtain ⟨_, passed⟩ := ok_of_check passed
  obtain ⟨file, passed⟩ := ok_of_check passed
  cases passed
  refine ⟨rfl, new, ⟨not_not.mp encrypted, not_not.mp strongly⟩, not_not.mp descriptor, ?_, ?_,
    by simpa using safe, by omega, ?_, ?_⟩
  · by_contra neither
    exact method (not_or.mp neither)
  · exact ⟨fun same => large (.inl same), fun same => large (.inr (.inl same)),
      fun same => large (.inr (.inr same))⟩
  · intro is_stored
    by_contra differ
    exact stored ⟨is_stored, differ⟩
  · intro unix
    by_contra neither
    exact file ⟨unix, not_or.mp neither⟩

theorem checkCentralHeader_passes {archiveSize : Nat} {seenPaths : List String}
    {header : CentralHeader} (new : header.path ∉ seenPaths)
    (sound : SoundHeader archiveSize header) :
    checkCentralHeader archiveSize seenPaths header = .ok header.record := by
  have method : ¬ (header.compressionMethod ≠ kStoredCompressionMethod ∧
      header.compressionMethod ≠ kDeflatedCompressionMethod) := by
    rintro ⟨not_stored, not_deflated⟩
    rcases sound.method with stored | deflated
    · exact not_stored stored
    · exact not_deflated deflated
  have small : ¬ (header.compressedSize = maxU32 ∨ header.uncompressedSize = maxU32 ∨
      header.localHeaderOffset = maxU32) := by
    rintro (compressed | uncompressed | offset)
    · exact sound.zip32.1 compressed
    · exact sound.zip32.2.1 uncompressed
    · exact sound.zip32.2.2 offset
  have symlink : ¬ (header.madeOnUnix ∧
      header.unixMode &&& kUnixFileTypeMask = kUnixSymlinkFileType) := by
    rintro ⟨unix, link⟩
    rcases sound.file unix with unset | regular
    · exact absurd (unset.symm.trans link) (by decide)
    · exact absurd (regular.symm.trans link) (by decide)
  have file : ¬ (header.madeOnUnix ∧ header.unixMode &&& kUnixFileTypeMask ≠ 0 ∧
      header.unixMode &&& kUnixFileTypeMask ≠ kUnixRegularFileType) := by
    rintro ⟨unix, set, other⟩
    rcases sound.file unix with unset | regular
    · exact set unset
    · exact other regular
  unfold checkCentralHeader
  rw [if_neg (not_not.mpr sound.unencrypted.1), if_neg (not_not.mpr sound.no_descriptor),
    if_neg (not_not.mpr sound.unencrypted.2), if_neg method, if_neg small, sound.safe,
    if_neg (by simp), if_neg new, if_neg (Nat.not_le.mpr sound.offset),
    if_neg fun differ => differ.2 (sound.stored differ.1), if_neg symlink, if_neg file]

end PackageArchive
