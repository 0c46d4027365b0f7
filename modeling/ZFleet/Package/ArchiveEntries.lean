import ZFleet.Package.ArchiveListing

/-!
The data of an entry: where the local header says that it starts, what is delivered of it,
and that nothing is read outside the file for it.
-/
namespace PackageArchive
open ByteReader Package

/-! The local header -/

/-- What is written for a local header: the version and the times are not read. -/
def LocalFileInfo.Written (info : LocalFileInfo) (written : Bytes) : Prop :=
  ∃ version times : Bytes, version.length = 2 ∧ times.length = 4 ∧
    written = writeU32 kLocalFileHeaderSignature ++ (version ++ (writeU16 info.flags ++
      (writeU16 info.compressionMethod ++ (times ++ (writeU32 info.crc32 ++
      (writeU32 info.compressedSize ++ (writeU32 info.uncompressedSize ++
      (writeU16 info.nameLength ++ writeU16 info.extraLength))))))))

theorem LocalFileInfo.Written.length {info : LocalFileInfo} {written : Bytes}
    (wrote : info.Written written) : written.length = 30 := by
  obtain ⟨version, times, version_length, times_length, rfl⟩ := wrote
  simp only [List.length_append, writeU16_length, writeU32_length, version_length, times_length]

theorem exact_readLocalHeader (entryPath : String) :
    Exact (readLocalHeader entryPath) LocalFileInfo.Written := by
  unfold readLocalHeader
  refine Exact.congr (exact_bind exact_readU32 fun signature =>
    exact_bind (exact_check _ _) fun _ => exact_bind (exact_skip 2) fun _ =>
    exact_bind exact_readU16 fun flags => exact_bind exact_readU16 fun compressionMethod =>
    exact_bind (exact_skip 4) fun _ => exact_bind exact_readU32 fun crc32 =>
    exact_bind exact_readU32 fun compressedSize => exact_bind exact_readU32 fun uncompressedSize =>
    exact_bind exact_readU16 fun nameLength => exact_bind exact_readU16 fun extraLength =>
    exact_pure _) ?_
  intro info written
  constructor
  · intro wrote
    obtain ⟨_, _, _, e₁, wrote, w₁⟩ := wrote
    obtain ⟨_, _, _, ⟨signed, e₂⟩, wrote, w₂⟩ := wrote
    obtain ⟨_, version, _, version_length, wrote, w₃⟩ := wrote
    obtain ⟨_, _, _, e₃, wrote, w₄⟩ := wrote
    obtain ⟨_, _, _, e₄, wrote, w₅⟩ := wrote
    obtain ⟨_, times, _, times_length, wrote, w₆⟩ := wrote
    obtain ⟨_, _, _, e₅, wrote, w₇⟩ := wrote
    obtain ⟨_, _, _, e₆, wrote, w₈⟩ := wrote
    obtain ⟨_, _, _, e₇, wrote, w₉⟩ := wrote
    obtain ⟨_, _, _, e₈, wrote, w₁₀⟩ := wrote
    obtain ⟨_, _, _, e₉, ⟨whole, e₁₀⟩, w₁₁⟩ := wrote
    rw [whole]
    refine ⟨version, times, version_length, times_length, ?_⟩
    rw [w₁, e₁, signed, w₂, e₂, w₃, w₄, e₃, w₅, e₄, w₆, w₇, e₅, w₈, e₆, w₉, e₇, w₁₀, e₈, w₁₁, e₉,
      e₁₀, List.append_nil, List.nil_append]
  · rintro ⟨version, times, version_length, times_length, rfl⟩
    exact ⟨_, _, _, rfl, ⟨(), [], _, ⟨rfl, rfl⟩, ⟨(), version, _, version_length, ⟨_, _, _, rfl,
      ⟨_, _, _, rfl, ⟨(), times, _, times_length, ⟨_, _, _, rfl, ⟨_, _, _, rfl, ⟨_, _, _, rfl,
      ⟨_, _, _, rfl, ⟨_, _, [], rfl, ⟨rfl, rfl⟩, (List.append_nil _).symm⟩, rfl⟩, rfl⟩, rfl⟩,
      rfl⟩, rfl⟩, rfl⟩, rfl⟩, rfl⟩, rfl⟩, rfl⟩

/-- The local header agrees with the record of the directory. -/
structure Agrees (entry : ArchiveRecord) (info : LocalFileInfo) : Prop where
  unencrypted : info.flags &&& 0x0001 = 0
  no_descriptor : info.flags &&& 0x0008 = 0
  method : info.compressionMethod = entry.compressionMethod
  crc : info.crc32 = entry.crc32
  compressed : info.compressedSize.toNat = entry.compressedSize
  uncompressed : info.uncompressedSize.toNat = entry.uncompressedSize

theorem checkLocalHeader_cases (entry : ArchiveRecord) (info : LocalFileInfo) :
    (∃ message, checkLocalHeader entry info = throw message) ∨
      (checkLocalHeader entry info = .ok () ∧ Agrees entry info) := by
  unfold checkLocalHeader
  split
  · exact .inl ⟨_, rfl⟩
  · rename_i encrypted
    split
    · exact .inl ⟨_, rfl⟩
    · rename_i descriptor
      split
      · exact .inl ⟨_, rfl⟩
      · rename_i method
        split
        · exact .inl ⟨_, rfl⟩
        · rename_i metadata
          simp only [not_or, not_not] at encrypted descriptor method metadata
          exact .inr ⟨rfl, encrypted, descriptor, method, metadata.1, metadata.2.1, metadata.2.2⟩

theorem checkLocalHeader_passes {entry : ArchiveRecord} {info : LocalFileInfo}
    (agrees : Agrees entry info) : checkLocalHeader entry info = .ok () := by
  unfold checkLocalHeader
  rw [if_neg (not_not.mpr agrees.unencrypted), if_neg (not_not.mpr agrees.no_descriptor),
    if_neg (not_not.mpr agrees.method), if_neg]
  simp [agrees.crc, agrees.compressed, agrees.uncompressed]

/-- The local header stands at its offset, behind it the name, the extra field and the data. -/
structure DataAt (archive : ArchiveFile) (entry : ArchiveRecord) (info : LocalFileInfo)
    (dataOffset : Nat) : Prop where
  agrees : Agrees entry info
  offset : dataOffset = entry.localHeaderOffset + 30 + info.nameLength.toNat +
    info.extraLength.toNat
  header : info.Written (archive.contents.range entry.localHeaderOffset 30).bytes
  name : entry.path = textOf
    (archive.contents.range (entry.localHeaderOffset + 30) info.nameLength.toNat).bytes
  name_whole : (archive.contents.range (entry.localHeaderOffset + 30)
    info.nameLength.toNat).bytes.length = info.nameLength.toNat
  inside : dataOffset + entry.compressedSize ≤ archive.size

theorem CentralHeader.record_small (header : CentralHeader) :
    header.record.localHeaderOffset < 2 ^ 32 ∧ header.record.compressedSize < 2 ^ 32 :=
  ⟨header.localHeaderOffset.toNat_lt, header.compressedSize.toNat_lt⟩

section Entry

variable {archive : ArchiveFile} {entry : ArchiveRecord}

theorem exact_cases {α : Type} {reader : Reader α} {grammar : Grammar α}
    (exact_reader : Exact reader grammar) (buffer : Buffer) :
    (∃ message, reader buffer 0 = throw message) ∨ ∃ a written,
      reader buffer 0 = .ok (a, written.length) ∧ grammar a written ∧
        buffer.bytes = written ++ buffer.bytes.drop written.length := by
  cases read : reader buffer 0 with
  | error fault =>
    cases fault with
    | thrown message => exact .inl ⟨message, rfl⟩
    | outOfBounds => exact absurd read (exact_reader.inside buffer 0 (Nat.zero_le _))
  | ok pair =>
    obtain ⟨a, offset⟩ := pair
    obtain ⟨_, written, wrote, rfl, there⟩ :=
      exact_reader.sound buffer 0 a offset (Nat.zero_le _) read
    rw [Nat.zero_add, List.drop_zero] at there
    exact .inr ⟨a, written, by rw [Nat.zero_add], wrote, there⟩

/-- What is done behind a header that agrees, for the place and the end of the data. -/
def placed (archive : ArchiveFile) (entry : ArchiveRecord) (name : Buffer)
    (nameLength dataOffset dataEnd : Nat) : Except Fault Nat :=
  if name.bytes.length ≠ nameLength then throw ("local file name is truncated: " ++ entry.path)
  else if textOf name.bytes ≠ entry.path then
    throw ("ZIP local header path mismatch: " ++ entry.path)
  else if dataEnd > archive.size then throw ("ZIP entry is truncated: " ++ entry.path)
  else .ok dataOffset

theorem placed_cases (archive : ArchiveFile) (entry : ArchiveRecord) (name : Buffer)
    (nameLength dataOffset dataEnd : Nat) :
    (∃ message, placed archive entry name nameLength dataOffset dataEnd = throw message) ∨
      (placed archive entry name nameLength dataOffset dataEnd = .ok dataOffset ∧
        name.bytes.length = nameLength ∧ textOf name.bytes = entry.path ∧
        dataEnd ≤ archive.size) := by
  unfold placed
  split
  · exact .inl ⟨_, rfl⟩
  · rename_i whole
    split
    · exact .inl ⟨_, rfl⟩
    · rename_i same
      split
      · exact .inl ⟨_, rfl⟩
      · rename_i inside
        exact .inr ⟨rfl, not_not.mp whole, not_not.mp same, Nat.not_lt.mp inside⟩

theorem readLocalFileInfo_header
    (whole : (archive.contents.range entry.localHeaderOffset 30).bytes.length = 30) :
    readLocalFileInfo archive entry =
      match readLocalHeader entry.path (archive.contents.range entry.localHeaderOffset 30) 0 with
      | .error fault => .error fault
      | .ok (info, _) =>
        match checkLocalHeader entry info with
        | .error fault => .error fault
        | .ok () => placed archive entry
            (archive.contents.range (entry.localHeaderOffset + 30) info.nameLength.toNat)
            info.nameLength.toNat
            (add64 (add64 (add64 entry.localHeaderOffset 30) info.nameLength.toNat)
              info.extraLength.toNat)
            (add64 (add64 (add64 (add64 entry.localHeaderOffset 30) info.nameLength.toNat)
              info.extraLength.toNat) entry.compressedSize) := by
  unfold readLocalFileInfo
  simp only
  rw [if_neg (not_not.mpr whole)]
  cases readLocalHeader entry.path (archive.contents.range entry.localHeaderOffset 30) 0 with
  | error fault => rfl
  | ok pair =>
    have goes_on : ∀ next : LocalFileInfo × Nat → Except Fault Nat,
        (Except.ok pair >>= next) = next pair := fun _ => rfl
    rw [goes_on]
    simp only
    cases checkLocalHeader entry pair.1 with
    | error fault => rfl
    | ok _ => rfl

/-- No sum of offsets wraps. -/
theorem data_range (info : LocalFileInfo) (start : entry.localHeaderOffset < 2 ^ 32)
    (size : entry.compressedSize < 2 ^ 32) :
    add64 (add64 (add64 entry.localHeaderOffset 30) info.nameLength.toNat)
        info.extraLength.toNat =
      entry.localHeaderOffset + 30 + info.nameLength.toNat + info.extraLength.toNat ∧
    add64 (add64 (add64 (add64 entry.localHeaderOffset 30) info.nameLength.toNat)
        info.extraLength.toNat) entry.compressedSize =
      entry.localHeaderOffset + 30 + info.nameLength.toNat + info.extraLength.toNat +
        entry.compressedSize := by
  have name_small := info.nameLength.toNat_lt
  have extra_small := info.extraLength.toNat_lt
  unfold add64
  constructor
  · omega
  · omega

theorem readLocalFileInfo_cases (start : entry.localHeaderOffset < 2 ^ 32)
    (size : entry.compressedSize < 2 ^ 32) :
    (∃ message, readLocalFileInfo archive entry = throw message) ∨
      ∃ info dataOffset, readLocalFileInfo archive entry = .ok dataOffset ∧
        DataAt archive entry info dataOffset := by
  by_cases whole : (archive.contents.range entry.localHeaderOffset 30).bytes.length = 30
  · rw [readLocalFileInfo_header whole]
    rcases exact_cases (exact_readLocalHeader entry.path)
      (archive.contents.range entry.localHeaderOffset 30) with
      ⟨message, failed⟩ | ⟨info, written, read, wrote, there⟩
    · rw [failed]
      exact .inl ⟨message, rfl⟩
    · rw [read]
      simp only
      rcases checkLocalHeader_cases entry info with ⟨message, failed⟩ | ⟨passed, agrees⟩
      · rw [failed]
        exact .inl ⟨message, rfl⟩
      · rw [passed]
        simp only
        obtain ⟨offset_sum, end_sum⟩ := data_range info start size
        rw [end_sum, offset_sum]
        rcases placed_cases archive entry
          (archive.contents.range (entry.localHeaderOffset + 30) info.nameLength.toNat)
          info.nameLength.toNat
          (entry.localHeaderOffset + 30 + info.nameLength.toNat + info.extraLength.toNat)
          (entry.localHeaderOffset + 30 + info.nameLength.toNat + info.extraLength.toNat +
            entry.compressedSize) with ⟨message, failed⟩ | ⟨placed, name_whole, name, inside⟩
        · exact .inl ⟨message, failed⟩
        · have all : written = (archive.contents.range entry.localHeaderOffset 30).bytes := by
            have rest : (archive.contents.range entry.localHeaderOffset 30).bytes.drop
                written.length = [] := by
              rw [List.drop_eq_nil_iff, wrote.length]
              exact Nat.le_of_eq whole
            rw [rest, List.append_nil] at there
            exact there.symm
          rw [all] at wrote
          exact .inr ⟨info, _, placed, agrees, rfl, wrote, name.symm, name_whole, inside⟩
  · unfold readLocalFileInfo
    simp only [whole, ne_eq, not_false_eq_true, if_true]
    exact .inl ⟨_, rfl⟩

/-! What is delivered -/

/-- The bytes are there, so copying them ends well and delivers them. -/
theorem copyStored_range (entryPath : String) (contents : Bytes) (position remaining : Nat)
    (inside : position + remaining ≤ contents.length) :
    copyStored entryPath contents position remaining =
      ((contents.drop position).take remaining, .ok ()) := by
  induction remaining using Nat.strong_induction_on generalizing position with
  | _ remaining ih =>
    rw [copyStored]
    split
    · rename_i none_left
      rw [none_left, List.take_zero]
    · rename_i some_left
      have positive : 0 < kBufferSize := by decide
      have length : ((contents.drop position).take (min remaining kBufferSize)).length =
          min remaining kBufferSize := by
        rw [List.length_take, List.length_drop]
        omega
      simp only [length, ne_eq, not_true_eq_false, if_false]
      rw [ih (remaining - min remaining kBufferSize) (by omega)
        (position + min remaining kBufferSize) (by omega)]
      simp only
      rw [← List.drop_drop, Prod.mk.injEq]
      refine ⟨?_, rfl⟩
      have parts : remaining = min remaining kBufferSize + (remaining - min remaining kBufferSize) :=
        by omega
      conv_rhs => rw [parts, List.take_add]

theorem transfer_stored (inflate : Bytes → Bytes × Except String Unit) {dataOffset : Nat}
    (found : readLocalFileInfo archive entry = .ok dataOffset)
    (stored : entry.compressionMethod = kStoredCompressionMethod)
    (inside : dataOffset + entry.compressedSize ≤ archive.size) :
    transferArchiveEntryData inflate archive entry =
      checkWritten entry "stored ZIP entry size mismatch: "
        ((archive.contents.range dataOffset entry.compressedSize).bytes, .ok ()) := by
  unfold transferArchiveEntryData
  rw [found]
  simp only
  rw [if_pos stored, copyStoredEntry, copyStored_range _ _ _ _ inside]
  rfl

/-- A transfer ends well or throws, and reads nothing outside. -/
theorem transfer_cases (inflate : Bytes → Bytes × Except String Unit)
    (start : entry.localHeaderOffset < 2 ^ 32) (size : entry.compressedSize < 2 ^ 32) :
    (∃ message, (transferArchiveEntryData inflate archive entry).2 = throw message) ∨
      ((transferArchiveEntryData inflate archive entry).2 = .ok () ∧ ∃ info dataOffset,
        DataAt archive entry info dataOffset ∧
        (transferArchiveEntryData inflate archive entry).1.length = entry.uncompressedSize ∧
        (transferArchiveEntryData inflate archive entry).1 =
          (if entry.compressionMethod = kStoredCompressionMethod then
            (archive.contents.range dataOffset entry.compressedSize).bytes
          else (inflate (archive.contents.range dataOffset entry.compressedSize).bytes).1)) := by
  unfold transferArchiveEntryData
  rcases @readLocalFileInfo_cases archive entry start size with
    ⟨message, failed⟩ | ⟨info, dataOffset, found, data⟩
  · rw [failed]
    exact .inl ⟨message, rfl⟩
  · rw [found]
    simp only
    split
    · unfold copyStoredEntry
      rw [copyStored_range _ _ _ _ data.inside]
      unfold checkWritten
      simp only
      split
      · exact .inl ⟨_, rfl⟩
      · rename_i length
        exact .inr ⟨rfl, info, dataOffset, data, not_not.mp length, rfl⟩
    · split
      · unfold inflateDeflatedEntry checkWritten
        simp only
        cases ending : (inflate (archive.contents.range dataOffset entry.compressedSize).bytes).2 with
        | error message => exact .inl ⟨_, rfl⟩
        | ok _ =>
          simp only
          split
          · exact .inl ⟨_, rfl⟩
          · rename_i length
            exact .inr ⟨rfl, info, dataOffset, data, not_not.mp length, rfl⟩
      · exact .inl ⟨_, rfl⟩

end Entry

/-! The reader as a whole -/

/-- The records of an archive: read from a directory that its end record describes, each of a
    sound header, with different paths. -/
structure WellFormed (archive : ArchiveFile) (records : List ArchiveRecord) : Prop where
  listed : ∃ start ending, Listed archive records start ending
  sound : ∀ record ∈ records, ∃ header : CentralHeader, record = header.record ∧
    SoundHeader archive.size header
  distinct : (records.map ArchiveRecord.path).Nodup
  /-- Where the data of a record is read, its local header agrees and the file goes on. -/
  data : ∀ record ∈ records, ∀ dataOffset, readLocalFileInfo archive record = .ok dataOffset →
    ∃ info, DataAt archive record info dataOffset

theorem parsed_wellFormed {archive : ArchiveFile} {records : List ArchiveRecord}
    (parsed : parseCentralDirectory archive = .ok records) : WellFormed archive records := by
  obtain ⟨start, ending, listed⟩ := parseCentralDirectory_listed parsed
  obtain ⟨each, distinct⟩ := directory_headers listed.written
  refine ⟨⟨start, ending, listed⟩, ?_, distinct, ?_⟩
  · intro record inside
    obtain ⟨header, same, sound, _⟩ := each record inside
    exact ⟨header, same, sound⟩
  · intro record inside dataOffset read
    obtain ⟨header, rfl, _, _⟩ := each record inside
    obtain ⟨start_small, size_small⟩ := header.record_small
    rcases @readLocalFileInfo_cases archive header.record start_small size_small with
      ⟨message, failed⟩ | ⟨info, dataOffset', found, data⟩
    · rw [failed] at read
      cases read
    · rw [found] at read
      cases read
      exact ⟨info, data⟩

theorem checkArchivePath_cases (path : String) :
    checkArchivePath path = .ok () ∨ ∃ message, checkArchivePath path = throw message := by
  unfold checkArchivePath
  split
  · exact .inr ⟨_, rfl⟩
  · split
    · exact .inr ⟨_, rfl⟩
    · exact .inl rfl

theorem findArchiveRecord_cases (records : List ArchiveRecord) (path : String) :
    (∃ message, findArchiveRecord records path = throw message) ∨
      ∃ record ∈ records, record.path = path ∧ findArchiveRecord records path = .ok record := by
  unfold findArchiveRecord
  cases found : records.find? fun record => record.path = path with
  | none => exact .inl ⟨_, rfl⟩
  | some record =>
    have named := List.find?_some found
    exact .inr ⟨record, List.mem_of_find?_eq_some found, of_decide_eq_true named, rfl⟩

/-- The bytes that are returned for a record: its data range, or what was inflated of it. -/
structure Delivered (inflate : Bytes → Bytes × Except String Unit) (archive : ArchiveFile)
    (record : ArchiveRecord) (contents : Bytes) : Prop where
  size : contents.length = record.uncompressedSize
  data : ∃ info dataOffset, DataAt archive record info dataOffset ∧
    contents = if record.compressionMethod = kStoredCompressionMethod then
      (archive.contents.range dataOffset record.compressedSize).bytes
    else (inflate (archive.contents.range dataOffset record.compressedSize).bytes).1

theorem readArchiveEntryBytes_cases {inflate : Bytes → Bytes × Except String Unit}
    {archive : ArchiveFile} {record : ArchiveRecord} (start : record.localHeaderOffset < 2 ^ 32)
    (size : record.compressedSize < 2 ^ 32) :
    (∃ message, readArchiveEntryBytes inflate archive record = throw message) ∨
      ∃ contents, readArchiveEntryBytes inflate archive record = .ok contents ∧
        Delivered inflate archive record contents := by
  unfold readArchiveEntryBytes
  rcases @transfer_cases archive record inflate start size with
    ⟨message, failed⟩ | ⟨ended, info, dataOffset, data, length, delivered⟩
  · simp only [failed]
    exact .inl ⟨message, rfl⟩
  · simp only [ended]
    rw [if_neg (not_not.mpr length)]
    exact .inr ⟨_, rfl, length, info, dataOffset, data, delivered⟩

theorem readArchiveFile_cases (inflate : Bytes → Bytes × Except String Unit)
    (archive : ArchiveFile) (path : String) :
    (∃ message, readArchiveFile inflate archive path = throw message) ∨
      ∃ records contents, ∃ record ∈ records, parseCentralDirectory archive = .ok records ∧
        record.path = path ∧ readArchiveFile inflate archive path = .ok contents ∧
        Delivered inflate archive record contents := by
  unfold readArchiveFile
  rcases checkArchivePath_cases archive.path with passed | ⟨message, failed⟩
  · rw [passed]
    have starts : ∀ next : Unit → Except Fault Bytes, (Except.ok () >>= next) = next () :=
      fun _ => rfl
    rw [starts]
    split
    · exact .inl ⟨_, rfl⟩
    · cases parsed : parseCentralDirectory archive with
      | error fault =>
        cases fault with
        | thrown message => exact .inl ⟨message, rfl⟩
        | outOfBounds => exact absurd parsed (parseCentralDirectory_inside archive)
      | ok records =>
        have runs : ∀ next : List ArchiveRecord → Except Fault Bytes,
            (Except.ok records >>= next) = next records := fun _ => rfl
        rcases findArchiveRecord_cases records path with
          ⟨message, failed⟩ | ⟨record, inside, named, found⟩
        · rw [runs, failed]
          exact .inl ⟨message, rfl⟩
        · obtain ⟨header, rfl, _⟩ := (parsed_wellFormed parsed).sound record inside
          obtain ⟨start_small, size_small⟩ := header.record_small
          have goes_on : ∀ next : ArchiveRecord → Except Fault Bytes,
              (Except.ok header.record >>= next) = next header.record := fun _ => rfl
          rw [runs, found, goes_on]
          rcases @readArchiveEntryBytes_cases inflate archive header.record start_small size_small
            with ⟨message, failed⟩ | ⟨contents, read, delivered⟩
          · exact .inl ⟨message, failed⟩
          · exact .inr ⟨records, contents, header.record, inside, rfl, named, read, delivered⟩
  · rw [failed]
    exact .inl ⟨message, rfl⟩

theorem listArchiveEntries_cases (archive : ArchiveFile) :
    (∃ message, listArchiveEntries archive = throw message) ∨
      ∃ records, parseCentralDirectory archive = .ok records ∧
        listArchiveEntries archive = .ok (records.map ArchiveRecord.entry) := by
  unfold listArchiveEntries
  rcases checkArchivePath_cases archive.path with passed | ⟨message, failed⟩
  · rw [passed]
    cases parsed : parseCentralDirectory archive with
    | error fault =>
      cases fault with
      | thrown message => exact .inl ⟨message, rfl⟩
      | outOfBounds => exact absurd parsed (parseCentralDirectory_inside archive)
    | ok records => exact .inr ⟨records, rfl, rfl⟩
  · rw [failed]
    exact .inl ⟨message, rfl⟩

/-- Listing an archive and reading a file of it stays inside the buffers for every file, and
    what is listed or read is well formed. -/
theorem reader_sound (inflate : Bytes → Bytes × Except String Unit) (archive : ArchiveFile)
    (path : String) :
    (listArchiveEntries archive ≠ .error .outOfBounds ∧
      ∀ entries, listArchiveEntries archive = .ok entries → ∃ records,
        parseCentralDirectory archive = .ok records ∧ WellFormed archive records ∧
        entries = records.map ArchiveRecord.entry) ∧
    (readArchiveFile inflate archive path ≠ .error .outOfBounds ∧
      ∀ contents, readArchiveFile inflate archive path = .ok contents → ∃ records,
        parseCentralDirectory archive = .ok records ∧ WellFormed archive records ∧
        ∃ record ∈ records, record.path = path ∧ Delivered inflate archive record contents) := by
  constructor
  · rcases listArchiveEntries_cases archive with ⟨message, failed⟩ | ⟨records, parsed, listed⟩
    · rw [failed]
      exact ⟨nofun, nofun⟩
    · rw [listed]
      refine ⟨nofun, ?_⟩
      intro entries same
      exact ⟨records, parsed, parsed_wellFormed parsed, (Except.ok.inj same).symm⟩
  · rcases readArchiveFile_cases inflate archive path with
      ⟨message, failed⟩ | ⟨records, contents, record, inside, parsed, named, read, delivered⟩
    · rw [failed]
      exact ⟨nofun, nofun⟩
    · rw [read]
      refine ⟨nofun, ?_⟩
      intro contents' same
      cases same
      exact ⟨records, parsed, parsed_wellFormed parsed, record, inside, named, delivered⟩

end PackageArchive
