import ZFleet.Package.ArchiveSafety

/-!
The listing of an archive: its records are those of the headers in the directory, as many as
the end record says, and the directory is these headers and nothing else.
-/
namespace PackageArchive
open ByteReader Package

/-- An entry that is new to the paths before it, and the paths with it. -/
def entryGrammar (archiveSize : Nat) (seenPaths : List String) :
    Grammar (ArchiveRecord × List String) := fun entry written =>
  ∃ header : CentralHeader, header.Written written ∧ header.path ∉ seenPaths ∧
    SoundHeader archiveSize header ∧ entry = (header.record, header.path :: seenPaths)

theorem exact_readEntry (archive : ArchiveFile) (seenPaths : List String) :
    Exact (readEntry archive seenPaths) (entryGrammar archive.size seenPaths) := by
  unfold readEntry
  refine Exact.congr (exact_bind (exact_readCentralHeader archive.path) fun header =>
    exact_bind (exact_ofResult _) fun record => exact_pure (record, record.path :: seenPaths)) ?_
  intro entry written
  constructor
  · intro wrote
    obtain ⟨header, u, _, wrote_header, wrote, w₁⟩ := wrote
    obtain ⟨record, _, _, ⟨passed, e₁⟩, ⟨e₂, e₃⟩, w₂⟩ := wrote
    obtain ⟨rfl, new, sound⟩ := checkCentralHeader_ok passed
    refine ⟨header, ?_, new, sound, e₂⟩
    rw [w₁, w₂, e₁, e₃, List.append_nil, List.append_nil]
    exact wrote_header
  · rintro ⟨header, wrote, new, sound, rfl⟩
    exact ⟨header, written, [], wrote, ⟨header.record, [], [],
      ⟨checkCentralHeader_passes new sound, rfl⟩, ⟨rfl, rfl⟩, rfl⟩, (List.append_nil _).symm⟩

theorem exact_readEntries (archive : ArchiveFile) (count : Nat) :
    Exact (readEntries archive count) fun records written =>
      records.length = count ∧ Sequence (entryGrammar archive.size) [] records written :=
  exact_readMany (exact_readEntry archive) count []

/-- The records of a directory come from sound headers with different paths. -/
theorem directory_headers {archiveSize : Nat} {seenPaths : List String}
    {records : List ArchiveRecord} {written : Bytes}
    (wrote : Sequence (entryGrammar archiveSize) seenPaths records written) :
    (∀ record ∈ records, ∃ header : CentralHeader, record = header.record ∧
      SoundHeader archiveSize header ∧ header.path ∉ seenPaths) ∧
      (records.map ArchiveRecord.path).Nodup := by
  induction wrote with
  | nil seenPaths => exact ⟨nofun, List.nodup_nil⟩
  | @cons seenPaths state record records u v first later ih =>
    obtain ⟨header, _, new, sound, shape⟩ := first
    obtain ⟨rfl, rfl⟩ := Prod.mk.inj shape
    obtain ⟨each, distinct⟩ := ih
    constructor
    · intro other inside
      rcases List.mem_cons.mp inside with rfl | later
      · exact ⟨header, rfl, sound, new⟩
      · obtain ⟨header', same, sound', new'⟩ := each other later
        exact ⟨header', same, sound', fun seen => new' (List.mem_cons_of_mem _ seen)⟩
    · rw [List.map_cons, List.nodup_cons]
      refine ⟨?_, distinct⟩
      intro repeated
      obtain ⟨other, later, same⟩ := List.mem_map.mp repeated
      obtain ⟨header', rfl, _, new'⟩ := each other later
      exact new' (by rw [show header'.path = header'.record.path from rfl, same]; simp [CentralHeader.record])

/-- What the records of an archive are read from. -/
structure Listed (archive : ArchiveFile) (records : List ArchiveRecord) (start : Nat)
    (ending : EndRecord) : Prop where
  ended : EndRecordAt archive start ending
  /-- As many as the end record says. -/
  count : records.length = ending.totalEntries.toNat
  /-- The directory lies in the file and is the entries, one behind the other. -/
  inside : ending.centralDirectoryOffset.toNat + ending.centralDirectorySize.toNat ≤ archive.size
  written : Sequence (entryGrammar archive.size) [] records (archive.contents.range
    ending.centralDirectoryOffset.toNat ending.centralDirectorySize.toNat).bytes
  /-- One disk, and none of the marks of the 64-bit format. -/
  whole : ending.diskNumber = 0 ∧ ending.centralDirectoryDisk = 0 ∧
    ending.entriesOnDisk = ending.totalEntries
  zip32 : ending.centralDirectorySize ≠ maxU32 ∧ ending.centralDirectoryOffset ≠ maxU32

theorem checkEndRecord_ok {archivePath : String} {record : EndRecord}
    {eocd : EndOfCentralDirectory} (checked : checkEndRecord archivePath record = .ok eocd) :
    eocd = ⟨record.centralDirectoryOffset.toNat, record.centralDirectorySize.toNat,
      record.totalEntries.toNat⟩ ∧
    (record.diskNumber = 0 ∧ record.centralDirectoryDisk = 0 ∧
      record.entriesOnDisk = record.totalEntries) ∧
    record.centralDirectorySize ≠ maxU32 ∧ record.centralDirectoryOffset ≠ maxU32 := by
  unfold checkEndRecord at checked
  split at checked
  · cases checked
  · rename_i whole
    split at checked
    · cases checked
    · rename_i small
      cases checked
      simp only [not_or, not_not] at whole small
      exact ⟨rfl, whole, small⟩

theorem add64_offsets (offset size : UInt32) :
    add64 offset.toNat size.toNat = offset.toNat + size.toNat := by
  have first := offset.toNat_lt
  have second := size.toNat_lt
  exact add64_of_lt (by omega)

/-- What is read behind the end record. -/
theorem parse_behind {archive : ArchiveFile} {eocd : EndOfCentralDirectory}
    (located : locateEndOfCentralDirectory archive = .ok eocd) :
    parseCentralDirectory archive =
      if add64 eocd.centralDirectoryOffset eocd.centralDirectorySize > archive.size then
        throw ("central directory is truncated: " ++ archive.path)
      else
        match readFileRange archive eocd.centralDirectoryOffset eocd.centralDirectorySize with
        | .error fault => .error fault
        | .ok directory =>
          match readEntries archive eocd.entryCount directory 0 with
          | .error fault => .error fault
          | .ok (records, offset) =>
            if sub64 directory.bytes.length offset ≠ 0 then
              throw ("central directory contains trailing data: " ++ archive.path)
            else .ok records := by
  unfold parseCentralDirectory
  rw [located]
  simp only [bind, Except.bind]
  split
  · rfl
  · cases readFileRange archive eocd.centralDirectoryOffset eocd.centralDirectorySize with
    | error fault => rfl
    | ok directory =>
      simp only
      cases readEntries archive eocd.entryCount directory 0 with
      | error fault => rfl
      | ok pair => rfl

/-- Entries that take up the whole directory. -/
theorem entries_listed {archive : ArchiveFile} {directory : Buffer} {count offset : Nat}
    {records : List ArchiveRecord}
    (entries : readEntries archive count directory 0 = .ok (records, offset))
    (no_trail : ¬ sub64 directory.bytes.length offset ≠ 0) :
    records.length = count ∧
      Sequence (entryGrammar archive.size) [] records directory.bytes := by
  obtain ⟨inside, written, ⟨length, wrote⟩, _, there⟩ :=
    (exact_readEntries archive count).sound directory 0 records offset (Nat.zero_le _) entries
  rw [sub64_of_le inside directory.sized] at no_trail
  have rest : directory.bytes.drop offset = [] := by
    rw [List.drop_eq_nil_iff]
    omega
  rw [rest, List.append_nil, List.drop_zero] at there
  rw [there]
  exact ⟨length, wrote⟩

theorem parseCentralDirectory_inside (archive : ArchiveFile) :
    parseCentralDirectory archive ≠ .error .outOfBounds := by
  obtain ⟨located_inside, _⟩ := locate_found archive
  cases locate : locateEndOfCentralDirectory archive with
  | error fault =>
    rw [locate] at located_inside
    unfold parseCentralDirectory
    rw [locate]
    intro failed
    cases failed
    exact located_inside rfl
  | ok eocd =>
    rw [parse_behind locate]
    split
    · nofun
    · rcases readFileRange_cases archive eocd.centralDirectoryOffset eocd.centralDirectorySize with
        ⟨message, failed⟩ | ⟨read, _⟩
      · rw [failed]
        nofun
      · rw [read]
        simp only
        have inside := (exact_readEntries archive eocd.entryCount).inside
          (archive.contents.range eocd.centralDirectoryOffset eocd.centralDirectorySize) 0
          (Nat.zero_le _)
        split
        · rename_i fault failed
          intro same
          rw [failed, Except.error.inj same] at inside
          exact inside rfl
        · split
          · nofun
          · nofun

theorem parseCentralDirectory_listed {archive : ArchiveFile} {records : List ArchiveRecord}
    (parsed : parseCentralDirectory archive = .ok records) :
    ∃ start ending, Listed archive records start ending := by
  cases locate : locateEndOfCentralDirectory archive with
  | error fault =>
    unfold parseCentralDirectory at parsed
    rw [locate] at parsed
    cases parsed
  | ok eocd =>
    obtain ⟨start, ending, ended, checked⟩ := (locate_found archive).2 eocd locate
    obtain ⟨rfl, whole, zip32⟩ := checkEndRecord_ok checked
    rw [parse_behind locate] at parsed
    rw [add64_offsets] at parsed
    split at parsed
    · cases parsed
    · rename_i fits
      rcases readFileRange_cases archive ending.centralDirectoryOffset.toNat
        ending.centralDirectorySize.toNat with ⟨message, failed⟩ | ⟨read, _⟩
      · rw [failed] at parsed
        cases parsed
      · rw [read] at parsed
        simp only at parsed
        split at parsed
        · cases parsed
        · rename_i records' offset entries
          split at parsed
          · cases parsed
          · rename_i no_trail
            cases parsed
            obtain ⟨count, wrote⟩ := entries_listed entries no_trail
            exact ⟨start, ending, ended, count, Nat.not_lt.mp fits, wrote, whole, zip32⟩

end PackageArchive
